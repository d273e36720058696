import IsolationGate.Config.Load
import IsolationGate.Proofs.ByteOrder
import IsolationGate.Proofs.UriAcceptance
import Mathlib.Data.List.Basic

/-!
# Every violation is reported

A configuration is checked rule by rule, and each rule is about one subject: a setting, or a setting
with the switch that says whether it matters. The list of violations is put together from one list
for each subject, in a fixed order, and nearly all of what can be said about it is said for one
subject at a time: which violations its list holds, in which order, and which settings it is read
from. A set of exempted paths has no order of its own; those of its members that break the rule are
listed in the order of their bytes, so the order in which they are met does not show.

What a broken rule is, is said by `Breaks` without the lists.

## Main results

* `mem_violationsOf_iff` — what the list of a subject holds.
* `violations_pairwise` — the order of the whole list, in which nothing stands twice.
* `filter_violations_congr` — violations of a subject depend on its own settings only.
* `violationsMet_eq` — the order in which paths are met does not matter.
* `reportsEveryViolation` — all of this for every configuration.
-/

namespace IsolationGate.Config

open Policy (ExemptedPaths OpenerMode)

/-! ## Subjects -/

/-- What a rule is about. -/
inductive Subject where
  | bindAddress
  | metricsAddress
  | certPath
  | keyPath
  | originAddress
  | requestSecs
  | maxBodyBytes
  | openerMode
  | embedderReportUri
  | contentReportUri
  | fetchMetadataPaths
  | openerPaths
  | embedderPaths
  deriving Repr, DecidableEq

namespace Subject

/-- The subjects in the order of their rules. -/
def all : List Subject :=
  [bindAddress, metricsAddress, certPath, keyPath, originAddress, requestSecs, maxBodyBytes,
    openerMode, embedderReportUri, contentReportUri, fetchMetadataPaths, openerPaths, embedderPaths]

/-- The place of a subject in the order of the rules. -/
def place (subject : Subject) : Nat := all.idxOf subject

theorem mem_all (subject : Subject) : subject ∈ all := by
  cases subject <;> decide

theorem all_pairwise : all.Pairwise fun a b => a.place < b.place := by
  decide

end Subject

/-- The subject of a rule on a setting. -/
def Setting.subject : Setting → Subject
  | bindAddress => .bindAddress
  | metricsAddress => .metricsAddress
  | certPath => .certPath
  | keyPath => .keyPath
  | requestSecs => .requestSecs
  | maxBodyBytes => .maxBodyBytes
  | embedderReportUri => .embedderReportUri
  | contentReportUri => .contentReportUri
  | fetchMetadataPaths => .fetchMetadataPaths
  | openerPaths => .openerPaths
  | embedderPaths => .embedderPaths

/-- The subject of a violation. -/
def Violation.subject : Violation → Subject
  | address setting _ | zero setting | reportUri setting _ | exemptedPath setting _
  | tlsPath setting => setting.subject
  | origin _ => .originAddress
  | openerMode _ => .openerMode

/-! ## Broken rules -/

/-- The configuration breaks a rule, and this is the violation. -/
inductive Breaks (c : Config) : Violation → Prop where
  | bindAddress (h : Net.SocketAddress.ofText? c.listener.bindAddress = none) :
      Breaks c (.address .bindAddress c.listener.bindAddress)
  | metricsAddress (hon : c.observability.metricsEnabled = true)
      (h : Net.SocketAddress.ofText? c.observability.metricsAddress = none) :
      Breaks c (.address .metricsAddress c.observability.metricsAddress)
  | certPath {certificate : Certificate} (htls : c.listener.tls = some certificate)
      (h : certificate.certPath = "") : Breaks c (.tlsPath .certPath)
  | keyPath {certificate : Certificate} (htls : c.listener.tls = some certificate)
      (h : certificate.keyPath = "") : Breaks c (.tlsPath .keyPath)
  | originAddress {address : String} (hset : c.origin.address = some address)
      (h : Http.Authority.ofText? address = none) : Breaks c (.origin address)
  | requestSecs (h : c.timeouts.requestSecs = 0) : Breaks c (.zero .requestSecs)
  | maxBodyBytes (h : c.limits.maxBodyBytes = 0) : Breaks c (.zero .maxBodyBytes)
  | openerMode (h : ∀ mode : OpenerMode, c.opener.mode ≠ mode.word) :
      Breaks c (.openerMode ⟨c.opener.mode⟩)
  | embedderReportUri {error : Policy.ReportUriError}
      (h : Policy.ReportUri.check c.embedder.reportUri = .error error) :
      Breaks c (.reportUri .embedderReportUri error)
  | contentReportUri {uri : String} {error : Policy.ReportUriError}
      (hset : c.content.reportUri = some uri) (h : Policy.ReportUri.check uri = .error error) :
      Breaks c (.reportUri .contentReportUri error)
  | fetchMetadataPath {path : String} (hmem : path ∈ c.fetchMetadata.exemptedPaths.paths)
      (h : ¬ Policy.ReportUri.IsRooted path) : Breaks c (.exemptedPath .fetchMetadataPaths path)
  | openerPath {path : String} (hmem : path ∈ c.opener.exemptedPaths.paths)
      (h : ¬ Policy.ReportUri.IsRooted path) : Breaks c (.exemptedPath .openerPaths path)
  | embedderPath {path : String} (hmem : path ∈ c.embedder.exemptedPaths.paths)
      (h : ¬ Policy.ReportUri.IsRooted path) : Breaks c (.exemptedPath .embedderPaths path)

/-! ## The list of a rule -/

theorem mem_violationIf {condition : Bool} {violation v : Violation} :
    v ∈ violationIf condition violation ↔ condition = true ∧ v = violation := by
  cases condition <;> simp [violationIf]

theorem mem_addressViolations {setting : Setting} {value : String} {v : Violation} :
    v ∈ addressViolations setting value ↔
      Net.SocketAddress.ofText? value = none ∧ v = .address setting value := by
  rw [addressViolations, mem_violationIf, Option.isNone_iff_eq_none]

theorem mem_originViolations {origin : Option String} {v : Violation} :
    v ∈ originViolations origin ↔
      ∃ address, origin = some address ∧ Http.Authority.ofText? address = none ∧
        v = .origin address := by
  cases origin with
  | none => simp [originViolations]
  | some address =>
      rw [originViolations, mem_violationIf, Option.isNone_iff_eq_none]
      simp

theorem mem_openerModeViolations {word : String} {v : Violation} :
    v ∈ openerModeViolations word ↔
      (∀ mode : OpenerMode, word ≠ mode.word) ∧ v = .openerMode ⟨word⟩ := by
  rw [openerModeViolations]
  cases hmode : OpenerMode.ofWord word with
  | ok mode =>
      have hword := OpenerMode.ofWord_eq_ok_iff.1 hmode
      constructor
      · intro hmem
        cases hmem
      · rintro ⟨hnone, -⟩
        exact absurd hword (hnone mode)
  | error error =>
      obtain ⟨hnone, rfl⟩ := OpenerMode.ofWord_eq_error_iff.1 hmode
      simp only [List.mem_singleton]
      exact ⟨fun h => ⟨hnone, h⟩, And.right⟩

theorem mem_reportUriViolations {setting : Setting} {uri : String} {v : Violation} :
    v ∈ reportUriViolations setting uri ↔
      ∃ error, Policy.ReportUri.check uri = .error error ∧ v = .reportUri setting error := by
  rw [reportUriViolations]
  cases Policy.ReportUri.check uri <;> simp

theorem isRooted_iff {path : String} : isRooted path = true ↔ Policy.ReportUri.IsRooted path := by
  rw [isRooted, beq_iff_eq, Policy.ReportUri.isRooted_iff]

theorem mem_pathViolations {setting : Setting} {exempted : ExemptedPaths} {v : Violation} :
    v ∈ pathViolations setting exempted ↔
      ∃ path ∈ exempted.paths, ¬ Policy.ReportUri.IsRooted path ∧
        v = .exemptedPath setting path := by
  rw [pathViolations, List.mem_map]
  refine exists_congr fun path => ?_
  rw [List.mem_filter, Bool.not_eq_true', ← Bool.not_eq_true, isRooted_iff, and_assoc,
    eq_comm (a := v)]

/-! ## The list of a subject -/

/-- The rule on a file of a certificate. -/
def fileViolations (setting : Setting) (path : String) : List Violation :=
  violationIf (path == "") (.tlsPath setting)

theorem mem_fileViolations {setting : Setting} {path : String} {v : Violation} :
    v ∈ fileViolations setting path ↔ path = "" ∧ v = .tlsPath setting := by
  rw [fileViolations, mem_violationIf, beq_iff_eq]

/-- The violations of the rule on a value that need not be given. -/
def violationsIfSome (rule : String → List Violation) (value : Option String) : List Violation :=
  (value.map rule).getD []

theorem mem_violationsIfSome {rule : String → List Violation} {value : Option String}
    {v : Violation} :
    v ∈ violationsIfSome rule value ↔ ∃ text, value = some text ∧ v ∈ rule text := by
  cases value <;> simp [violationsIfSome]

/-- The violations of the rule on a subject. -/
def violationsOf (c : Config) : Subject → List Violation
  | .bindAddress => addressViolations .bindAddress c.listener.bindAddress
  | .metricsAddress =>
      if c.observability.metricsEnabled then
        addressViolations .metricsAddress c.observability.metricsAddress
      else []
  | .certPath =>
      violationsIfSome (fileViolations .certPath) (c.listener.tls.map Certificate.certPath)
  | .keyPath => violationsIfSome (fileViolations .keyPath) (c.listener.tls.map Certificate.keyPath)
  | .originAddress => originViolations c.origin.address
  | .requestSecs => violationIf (c.timeouts.requestSecs == 0) (.zero .requestSecs)
  | .maxBodyBytes => violationIf (c.limits.maxBodyBytes == 0) (.zero .maxBodyBytes)
  | .openerMode => openerModeViolations c.opener.mode
  | .embedderReportUri => reportUriViolations .embedderReportUri c.embedder.reportUri
  | .contentReportUri =>
      violationsIfSome (reportUriViolations .contentReportUri) c.content.reportUri
  | .fetchMetadataPaths => pathViolations .fetchMetadataPaths c.fetchMetadata.exemptedPaths
  | .openerPaths => pathViolations .openerPaths c.opener.exemptedPaths
  | .embedderPaths => pathViolations .embedderPaths c.embedder.exemptedPaths

/-- The whole list, subject by subject. -/
theorem violations_eq_flatMap (c : Config) :
    c.violations = Subject.all.flatMap c.violationsOf := by
  cases htls : c.listener.tls <;>
    simp [violations, Subject.all, violationsOf, violationsIfSome, fileViolations,
      certificateViolations, htls]

/-- What the list of a subject holds is a violation of the configuration, and it is about the
subject. -/
theorem breaks_of_mem {c : Config} {subject : Subject} {v : Violation}
    (h : v ∈ c.violationsOf subject) : Breaks c v ∧ v.subject = subject := by
  cases subject with
  | bindAddress =>
      obtain ⟨hnone, rfl⟩ := mem_addressViolations.1 h
      exact ⟨.bindAddress hnone, rfl⟩
  | metricsAddress =>
      rw [violationsOf] at h
      split at h
      · next hon =>
          obtain ⟨hnone, rfl⟩ := mem_addressViolations.1 h
          exact ⟨.metricsAddress hon hnone, rfl⟩
      · cases h
  | certPath =>
      obtain ⟨path, hpath, hmem⟩ := mem_violationsIfSome.1 h
      obtain ⟨certificate, htls, rfl⟩ := Option.map_eq_some_iff.1 hpath
      obtain ⟨hempty, rfl⟩ := mem_fileViolations.1 hmem
      exact ⟨.certPath htls hempty, rfl⟩
  | keyPath =>
      obtain ⟨path, hpath, hmem⟩ := mem_violationsIfSome.1 h
      obtain ⟨certificate, htls, rfl⟩ := Option.map_eq_some_iff.1 hpath
      obtain ⟨hempty, rfl⟩ := mem_fileViolations.1 hmem
      exact ⟨.keyPath htls hempty, rfl⟩
  | originAddress =>
      obtain ⟨address, hset, hnone, rfl⟩ := mem_originViolations.1 h
      exact ⟨.originAddress hset hnone, rfl⟩
  | requestSecs =>
      obtain ⟨hzero, rfl⟩ := mem_violationIf.1 h
      exact ⟨.requestSecs (beq_iff_eq.1 hzero), rfl⟩
  | maxBodyBytes =>
      obtain ⟨hzero, rfl⟩ := mem_violationIf.1 h
      exact ⟨.maxBodyBytes (beq_iff_eq.1 hzero), rfl⟩
  | openerMode =>
      obtain ⟨hnone, rfl⟩ := mem_openerModeViolations.1 h
      exact ⟨.openerMode hnone, rfl⟩
  | embedderReportUri =>
      obtain ⟨error, herror, rfl⟩ := mem_reportUriViolations.1 h
      exact ⟨.embedderReportUri herror, rfl⟩
  | contentReportUri =>
      obtain ⟨uri, hset, hmem⟩ := mem_violationsIfSome.1 h
      obtain ⟨error, herror, rfl⟩ := mem_reportUriViolations.1 hmem
      exact ⟨.contentReportUri hset herror, rfl⟩
  | fetchMetadataPaths =>
      obtain ⟨path, hmem, hrooted, rfl⟩ := mem_pathViolations.1 h
      exact ⟨.fetchMetadataPath hmem hrooted, rfl⟩
  | openerPaths =>
      obtain ⟨path, hmem, hrooted, rfl⟩ := mem_pathViolations.1 h
      exact ⟨.openerPath hmem hrooted, rfl⟩
  | embedderPaths =>
      obtain ⟨path, hmem, hrooted, rfl⟩ := mem_pathViolations.1 h
      exact ⟨.embedderPath hmem hrooted, rfl⟩

/-- A violation stands in the list of its subject. -/
theorem mem_violationsOf_of_breaks {c : Config} {v : Violation} (h : Breaks c v) :
    v ∈ c.violationsOf v.subject := by
  cases h with
  | bindAddress hnone => exact mem_addressViolations.2 ⟨hnone, rfl⟩
  | metricsAddress hon hnone =>
      show _ ∈ if c.observability.metricsEnabled then _ else _
      rw [if_pos hon]
      exact mem_addressViolations.2 ⟨hnone, rfl⟩
  | certPath htls hempty =>
      exact mem_violationsIfSome.2 ⟨_, Option.map_eq_some_iff.2 ⟨_, htls, rfl⟩,
        mem_fileViolations.2 ⟨hempty, rfl⟩⟩
  | keyPath htls hempty =>
      exact mem_violationsIfSome.2 ⟨_, Option.map_eq_some_iff.2 ⟨_, htls, rfl⟩,
        mem_fileViolations.2 ⟨hempty, rfl⟩⟩
  | originAddress hset hnone => exact mem_originViolations.2 ⟨_, hset, hnone, rfl⟩
  | requestSecs hzero => exact mem_violationIf.2 ⟨beq_iff_eq.2 hzero, rfl⟩
  | maxBodyBytes hzero => exact mem_violationIf.2 ⟨beq_iff_eq.2 hzero, rfl⟩
  | openerMode hnone => exact mem_openerModeViolations.2 ⟨hnone, rfl⟩
  | embedderReportUri herror => exact mem_reportUriViolations.2 ⟨_, herror, rfl⟩
  | contentReportUri hset herror =>
      exact mem_violationsIfSome.2 ⟨_, hset, mem_reportUriViolations.2 ⟨_, herror, rfl⟩⟩
  | fetchMetadataPath hmem hrooted => exact mem_pathViolations.2 ⟨_, hmem, hrooted, rfl⟩
  | openerPath hmem hrooted => exact mem_pathViolations.2 ⟨_, hmem, hrooted, rfl⟩
  | embedderPath hmem hrooted => exact mem_pathViolations.2 ⟨_, hmem, hrooted, rfl⟩

/-- **What the list of a subject holds.** -/
theorem mem_violationsOf_iff {c : Config} {subject : Subject} {v : Violation} :
    v ∈ c.violationsOf subject ↔ Breaks c v ∧ v.subject = subject := by
  constructor
  · exact breaks_of_mem
  · rintro ⟨hbreaks, rfl⟩
    exact mem_violationsOf_of_breaks hbreaks

/-- **Every violation is in the list**, and nothing else. -/
theorem mem_violations_iff {c : Config} {v : Violation} : v ∈ c.violations ↔ Breaks c v := by
  rw [violations_eq_flatMap, List.mem_flatMap]
  constructor
  · rintro ⟨subject, -, hmem⟩
    exact (mem_violationsOf_iff.1 hmem).1
  · intro hbreaks
    exact ⟨v.subject, Subject.mem_all _, mem_violationsOf_iff.2 ⟨hbreaks, rfl⟩⟩

/-! ## Order -/

/-- One violation stands before another: its subject comes first, or both are about members of one
set of paths and its path has the smaller bytes. -/
def Precedes (v w : Violation) : Prop :=
  v.subject.place < w.subject.place ∨
    ∃ setting p q, v = .exemptedPath setting p ∧ w = .exemptedPath setting q ∧
      Text.bytesOf p < Text.bytesOf q

theorem not_precedes_self (v : Violation) : ¬ Precedes v v := by
  rintro (hplace | ⟨setting, p, q, hp, hq, hbytes⟩)
  · exact Nat.lt_irrefl _ hplace
  · rw [hp] at hq
    cases hq
    exact List.lt_irrefl _ hbytes

theorem pairwise_violationIf (condition : Bool) (violation : Violation) :
    (violationIf condition violation).Pairwise Precedes := by
  cases condition <;> simp [violationIf]

theorem pairwise_reportUriViolations (setting : Setting) (uri : String) :
    (reportUriViolations setting uri).Pairwise Precedes := by
  rw [reportUriViolations]
  split <;> simp

theorem pairwise_violationsIfSome {rule : String → List Violation}
    (h : ∀ text, (rule text).Pairwise Precedes) (value : Option String) :
    (violationsIfSome rule value).Pairwise Precedes := by
  cases value with
  | none => exact .nil
  | some text => exact h text

theorem pairwise_pathViolations (setting : Setting) (exempted : ExemptedPaths) :
    (pathViolations setting exempted).Pairwise Precedes := by
  rw [pathViolations, List.pairwise_map]
  refine (exempted.increasing.filter _).imp ?_
  intro p q hlt
  exact .inr ⟨setting, p, q, rfl, rfl, Text.bytesOf_lt_iff.2 hlt⟩

/-- The list of a subject is in order. Only a set of paths has more than one violation. -/
theorem pairwise_violationsOf (c : Config) (subject : Subject) :
    (c.violationsOf subject).Pairwise Precedes := by
  cases subject with
  | bindAddress | requestSecs | maxBodyBytes => exact pairwise_violationIf _ _
  | metricsAddress =>
      rw [violationsOf]
      split
      · exact pairwise_violationIf _ _
      · exact .nil
  | certPath | keyPath => exact pairwise_violationsIfSome (fun _ => pairwise_violationIf _ _) _
  | originAddress =>
      rw [violationsOf, originViolations.eq_def]
      split
      · exact pairwise_violationIf _ _
      · exact .nil
  | openerMode =>
      rw [violationsOf, openerModeViolations]
      split <;> simp
  | embedderReportUri => exact pairwise_reportUriViolations _ _
  | contentReportUri =>
      exact pairwise_violationsIfSome (pairwise_reportUriViolations .contentReportUri) _
  | fetchMetadataPaths | openerPaths | embedderPaths => exact pairwise_pathViolations _ _

/-- **The list is in order.** -/
theorem violations_pairwise (c : Config) : c.violations.Pairwise Precedes := by
  rw [violations_eq_flatMap, List.pairwise_flatMap]
  refine ⟨fun subject _ => pairwise_violationsOf c subject, Subject.all_pairwise.imp ?_⟩
  -- Violations of different subjects are in the order of the subjects.
  intro a b hplace v hv w hw
  obtain ⟨-, rfl⟩ := breaks_of_mem hv
  obtain ⟨-, rfl⟩ := breaks_of_mem hw
  exact .inl hplace

theorem violations_nodup (c : Config) : c.violations.Nodup := by
  refine (violations_pairwise c).imp ?_
  rintro v w hprecedes rfl
  exact not_precedes_self v hprecedes

/-! ## What the violations of a subject depend on -/

/-- Two configurations agree on what the rule on a subject reads. -/
def SameOn (c d : Config) : Subject → Prop
  | .bindAddress => c.listener.bindAddress = d.listener.bindAddress
  | .metricsAddress =>
      c.observability.metricsEnabled = d.observability.metricsEnabled ∧
        c.observability.metricsAddress = d.observability.metricsAddress
  | .certPath =>
      c.listener.tls.map Certificate.certPath = d.listener.tls.map Certificate.certPath
  | .keyPath => c.listener.tls.map Certificate.keyPath = d.listener.tls.map Certificate.keyPath
  | .originAddress => c.origin.address = d.origin.address
  | .requestSecs => c.timeouts.requestSecs = d.timeouts.requestSecs
  | .maxBodyBytes => c.limits.maxBodyBytes = d.limits.maxBodyBytes
  | .openerMode => c.opener.mode = d.opener.mode
  | .embedderReportUri => c.embedder.reportUri = d.embedder.reportUri
  | .contentReportUri => c.content.reportUri = d.content.reportUri
  | .fetchMetadataPaths => c.fetchMetadata.exemptedPaths = d.fetchMetadata.exemptedPaths
  | .openerPaths => c.opener.exemptedPaths = d.opener.exemptedPaths
  | .embedderPaths => c.embedder.exemptedPaths = d.embedder.exemptedPaths

/-- The list of a subject is read from what its rule reads. -/
theorem violationsOf_congr {c d : Config} {subject : Subject} (h : SameOn c d subject) :
    c.violationsOf subject = d.violationsOf subject := by
  cases subject with
  | metricsAddress =>
      obtain ⟨henabled, haddress⟩ := h
      rw [violationsOf, violationsOf, henabled, haddress]
  | _ =>
      -- Every other rule reads one value.
      simp only [SameOn] at h
      rw [violationsOf, violationsOf, h]

/-- The violations of some subjects are all that their lists hold. -/
theorem filter_violationsOf (c : Config) (S : Subject → Bool) (subject : Subject) :
    (c.violationsOf subject).filter (fun v => S v.subject) =
      if S subject then c.violationsOf subject else [] := by
  split
  · next hkept =>
      refine List.filter_eq_self.2 fun v hv => ?_
      rw [(breaks_of_mem hv).2, hkept]
  · next hdropped =>
      refine List.filter_eq_nil_iff.2 fun v hv => ?_
      rw [(breaks_of_mem hv).2]
      exact hdropped

/-- **The violations of some subjects depend on what their rules read**, and on nothing else: two
configurations that agree on it have the same ones, in the same order. -/
theorem filter_violations_congr {c d : Config} {S : Subject → Bool}
    (h : ∀ subject, S subject = true → SameOn c d subject) :
    c.violations.filter (fun v => S v.subject) = d.violations.filter (fun v => S v.subject) := by
  rw [violations_eq_flatMap, violations_eq_flatMap, List.filter_flatMap, List.filter_flatMap]
  refine List.flatMap_congr fun subject _ => ?_
  rw [filter_violationsOf, filter_violationsOf]
  split
  · next hkept => exact violationsOf_congr (h subject hkept)
  · rfl

/-! ## Paths met in any order -/

/-- The violations of a set of paths whose members are met one by one: those that break the rule
are put in the order of their bytes. -/
def pathViolationsMet (setting : Setting) (met : List String) : List Violation :=
  (Text.sortByBytes (met.filter fun path => !isRooted path)).map (.exemptedPath setting)

/-- The order in which the paths of one set are met does not matter. -/
theorem pathViolationsMet_eq {setting : Setting} {exempted : ExemptedPaths} {met : List String}
    (h : met.Perm exempted.paths) :
    pathViolationsMet setting met = pathViolations setting exempted := by
  rw [pathViolationsMet, pathViolations,
    Text.sortByBytes_eq (h.filter _) (exempted.increasing.filter _)]

/-- The orders in which the members of the three sets of paths are met. -/
structure PathOrders (c : Config) where
  fetchMetadata : List String
  opener : List String
  embedder : List String
  fetchMetadata_perm : fetchMetadata.Perm c.fetchMetadata.exemptedPaths.paths
  opener_perm : opener.Perm c.opener.exemptedPaths.paths
  embedder_perm : embedder.Perm c.embedder.exemptedPaths.paths

/-- The violations of the rule on a subject, with the paths of a set met in some order. -/
def violationsMetOf (c : Config) (orders : PathOrders c) : Subject → List Violation
  | .fetchMetadataPaths => pathViolationsMet .fetchMetadataPaths orders.fetchMetadata
  | .openerPaths => pathViolationsMet .openerPaths orders.opener
  | .embedderPaths => pathViolationsMet .embedderPaths orders.embedder
  | subject => c.violationsOf subject

/-- Every broken rule, found with the paths met in some order. -/
def violationsMet (c : Config) (orders : PathOrders c) : List Violation :=
  Subject.all.flatMap (c.violationsMetOf orders)

/-- **The order in which paths are met does not matter.** -/
theorem violationsMet_eq (c : Config) (orders : PathOrders c) :
    c.violationsMet orders = c.violations := by
  rw [violations_eq_flatMap, violationsMet]
  refine List.flatMap_congr fun subject _ => ?_
  cases subject with
  | fetchMetadataPaths => exact pathViolationsMet_eq orders.fetchMetadata_perm
  | openerPaths => exact pathViolationsMet_eq orders.opener_perm
  | embedderPaths => exact pathViolationsMet_eq orders.embedder_perm
  | _ => rfl

/-! ## Every configuration -/

theorem violations_eq_nil_iff {c : Config} : c.violations = [] ↔ ∀ v, ¬ Breaks c v := by
  simp only [List.eq_nil_iff_forall_not_mem, mem_violations_iff]

theorem violations_ne_nil_iff {c : Config} : c.violations ≠ [] ↔ ∃ v, Breaks c v := by
  rw [ne_eq, violations_eq_nil_iff, not_forall_not]

/-- What is reported of a configuration is every broken rule, once and in order. -/
structure ReportsEveryViolation (c : Config) : Prop where
  /-- The configuration is accepted exactly when it breaks no rule. -/
  accepted : validated c = .ok c ↔ ∀ v, ¬ Breaks c v
  /-- The list of its violations is the one error, and the answer when it breaks a rule. -/
  refused : ∀ e, validated c = .error e ↔ (∃ v, Breaks c v) ∧ e = .invalid c.violations
  /-- The list holds the broken rules and nothing else. -/
  complete : ∀ v, v ∈ c.violations ↔ Breaks c v
  /-- Nothing stands in it twice. -/
  once : c.violations.Nodup
  /-- It is in the order of the rules, and the paths of a set in the order of their bytes. -/
  ordered : c.violations.Pairwise Precedes
  /-- The order in which the paths are met does not show. -/
  unordered : ∀ orders : PathOrders c, c.violationsMet orders = c.violations
  /-- The violations of some subjects are those of every configuration that agrees on them. -/
  framed : ∀ (d : Config) (S : Subject → Bool),
    (∀ subject, S subject = true → SameOn c d subject) →
      c.violations.filter (fun v => S v.subject) = d.violations.filter (fun v => S v.subject)

/-- **Every violation is reported once and in order.** -/
theorem reportsEveryViolation (c : Config) : ReportsEveryViolation c where
  accepted := by rw [validated_eq_ok_iff, violations_eq_nil_iff]
  refused e := by rw [validated_eq_error_iff, violations_ne_nil_iff]
  complete _ := mem_violations_iff
  once := violations_nodup c
  ordered := violations_pairwise c
  unordered := violationsMet_eq c
  framed _ _ h := filter_violations_congr h

end IsolationGate.Config
