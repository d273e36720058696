import IsolationGate.Config.Load
import IsolationGate.Gateway.Snapshot
import IsolationGate.Proofs.UriAcceptance

/-!
# Valid configurations have filters

A configuration that breaks no rule has a snapshot of filters: its opener mode is known, and its
report URI has no control character, so neither of the two field values that are built from the URI
can fail. What keeps filters from being built is therefore always a broken rule.

## Main results

* `EmbedderPolicy.exists_ofUri` — every report URI that is one has an embedder policy.
* `Config.mem_violations_of_ofConfig` — filters fail to be built for a broken rule only.
* `Config.exists_ofConfig_of_load` — every configuration that is loaded has filters.
-/

namespace IsolationGate

open Http (FieldValue IsFieldChar)

/-! ## The values of the embedder policy -/

namespace Policy

/-- A report URI holds no control character. -/
theorem ReportUri.isFieldChar_of_check {uri : String} (h : ReportUri.check uri = .ok ()) :
    ∀ c ∈ uri.toList, IsFieldChar c := by
  intro c hc
  have hcontrol := ((ReportUri.isUnbroken_of_check h).2 c hc).2
  simp only [Text.isControl, Bool.or_eq_false_iff, Bool.and_eq_false_iff, decide_eq_false_iff_not,
    Nat.not_lt, Nat.not_le] at hcontrol
  constructor
  · exact hcontrol.1
  · omega

theorem isFieldChar_of_all {cs : List Char} (h : (cs.all fun c => decide (IsFieldChar c)) = true) :
    ∀ c ∈ cs, IsFieldChar c := fun c hc => of_decide_eq_true (List.all_eq_true.1 h c hc)

/-- Escaping a character that is no control brings in none. -/
theorem isFieldChar_of_mem_escapeChar {c : Char} (hc : IsFieldChar c) :
    ∀ d ∈ Json.escapeChar c, IsFieldChar d := by
  have hlow : ¬ c.toNat < 0x20 := Nat.not_lt.2 hc.1
  unfold Json.escapeChar
  repeat' split
  all_goals first
    | exact isFieldChar_of_all (by decide)
    | exact fun d hd => List.mem_singleton.1 hd ▸ hc

theorem isFieldChar_of_mem_writeString {cs : List Char} (h : ∀ c ∈ cs, IsFieldChar c) :
    ∀ d ∈ Json.writeString cs, IsFieldChar d := by
  intro d hd
  rw [Json.writeString, List.mem_append, List.mem_cons, List.mem_flatMap] at hd
  rcases hd with (rfl | ⟨c, hc, hdc⟩) | hquote
  · decide
  · exact isFieldChar_of_mem_escapeChar (h c hc) d hdc
  · rw [List.mem_singleton.1 hquote]
    decide

namespace EmbedderPolicy

/-- The group of a report URI as it is written. -/
theorem write_group (uri : String) :
    Json.write (group uri) =
      "\x7b\"endpoints\":[\x7b\"url\":".toList ++ Json.writeString uri.toList ++
        "\x7d],\"group\":".toList ++ Json.writeString uri.toList ++
        ",\"max_age\":86400\x7d".toList := by
  have hage : Number.signedDecimal (maxAge : Nat) = "86400".toList := by decide
  simp [group, Json.write, Json.writeFields, Json.writeItems, Json.separated, Json.writeString,
    Json.escapeChar, hage]

theorem isFieldChar_reportToText {uri : String} (h : ∀ c ∈ uri.toList, IsFieldChar c) :
    ∀ c ∈ (reportToText uri).toList, IsFieldChar c := by
  intro c hc
  rw [reportToText, Json.render, String.toList_ofList, write_group] at hc
  simp only [List.mem_append] at hc
  rcases hc with (((hfixed | huri) | hfixed) | huri) | hfixed
  · exact isFieldChar_of_all (by decide +kernel) c hfixed
  · exact isFieldChar_of_mem_writeString h c huri
  · exact isFieldChar_of_all (by decide +kernel) c hfixed
  · exact isFieldChar_of_mem_writeString h c huri
  · exact isFieldChar_of_all (by decide +kernel) c hfixed

theorem isFieldChar_valueText {uri : String} (h : ∀ c ∈ uri.toList, IsFieldChar c) :
    ∀ c ∈ (valueText uri).toList, IsFieldChar c := by
  have happend : (valueText uri).toList =
      "require-corp; report-to=\"".toList ++ uri.toList ++ "\"".toList := by
    unfold valueText
    rw [String.toList_append, String.toList_append]
  intro c hc
  rw [happend, List.mem_append, List.mem_append] at hc
  rcases hc with (hfixed | huri) | hfixed
  · exact isFieldChar_of_all (by decide +kernel) c hfixed
  · exact h c huri
  · exact isFieldChar_of_all (by decide +kernel) c hfixed

/-- The policy of a report URI that is one: both of its texts are field values. -/
theorem ofUri_of_check {uri : String} (h : ReportUri.check uri = .ok ()) (enforcing disabled : Bool)
    (exempted : ExemptedPaths) :
    ∃ value reportTo, FieldValue.ofText? (valueText uri) = some value ∧
      FieldValue.ofText? (reportToText uri) = some reportTo ∧
      ofUri enforcing disabled uri exempted =
        .ok ⟨disabled, enforcing, value, reportTo, exempted⟩ := by
  have hchars := ReportUri.isFieldChar_of_check h
  obtain ⟨value, hvalue⟩ := FieldValue.exists_ofText? (isFieldChar_valueText hchars)
  obtain ⟨reportTo, hreportTo⟩ := FieldValue.exists_ofText? (isFieldChar_reportToText hchars)
  refine ⟨value, reportTo, hvalue, hreportTo, ?_⟩
  rw [ofUri, h]
  simp only [bind, Except.bind, hvalue, hreportTo]

/-- Every report URI that is one has an embedder policy. -/
theorem exists_ofUri {uri : String} (h : ReportUri.check uri = .ok ()) (enforcing disabled : Bool)
    (exempted : ExemptedPaths) : ∃ policy, ofUri enforcing disabled uri exempted = .ok policy := by
  obtain ⟨value, reportTo, -, -, hpolicy⟩ := ofUri_of_check h enforcing disabled exempted
  exact ⟨_, hpolicy⟩

/-- A report URI without an embedder policy is none. -/
theorem check_of_ofUri {enforcing disabled : Bool} {uri : String} {exempted : ExemptedPaths}
    {error : ReportUriError} (h : ofUri enforcing disabled uri exempted = .error error) :
    ReportUri.check uri = .error error := by
  cases hcheck : ReportUri.check uri with
  | ok u =>
      obtain ⟨policy, hpolicy⟩ := exists_ofUri hcheck enforcing disabled exempted
      rw [hpolicy] at h
      cases h
  | error other =>
      rw [ofUri, hcheck] at h
      exact congrArg Except.error (Except.error.inj h)

end EmbedderPolicy

end Policy

/-! ## Filters of a valid configuration -/

namespace Config

open Gateway (Snapshot embedderOf openerOf)
open Policy (EmbedderPolicy OpenerMode)

/-- A loaded configuration breaks no rule. -/
theorem violations_of_load {text : String} {c : Config} (h : load text = .ok c) :
    c.violations = [] := by
  rw [load] at h
  cases hparse : parse text with
  | error error =>
      rw [hparse] at h
      cases h
  | ok parsed =>
      simp only [hparse, Except.bind, validated] at h
      split at h
      · next hnone =>
          cases h
          exact hnone
      · cases h

theorem check_of_violations {setting : Setting} {uri : String}
    (h : reportUriViolations setting uri = []) : Policy.ReportUri.check uri = .ok () := by
  rw [reportUriViolations] at h
  cases hcheck : Policy.ReportUri.check uri with
  | ok u => rfl
  | error error =>
      rw [hcheck] at h
      cases h

/-- An opener policy fails to be built for its mode only. -/
theorem mem_violations_of_openerOf {c : Config} {violation : Violation}
    (h : openerOf c.opener = .error violation) : violation ∈ c.violations := by
  have hrule : violation ∈ openerModeViolations c.opener.mode := by
    rw [openerOf] at h
    split at h
    · rw [openerModeViolations]
      cases hmode : OpenerMode.ofWord c.opener.mode with
      | ok mode =>
          rw [hmode] at h
          cases h
      | error error =>
          rw [hmode] at h
          exact List.mem_singleton.2 (Except.error.inj h).symm
    · cases h
  simp only [violations, List.mem_append, hrule, true_or, or_true]

/-- An embedder policy fails to be built for its report URI only. -/
theorem mem_violations_of_embedderOf {c : Config} {violation : Violation}
    (h : embedderOf c.embedder = .error violation) : violation ∈ c.violations := by
  have hrule : violation ∈ reportUriViolations .embedderReportUri c.embedder.reportUri := by
    rw [embedderOf] at h
    split at h
    · cases h
    · next error herror =>
        rw [reportUriViolations, EmbedderPolicy.check_of_ofUri herror]
        exact List.mem_singleton.2 (Except.error.inj h).symm
  simp only [violations, List.mem_append, hrule, true_or, or_true]

/-- Filters fail to be built for a broken rule only. -/
theorem mem_violations_of_ofConfig {c : Config} {violation : Violation}
    (h : Snapshot.ofConfig c = .error violation) : violation ∈ c.violations := by
  rw [Snapshot.ofConfig] at h
  cases hopener : openerOf c.opener with
  | error other =>
      rw [hopener] at h
      exact Except.error.inj h ▸ mem_violations_of_openerOf hopener
  | ok opener =>
      cases hembedder : embedderOf c.embedder with
      | error other =>
          rw [hopener, hembedder] at h
          exact Except.error.inj h ▸ mem_violations_of_embedderOf hembedder
      | ok embedder =>
          rw [hopener, hembedder] at h
          cases h

/-- A configuration that breaks no rule has filters. -/
theorem exists_ofConfig {c : Config} (h : c.violations = []) :
    ∃ snapshot, Snapshot.ofConfig c = .ok snapshot := by
  cases hsnapshot : Snapshot.ofConfig c with
  | ok snapshot => exact ⟨snapshot, rfl⟩
  | error violation =>
      have hbroken := mem_violations_of_ofConfig hsnapshot
      rw [h] at hbroken
      cases hbroken

/-- Every configuration that is loaded has filters. -/
theorem exists_ofConfig_of_load {text : String} {c : Config} (h : load text = .ok c) :
    ∃ snapshot, Snapshot.ofConfig c = .ok snapshot :=
  exists_ofConfig (violations_of_load h)

end Config

end IsolationGate
