import IsolationGate.Proofs.Layers
import IsolationGate.Proofs.PolicyText
import IsolationGate.Proofs.StartupEdits

/-!
# Starting with a valid configuration

The rules on a configuration are written down once, and what is built from a configuration checks
its own arguments a second time. The two agree. Whatever fails to be built fails for one broken
rule, which the rules report as well; so a configuration that breaks none has filters, a gateway,
addresses that can be listened on and a content policy that can be sent.

For the program this means that loading is the only step at which a configuration can be refused.
From there on every configuration that it holds is valid, those of its updates included, and that
is what each of its steps preserves.

## Main results

* `Config.builds_of_violations` — what can be built from a configuration that breaks no rule.
* `Config.mem_violations_of_start` — what fails to be built breaks a rule.
* `Gateway.notMem_events_answer` — a legal content policy is never dropped.
* `Lifecycle.Program.IsSound.act` — every step of the program keeps its configurations valid.
* `Lifecycle.Program.builds_exactly_valid` — the agreement, for every configuration and every run.
-/

namespace IsolationGate

open Gateway (Server Setup Snapshot invalidPolicyEvent originOf)
open Http (FieldValue Request Response)
open Lifecycle (parseAddress)
open Policy (ContentPolicy Nonce)

/-! ## Building from a configuration -/

namespace Config

/-- The server behind the gateway fails to be read for its address only. -/
theorem mem_violations_of_originOf {c : Config} {violation : Violation}
    (h : originOf c.origin = .error violation) : violation ∈ c.violations := by
  have hrule : violation ∈ originViolations c.origin.address := by
    rw [originOf] at h
    split at h
    · cases h
    · next address haddress =>
        split at h
        · cases h
        · next hnone =>
            rw [haddress, originViolations, hnone]
            exact List.mem_singleton.2 (Except.error.inj h).symm
  simp only [violations, List.mem_append, hrule, true_or, or_true]

/-- A gateway fails to be built for a broken rule only. -/
theorem mem_violations_of_start {c : Config} {violation : Violation}
    (h : Server.start c = .error violation) : violation ∈ c.violations := by
  rcases Server.error_of_start h with hfilters | hsetup
  · exact mem_violations_of_ofConfig hfilters
  · cases horigin : originOf c.origin with
    | ok origin =>
        rw [Setup.ofConfig, horigin] at hsetup
        cases hsetup
    | error other =>
        rw [Setup.ofConfig, horigin] at hsetup
        exact Except.error.inj hsetup ▸ mem_violations_of_originOf horigin

theorem exists_parseAddress {setting : Setting} {address : String}
    (h : addressViolations setting address = []) : ∃ parsed, parseAddress address = .ok parsed := by
  cases hparse : Net.SocketAddress.ofText? address with
  | some parsed => exact ⟨parsed, by rw [parseAddress, hparse]⟩
  | none =>
      rw [addressViolations, hparse] at h
      cases h

/-- Everything can be built from a configuration. -/
structure Builds (c : Config) : Prop where
  filters : ∃ snapshot, Snapshot.ofConfig c = .ok snapshot
  server : ∃ server, Server.start c = .ok server
  address : ∃ parsed, parseAddress c.listener.bindAddress = .ok parsed
  metrics : c.observability.metricsEnabled = true →
    ∃ parsed, parseAddress c.observability.metricsAddress = .ok parsed
  /-- The content policy can be sent, also when it is switched off. -/
  policy : ∀ nonce, ∃ value,
    FieldValue.ofText? (ContentPolicy.text ⟨c.content.reportOnly, c.content.reportUri⟩ nonce) =
      some value

theorem check_of_reportUri {c : Config} (h : c.violations = []) :
    ∀ uri ∈ c.content.reportUri, Policy.ReportUri.check uri = .ok () := by
  intro uri huri
  have hrule : (c.content.reportUri.map (reportUriViolations .contentReportUri)).getD [] = [] := by
    simp only [violations, List.append_eq_nil_iff] at h
    exact h.1.1.1.2
  rw [huri] at hrule
  exact check_of_violations hrule

/-- **A configuration that breaks no rule can be built from.** -/
theorem builds_of_violations {c : Config} (h : c.violations = []) : Builds c where
  filters := exists_ofConfig h
  server := by
    cases hstart : Server.start c with
    | ok server => exact ⟨server, rfl⟩
    | error violation =>
        have hbroken := mem_violations_of_start hstart
        rw [h] at hbroken
        cases hbroken
  address := by
    simp only [violations, List.append_eq_nil_iff] at h
    exact exists_parseAddress h.1.1.1.1.1.1.1.1.1.1.1
  metrics := by
    intro hmetrics
    simp only [violations, hmetrics, if_true, List.append_eq_nil_iff] at h
    exact exists_parseAddress h.1.1.1.1.1.1.1.1.1.1.2
  policy := ContentPolicy.exists_value (check_of_reportUri h)

theorem validated_of_mem {c : Config} {violation : Violation} (h : violation ∈ c.violations) :
    validated c = .error (.invalid c.violations) :=
  if_neg (List.ne_nil_of_mem h)

/-- Without a file the program runs with a valid configuration as well. -/
theorem violations_default : ({} : Config).violations = [] := by decide +kernel

end Config

/-! ## A content policy that can be sent -/

namespace Gateway

/-- The content policy of the filters can be sent with every nonce. -/
def Snapshot.IsLegal (s : Snapshot) : Prop :=
  ∀ policy ∈ s.content, ∀ nonce, ∃ value, FieldValue.ofText? (policy.text nonce) = some value

theorem isLegal_of_violations {c : Config} {s : Snapshot} (hvalid : c.violations = [])
    (h : Snapshot.ofConfig c = .ok s) : s.IsLegal := by
  intro policy hpolicy
  rw [(Snapshot.ofConfig_eq_ok_iff.1 h).2.2.2, contentOf, Option.mem_def] at hpolicy
  split at hpolicy
  · rw [← Option.some.inj hpolicy]
    exact (Config.builds_of_violations hvalid).policy
  · cases hpolicy

theorem notMem_events_foldl_andThen {changes : List Change} {outcome : Outcome}
    (h : invalidPolicyEvent ∉ outcome.events)
    (hchanges : ∀ change ∈ changes, ∀ response, invalidPolicyEvent ∉ (change response).2) :
    invalidPolicyEvent ∉ (changes.foldl Outcome.andThen outcome).events := by
  induction changes generalizing outcome with
  | nil => exact h
  | cons change rest ih =>
      refine ih ?_ fun other hother => hchanges other (List.mem_cons_of_mem change hother)
      unfold Outcome.andThen
      split
      · exact h
      · intro hmem
        rcases List.mem_append.1 hmem with hbefore | hnew
        · exact h hbefore
        · exact hchanges change List.mem_cons_self _ hnew

/-- Another part of the program speaks. -/
theorem ne_invalidPolicyEvent (event : Log.Event) (h : event.target ≠ invalidPolicyEvent.target) :
    invalidPolicyEvent ≠ event := fun heq => h (congrArg Log.Event.target heq.symm)

theorem notMem_events_handle (setup : Setup) (server : OriginServer) (nonce : Option Nonce)
    (request : Request) : invalidPolicyEvent ∉ (handle setup server nonce request).events := by
  have htarget : forwardTarget ≠ invalidPolicyEvent.target := by decide
  have hforwarding : ∀ authority, invalidPolicyEvent ≠ forwardingEvent authority request :=
    fun _ => ne_invalidPolicyEvent _ htarget
  have hfailure : ∀ cause, invalidPolicyEvent ≠ failureEvent request cause :=
    fun _ => ne_invalidPolicyEvent _ htarget
  unfold handle
  split
  · exact List.not_mem_nil
  · split
    · unfold forward
      dsimp only
      split <;> simp [hforwarding, hfailure]
    · exact List.not_mem_nil

/-- A legal content policy is added, and the other policies speak of other things. -/
theorem notMem_events_isolate {snapshot : Snapshot} (h : snapshot.IsLegal) (setup : Setup)
    (server : OriginServer) (nonce : Nonce) (request : Request) :
    invalidPolicyEvent ∉ (isolate snapshot nonce (handle setup server) request).events := by
  have hskip : ∀ part name path, Log.targetOf part ≠ invalidPolicyEvent.target →
      invalidPolicyEvent ∉ [skipEvent part name path] := fun part name path htarget hmem =>
    ne_invalidPolicyEvent (skipEvent part name path) htarget (List.mem_singleton.1 hmem)
  rw [isolate_eq_foldl]
  refine notMem_events_foldl_andThen (notMem_events_handle setup server _ request)
    (forall_policyChanges ?_ ?_ ?_)
  · intro response
    unfold embed
    dsimp only
    split
    · exact hskip _ _ _ (by decide)
    · exact List.not_mem_nil
  · intro policy response
    unfold openWith
    dsimp only
    split
    · exact hskip _ _ _ (by decide)
    · exact List.not_mem_nil
  · intro policy hpolicy response
    obtain ⟨value, hvalue⟩ := h policy hpolicy nonce
    unfold restrict ContentPolicy.addTo?
    rw [hvalue]
    cases response.fields.contains policy.fieldName with
    | true => exact List.not_mem_nil
    | false => exact List.not_mem_nil

theorem notMem_events_guardWith {inner : Handler} {request : Request}
    (h : invalidPolicyEvent ∉ (inner request).events) (filter : Policy.FetchMetadataFilter) :
    invalidPolicyEvent ∉ (guardWith filter inner request).events := by
  cases hdecide : decide filter request with
  | allow =>
      have hevents : (guardWith filter inner request).events = (inner request).events := by
        rw [guardWith, hdecide]
        rfl
      rwa [hevents]
  | reject =>
      have hevents : (guardWith filter inner request).events =
          [rejectionEvent request.target.path (.ofRequest request.fields request.method)] := by
        rw [guardWith, hdecide]
        rfl
      have htarget : Log.targetOf "security::fetch_metadata" ≠ invalidPolicyEvent.target := by
        decide
      rw [hevents]
      exact fun hmem => ne_invalidPolicyEvent (rejectionEvent request.target.path
        (.ofRequest request.fields request.method)) htarget (List.mem_singleton.1 hmem)

theorem notMem_events_guardIfOn {inner : Handler} {request : Request}
    (h : invalidPolicyEvent ∉ (inner request).events) (snapshot : Snapshot) :
    invalidPolicyEvent ∉ (guardIfOn snapshot inner request).events := by
  unfold guardIfOn
  cases snapshot.fetchMetadata with
  | none => exact h
  | some filter => exact notMem_events_guardWith h filter

/-- **A legal content policy is never dropped.** -/
theorem notMem_events_answer {snapshot : Snapshot} (h : snapshot.IsLegal) (setup : Setup)
    (server : OriginServer) (fresh : Fresh) (request : Request) :
    invalidPolicyEvent ∉ (answer setup snapshot server fresh request).events := by
  refine notMem_events_guardIfOn ?_ snapshot
  show invalidPolicyEvent ∉ (limitBody setup (isolate snapshot fresh.nonce (handle setup server))
    (identified fresh.requestId request)).events
  unfold limitBody
  split
  · exact List.not_mem_nil
  · exact notMem_events_isolate h setup server fresh.nonce _

end Gateway

/-! ## The program -/

namespace Lifecycle.Program

open Gateway (Fresh OriginServer answer)

/-- No configuration is to blame for the error. -/
def IsOutside (error : StartError) : Prop :=
  (∃ cause, error = .system cause) ∨ ∃ cause, error = .certificate cause

/-- The program has loaded a configuration, and every configuration that it holds since then breaks
no rule. -/
structure IsSound (c : Config) (p : Program) : Prop where
  loaded : p.stage ≠ .starting
  config : p.config = c
  updates : ∀ update ∈ p.updates, update.config.violations = []
  live : ∀ server, p.server = some server → server.live.IsLegal
  failure : ∀ error, p.failure = some error → IsOutside error

theorem IsSound.of_sameState {c : Config} {p q : Program} (h : IsSound c p)
    (hsame : SameState p q) (hloaded : q.stage ≠ .starting)
    (hfailure : ∀ error, q.failure = some error → IsOutside error) : IsSound c q where
  loaded := hloaded
  config := hsame.config.trans h.config
  updates := by
    rw [hsame.updates]
    exact h.updates
  live := by
    rw [hsame.server]
    exact h.live
  failure := hfailure

theorem exists_certificate_of_check {files : CertificateFiles} {certificate : Config.Certificate}
    {error : StartError} (h : checkCertificate files certificate = .error error) :
    ∃ cause, error = .certificate cause := by
  unfold checkCertificate at h
  split at h
  · exact ⟨_, (Except.error.inj h).symm⟩
  · split at h
    · exact ⟨_, (Except.error.inj h).symm⟩
    · split at h
      · exact ⟨_, (Except.error.inj h).symm⟩
      · cases h

/-- With a valid configuration the metrics have an address. -/
theorem announce_of_violations {p : Program} (h : p.config.violations = [])
    (around : Surroundings) : ∃ events, p.announce around = { p with events := events } := by
  unfold announce log
  dsimp only
  split
  · next hmetrics =>
      obtain ⟨parsed, hparse⟩ := (Config.builds_of_violations h).metrics hmetrics
      rw [hparse]
      exact ⟨_, rfl⟩
  · exact ⟨_, rfl⟩

/-- With a valid configuration listening fails for the system or the certificate only. -/
theorem failure_listen {p : Program} (h : p.config.violations = []) {around : Surroundings}
    {error : StartError} (hfailure : (p.listen around).failure = some error) :
    p.failure = some error ∨ IsOutside error := by
  obtain ⟨parsed, hparse⟩ := (Config.builds_of_violations h).address
  unfold listen at hfailure
  dsimp only at hfailure
  rw [hparse] at hfailure
  split at hfailure
  · split at hfailure
    · exact .inl hfailure
    · exact .inr (.inl ⟨_, (Option.some.inj hfailure).symm⟩)
  · cases hcheck : checkCertificate around.certificates _ with
    | error cause =>
        rw [hcheck] at hfailure
        obtain ⟨text, rfl⟩ := exists_certificate_of_check hcheck
        exact .inr (.inr ⟨text, (Option.some.inj hfailure).symm⟩)
    | ok u =>
        rw [hcheck] at hfailure
        dsimp only at hfailure
        split at hfailure
        · exact .inl hfailure
        · exact .inr (.inl ⟨_, (Option.some.inj hfailure).symm⟩)

theorem IsSound.advance {c : Config} (hvalid : c.violations = []) {p : Program}
    (h : IsSound c p) (around : Surroundings) : IsSound c (p.advance around) := by
  unfold Program.advance
  cases hstage : p.stage with
  | starting => exact absurd hstage h.loaded
  | loaded =>
      dsimp only
      unfold register
      split
      · exact ⟨nofun, h.config, h.updates, h.live, h.failure⟩
      · split
        · exact ⟨nofun, h.config, h.updates, h.live, h.failure⟩
        · exact ⟨nofun, h.config, h.updates, h.live, h.failure⟩
  | registered => exact ⟨nofun, h.config, h.updates, h.live, h.failure⟩
  | remembering => exact ⟨nofun, h.config, h.updates, h.live, h.failure⟩
  | watching =>
      obtain ⟨server, hstart⟩ := (Config.builds_of_violations hvalid).server
      have hbuild : p.build = { p with stage := .built, server := some server } := by
        rw [build, h.config, hstart]
      dsimp only
      rw [hbuild]
      refine ⟨nofun, h.config, h.updates, ?_, h.failure⟩
      intro built hbuilt
      rw [← Option.some.inj hbuilt]
      exact Gateway.isLegal_of_violations hvalid (Server.start_eq_ok_iff.1 hstart).1
  | built =>
      refine h.of_sameState (sameState_listen around p) ?_ ?_
      · dsimp only
        rcases stage_listen around p with hserving | hended
        · rw [hserving]
          nofun
        · rw [hended]
          nofun
      · intro error herror
        rcases failure_listen (by rw [h.config]; exact hvalid) herror with hbefore | houtside
        · exact h.failure error hbefore
        · exact houtside
  | serving => exact h
  | ended => exact h

/-- What the loop sends on breaks no rule. -/
theorem IsSound.watchStep {c : Config} {p : Program} (h : IsSound c p) :
    IsSound c p.watchStep := by
  unfold Program.watchStep
  split
  · next w _ =>
      split
      · refine ⟨h.loaded, h.config, fun update hupdate => ?_, h.live, h.failure⟩
        rcases List.mem_append.1 hupdate with hbefore | hnew
        · exact h.updates update hbefore
        · rcases w.advance_cases p.content with ⟨hnone, -⟩ | ⟨held, sent, -, hnews, hsome, -⟩
          · rw [hnone] at hnew
            cases hnew
          · rw [hsome] at hnew
            rw [List.mem_singleton.1 hnew]
            exact Config.violations_of_load hnews.accepted
      · exact h
  · exact h

/-- An update that breaks no rule is applied. -/
theorem IsSound.applyUpdate {c : Config} {p : Program} (h : IsSound c p) :
    IsSound c p.applyUpdate := by
  unfold Program.applyUpdate
  split
  · next server update rest hserver hupdates =>
      split
      · have hvalid := h.updates update (by rw [hupdates]; exact List.mem_cons_self)
        obtain ⟨next, hnext⟩ := Config.exists_ofConfig hvalid
        refine ⟨h.loaded, h.config, fun other hother => ?_, fun reloaded hreloaded => ?_,
          h.failure⟩
        · exact h.updates other (by rw [hupdates]; exact List.mem_cons_of_mem update hother)
        · rw [← Option.some.inj hreloaded, (Server.reload_of_ok hnext server).1]
          exact Gateway.isLegal_of_violations hvalid hnext
      · exact h
  · exact h

/-- **Every step keeps the configurations of the program valid.** -/
theorem IsSound.act {c : Config} (hvalid : c.violations = []) {p : Program} (h : IsSound c p)
    (around : Surroundings) (a : Action) : IsSound c (p.act around a) := by
  cases a with
  | write bytes => exact ⟨h.loaded, h.config, h.updates, h.live, h.failure⟩
  | remove => exact ⟨h.loaded, h.config, h.updates, h.live, h.failure⟩
  | deliver => exact ⟨h.loaded, h.config, h.updates, h.live, h.failure⟩
  | start => exact h.advance hvalid around
  | watch => exact h.watchStep
  | update => exact h.applyUpdate
  | signal =>
      show IsSound c p.stop
      unfold stop
      split
      · exact ⟨nofun, h.config, h.updates, h.live, h.failure⟩
      · exact h

theorem IsSound.run {c : Config} (hvalid : c.violations = []) {p : Program} (h : IsSound c p)
    (around : Surroundings) (actions : List Action) : IsSound c (p.run around actions) := by
  induction actions generalizing p with
  | nil => exact h
  | cons a rest ih => exact ih (h.act hvalid around a)

/-! ## Loading -/

/-- The start never comes back to its beginning. -/
theorem stage_advance_ne_starting (around : Surroundings) (p : Program) :
    (p.advance around).stage ≠ .starting := by
  unfold Program.advance
  cases hstage : p.stage with
  | starting =>
      dsimp only
      unfold load
      split
      · nofun
      · next config _ =>
          rcases stage_announce around { p with stage := .loaded, config := config } with
            hkept | hended
          · exact fun h => nomatch hkept.symm.trans h
          · exact fun h => nomatch hended.symm.trans h
  | loaded =>
      dsimp only
      unfold register
      split
      · nofun
      · split <;> nofun
  | registered => nofun
  | remembering => nofun
  | watching =>
      rcases p.build_cases with ⟨server, -, hbuild⟩ | ⟨error, hbuild⟩
      · exact fun h => nomatch (congrArg stage hbuild).symm.trans h
      · exact fun h => nomatch (congrArg stage hbuild).symm.trans h
  | built =>
      rcases stage_listen around p with hserving | hended
      · exact fun h => nomatch hserving.symm.trans h
      · exact fun h => nomatch hended.symm.trans h
  | serving => exact fun h => nomatch hstage.symm.trans h
  | ended => exact fun h => nomatch hstage.symm.trans h

/-- Only the start moves the program on; everything else ends it at most. -/
theorem stage_act {a : Action} (h : a ≠ .start) (around : Surroundings) (p : Program) :
    (p.act around a).stage = p.stage ∨ (p.act around a).stage = .ended := by
  cases a with
  | write bytes => exact .inl rfl
  | remove => exact .inl rfl
  | deliver => exact .inl rfl
  | start => exact absurd rfl h
  | watch =>
      show p.watchStep.stage = _ ∨ p.watchStep.stage = _
      unfold Program.watchStep
      split
      · split <;> exact .inl rfl
      · exact .inl rfl
  | update =>
      show p.applyUpdate.stage = _ ∨ p.applyUpdate.stage = _
      unfold Program.applyUpdate
      split
      · split <;> exact .inl rfl
      · exact .inl rfl
  | signal =>
      show p.stop.stage = _ ∨ p.stop.stage = _
      unfold stop
      split
      · exact .inr rfl
      · exact .inl rfl

/-- Until it loads, the program does nothing; only its file may change. -/
theorem run_of_starting (around : Surroundings) (path : Option String) (content : FileContent)
    (past : List Action) (h : ((start path content).run around past).stage = .starting) :
    ∃ now, (start path content).run around past = start path now := by
  induction past using List.reverseRecOn with
  | nil => exact ⟨content, rfl⟩
  | append_singleton past a ih =>
      rw [run_concat] at h ⊢
      have hstart : a ≠ .start := by
        rintro rfl
        exact stage_advance_ne_starting around _ h
      rcases stage_act hstart around ((start path content).run around past) with hkept | hended
      · obtain ⟨now, hnow⟩ := ih (hkept.symm.trans h)
        rw [hnow]
        cases a with
        | write bytes => exact ⟨some bytes, rfl⟩
        | remove => exact ⟨none, rfl⟩
        | start => exact absurd rfl hstart
        | deliver | watch | update | signal => exact ⟨now, rfl⟩
      · exact nomatch hended.symm.trans h

theorem violations_of_loaded {c : Config} {path : Option String} {content : FileContent}
    (h : (if path.isSome then Config.loadFile content else .ok {}) = .ok c) :
    c.violations = [] := by
  split at h
  · cases hread : Config.readFile content with
    | error error =>
        rw [Config.loadFile, hread] at h
        cases h
    | ok text =>
        rw [Config.loadFile, hread] at h
        exact Config.violations_of_load h
  · rw [← Except.ok.inj h]
    exact Config.violations_default

/-- A program that loads its configuration has a valid one, and reports nothing. -/
theorem isSound_advance_start {c : Config} {path : Option String} {content : FileContent}
    (h : (if path.isSome then Config.loadFile content else .ok {}) = .ok c)
    (around : Surroundings) : IsSound c ((start path content).advance around) := by
  have hload : (start path content).load =
      { start path content with stage := .loaded, config := c } := by
    unfold load
    rw [show (if (start path content).path.isSome then
      Config.loadFile (start path content).content else .ok {}) = .ok c from h]
  obtain ⟨events, hannounce⟩ := announce_of_violations
    (p := { start path content with stage := .loaded, config := c }) (violations_of_loaded h) around
  have hadvance : (start path content).advance around =
      { start path content with stage := .loaded, config := c, events := events } := by
    show (if (start path content).load.stage = .loaded then
      (start path content).load.announce around else (start path content).load) = _
    rw [hload, if_pos rfl, hannounce]
  rw [hadvance]
  refine ⟨nofun, rfl, fun _ hupdate => absurd hupdate List.not_mem_nil, ?_, ?_⟩
  · intro server hserver
    have hnone : (none : Option Server) = some server := hserver
    cases hnone
  · intro error herror
    have hnone : (none : Option StartError) = some error := herror
    cases hnone

/-- Nothing that the program does is refused for a configuration. -/
structure IsHealthy (p : Program) : Prop where
  /-- It ends for the system or a certificate only. -/
  failure : ∀ error, p.failure = some error → IsOutside error
  /-- Every gateway applies what the loop has sent. -/
  applies : ∀ update ∈ p.updates, ∀ server : Server, (server.reload update.config).2.applied = true
  /-- Every request that reads the live content policy, whatever its other layers have read, gets
  one that can be sent. -/
  sends : ∀ server, p.server = some server →
    ∀ (guarding opening embedding : Snapshot) (behind : OriginServer) (fresh : Fresh)
      (request : Request),
      invalidPolicyEvent ∉ (answer server.setup
        (.mixed guarding server.live opening embedding) behind fresh request).events

theorem IsSound.isHealthy {c : Config} {p : Program} (h : IsSound c p) : IsHealthy p where
  failure := h.failure
  applies := by
    intro update hupdate server
    obtain ⟨next, hnext⟩ := Config.exists_ofConfig (h.updates update hupdate)
    exact (Server.reload_of_ok hnext server).2
  sends := by
    intro server hserver guarding opening embedding behind fresh request
    have hlegal : (Snapshot.mixed guarding server.live opening embedding).IsLegal :=
      h.live server hserver
    exact Gateway.notMem_events_answer hlegal server.setup behind fresh request

/-- **Rules and construction agree.** Everything can be built from a configuration that breaks no
rule. A failure to build filters or a gateway is one violation, the start ends with that one alone,
and it is among those that the rules report. So once the program has loaded a configuration,
whatever happens before and after, no configuration is refused any more. -/
theorem builds_exactly_valid (c : Config) :
    (Config.validated c = .ok c → c.Builds) ∧
      (∀ violation,
        Snapshot.ofConfig c = .error violation ∨ Server.start c = .error violation →
          ∃ violations, Config.validated c = .error (.invalid violations) ∧
            violation ∈ violations) ∧
      (∀ violation p, Server.start c = .error violation → p.config = c →
        (build p).failure = some (.config (.invalid [violation]))) ∧
      ∀ around path content past rest,
        ((start path content).run around past).stage = .starting →
        (if path.isSome then Config.loadFile ((start path content).run around past).content
          else .ok {}) = .ok c →
          ((start path content).run around (past ++ .start :: rest)).config = c ∧
            IsHealthy ((start path content).run around (past ++ .start :: rest)) := by
  refine ⟨fun hvalidated => Config.builds_of_violations (Config.validated_eq_ok_iff.1 hvalidated),
    ?_, ?_, ?_⟩
  · rintro violation (hfilters | hstart)
    · have hbroken := Config.mem_violations_of_ofConfig hfilters
      exact ⟨c.violations, Config.validated_of_mem hbroken, hbroken⟩
    · have hbroken := Config.mem_violations_of_start hstart
      exact ⟨c.violations, Config.validated_of_mem hbroken, hbroken⟩
  · intro violation p hstart hconfig
    rw [build, hconfig, hstart]
    rfl
  · intro around path content past rest hstarting hload
    obtain ⟨now, hnow⟩ := run_of_starting around path content past hstarting
    rw [hnow] at hload
    have hsound : IsSound c ((start path content).run around (past ++ .start :: rest)) := by
      rw [run_append, hnow]
      exact (isSound_advance_start hload around).run (violations_of_loaded hload) around rest
    exact ⟨hsound.config, hsound.isHealthy⟩

/-- An empty file is a valid configuration, and an edit of it is no trouble either. -/
theorem isHealthy_after_edit :
    IsHealthy (overEmptyFile.run calm ([] ++ .start :: ([.start, .start] ++ editedLater))) := by
  have hload : Config.loadFile (some []) = .ok {} := by decide +kernel
  have hagree := (builds_exactly_valid {}).2.2.2 calm (some "gate.toml") (some []) []
    ([.start, .start] ++ editedLater) rfl hload
  exact hagree.2

end Lifecycle.Program

end IsolationGate
