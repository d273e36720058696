import IsolationGate.Config.Violation
import IsolationGate.Policy.ContentPolicy
import IsolationGate.Policy.EmbedderPolicy
import IsolationGate.Policy.FetchMetadata

/-!
# Snapshots of the filters

All filters of one configuration. A filter that is switched off is absent; the embedder policy keeps
its switch to itself. Building a snapshot stops at the first setting that a filter cannot work with.
-/

namespace IsolationGate.Gateway

open Config (Violation)
open Policy (ContentPolicy EmbedderPolicy FetchMetadataFilter OpenerMode OpenerPolicy)

/-- The filters of one configuration. -/
structure Snapshot where
  fetchMetadata : Option FetchMetadataFilter
  opener : Option OpenerPolicy
  embedder : EmbedderPolicy
  content : Option ContentPolicy
  deriving Repr, DecidableEq

/-- The filter by Fetch Metadata, if it is on. -/
def fetchMetadataOf (c : Config.FetchMetadata) : Option FetchMetadataFilter :=
  if c.enabled then some ⟨c.exemptedPaths⟩ else none

/-- The opener policy, if it is on. Its mode does not matter while it is off. -/
def openerOf (c : Config.Opener) : Except Violation (Option OpenerPolicy) :=
  if c.enabled then
    match OpenerMode.ofWord c.mode with
    | .ok mode => .ok (some ⟨mode, c.exemptedPaths⟩)
    | .error error => .error (.openerMode error)
  else .ok none

/-- The embedder policy. Its report URI must be one even while it is off. -/
def embedderOf (c : Config.Embedder) : Except Violation EmbedderPolicy :=
  match EmbedderPolicy.ofUri c.enforcing c.disabled c.reportUri c.exemptedPaths with
  | .ok policy => .ok policy
  | .error error => .error (.reportUri .embedderReportUri error)

/-- The content policy, if it is on. -/
def contentOf (c : Config.Content) : Option ContentPolicy :=
  if c.enabled then some ⟨c.reportOnly, c.reportUri⟩ else none

/-- The filters of a configuration. -/
def Snapshot.ofConfig (c : Config) : Except Violation Snapshot := do
  let opener ← openerOf c.opener
  let embedder ← embedderOf c.embedder
  .ok ⟨fetchMetadataOf c.fetchMetadata, opener, embedder, contentOf c.content⟩

theorem Snapshot.ofConfig_eq_ok_iff {c : Config} {s : Snapshot} :
    Snapshot.ofConfig c = .ok s ↔
      s.fetchMetadata = fetchMetadataOf c.fetchMetadata ∧ openerOf c.opener = .ok s.opener ∧
        embedderOf c.embedder = .ok s.embedder ∧ s.content = contentOf c.content := by
  rw [ofConfig]
  cases hopener : openerOf c.opener with
  | error violation => simp [bind, Except.bind]
  | ok opener =>
      cases hembedder : embedderOf c.embedder with
      | error violation => simp [bind, Except.bind]
      | ok embedder =>
          cases s
          simp only [bind, Except.bind, Except.ok.injEq, mk.injEq]
          constructor
          · rintro ⟨rfl, rfl, rfl, rfl⟩
            exact ⟨rfl, rfl, rfl, rfl⟩
          · rintro ⟨rfl, rfl, rfl, rfl⟩
            exact ⟨rfl, rfl, rfl, rfl⟩

/-- The filters of a request whose layers have read different snapshots. -/
def Snapshot.mixed (guarding restricting opening embedding : Snapshot) : Snapshot :=
  ⟨guarding.fetchMetadata, opening.opener, embedding.embedder, restricting.content⟩

@[simp] theorem Snapshot.mixed_self (s : Snapshot) : mixed s s s s = s := rfl

end IsolationGate.Gateway
