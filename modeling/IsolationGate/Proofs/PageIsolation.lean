import IsolationGate.Proofs.Forwarding
import IsolationGate.Proofs.NonceAgreement
import IsolationGate.Proofs.StatedLength

/-!
# How pages are isolated

A request that is let through gets one of three answers: it is refused for the length that it
states, it takes too long, or a handler answers it. The first two have none of the fields that
isolate a page, since they come from layers outside the policies. The third has those that
`Isolates` describes, one structure for the opener policy and the embedder policy together, in terms
of the fields that the handler has given; and what a handler has given under these names is what the
server behind the gateway has answered.

Each policy looks at its own exempted paths only. So two sets of filters that differ in nothing but
their exempted paths do the same to a field whenever the policy behind it exempts the path in both
or in neither of them.

## Main results

* `isolates_isolated` — what the policies do to the answer of a handler.
* `isAnswered_answer` — the three kinds of answer, with the condition of each.
* `Isolates.values_opener_eq`, `Isolates.values_embedder_eq` — exemptions do not interfere.
* `answer_isolates_exactly` — both for the whole gateway.
-/

namespace IsolationGate.Gateway

open Http (FieldName FieldValue Fields Request Response)
open Policy (ContentPolicy EmbedderPolicy Nonce OpenerPolicy)

/-! ## Isolation, field by field -/

/-- The names of the fields of the embedder policy. -/
def embedderNames : List FieldName :=
  [EmbedderPolicy.enforcingName, EmbedderPolicy.reportingName, EmbedderPolicy.reportToName]

/-- The opener policy is on and exempts the path. -/
def ExemptsOpener (snapshot : Snapshot) (path : String) : Prop :=
  ∃ policy, snapshot.opener = some policy ∧ path ∈ policy.exempted.paths

/-- The embedder policy exempts the path. -/
def ExemptsEmbedder (snapshot : Snapshot) (path : String) : Prop :=
  path ∈ snapshot.embedder.exempted.paths

/-- The fields of an answer next to those that the handler has given. -/
structure Isolates (snapshot : Snapshot) (path : String) (given final : Fields) : Prop where
  /-- The mode replaces any number of values. -/
  opens : ∀ policy, snapshot.opener = some policy → path ∉ policy.exempted.paths →
    ∃ value, final.values OpenerPolicy.fieldName = [value] ∧
      value.bytes = Text.bytesOf policy.mode.word
  opensNot : snapshot.opener = none ∨ ExemptsOpener snapshot path →
    final.values OpenerPolicy.fieldName = given.values OpenerPolicy.fieldName
  embeds : snapshot.embedder.disabled = false → ¬ ExemptsEmbedder snapshot path →
    final.values snapshot.embedder.fieldName = [snapshot.embedder.value] ∧
      final.values EmbedderPolicy.reportToName = [snapshot.embedder.reportTo]
  embedsNot : snapshot.embedder.disabled = true ∨ ExemptsEmbedder snapshot path →
    ∀ name ∈ embedderNames, final.values name = given.values name
  /-- The field of the other mode of the embedder policy stays as it is. -/
  other : ∀ name ∈ [EmbedderPolicy.enforcingName, EmbedderPolicy.reportingName],
    name ≠ snapshot.embedder.fieldName → final.values name = given.values name

theorem values_openWith_self (policy : OpenerPolicy) (path : String) (response : Response) :
    (openWith policy path response).1.fields.values OpenerPolicy.fieldName =
      if path ∈ policy.exempted.paths then response.fields.values OpenerPolicy.fieldName
      else [.ofAscii policy.mode.word] := by
  show (policy.apply path response.fields).values OpenerPolicy.fieldName = _
  unfold OpenerPolicy.apply OpenerPolicy.isExempted
  simp only [Policy.ExemptedPaths.contains_iff]
  split
  · rfl
  · exact Fields.values_set_self _ _ _

theorem values_embed (policy : EmbedderPolicy) (path : String) (response : Response)
    (name : FieldName) :
    (embed policy path response).1.fields.values name =
      if policy.disabled = true ∨ path ∈ policy.exempted.paths then response.fields.values name
      else if name = EmbedderPolicy.reportToName then [policy.reportTo]
      else if name = policy.fieldName then [policy.value]
      else response.fields.values name := by
  have hskips : (policy.disabled || policy.isExempted path) = true ↔
      policy.disabled = true ∨ path ∈ policy.exempted.paths := by
    rw [EmbedderPolicy.isExempted, ← Policy.ExemptedPaths.contains_iff]
    cases policy.disabled <;> simp
  show (policy.apply path response.fields).values name = _
  unfold EmbedderPolicy.apply
  simp only [hskips]
  split
  · rfl
  · by_cases hgroup : name = EmbedderPolicy.reportToName
    · rw [if_pos hgroup, hgroup, Fields.values_set_self]
    · rw [if_neg hgroup, Fields.values_set_of_ne hgroup]
      by_cases hname : name = policy.fieldName
      · rw [if_pos hname, hname, Fields.values_set_self]
      · rw [if_neg hname, Fields.values_set_of_ne hname]

/-- The changes of the policies, apart from each other. -/
theorem isolated_eq (snapshot : Snapshot) (nonce : Nonce) (path : String) (response : Response) :
    isolated snapshot nonce path response =
      changed (snapshot.content.map fun policy => restrict policy nonce).toList
        (changed (snapshot.opener.map fun policy => openWith policy path).toList
          (embed snapshot.embedder path response).1) := by
  rw [isolated, policyChanges, ← changed_append]
  rfl

/-- The content policy leaves the other fields alone. -/
theorem values_changed_content {name : FieldName} (h : name ∉ contentNames)
    (content : Option ContentPolicy) (nonce : Nonce) (response : Response) :
    (changed (content.map fun policy => restrict policy nonce).toList response).fields.values name =
      response.fields.values name := by
  cases content with
  | none => rfl
  | some policy =>
      have hname : name ≠ policy.fieldName := by
        rintro rfl
        exact h (fieldName_mem_contentNames policy)
      show (restrict policy nonce response).1.fields.values name = _
      rw [values_restrict, if_neg fun hboth => hname hboth.1]

/-- The opener policy leaves the other fields alone. -/
theorem values_changed_opener {name : FieldName} (h : name ≠ OpenerPolicy.fieldName)
    (opener : Option OpenerPolicy) (path : String) (response : Response) :
    (changed (opener.map fun policy => openWith policy path).toList response).fields.values name =
      response.fields.values name := by
  cases opener with
  | none => rfl
  | some policy => exact values_openWith_of_ne h policy path response

/-- The opener policy of an answer is the work of the opener policy alone. -/
theorem values_isolated_opener (snapshot : Snapshot) (nonce : Nonce) (path : String)
    (response : Response) :
    (isolated snapshot nonce path response).fields.values OpenerPolicy.fieldName =
      match snapshot.opener with
      | some policy =>
          if path ∈ policy.exempted.paths then response.fields.values OpenerPolicy.fieldName
          else [.ofAscii policy.mode.word]
      | none => response.fields.values OpenerPolicy.fieldName := by
  have hembed : (embed snapshot.embedder path response).1.fields.values OpenerPolicy.fieldName =
      response.fields.values OpenerPolicy.fieldName :=
    values_embed_of_ne (by decide) (by decide) (by decide) _ path response
  rw [isolated_eq, values_changed_content (by decide)]
  cases snapshot.opener with
  | none => exact hembed
  | some policy =>
      show (openWith policy path (embed snapshot.embedder path response).1).1.fields.values
        OpenerPolicy.fieldName = _
      rw [values_openWith_self, hembed]

/-- The embedder policy of an answer is the work of the embedder policy alone. -/
theorem values_isolated_embedder {name : FieldName} (h : name ∈ embedderNames)
    (snapshot : Snapshot) (nonce : Nonce) (path : String) (response : Response) :
    (isolated snapshot nonce path response).fields.values name =
      (embed snapshot.embedder path response).1.fields.values name := by
  have hother : name ∉ contentNames ∧ name ≠ OpenerPolicy.fieldName := by
    revert name
    decide
  rw [isolated_eq, values_changed_content hother.1, values_changed_opener hother.2]

theorem fieldName_mem_embedderNames (policy : EmbedderPolicy) :
    policy.fieldName ∈ embedderNames ∧ policy.fieldName ≠ EmbedderPolicy.reportToName := by
  unfold EmbedderPolicy.fieldName
  split <;> decide

/-- **What the policies do** to the answer of a handler. -/
theorem isolates_isolated (snapshot : Snapshot) (nonce : Nonce) (path : String)
    (response : Response) :
    Isolates snapshot path response.fields (isolated snapshot nonce path response).fields := by
  have hopener := values_isolated_opener snapshot nonce path response
  have hembedder : ∀ name ∈ embedderNames,
      (isolated snapshot nonce path response).fields.values name = _ := fun name hname =>
    (values_isolated_embedder hname snapshot nonce path response).trans
      (values_embed snapshot.embedder path response name)
  refine ⟨?_, ?_, ?_, ?_, ?_⟩
  · intro policy hpolicy hpath
    rw [hpolicy] at hopener
    dsimp only at hopener
    rw [if_neg hpath] at hopener
    refine ⟨_, hopener, ?_⟩
    cases policy.mode <;> decide
  · rintro (hnone | ⟨policy, hpolicy, hpath⟩)
    · rw [hnone] at hopener
      exact hopener
    · rw [hpolicy] at hopener
      dsimp only at hopener
      rw [if_pos hpath] at hopener
      exact hopener
  · intro hon hpath
    have hnot : ¬ (snapshot.embedder.disabled = true ∨
        path ∈ snapshot.embedder.exempted.paths) := by
      rintro (hoff | hexempted)
      · rw [hon] at hoff
        cases hoff
      · exact hpath hexempted
    obtain ⟨hmem, hne⟩ := fieldName_mem_embedderNames snapshot.embedder
    constructor
    · rw [hembedder _ hmem, if_neg hnot, if_neg hne, if_pos rfl]
    · rw [hembedder _ (by decide), if_neg hnot, if_pos rfl]
  · intro hskips name hname
    rw [hembedder name hname]
    exact if_pos hskips
  · have hnames : ∀ name ∈ [EmbedderPolicy.enforcingName, EmbedderPolicy.reportingName],
        name ∈ embedderNames ∧ name ≠ EmbedderPolicy.reportToName := by decide
    intro name hname hne
    obtain ⟨hmem, hgroup⟩ := hnames name hname
    rw [hembedder name hmem, if_neg hgroup, if_neg hne]
    exact ite_self _

/-- Isolation is a matter of these fields alone. -/
theorem Isolates.of_values {snapshot : Snapshot} {path : String} {given final outer : Fields}
    (h : Isolates snapshot path given final)
    (houter : ∀ name ∈ isolationNames, outer.values name = final.values name) :
    Isolates snapshot path given outer := by
  have hmem : ∀ name ∈ embedderNames, name ∈ isolationNames := by decide
  have hfield := hmem _ (fieldName_mem_embedderNames snapshot.embedder).1
  have hmodes : ∀ name ∈ [EmbedderPolicy.enforcingName, EmbedderPolicy.reportingName],
      name ∈ isolationNames := by decide
  have hopener := houter OpenerPolicy.fieldName (by decide)
  have hgroup := houter EmbedderPolicy.reportToName (by decide)
  refine ⟨?_, ?_, ?_, ?_, ?_⟩
  · rw [hopener]
    exact h.opens
  · rw [hopener]
    exact h.opensNot
  · rw [houter _ hfield, hgroup]
    exact h.embeds
  · intro hskips name hname
    rw [houter name (hmem name hname)]
    exact h.embedsNot hskips name hname
  · intro name hname hne
    rw [houter name (hmodes name hname)]
    exact h.other name hname hne

/-! ## The three kinds of answer -/

/-- An answer to a request that is let through, from a handler or from a layer that stands before
the policies, with what the server behind the gateway has received. -/
inductive IsAnswered (setup : Setup) (snapshot : Snapshot) (server : OriginServer) (fresh : Fresh)
    (request : Request) : Response → Option Outgoing → Prop where
  /-- The request states a length beyond the limit. -/
  | tooLong {final : Response}
      (hlength : ∃ n, StatesLength request.fields n ∧ setup.maxBodyBytes < n)
      (hstatus : final.status = 413)
      (hplain : ∀ name ∈ isolationNames, final.fields.values name = []) :
      IsAnswered setup snapshot server fresh request final none
  /-- The handler does not finish in time. -/
  | late {final : Response} {sent : Option Outgoing}
      (hlength : ¬ ∃ n, StatesLength request.fields n ∧ setup.maxBodyBytes < n)
      (hends : Ends setup server (snapshot.content.map fun _ => fresh.nonce)
        (identified fresh.requestId request) none sent)
      (hstatus : final.status = 408)
      (hplain : ∀ name ∈ isolationNames, final.fields.values name = []) :
      IsAnswered setup snapshot server fresh request final sent
  /-- The handler answers. What it gives under the names of the policies is what the server behind
  the gateway has answered, if its answer is passed back. -/
  | handled {given final : Response} {sent : Option Outgoing}
      (hlength : ¬ ∃ n, StatesLength request.fields n ∧ setup.maxBodyBytes < n)
      (hends : Ends setup server (snapshot.content.map fun _ => fresh.nonce)
        (identified fresh.requestId request) (some given) sent)
      (hstatus : final.status = given.status)
      (hbody : request.method ≠ .head → request.method ≠ .connect → final.body = given.body)
      (hgiven : ∀ name ∈ isolationNames, given.fields.values name =
        (passedBack? setup server sent).elim [] fun answered => answered.fields.values name)
      (hisolates : Isolates snapshot request.target.path given.fields final.fields) :
      IsAnswered setup snapshot server fresh request final sent

theorem insideResponse_eq (setup : Setup) (snapshot : Snapshot) (server : OriginServer)
    (nonce : Nonce) (request : Request) :
    insideResponse setup snapshot server nonce request =
      if isTooLong setup request then tooLongResponse
      else ((handle setup server (snapshot.content.map fun _ => nonce) request).response.map
        (isolated snapshot nonce request.target.path)).getD lateResponse := by
  rw [insideResponse, limitBody]
  split
  · rfl
  · rw [response_isolate]

theorem response_of_not_isRefused {snapshot : Snapshot} {request : Request}
    (h : ¬ IsRefused snapshot request) (setup : Setup) (server : OriginServer) (fresh : Fresh) :
    (answer setup snapshot server fresh request).response =
      some (finish request (correlated (identified fresh.requestId request) (marked snapshot
        (insideResponse setup snapshot server fresh.nonce
          (identified fresh.requestId request))))) := by
  have hadmitted : ¬ IsRefused snapshot (identified fresh.requestId request) := fun hr =>
    h (isRefused_identified.1 hr)
  rw [response_answer, unmarked, if_neg fun hany => hadmitted (any_reject_iff.1 hany)]

/-- What is sent on depends on the filters only in that they let the request through, and on whether
there is a content policy. -/
theorem sent_of_not_isRefused {snapshot : Snapshot} {request : Request}
    (h : ¬ IsRefused snapshot request) (setup : Setup) (server : OriginServer) (fresh : Fresh) :
    (answer setup snapshot server fresh request).sent =
      if isTooLong setup request then none
      else (handle setup server (snapshot.content.map fun _ => fresh.nonce)
        (identified fresh.requestId request)).sent := by
  have hstopped := isStopped_of_not_isRefused h setup
  cases hlong : isTooLong setup request with
  | true =>
      rw [hlong, ← isStopped_identified setup snapshot fresh.requestId] at hstopped
      exact (unmarked_of_isStopped hstopped server fresh.nonce).2
  | false =>
      rw [hlong] at hstopped
      exact (answer_of_not_isStopped hstopped server fresh).2

/-- **The three kinds of answer** to a request that is let through. -/
theorem isAnswered_answer {snapshot : Snapshot} {request : Request}
    (h : ¬ IsRefused snapshot request) (setup : Setup) (server : OriginServer) (fresh : Fresh) :
    ∃ final, (answer setup snapshot server fresh request).response = some final ∧
      IsAnswered setup snapshot server fresh request final
        (answer setup snapshot server fresh request).sent := by
  refine ⟨_, response_of_not_isRefused h setup server fresh, ?_⟩
  rw [sent_of_not_isRefused h, insideResponse_eq, isTooLong_identified]
  have hnames : ∀ name ∈ isolationNames, name ≠ .contentType ∧ name ∉ connectionNames := by decide
  cases hlong : isTooLong setup request with
  | true =>
      refine .tooLong (isTooLong_iff.1 hlong) (status_outside _ _ _ _) fun name hname => ?_
      rw [values_outside hname]
      exact isOwn_ofText _ _ _ name (hnames name hname).1
  | false =>
      have hshort : ¬ ∃ n, StatesLength request.fields n ∧ setup.maxBodyBytes < n := by
        rw [← isTooLong_iff, hlong]
        exact Bool.false_ne_true
      have hends := ends_handle setup server (snapshot.content.map fun _ => fresh.nonce)
        (identified fresh.requestId request)
      have hown := isPassedBackOrOwn_handle setup server (snapshot.content.map fun _ => fresh.nonce)
        (identified fresh.requestId request)
      cases hgiven : (handle setup server (snapshot.content.map fun _ => fresh.nonce)
          (identified fresh.requestId request)).response with
      | none =>
          rw [hgiven] at hends
          refine .late hshort hends (status_outside _ _ _ _) fun name hname => ?_
          exact values_outside hname _ _ _ _
      | some given =>
          rw [hgiven] at hends
          refine .handled hshort hends ?_ ?_ ?_ ?_
          · exact (status_outside _ _ _ _).trans (status_isolated snapshot fresh.nonce _ given)
          · intro hhead hconnect
            have hbody := body_finish hhead hconnect (correlated
              (identified fresh.requestId request) (marked snapshot
                (isolated snapshot fresh.nonce request.target.path given)))
            rw [body_correlated, body_marked, body_isolated] at hbody
            exact hbody
          · intro name hname
            obtain ⟨htype, hconnection⟩ := hnames name hname
            have hvalues := hown.values htype hconnection
            rw [hgiven] at hvalues
            exact hvalues
          · exact (isolates_isolated snapshot fresh.nonce request.target.path given).of_values
              fun name hname => values_outside hname _ _ _ _

/-! ## Exemptions do not interfere -/

/-- Two sets of filters that differ in their exempted paths at most. -/
structure SameButExempted (a b : Snapshot) : Prop where
  guards : a.fetchMetadata.isSome = b.fetchMetadata.isSome
  opens : a.opener.map (fun policy => policy.mode) = b.opener.map fun policy => policy.mode
  embeds : ∃ exempted, b.embedder = { a.embedder with exempted := exempted }
  content : a.content = b.content

namespace SameButExempted

variable {a b : Snapshot}

theorem symm (h : SameButExempted a b) : SameButExempted b a := by
  obtain ⟨exempted, hembedder⟩ := h.embeds
  refine ⟨h.guards.symm, h.opens.symm, ⟨a.embedder.exempted, ?_⟩, h.content.symm⟩
  rw [hembedder]

theorem embedder_eq (h : SameButExempted a b) :
    a.embedder.disabled = b.embedder.disabled ∧ a.embedder.fieldName = b.embedder.fieldName ∧
      a.embedder.value = b.embedder.value ∧ a.embedder.reportTo = b.embedder.reportTo := by
  obtain ⟨exempted, hembedder⟩ := h.embeds
  rw [hembedder]
  exact ⟨rfl, rfl, rfl, rfl⟩

/-- Whether the opener policy is passed over is the same when its exemptions are. -/
theorem skipsOpener (h : SameButExempted a b) {path : String}
    (hexempts : ExemptsOpener a path ↔ ExemptsOpener b path)
    (ha : a.opener = none ∨ ExemptsOpener a path) : b.opener = none ∨ ExemptsOpener b path := by
  rcases ha with hnone | hexempted
  · have hmode := h.opens
    rw [hnone, Option.map_none] at hmode
    exact .inl (Option.map_eq_none_iff.1 hmode.symm)
  · exact .inr (hexempts.1 hexempted)

end SameButExempted

/-- An opener policy that is not passed over. -/
theorem exists_opener {snapshot : Snapshot} {path : String}
    (h : ¬ (snapshot.opener = none ∨ ExemptsOpener snapshot path)) :
    ∃ policy, snapshot.opener = some policy ∧ path ∉ policy.exempted.paths := by
  cases hopener : snapshot.opener with
  | none => exact absurd (.inl hopener) h
  | some policy => exact ⟨policy, rfl, fun hpath => h (.inr ⟨policy, hopener, hpath⟩)⟩

theorem Isolates.values_opener_eq {a b : Snapshot} {path : String} {given final other : Fields}
    (h : SameButExempted a b) (hexempts : ExemptsOpener a path ↔ ExemptsOpener b path)
    (ha : Isolates a path given final) (hb : Isolates b path given other) :
    final.values OpenerPolicy.fieldName = other.values OpenerPolicy.fieldName := by
  by_cases hskips : a.opener = none ∨ ExemptsOpener a path
  · rw [ha.opensNot hskips, hb.opensNot (h.skipsOpener hexempts hskips)]
  · have hskips' : ¬ (b.opener = none ∨ ExemptsOpener b path) := fun hb =>
      hskips (h.symm.skipsOpener hexempts.symm hb)
    obtain ⟨policy, hpolicy, hpath⟩ := exists_opener hskips
    obtain ⟨policy', hpolicy', hpath'⟩ := exists_opener hskips'
    obtain ⟨value, hvalue, hbytes⟩ := ha.opens policy hpolicy hpath
    obtain ⟨value', hvalue', hbytes'⟩ := hb.opens policy' hpolicy' hpath'
    have hmode := h.opens
    rw [hpolicy, hpolicy', Option.map_some, Option.map_some, Option.some.injEq] at hmode
    have hsame : value.bytes = value'.bytes := by rw [hbytes, hbytes', hmode]
    have hvalues : value = value' := by
      cases value
      cases value'
      cases hsame
      rfl
    rw [hvalue, hvalue', hvalues]

theorem Isolates.values_embedder_eq {a b : Snapshot} {path : String} {given final other : Fields}
    (h : SameButExempted a b) (hexempts : ExemptsEmbedder a path ↔ ExemptsEmbedder b path)
    (ha : Isolates a path given final) (hb : Isolates b path given other) {name : FieldName}
    (hname : name ∈ embedderNames) : final.values name = other.values name := by
  obtain ⟨hdisabled, hfield, hvalue, hreport⟩ := h.embedder_eq
  by_cases hskips : a.embedder.disabled = true ∨ ExemptsEmbedder a path
  · have hskips' : b.embedder.disabled = true ∨ ExemptsEmbedder b path := by
      rw [← hdisabled, ← hexempts]
      exact hskips
    rw [ha.embedsNot hskips name hname, hb.embedsNot hskips' name hname]
  · have hon : a.embedder.disabled = false := by
      rw [← Bool.not_eq_true]
      exact fun hoff => hskips (.inl hoff)
    have hpath : ¬ ExemptsEmbedder a path := fun hexempted => hskips (.inr hexempted)
    obtain ⟨hown, hgroup⟩ := ha.embeds hon hpath
    obtain ⟨hown', hgroup'⟩ := hb.embeds (hdisabled ▸ hon) fun hexempted =>
      hpath (hexempts.2 hexempted)
    have hnames : name ∈ [EmbedderPolicy.enforcingName, EmbedderPolicy.reportingName] ∨
        name = EmbedderPolicy.reportToName := by
      revert name
      decide
    rcases hnames with hmode | rfl
    · by_cases hne : name = a.embedder.fieldName
      · rw [hne, hown, hfield, hown', hvalue]
      · rw [ha.other name hmode hne, hb.other name hmode (hfield ▸ hne)]
    · rw [hgroup, hgroup', hreport]

/-- The answers under two sets of filters, field by field: what a policy does depends on its own
exemptions only. -/
structure IsUnaffected (a b : Snapshot) (path : String) (final other : Response) : Prop where
  status : other.status = final.status
  opener : (ExemptsOpener a path ↔ ExemptsOpener b path) →
    other.fields.values OpenerPolicy.fieldName = final.fields.values OpenerPolicy.fieldName
  embedder : (ExemptsEmbedder a path ↔ ExemptsEmbedder b path) → ∀ name ∈ embedderNames,
    other.fields.values name = final.fields.values name
  content : ∀ name ∈ contentNames, other.fields.values name = final.fields.values name

theorem isUnaffected_insideResponse {a b : Snapshot} (h : SameButExempted a b) (setup : Setup)
    (server : OriginServer) (nonce : Nonce) (request : Request) :
    IsUnaffected a b request.target.path (insideResponse setup a server nonce request)
      (insideResponse setup b server nonce request) := by
  rw [insideResponse_eq, insideResponse_eq, ← h.content]
  split
  · exact ⟨rfl, fun _ => rfl, fun _ _ _ => rfl, fun _ _ => rfl⟩
  · cases (handle setup server (a.content.map fun _ => nonce) request).response with
    | none => exact ⟨rfl, fun _ => rfl, fun _ _ _ => rfl, fun _ _ => rfl⟩
    | some given =>
        have ha := isolates_isolated a nonce request.target.path given
        have hb := isolates_isolated b nonce request.target.path given
        refine ⟨?_, ?_, ?_, ?_⟩
        · exact (status_isolated b nonce _ given).trans (status_isolated a nonce _ given).symm
        · exact fun hexempts => (ha.values_opener_eq h hexempts hb).symm
        · exact fun hexempts name hname => (ha.values_embedder_eq h hexempts hb hname).symm
        · intro name hname
          show (isolated b nonce request.target.path given).fields.values name =
            (isolated a nonce request.target.path given).fields.values name
          rw [values_isolated_content hname, values_isolated_content hname, h.content]

/-! ## The whole gateway -/

/-- Two sets of filters that let a request through and differ in their exempted paths at most. -/
theorem isUnaffected_answer {a b : Snapshot} (h : SameButExempted a b) {request : Request}
    (ha : ¬ IsRefused a request) (hb : ¬ IsRefused b request) (setup : Setup)
    (server : OriginServer) (fresh : Fresh) {final : Response}
    (hfinal : (answer setup a server fresh request).response = some final) :
    ∃ other, (answer setup b server fresh request).response = some other ∧
      (answer setup b server fresh request).sent = (answer setup a server fresh request).sent ∧
      IsUnaffected a b request.target.path final other := by
  have hinside := isUnaffected_insideResponse h setup server fresh.nonce
    (identified fresh.requestId request)
  rw [response_of_not_isRefused ha] at hfinal
  have hfinal := Option.some.inj hfinal
  refine ⟨_, response_of_not_isRefused hb setup server fresh, ?_, ?_⟩
  · rw [sent_of_not_isRefused ha, sent_of_not_isRefused hb, h.content]
  · have hembedder : ∀ name ∈ embedderNames, name ∈ isolationNames := by decide
    have hcontent : ∀ name ∈ contentNames, name ∈ isolationNames := by decide
    rw [← hfinal]
    refine ⟨?_, ?_, ?_, ?_⟩
    · rw [status_outside, status_outside]
      exact hinside.status
    · intro hexempts
      rw [values_outside (by decide), values_outside (by decide)]
      exact hinside.opener hexempts
    · intro hexempts name hname
      rw [values_outside (hembedder name hname), values_outside (hembedder name hname)]
      exact hinside.embedder hexempts name hname
    · intro name hname
      rw [values_outside (hcontent name hname), values_outside (hcontent name hname)]
      exact hinside.content name hname

/-- **Isolation, exactly.** A request that is let through is answered in one of the three ways, with
the fields that the policies ask for and no others. Under any other filters that let it through and
differ in their exempted paths at most, the server behind the gateway receives the same, and a
policy that exempts the path in both or in neither of them does the same to the answer. The filter
by Fetch Metadata does not look at the exempted paths of the policies at all. -/
theorem answer_isolates_exactly {snapshot : Snapshot} {request : Request}
    (h : ¬ IsRefused snapshot request) (setup : Setup) (server : OriginServer) (fresh : Fresh) :
    ∃ final, (answer setup snapshot server fresh request).response = some final ∧
      IsAnswered setup snapshot server fresh request final
        (answer setup snapshot server fresh request).sent ∧
      (∀ others, SameButExempted snapshot others → ¬ IsRefused others request →
        ∃ other, (answer setup others server fresh request).response = some other ∧
          (answer setup others server fresh request).sent =
            (answer setup snapshot server fresh request).sent ∧
          IsUnaffected snapshot others request.target.path final other) ∧
      ∀ others : Snapshot, others.fetchMetadata = snapshot.fetchMetadata →
        (answer setup others server fresh request).decision =
          (answer setup snapshot server fresh request).decision := by
  obtain ⟨final, hfinal, hanswered⟩ := isAnswered_answer h setup server fresh
  refine ⟨final, hfinal, hanswered, ?_, ?_⟩
  · intro others hsame hadmitted
    exact isUnaffected_answer hsame h hadmitted setup server fresh hfinal
  · intro others hguard
    rw [decision_answer, decision_answer, hguard]

/-- The opener policy exempts `/popup`, the embedder policy only reports and exempts `/embed`. -/
def popupFriendly : Config :=
  { origin := { address := some localServer.text }
    opener := { mode := "same-origin-allow-popups", exemptedPaths := .ofList ["/popup"] }
    embedder := { enforcing := false, exemptedPaths := .ofList ["/embed"] } }

/-- A request for a page that opens. -/
def popupRequest : Request :=
  { Traffic.plainRequest with target := ⟨none, none, "/popup", none⟩ }

/-- An answer that isolates itself, more than once. -/
def popupAnswer : Response where
  status := 200
  fields :=
    ⟨[(OpenerPolicy.fieldName, .ofAscii "unsafe-none"),
      (OpenerPolicy.fieldName, .ofAscii "same-origin"),
      (EmbedderPolicy.enforcingName, .ofAscii "require-corp"),
      (EmbedderPolicy.reportingName, .ofAscii "unsafe-none"),
      (EmbedderPolicy.reportingName, .ofAscii "require-corp")]⟩
  body := []

/-- What the gateway starts with. -/
theorem popupFriendly_of_start {server : Server} (h : Server.start popupFriendly = .ok server) :
    server.setup.origin = some localServer ∧
      ExemptsOpener server.live popupRequest.target.path ∧
      ¬ ExemptsEmbedder server.live popupRequest.target.path ∧
      server.live.embedder.disabled = false ∧
      server.live.embedder.fieldName = EmbedderPolicy.reportingName := by
  obtain ⟨hlive, hsetup, -, -⟩ := Server.start_eq_ok_iff.1 h
  obtain ⟨-, hopener, hembedder, -⟩ := Snapshot.ofConfig_eq_ok_iff.1 hlive
  have hfriendly : Setup.ofConfig popupFriendly =
      .ok ⟨some localServer, 30, 2 * 1024 * 1024⟩ := rfl
  have hpopup : openerOf popupFriendly.opener =
      .ok (some ⟨.sameOriginAllowPopups, .ofList ["/popup"]⟩) := rfl
  have hreports : (embedderOf popupFriendly.embedder).toOption.map
      (fun policy => (policy.disabled, policy.fieldName, policy.exempted.paths)) =
        some (false, EmbedderPolicy.reportingName, ["/embed"]) := by decide +kernel
  rw [hembedder] at hreports
  obtain ⟨hon, hfield, hpaths⟩ : server.live.embedder.disabled = false ∧
      server.live.embedder.fieldName = EmbedderPolicy.reportingName ∧
        server.live.embedder.exempted.paths = ["/embed"] := by
    simpa [Except.toOption] using hreports
  refine ⟨?_, ⟨_, Except.ok.inj (hopener.symm.trans hpopup), by decide⟩, ?_, hon, hfield⟩
  · rw [Except.ok.inj (hsetup.symm.trans hfriendly)]
  · rw [ExemptsEmbedder, hpaths]
    decide

/-- The opener policy leaves both values alone, the embedder policy replaces both of its own. -/
theorem popupRequest_isolated :
    ∃ server, Server.start popupFriendly = .ok server ∧ ∀ fresh, ∃ final,
      (answer server.setup server.live (fun _ => .answered 0 popupAnswer) fresh
        popupRequest).response = some final ∧
      final.fields.values OpenerPolicy.fieldName =
        [.ofAscii "unsafe-none", .ofAscii "same-origin"] ∧
      final.fields.values EmbedderPolicy.enforcingName = [.ofAscii "require-corp"] ∧
      final.fields.values EmbedderPolicy.reportingName = [server.live.embedder.value] := by
  obtain ⟨server, hserver⟩ : ∃ server, Server.start popupFriendly = .ok server :=
    Traffic.exists_of_isSome (by decide +kernel)
  obtain ⟨horigin, hexempts, hexemptsNot, hon, hfield⟩ := popupFriendly_of_start hserver
  have hadmitted : ¬ IsRefused server.live popupRequest := by
    rintro ⟨-, ⟨value, hvalue, -⟩, -⟩
    cases hvalue
  have hpath : popupRequest.target.path ≠ healthPath := by decide
  refine ⟨server, hserver, fun fresh => ?_⟩
  obtain ⟨final, hfinal, hanswered, -, -⟩ := answer_isolates_exactly hadmitted server.setup
    (fun _ => .answered 0 popupAnswer) fresh
  refine ⟨final, hfinal, ?_⟩
  have hresponse : ∀ {response sent}, Ends server.setup (fun _ => .answered 0 popupAnswer)
      (server.live.content.map fun _ => fresh.nonce) (identified fresh.requestId popupRequest)
        response sent → response = some (relayed popupAnswer) := fun hends =>
    hends.response_eq hpath horigin rfl (Nat.zero_le _)
  generalize (answer server.setup server.live (fun _ => .answered 0 popupAnswer) fresh
    popupRequest).sent = sent at hanswered
  cases hanswered with
  | tooLong hlength =>
      obtain ⟨n, ⟨value, hvalue, -⟩, -⟩ := hlength
      cases hvalue
  | late _ hends => cases hresponse hends
  | handled _ hends _ _ _ hisolates =>
      cases hresponse hends
      refine ⟨hisolates.opensNot (.inr hexempts), ?_, ?_⟩
      · exact hisolates.other _ (by decide) (by rw [hfield]; decide)
      · rw [← hfield]
        exact (hisolates.embeds hon hexemptsNot).1

end IsolationGate.Gateway
