import IsolationGate.Gateway.InFlight
import IsolationGate.Proofs.Rejection

/-!
# What the layers do to an answer

An answer starts at the handler, or at the layer that stops the request, and goes outwards: the
policies change its fields, the filter by Fetch Metadata marks it, it gets the id of its request, and
it is made ready to be sent. Each of these is one function on responses here, and `response_answer`
is the whole way. What a layer leaves alone is said once for each of them, so that the fields of an
answer can be followed name by name.

## Main results

* `isolate_eq_foldl` — the policies are changes of the answer, one after the other.
* `response_answer` — every request is answered, and how its answer came to be.
* `values_unmarked` — the other fields of an answer are those that the server behind it gave.
-/

namespace IsolationGate.Gateway

open Http (FieldName FieldValue Fields Request Response)
open Policy (ContentPolicy EmbedderPolicy Nonce OpenerPolicy)

/-! ## The policies -/

/-- A change of a response, with the events that it causes. -/
abbrev Change := Response → Response × List Log.Event

/-- The changes that the policies make to the answer of a handler, in their order. -/
def policyChanges (snapshot : Snapshot) (nonce : Nonce) (path : String) : List Change :=
  embed snapshot.embedder path ::
    ((snapshot.opener.map fun policy => openWith policy path).toList ++
      (snapshot.content.map fun policy => restrict policy nonce).toList)

/-- The response after changes. -/
def changed (changes : List Change) (response : Response) : Response :=
  changes.foldl (fun before change => (change before).1) response

theorem isolate_eq_foldl (snapshot : Snapshot) (nonce : Nonce) (inner : Option Nonce → Handler)
    (request : Request) :
    isolate snapshot nonce inner request =
      (policyChanges snapshot nonce request.target.path).foldl Outcome.andThen
        (inner (snapshot.content.map fun _ => nonce) request) := by
  unfold isolate policyChanges
  cases snapshot.opener <;> cases snapshot.content <;> rfl

/-- What holds of the change of each policy holds of all changes. -/
theorem forall_policyChanges {snapshot : Snapshot} {nonce : Nonce} {path : String}
    {p : Change → Prop} (hembed : p (embed snapshot.embedder path))
    (hopen : ∀ policy, p (openWith policy path))
    (hrestrict : ∀ policy ∈ snapshot.content, p (restrict policy nonce)) :
    ∀ change ∈ policyChanges snapshot nonce path, p change := by
  intro change hchange
  simp only [policyChanges, List.mem_cons, List.mem_append, Option.mem_toList,
    Option.map_eq_some_iff] at hchange
  rcases hchange with rfl | ⟨policy, -, rfl⟩ | ⟨policy, hpolicy, rfl⟩
  · exact hembed
  · exact hopen policy
  · exact hrestrict policy hpolicy

theorem response_foldl_andThen (changes : List Change) (outcome : Outcome) :
    (changes.foldl Outcome.andThen outcome).response = outcome.response.map (changed changes) := by
  induction changes generalizing outcome with
  | nil => exact Option.map_id'.symm
  | cons change rest ih =>
      rw [List.foldl_cons, ih, Outcome.response_andThen, Option.map_map]
      rfl

theorem sent_foldl_andThen (changes : List Change) (outcome : Outcome) :
    (changes.foldl Outcome.andThen outcome).sent = outcome.sent := by
  induction changes generalizing outcome with
  | nil => rfl
  | cons change rest ih => rw [List.foldl_cons, ih, Outcome.sent_andThen]

/-- What no change alters stays as it is. -/
theorem changed_eq {α : Type} {changes : List Change} (view : Response → α)
    (h : ∀ change ∈ changes, ∀ response, view (change response).1 = view response)
    (response : Response) : view (changed changes response) = view response := by
  induction changes generalizing response with
  | nil => rfl
  | cons change rest ih =>
      have hrest := ih (fun other hother => h other (List.mem_cons_of_mem change hother))
        (change response).1
      exact hrest.trans (h change List.mem_cons_self response)

/-- The answer of a handler with the fields of the policies. -/
def isolated (snapshot : Snapshot) (nonce : Nonce) (path : String) : Response → Response :=
  changed (policyChanges snapshot nonce path)

theorem response_isolate (snapshot : Snapshot) (nonce : Nonce) (inner : Option Nonce → Handler)
    (request : Request) :
    (isolate snapshot nonce inner request).response =
      (inner (snapshot.content.map fun _ => nonce) request).response.map
        (isolated snapshot nonce request.target.path) := by
  rw [isolate_eq_foldl, response_foldl_andThen]
  rfl

theorem sent_isolate (snapshot : Snapshot) (nonce : Nonce) (inner : Option Nonce → Handler)
    (request : Request) :
    (isolate snapshot nonce inner request).sent =
      (inner (snapshot.content.map fun _ => nonce) request).sent := by
  rw [isolate_eq_foldl, sent_foldl_andThen]

/-! ## What the policies leave alone -/

theorem values_embed_of_ne {name : FieldName} (henforcing : name ≠ EmbedderPolicy.enforcingName)
    (hreporting : name ≠ EmbedderPolicy.reportingName)
    (hgroup : name ≠ EmbedderPolicy.reportToName) (policy : EmbedderPolicy) (path : String)
    (response : Response) :
    (embed policy path response).1.fields.values name = response.fields.values name := by
  have hname : name ≠ policy.fieldName := by
    unfold EmbedderPolicy.fieldName
    split
    · exact henforcing
    · exact hreporting
  show (policy.apply path response.fields).values name = _
  unfold EmbedderPolicy.apply
  split
  · rfl
  · rw [Fields.values_set_of_ne hgroup, Fields.values_set_of_ne hname]

theorem values_openWith_of_ne {name : FieldName} (h : name ≠ OpenerPolicy.fieldName)
    (policy : OpenerPolicy) (path : String) (response : Response) :
    (openWith policy path response).1.fields.values name = response.fields.values name := by
  show (policy.apply path response.fields).values name = _
  unfold OpenerPolicy.apply
  split
  · rfl
  · exact Fields.values_set_of_ne h _ _

/-- A content policy adds its own value to an answer that has none. -/
theorem values_restrict (policy : ContentPolicy) (nonce : Nonce) (response : Response)
    (name : FieldName) :
    (restrict policy nonce response).1.fields.values name =
      if name = policy.fieldName ∧ response.fields.values name = [] then
        (FieldValue.ofText? (policy.text nonce)).toList
      else response.fields.values name := by
  cases hcontains : response.fields.contains policy.fieldName with
  | true =>
      have hadd : policy.addTo? nonce response.fields = some response.fields := if_pos hcontains
      have hnot : ¬ (name = policy.fieldName ∧ response.fields.values name = []) := by
        rintro ⟨rfl, hnone⟩
        rw [Fields.contains_eq_false_iff.2 hnone] at hcontains
        cases hcontains
      rw [restrict, hadd, if_neg hnot]
  | false =>
      have hnone := Fields.contains_eq_false_iff.1 hcontains
      have hadd : policy.addTo? nonce response.fields =
          (FieldValue.ofText? (policy.text nonce)).map
            fun value => response.fields.set policy.fieldName value := by
        rw [ContentPolicy.addTo?, hcontains]
        rfl
      rw [restrict, hadd]
      by_cases hname : name = policy.fieldName
      · rw [if_pos ⟨hname, hname ▸ hnone⟩, hname]
        cases FieldValue.ofText? (policy.text nonce) with
        | none => exact hnone
        | some value => exact Fields.values_set_self _ _ _
      · rw [if_neg fun hboth => hname hboth.1]
        cases FieldValue.ofText? (policy.text nonce) with
        | none => rfl
        | some value => exact Fields.values_set_of_ne hname _ _

theorem status_isolated (snapshot : Snapshot) (nonce : Nonce) (path : String)
    (response : Response) : (isolated snapshot nonce path response).status = response.status := by
  refine changed_eq (fun r => r.status) (forall_policyChanges (fun _ => rfl) (fun _ _ => rfl) ?_) _
  intro policy _ r
  unfold restrict
  split <;> rfl

theorem body_isolated (snapshot : Snapshot) (nonce : Nonce) (path : String) (response : Response) :
    (isolated snapshot nonce path response).body = response.body := by
  refine changed_eq (fun r => r.body) (forall_policyChanges (fun _ => rfl) (fun _ _ => rfl) ?_) _
  intro policy _ r
  unfold restrict
  split <;> rfl

theorem sized_isolated (snapshot : Snapshot) (nonce : Nonce) (path : String)
    (response : Response) : (isolated snapshot nonce path response).sized = response.sized := by
  refine changed_eq (fun r => r.sized) (forall_policyChanges (fun _ => rfl) (fun _ _ => rfl) ?_) _
  intro policy _ r
  unfold restrict
  split <;> rfl

/-- The policies set no field of another name. -/
theorem values_isolated {name : FieldName} (h : name ∉ isolationNames) (snapshot : Snapshot)
    (nonce : Nonce) (path : String) (response : Response) :
    (isolated snapshot nonce path response).fields.values name = response.fields.values name := by
  simp only [isolationNames, List.mem_cons, List.not_mem_nil, or_false, not_or] at h
  obtain ⟨hopener, henforcing, hreporting, hgroup, hcontent, hreports⟩ := h
  refine changed_eq (fun r => r.fields.values name) (forall_policyChanges
    (values_embed_of_ne henforcing hreporting hgroup _ path)
    (fun policy => values_openWith_of_ne hopener policy path) ?_) response
  intro policy _ r
  have hname : name ≠ policy.fieldName := by
    unfold ContentPolicy.fieldName
    split
    · exact hreports
    · exact hcontent
  rw [values_restrict, if_neg fun hboth => hname hboth.1]

/-! ## The whole way of an answer -/

/-- The answer of the layers inside the filter by Fetch Metadata. -/
def insideResponse (setup : Setup) (snapshot : Snapshot) (server : OriginServer) (nonce : Nonce)
    (request : Request) : Response :=
  (limitBody setup (isolate snapshot nonce (handle setup server)) request).response.getD
    lateResponse

/-- The answer that the filter by Fetch Metadata gets: its own rejection, or that of the layers
inside. -/
def unmarked (setup : Setup) (snapshot : Snapshot) (server : OriginServer) (nonce : Nonce)
    (request : Request) : Response :=
  if snapshot.fetchMetadata.any fun filter => decide filter request == .reject then rejectedResponse
  else insideResponse setup snapshot server nonce request

theorem any_reject_iff {snapshot : Snapshot} {request : Request} :
    (snapshot.fetchMetadata.any fun filter => decide filter request == .reject) = true ↔
      IsRefused snapshot request := by
  rw [isRefused_iff, Option.any_eq_true]
  simp only [beq_iff_eq]

theorem response_layers (setup : Setup) (snapshot : Snapshot) (server : OriginServer)
    (nonce : Nonce) (request : Request) :
    (layers setup snapshot server nonce request).response =
      some (marked snapshot (unmarked setup snapshot server nonce request)) := by
  by_cases h : IsRefused snapshot request
  · obtain ⟨filter, hfilter, -⟩ := isRefused_iff.1 h
    rw [layers_of_isRefused h, unmarked, if_pos (any_reject_iff.2 h), marked, hfilter]
    rfl
  · rw [(layers_of_not_isRefused h setup server nonce).1, unmarked,
      if_neg fun hany => h (any_reject_iff.1 hany)]
    rfl

/-- **The whole way of an answer**, from the layer that the filter by Fetch Metadata is. -/
theorem response_answer (setup : Setup) (snapshot : Snapshot) (server : OriginServer)
    (fresh : Fresh) (request : Request) :
    (answer setup snapshot server fresh request).response =
      some (finish request (correlated (identified fresh.requestId request)
        (marked snapshot
          (unmarked setup snapshot server fresh.nonce (identified fresh.requestId request))))) := by
  rw [answer, Outcome.response_map, identify, Outcome.response_map, response_layers]
  rfl

/-- Outside the filter only these three fields are set. -/
theorem values_finish_correlated {name : FieldName} (hallow : name ≠ .allow)
    (hlength : name ≠ .contentLength) (hid : name ≠ .requestId) (request other : Request)
    (response : Response) :
    (finish request (correlated other response)).fields.values name =
      response.fields.values name := by
  rw [values_finish_of_ne hallow hlength, values_correlated_of_ne hid]

/-- The id of an answer: the one that the handler has given, or that of its request. -/
theorem values_correlated_identified (drawn : FieldValue) (request : Request)
    (response : Response) :
    (correlated (identified drawn request) response).fields.values .requestId =
      if response.fields.values .requestId = [] then
        [(request.fields.values .requestId).headD drawn]
      else response.fields.values .requestId := by
  have hfirst : (identified drawn request).fields.get? .requestId =
      some ((request.fields.values .requestId).headD drawn) := by
    rw [identified, Fields.get?, Fields.values_setIfAbsent_self]
    cases request.fields.values .requestId <;> rfl
  rw [correlated, hfirst]
  exact Fields.values_setIfAbsent_self _ _ _

theorem values_marked_of_ne {name : FieldName} (h : name ≠ .vary) (snapshot : Snapshot)
    (response : Response) :
    (marked snapshot response).fields.values name = response.fields.values name := by
  unfold marked
  split
  · exact Policy.values_addVary_of_ne h _
  · rfl

theorem body_marked (snapshot : Snapshot) (response : Response) :
    (marked snapshot response).body = response.body := by
  unfold marked
  split <;> rfl

theorem sized_marked (snapshot : Snapshot) (response : Response) :
    (marked snapshot response).sized = response.sized := by
  unfold marked
  split <;> rfl

/-- Only answers to `HEAD` and `CONNECT` lose their body. -/
theorem body_finish {request : Request} (hhead : request.method ≠ .head)
    (hconnect : request.method ≠ .connect) (response : Response) :
    (finish request response).body = response.body := by
  unfold finish
  rw [if_neg fun hboth => hconnect hboth.1]
  exact if_neg hhead

/-- Outside the policies no layer touches their fields. -/
theorem values_outside {name : FieldName} (h : name ∈ isolationNames) (request other : Request)
    (snapshot : Snapshot) (response : Response) :
    (finish request (correlated other (marked snapshot response))).fields.values name =
      response.fields.values name := by
  have hother : name ≠ .allow ∧ name ≠ .contentLength ∧ name ≠ .requestId ∧ name ≠ .vary := by
    revert name
    decide
  obtain ⟨hallow, hlength, hid, hvary⟩ := hother
  rw [values_finish_correlated hallow hlength hid, values_marked_of_ne hvary]

theorem status_outside (request other : Request) (snapshot : Snapshot) (response : Response) :
    (finish request (correlated other (marked snapshot response))).status = response.status := by
  rw [status_finish, status_correlated, status_marked]

/-! ## The answer of the server behind the gateway -/

/-- The answer of the server behind the gateway that is passed back: it comes in time. -/
def passedBack? (setup : Setup) (server : OriginServer) (sent : Option Outgoing) :
    Option Response :=
  sent.bind fun message =>
    match server message with
    | .answered delay response => if inTime setup delay then some response else none
    | _ => none

/-- A response that the gateway makes itself has a content type at most. -/
def IsOwn (response : Response) : Prop :=
  ∀ name, name ≠ .contentType → response.fields.values name = []

theorem isOwn_bare (status : Nat) : IsOwn (.bare status) := fun _ _ => rfl

theorem isOwn_ofText (status : Nat) (type text : String) : IsOwn (.ofText status type text) :=
  fun _ hname => Fields.values_append_of_ne hname _ _

/-- What comes of a request is the answer that is passed back, or a response of the gateway's own. -/
def IsPassedBackOrOwn (setup : Setup) (server : OriginServer) (outcome : Outcome) : Prop :=
  match passedBack? setup server outcome.sent with
  | some response => outcome.response = some (relayed response)
  | none => IsOwn (outcome.response.getD lateResponse)

theorem isPassedBackOrOwn_ofResponse {response : Response} (h : IsOwn response) (setup : Setup)
    (server : OriginServer) : IsPassedBackOrOwn setup server (.ofResponse response) := h

theorem isPassedBackOrOwn_forward (setup : Setup) (authority : Http.Authority)
    (server : OriginServer) (nonce : Option Nonce) (request : Request) :
    IsPassedBackOrOwn setup server (forward setup authority server nonce request) := by
  let message := outgoing setup.maxBodyBytes authority nonce request
  have hpassed : passedBack? setup server (some message) =
      match server message with
      | .answered delay response => if inTime setup delay then some response else none
      | _ => none := rfl
  unfold forward IsPassedBackOrOwn
  dsimp only
  cases hreply : server message with
  | unreachable => exact isOwn_ofText _ _ _
  | broken =>
      rw [hreply] at hpassed
      dsimp only [Reply.afterSending]
      rw [hpassed]
      exact isOwn_ofText _ _ _
  | silent =>
      -- Nothing is passed back, whether the message was complete or not.
      rw [hreply] at hpassed
      cases message.whole with
      | true =>
          dsimp only [Reply.afterSending]
          rw [hpassed]
          exact isOwn_bare _
      | false =>
          dsimp only [Reply.afterSending]
          rw [hpassed]
          exact isOwn_ofText _ _ _
  | answered delay response =>
      rw [hreply] at hpassed
      dsimp only [Reply.afterSending] at hpassed ⊢
      by_cases htime : inTime setup delay = true
      · rw [hpassed, if_pos htime, if_pos htime]
      · rw [hpassed, if_neg htime, if_neg htime]
        exact isOwn_bare _

theorem isPassedBackOrOwn_handle (setup : Setup) (server : OriginServer) (nonce : Option Nonce)
    (request : Request) : IsPassedBackOrOwn setup server (handle setup server nonce request) := by
  unfold handle
  split
  · refine isPassedBackOrOwn_ofResponse ?_ setup server
    unfold healthResponse
    split
    · exact isOwn_ofText _ _ _
    · exact isOwn_bare _
  · split
    · next authority _ => exact isPassedBackOrOwn_forward setup authority server nonce request
    · exact isPassedBackOrOwn_ofResponse (isOwn_ofText _ _ _) setup server

/-- The values of a name that neither a handler nor a connection gives. -/
theorem IsPassedBackOrOwn.values {setup : Setup} {server : OriginServer} {outcome : Outcome}
    (h : IsPassedBackOrOwn setup server outcome) {name : FieldName} (htype : name ≠ .contentType)
    (hconnection : name ∉ connectionNames) :
    (outcome.response.getD lateResponse).fields.values name =
      (passedBack? setup server outcome.sent).elim []
        fun response => response.fields.values name := by
  unfold IsPassedBackOrOwn at h
  cases hpassed : passedBack? setup server outcome.sent with
  | some response =>
      rw [hpassed] at h
      rw [show outcome.response = some (relayed response) from h]
      show (response.fields.removeAll connectionNames).values name = response.fields.values name
      rw [Fields.values_removeAll, if_neg hconnection]
  | none =>
      rw [hpassed] at h
      exact h name htype

/-! ## Requests that reach a handler -/

/-- The id that a request gets says nothing about its length. -/
theorem values_contentLength_identified (id : FieldValue) (request : Request) :
    (identified id request).fields.values .contentLength =
      request.fields.values .contentLength :=
  Fields.values_setIfAbsent_of_ne (by decide) _ _

theorem isTooLong_identified (setup : Setup) (id : FieldValue) (request : Request) :
    isTooLong setup (identified id request) = isTooLong setup request := by
  rw [isTooLong, isTooLong, statedLength?, statedLength?, Fields.get?, Fields.get?,
    values_contentLength_identified]

/-- The id that a request gets stops it no more than before. -/
theorem isStopped_identified (setup : Setup) (snapshot : Snapshot) (id : FieldValue)
    (request : Request) :
    isStopped setup snapshot (identified id request) = isStopped setup snapshot request := by
  simp only [isStopped, isTooLong_identified, decide_congr (sameToFilter_identified id request)]

/-- A request that the filter lets through is stopped for its length only. -/
theorem isStopped_of_not_isRefused {snapshot : Snapshot} {request : Request}
    (h : ¬ IsRefused snapshot request) (setup : Setup) :
    isStopped setup snapshot request = isTooLong setup request := by
  have hadmitted : (snapshot.fetchMetadata.any fun filter =>
      decide filter request == .reject) = false := by
    rw [← Bool.not_eq_true, any_reject_iff]
    exact h
  rw [isStopped, hadmitted, Bool.or_false]

/-- A request that an outer layer answers gets a response of the gateway's own. -/
theorem unmarked_of_isStopped {setup : Setup} {snapshot : Snapshot} {request : Request}
    (h : isStopped setup snapshot request = true) (server : OriginServer) (nonce : Nonce) :
    IsOwn (unmarked setup snapshot server nonce request) ∧
      (layers setup snapshot server nonce request).sent = none := by
  by_cases hrefused : IsRefused snapshot request
  · rw [unmarked, if_pos (any_reject_iff.2 hrefused), layers_of_isRefused hrefused]
    exact ⟨isOwn_ofText _ _ _, rfl⟩
  · have hnot := fun hany => hrefused (any_reject_iff.1 hany)
    have hlong : isTooLong setup request = true := by
      rw [isStopped, Bool.or_eq_true] at h
      exact h.resolve_right hnot
    have hlimit : limitBody setup (isolate snapshot nonce (handle setup server)) request =
        .ofResponse tooLongResponse := if_pos hlong
    rw [unmarked, if_neg hnot, (layers_of_not_isRefused hrefused setup server nonce).2]
    constructor
    · rw [insideResponse, hlimit]
      exact isOwn_ofText _ _ _
    · show (limitBody setup (isolate snapshot nonce (handle setup server)) request).sent = none
      rw [hlimit]
      rfl

/-- Any other request reaches the handler. -/
theorem unmarked_of_not_isStopped {setup : Setup} {snapshot : Snapshot} {request : Request}
    (h : isStopped setup snapshot request = false) (server : OriginServer) (nonce : Nonce) :
    unmarked setup snapshot server nonce request =
        ((handle setup server (snapshot.content.map fun _ => nonce) request).response.map
          (isolated snapshot nonce request.target.path)).getD lateResponse ∧
      (layers setup snapshot server nonce request).sent =
        (handle setup server (snapshot.content.map fun _ => nonce) request).sent := by
  rw [isStopped, Bool.or_eq_false_iff] at h
  obtain ⟨hshort, hany⟩ := h
  have hnot : ¬ IsRefused snapshot request := fun hrefused =>
    Bool.false_ne_true (hany.symm.trans (any_reject_iff.2 hrefused))
  have hlimit : limitBody setup (isolate snapshot nonce (handle setup server)) request =
      isolate snapshot nonce (handle setup server) request := by
    rw [limitBody, hshort]
    rfl
  rw [unmarked, if_neg fun hreject => hnot (any_reject_iff.1 hreject),
    (layers_of_not_isRefused hnot setup server nonce).2]
  constructor
  · rw [insideResponse, hlimit, response_isolate]
  · show (limitBody setup (isolate snapshot nonce (handle setup server)) request).sent = _
    rw [hlimit, sent_isolate]

/-- The answer to a request that reaches the handler, with the changes of all layers. -/
theorem answer_of_not_isStopped {setup : Setup} {snapshot : Snapshot} {request : Request}
    (h : isStopped setup snapshot request = false) (server : OriginServer) (fresh : Fresh) :
    (answer setup snapshot server fresh request).response =
        some (finish request (correlated (identified fresh.requestId request) (marked snapshot
          (((handle setup server (snapshot.content.map fun _ => fresh.nonce)
            (identified fresh.requestId request)).response.map
              (isolated snapshot fresh.nonce request.target.path)).getD lateResponse)))) ∧
      (answer setup snapshot server fresh request).sent =
        (handle setup server (snapshot.content.map fun _ => fresh.nonce)
          (identified fresh.requestId request)).sent := by
  rw [← isStopped_identified setup snapshot fresh.requestId request] at h
  obtain ⟨hunmarked, hsent⟩ := unmarked_of_not_isStopped h server fresh.nonce
  rw [response_answer, hunmarked]
  exact ⟨rfl, hsent⟩

/-- What is sent on is made by the handler. -/
theorem exists_sent_handle {setup : Setup} {snapshot : Snapshot} {server : OriginServer}
    {fresh : Fresh} {request : Request} {told : Outgoing}
    (h : (answer setup snapshot server fresh request).sent = some told) :
    (handle setup server (snapshot.content.map fun _ => fresh.nonce)
      (identified fresh.requestId request)).sent = some told := by
  cases hstopped : isStopped setup snapshot request with
  | true =>
      rw [← isStopped_identified setup snapshot fresh.requestId request] at hstopped
      have hnone : (answer setup snapshot server fresh request).sent = none :=
        (unmarked_of_isStopped hstopped server fresh.nonce).2
      rw [hnone] at h
      cases h
  | false =>
      rw [← (answer_of_not_isStopped hstopped server fresh).2]
      exact h

/-- **Where the fields of an answer come from.** Every field that no layer sets, and that does not
concern one connection, is the one of the answer that is passed back. -/
theorem values_unmarked (name : FieldName) (hpolicies : name ∉ isolationNames)
    (hconnection : name ∉ connectionNames) (htype : name ≠ .contentType) (setup : Setup)
    (snapshot : Snapshot) (server : OriginServer) (nonce : Nonce) (request : Request) :
    (unmarked setup snapshot server nonce request).fields.values name =
      (passedBack? setup server (layers setup snapshot server nonce request).sent).elim []
        fun response => response.fields.values name := by
  cases hstopped : isStopped setup snapshot request with
  | true =>
      obtain ⟨hown, hsent⟩ := unmarked_of_isStopped hstopped server nonce
      rw [hsent]
      exact hown name htype
  | false =>
      obtain ⟨hunmarked, hsent⟩ := unmarked_of_not_isStopped hstopped server nonce
      have hhandle := isPassedBackOrOwn_handle setup server (snapshot.content.map fun _ => nonce)
        request
      rw [hsent, hunmarked, ← hhandle.values htype hconnection]
      cases (handle setup server (snapshot.content.map fun _ => nonce) request).response with
      | none => rfl
      | some response => exact values_isolated hpolicies snapshot nonce _ response

end IsolationGate.Gateway
