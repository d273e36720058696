import IsolationGate.Proofs.Forwarding
import IsolationGate.Proofs.NonceAgreement

/-!
# One id for each request

A request has an id: the first one that the client has given it, or else one that is drawn for it.
The server behind the gateway and the client are both told this id. It is set outside every layer
that can answer a request, and nothing inside looks at it or takes it away; only an answer that is
passed back and has an id of its own keeps that one.

An id is any field value. It is never read, so it need not be a text.

## Main results

* `values_identified` — what the outermost layer does to a request.
* `values_sent_answer`, `values_finish_requestId` — the ids on what is sent on, and on the answer.
* `InFlight.exists_filters` — a request that does not read any more has all it is answered from.
* `correlates_answer` — one request, whichever layer answers it.
* `Traffic.correlates_run` — every request of every run.
-/

namespace IsolationGate.Gateway

open Http (FieldName FieldValue Fields Request Response)

/-! ## The outermost layer -/

/-- The id of a request: the first one that it brings, and else the one that is drawn for it. -/
def idOf (drawn : FieldValue) (request : Request) : FieldValue :=
  (request.fields.values .requestId).headD drawn

/-- The id of a request is its first one, and what else it brings stays behind it. -/
theorem values_identified (drawn : FieldValue) (request : Request) :
    (identified drawn request).fields.values .requestId =
      idOf drawn request :: (request.fields.values .requestId).tail := by
  have hvalues := Fields.values_setIfAbsent_self request.fields .requestId drawn
  rw [identified, idOf, hvalues]
  cases request.fields.values .requestId <;> rfl

/-! ## One request -/

/-- What has come of a request next to its id. -/
structure Correlates (setup : Setup) (behind : OriginServer) (r : InFlight) (outcome : Outcome)
    (final : Response) : Prop where
  /-- The server behind the gateway is told the id, and then what else the client has sent. -/
  told : ∀ message, outcome.sent = some message →
    message.fields.values .requestId =
      idOf r.fresh.requestId r.request :: (r.request.fields.values .requestId).tail
  /-- There is an id on the answer. -/
  carried : final.fields.contains .requestId = true
  /-- An answer that is passed back keeps its own ids. -/
  kept : ∀ response, passedBack? setup behind outcome.sent = some response →
    response.fields.contains .requestId = true →
      final.fields.values .requestId = response.fields.values .requestId
  /-- Every other answer has the id of the request. -/
  given : (∀ response, passedBack? setup behind outcome.sent = some response →
      response.fields.contains .requestId = false) →
    final.fields.values .requestId = [idOf r.fresh.requestId r.request]

/-- What is sent on has the ids of the request. -/
theorem values_sent_answer {setup : Setup} {snapshot : Snapshot} {server : OriginServer}
    {fresh : Fresh} {request : Request} {message : Outgoing}
    (h : (answer setup snapshot server fresh request).sent = some message) :
    message.fields.values .requestId =
      idOf fresh.requestId request :: (request.fields.values .requestId).tail := by
  obtain ⟨authority, rfl⟩ := sent_handle (exists_sent_handle h)
  have hconnection : FieldName.requestId ∉ connectionNames := by decide
  rw [values_outgoing_of_ne (by decide) (by decide) (by decide) (by decide), if_neg hconnection,
    values_identified]

/-- The ids on the answer that leaves the gateway, from those on the answer that is passed back. -/
theorem values_finish_requestId (setup : Setup) (snapshot : Snapshot) (server : OriginServer)
    (fresh : Fresh) (request : Request) {ids : List FieldValue}
    (h : ids = (passedBack? setup server (answer setup snapshot server fresh request).sent).elim []
      fun response => response.fields.values .requestId) :
    (finish request (correlated (identified fresh.requestId request) (marked snapshot
      (unmarked setup snapshot server fresh.nonce
        (identified fresh.requestId request))))).fields.values .requestId =
      if ids = [] then [idOf fresh.requestId request] else ids := by
  have hinside : (unmarked setup snapshot server fresh.nonce
      (identified fresh.requestId request)).fields.values .requestId = ids :=
    (values_unmarked .requestId (by decide) (by decide) (by decide) setup snapshot server
      fresh.nonce (identified fresh.requestId request)).trans h.symm
  rw [values_finish_of_ne (by decide) (by decide), values_correlated_identified,
    values_marked_of_ne (by decide), hinside, idOf]

/-- **One id for one request**, whichever layer answers it. -/
theorem correlates_answer (r : InFlight) (setup : Setup) (filters : Snapshot)
    (behind : OriginServer) :
    ∃ final, (answer setup filters behind r.fresh r.request).response = some final ∧
      Correlates setup behind r (answer setup filters behind r.fresh r.request) final := by
  refine ⟨_, response_answer setup filters behind r.fresh r.request,
    fun message hmessage => values_sent_answer hmessage, ?_, ?_, ?_⟩
  · rw [Fields.contains_eq_true_iff, values_finish_requestId _ _ _ _ _ rfl]
    split
    · exact List.cons_ne_nil _ _
    · assumption
  · intro response hpassed hcontains
    rw [values_finish_requestId _ _ _ _ _ rfl, hpassed]
    exact if_neg (Fields.contains_eq_true_iff.1 hcontains)
  · intro hnone
    rw [values_finish_requestId _ _ _ _ _ rfl]
    refine if_pos ?_
    cases hpassed : passedBack? setup behind
        (answer setup filters behind r.fresh r.request).sent with
    | none => rfl
    | some response => exact Fields.contains_eq_false_iff.1 (hnone response hpassed)

/-! ## Every run -/

/-- A request reads four times at most. -/
theorem InFlight.length_readNext_le {r : InFlight} (h : r.read.length ≤ 4) (setup : Setup)
    (live : Snapshot) : (r.readNext setup live).read.length ≤ 4 := by
  unfold readNext
  split
  · next hreading =>
      have hless : r.read.length < 4 := by
        unfold isReading at hreading
        split at hreading
        · next guarding hread =>
            rw [hread]
            exact Nat.one_lt_succ_succ 2
        · exact of_decide_eq_true hreading
      show (r.read ++ [live]).length ≤ 4
      rw [List.length_append]
      exact hless
  · exact h

/-- A request that does not read any more has all its filters. -/
theorem InFlight.exists_filters {r : InFlight} {setup : Setup} (hlength : r.read.length ≤ 4)
    (h : r.isReading setup = false) : ∃ filters, r.filters? setup = some filters := by
  unfold isReading at h
  unfold filters?
  split at h
  · next guarding hread =>
      rw [Bool.not_eq_false'] at h
      rw [hread]
      exact ⟨guarding, if_pos h⟩
  · have hfour : r.read.length = 4 :=
      Nat.le_antisymm hlength (Nat.le_of_not_lt (of_decide_eq_false h))
    obtain ⟨guarding, restricting, opening, embedding, hread⟩ := List.length_eq_four.1 hfour
    rw [hread]
    exact ⟨_, rfl⟩

namespace Traffic

theorem length_read_run (server : Server) (actions : List Action) (place : Nat) (r : InFlight)
    (hr : ((start server).run actions).requests[place]? = some r) : r.read.length ≤ 4 := by
  induction actions using List.reverseRecOn generalizing r with
  | nil => cases hr
  | append_singleton actions a ih =>
      rw [run_concat] at hr
      rcases act_cases hr with hbefore | hnone | ⟨before, hbefore, rfl⟩
      · exact ih r hbefore
      · rw [hnone]
        exact Nat.zero_le 4
      · exact InFlight.length_readNext_le (ih before hbefore) _ _

/-- **One id for each request.** The filters may be replaced at any moment of a run. A request that
does not read any more is answered, whatever answers it, and the answer has an id: that of the
request, or the ids that an answer has brought itself and that is passed back. What is sent on has
the id of the request first, and behind it what else the client has sent. -/
theorem correlates_run (server : Server) (actions : List Action) (place : Nat) (r : InFlight)
    (hr : ((start server).run actions).requests[place]? = some r)
    (hdone : r.isReading server.setup = false) (behind : OriginServer) :
    ∃ outcome final, r.outcome? server.setup behind = some outcome ∧
      outcome.response = some final ∧ Correlates server.setup behind r outcome final := by
  obtain ⟨filters, hfilters⟩ :=
    InFlight.exists_filters (length_read_run server actions place r hr) hdone
  obtain ⟨final, hfinal, hcorrelates⟩ := correlates_answer r server.setup filters behind
  refine ⟨_, final, ?_, hfinal, hcorrelates⟩
  rw [InFlight.outcome?, hfilters]
  rfl

/-- An id that is no text. -/
def oddId : FieldValue := ⟨[0xE9, 0xFF], by decide⟩

/-- A request with two ids. -/
def namedRequest : Request :=
  { plainRequest with
    fields := (Fields.empty.append .requestId oddId).append .requestId (.ofAscii "second") }

/-- An answer with an id of its own. -/
def namedAnswer : Response :=
  { hookAnswer with fields := hookAnswer.fields.append .requestId (.ofAscii "own") }

/-- The request is sent on, and what is answered in time is passed back. -/
theorem passedBack?_namedRequest {server : Server} (h : Server.start exempting = .ok server)
    (filters : Snapshot) (fresh : Fresh) (response : Response) :
    ∃ message, (answer server.setup filters (fun _ => .answered 5 response) fresh
        namedRequest).sent = some message ∧
      passedBack? server.setup (fun _ => .answered 5 response) (some message) = some response := by
  obtain ⟨horigin, htime, -⟩ := isForServer_hookRequest h
  have hadmitted : isStopped server.setup filters namedRequest = false :=
    isStopped_of_values_eq_nil rfl rfl server.setup filters
  have hends := ends_handle server.setup (fun _ => .answered 5 response)
    (filters.content.map fun _ => fresh.nonce) (identified fresh.requestId namedRequest)
  have hsent := hends.sent_eq (show namedRequest.target.path ≠ healthPath by decide) horigin
  rw [if_neg nofun] at hsent
  refine ⟨_, (answer_of_not_isStopped hadmitted _ fresh).2.trans hsent, ?_⟩
  exact if_pos (decide_eq_true htime)

/-- A configuration arrives while the request is on its way. Its first id is sent on, in front of
the second one, and stands on the answer, unless the answer has one of its own. -/
theorem correlates_namedRequest :
    ∃ server next, Server.start exempting = .ok server ∧
      Snapshot.ofConfig unrestricted = .ok next ∧ ∀ fresh, ∃ r,
        ((start server).run (straddling namedRequest fresh unrestricted 2)).requests[0]? = some r ∧
        r.isReading server.setup = false ∧
        (∃ outcome final message,
          r.outcome? server.setup (fun _ => .answered 5 hookAnswer) = some outcome ∧
            outcome.sent = some message ∧ outcome.response = some final ∧
            message.fields.values .requestId = [oddId, .ofAscii "second"] ∧
            final.fields.values .requestId = [oddId]) ∧
        ∃ outcome final,
          r.outcome? server.setup (fun _ => .answered 5 namedAnswer) = some outcome ∧
            outcome.response = some final ∧ final.fields.values .requestId = [.ofAscii "own"] := by
  obtain ⟨server, hserver⟩ : ∃ server, Server.start exempting = .ok server :=
    exists_of_isSome (by decide +kernel)
  obtain ⟨next, hnext⟩ := exists_ofConfig_unrestricted
  refine ⟨server, next, hserver, hnext, fun fresh => ?_⟩
  have hadmitted : isStopped server.setup server.live namedRequest = false :=
    isStopped_of_values_eq_nil rfl rfl server.setup server.live
  let r : InFlight := ⟨namedRequest, fresh, [server.live, server.live, next, next]⟩
  have hr : ((start server).run (straddling namedRequest fresh unrestricted 2)).requests[0]? =
      some r := by
    rw [requests_straddling hnext fresh hadmitted (.inr (.inl rfl))]
    rfl
  let filters : Snapshot := .mixed server.live server.live next next
  refine ⟨r, hr, rfl, ?_, ?_⟩
  · obtain ⟨message, hsent, hpassed⟩ := passedBack?_namedRequest hserver filters fresh hookAnswer
    obtain ⟨outcome, final, houtcome, hfinal, hcorrelates⟩ :=
      correlates_run server _ 0 r hr rfl fun _ => .answered 5 hookAnswer
    obtain rfl : answer server.setup filters (fun _ => .answered 5 hookAnswer) fresh
      namedRequest = outcome := Option.some.inj houtcome
    refine ⟨_, final, message, houtcome, hsent, hfinal, hcorrelates.told message hsent,
      hcorrelates.given fun response hresponse => ?_⟩
    rw [hsent, hpassed] at hresponse
    cases hresponse
    rfl
  · obtain ⟨message, hsent, hpassed⟩ := passedBack?_namedRequest hserver filters fresh namedAnswer
    obtain ⟨outcome, final, houtcome, hfinal, hcorrelates⟩ :=
      correlates_run server _ 0 r hr rfl fun _ => .answered 5 namedAnswer
    obtain rfl : answer server.setup filters (fun _ => .answered 5 namedAnswer) fresh
      namedRequest = outcome := Option.some.inj houtcome
    rw [← hsent] at hpassed
    exact ⟨_, final, houtcome, hfinal, hcorrelates.kept namedAnswer hpassed rfl⟩

end Traffic

end IsolationGate.Gateway
