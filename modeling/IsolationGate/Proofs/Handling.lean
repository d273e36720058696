import IsolationGate.Gateway.Answer

/-!
# How handlers end

A request that gets through the outer layers ends at a handler, in one of seven ways. `Ends` lists
them as rules, each with the condition under which it applies, the answer that the handler gives and
the message that the server behind the gateway has received. The conditions exclude each other, so a
request has one ending only. A handler that does not finish in time gives no answer.

## Main results

* `ends_forward` — how a request ends that is sent on.
* `ends_handle` — every request ends by one of the rules.
* `Ends.sent_eq`, `Ends.response_eq` — the ending of a request that is sent on, read off the rules.
-/

namespace IsolationGate.Gateway

open Http (Authority FieldName Request Response)
open Policy (Nonce)

/-- The endings of a request: the answer, if it comes in time, and the message that was received. -/
inductive Ends (setup : Setup) (server : OriginServer) (nonce : Option Nonce) (request : Request) :
    Option Response → Option Outgoing → Prop where
  /-- The gateway says that it is well. -/
  | well (hpath : request.target.path = healthPath)
      (hmethod : request.method = .get ∨ request.method = .head) :
      Ends setup server nonce request (some (.plain 200 "ok")) none
  /-- Only two methods are answered there. -/
  | notAllowed (hpath : request.target.path = healthPath)
      (hmethod : ¬ (request.method = .get ∨ request.method = .head)) :
      Ends setup server nonce request (some (.bare 405)) none
  /-- The gateway shows its own page. -/
  | page (hpath : request.target.path ≠ healthPath) (horigin : setup.origin = none) :
      Ends setup server nonce request
        (some (.html 200 (Page.demoPage nonce request.target.path))) none
  /-- There is no connection to the server. -/
  | unreached {authority : Authority} (hpath : request.target.path ≠ healthPath)
      (horigin : setup.origin = some authority)
      (hreply : server (outgoing setup.maxBodyBytes authority nonce request) = .unreachable) :
      Ends setup server nonce request (some failedResponse) none
  /-- The connection breaks, or ends with a message that is not complete. -/
  | failed {authority : Authority} (hpath : request.target.path ≠ healthPath)
      (horigin : setup.origin = some authority)
      (hreply : server (outgoing setup.maxBodyBytes authority nonce request) = .broken ∨
        (server (outgoing setup.maxBodyBytes authority nonce request) = .silent ∧
          (outgoing setup.maxBodyBytes authority nonce request).whole = false)) :
      Ends setup server nonce request (some failedResponse)
        (some (outgoing setup.maxBodyBytes authority nonce request))
  /-- The answer of the server is passed back. -/
  | passedBack {authority : Authority} {delay : Nat} {response : Response}
      (hpath : request.target.path ≠ healthPath) (horigin : setup.origin = some authority)
      (hreply : server (outgoing setup.maxBodyBytes authority nonce request) =
        .answered delay response)
      (hdelay : delay ≤ 1000 * setup.requestSecs) :
      Ends setup server nonce request (some (relayed response))
        (some (outgoing setup.maxBodyBytes authority nonce request))
  /-- The server answers too late, or never. -/
  | late {authority : Authority} (hpath : request.target.path ≠ healthPath)
      (horigin : setup.origin = some authority)
      (hreply : (server (outgoing setup.maxBodyBytes authority nonce request) = .silent ∧
          (outgoing setup.maxBodyBytes authority nonce request).whole = true) ∨
        ∃ delay response,
          server (outgoing setup.maxBodyBytes authority nonce request) =
            .answered delay response ∧ 1000 * setup.requestSecs < delay) :
      Ends setup server nonce request none
        (some (outgoing setup.maxBodyBytes authority nonce request))

theorem isHealthMethod_iff {method : Http.Method} :
    isHealthMethod method = true ↔ method = .get ∨ method = .head := by
  rw [isHealthMethod, Bool.or_eq_true, beq_iff_eq, beq_iff_eq]

theorem ends_forward {setup : Setup} {authority : Authority} {request : Request}
    (hpath : request.target.path ≠ healthPath) (horigin : setup.origin = some authority)
    (server : OriginServer) (nonce : Option Nonce) :
    Ends setup server nonce request (forward setup authority server nonce request).response
      (forward setup authority server nonce request).sent := by
  unfold forward
  dsimp only
  cases hreply : server (outgoing setup.maxBodyBytes authority nonce request) with
  | unreachable => exact .unreached hpath horigin hreply
  | broken => exact .failed hpath horigin (.inl hreply)
  | silent =>
      cases hwhole : (outgoing setup.maxBodyBytes authority nonce request).whole with
      | true => exact .late hpath horigin (.inl ⟨hreply, hwhole⟩)
      | false => exact .failed hpath horigin (.inr ⟨hreply, hwhole⟩)
  | answered delay response =>
      dsimp only [Reply.afterSending]
      by_cases htime : inTime setup delay = true
      · rw [if_pos htime]
        exact .passedBack hpath horigin hreply (of_decide_eq_true htime)
      · rw [if_neg htime]
        have hlate : 1000 * setup.requestSecs < delay :=
          Nat.lt_of_not_le fun hle => htime (decide_eq_true hle)
        exact .late hpath horigin (.inr ⟨delay, response, hreply, hlate⟩)

/-- **How a request ends** that has reached a handler. -/
theorem ends_handle (setup : Setup) (server : OriginServer) (nonce : Option Nonce)
    (request : Request) :
    Ends setup server nonce request (handle setup server nonce request).response
      (handle setup server nonce request).sent := by
  unfold handle
  split
  · next hpath =>
      unfold healthResponse
      split
      · next hmethod => exact .well hpath (isHealthMethod_iff.1 hmethod)
      · next hmethod => exact .notAllowed hpath fun h => hmethod (isHealthMethod_iff.2 h)
  · next hpath =>
      split
      · next authority horigin => exact ends_forward hpath horigin server nonce
      · next horigin => exact .page hpath horigin

section

variable {setup : Setup} {server : OriginServer} {nonce : Option Nonce} {request : Request}
  {response : Option Response} {sent : Option Outgoing} {authority : Authority}

/-- Whatever the server behind the gateway does, it has received the message when there was a
connection. -/
theorem Ends.sent_eq (h : Ends setup server nonce request response sent)
    (hpath : request.target.path ≠ healthPath) (horigin : setup.origin = some authority) :
    sent =
      if server (outgoing setup.maxBodyBytes authority nonce request) = .unreachable then none
      else some (outgoing setup.maxBodyBytes authority nonce request) := by
  cases h with
  | well hhealth => exact absurd hhealth hpath
  | notAllowed hhealth => exact absurd hhealth hpath
  | page _ hnone =>
      rw [horigin] at hnone
      cases hnone
  | unreached _ horigin' hreply =>
      cases horigin.symm.trans horigin'
      rw [if_pos hreply]
  | failed _ horigin' hreply =>
      cases horigin.symm.trans horigin'
      rcases hreply with hbroken | ⟨hsilent, -⟩
      · simp [hbroken]
      · simp [hsilent]
  | passedBack _ horigin' hreply =>
      cases horigin.symm.trans horigin'
      simp [hreply]
  | late _ horigin' hreply =>
      cases horigin.symm.trans horigin'
      rcases hreply with ⟨hsilent, -⟩ | ⟨delay, answered, hanswered, -⟩
      · simp [hsilent]
      · simp [hanswered]

/-- An answer that comes in time is passed back. -/
theorem Ends.response_eq {delay : Nat} {answered : Response}
    (h : Ends setup server nonce request response sent)
    (hpath : request.target.path ≠ healthPath) (horigin : setup.origin = some authority)
    (hanswered : server (outgoing setup.maxBodyBytes authority nonce request) =
      .answered delay answered)
    (hdelay : delay ≤ 1000 * setup.requestSecs) : response = some (relayed answered) := by
  cases h with
  | well hhealth => exact absurd hhealth hpath
  | notAllowed hhealth => exact absurd hhealth hpath
  | page _ hnone =>
      rw [horigin] at hnone
      cases hnone
  | unreached _ horigin' hreply =>
      cases horigin.symm.trans horigin'
      simp [hanswered] at hreply
  | failed _ horigin' hreply =>
      cases horigin.symm.trans horigin'
      simp [hanswered] at hreply
  | passedBack _ horigin' hreply =>
      cases horigin.symm.trans horigin'
      rw [hanswered] at hreply
      cases hreply
      rfl
  | late _ horigin' hreply =>
      cases horigin.symm.trans horigin'
      rcases hreply with ⟨hsilent, -⟩ | ⟨delay', answered', hanswered', hlate⟩
      · simp [hanswered] at hsilent
      · rw [hanswered] at hanswered'
        cases hanswered'
        omega

end

end IsolationGate.Gateway
