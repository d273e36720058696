import IsolationGate.Proofs.Forwarding
import IsolationGate.Proofs.NonceAgreement

/-!
# Who chooses the nonce that the server behind the gateway is told

A page that trusts the nonce it is told must not be told one by the client. This is a property of
two runs: take two requests that differ in nothing but what the client sends under the name of the
nonce, and compare what the server behind the gateway finds there. `HidesClientNonce` says that it
finds the same, and either nothing or the nonce that the gateway has drawn.

It holds whenever there is a content policy, and then more than that holds: nothing that comes of a
request depends on what the client sends there. Without a content policy there is no nonce, nothing
is replaced, and the server is told what the client has sent.

## Main results

* `SameButNonce.answer_eq` — with a content policy two such requests are the same to the gateway.
* `values_nonce_of_content_eq_none` — without one the client's values arrive.
* `hidesClientNonce_iff` — which filters hide the nonce of the client.
-/

namespace IsolationGate.Gateway

open Http (Authority FieldName FieldValue Fields Method Request)
open Policy (FetchMetadata FetchMetadataFilter Nonce)

/-- Two requests that differ at most in what the client sends under the name of the nonce. -/
structure SameButNonce (a b : Request) : Prop where
  method : a.method = b.method
  target : a.target = b.target
  fields : a.fields.remove nonceName = b.fields.remove nonceName
  body : a.body = b.body

/-- What the server behind the gateway is told under the name of the nonce does not come from the
client. -/
def HidesClientNonce (setup : Setup) (snapshot : Snapshot) : Prop :=
  ∀ (server : OriginServer) (fresh : Fresh) (a b : Request), SameButNonce a b →
    ∀ told ∈ (answer setup snapshot server fresh a).sent,
      ∀ other ∈ (answer setup snapshot server fresh b).sent,
        told.fields.values nonceName = other.fields.values nonceName ∧
          (told.fields.values nonceName = [] ∨
            told.fields.values nonceName = [nonceValue fresh.nonce])

namespace SameButNonce

variable {a b : Request}

/-! ## What the two requests have in common -/

theorem values (h : SameButNonce a b) {name : FieldName} (hname : name ≠ nonceName) :
    a.fields.values name = b.fields.values name := by
  have ha : (a.fields.remove nonceName).values name = a.fields.values name :=
    Fields.values_remove_of_ne hname a.fields
  have hb : (b.fields.remove nonceName).values name = b.fields.values name :=
    Fields.values_remove_of_ne hname b.fields
  rw [← ha, ← hb, h.fields]

theorem get? (h : SameButNonce a b) {name : FieldName} (hname : name ≠ nonceName) :
    a.fields.get? name = b.fields.get? name := by
  rw [Fields.get?, Fields.get?, h.values hname]

/-- They get the same id. -/
theorem identified (h : SameButNonce a b) (id : FieldValue) :
    SameButNonce (identified id a) (identified id b) := by
  have hid : FieldName.requestId ≠ nonceName := by decide
  have hcontains : a.fields.contains .requestId = b.fields.contains .requestId := by
    rw [Fields.contains, Fields.contains, h.get? hid]
  refine ⟨h.method, h.target, ?_, h.body⟩
  show (a.fields.setIfAbsent .requestId id).remove nonceName =
    (b.fields.setIfAbsent .requestId id).remove nonceName
  unfold Fields.setIfAbsent
  rw [hcontains]
  split
  · exact h.fields
  · rw [Fields.remove_append_of_ne hid, Fields.remove_append_of_ne hid, h.fields]

theorem sameToFilter (h : SameButNonce a b) : SameToFilter a b where
  method := h.method
  path := congrArg Http.Target.path h.target
  firstValues := by
    intro name hname
    have hne : name ≠ nonceName := by
      revert name
      decide
    rw [h.values hne]

theorem ofRequest_eq (h : SameButNonce a b) :
    FetchMetadata.ofRequest a.fields a.method = FetchMetadata.ofRequest b.fields b.method := by
  have hplain : ∀ name ≠ nonceName,
      FetchMetadata.plainValue a.fields name = FetchMetadata.plainValue b.fields name := by
    intro name hname
    rw [FetchMetadata.plainValue, FetchMetadata.plainValue, h.get? hname]
  rw [FetchMetadata.ofRequest, FetchMetadata.ofRequest, hplain _ (by decide),
    hplain _ (by decide), hplain _ (by decide), h.method]

/-! ## From the handler outwards -/

/-- A nonce replaces all that the client has sent under its name. -/
theorem forwardedFields_eq (h : SameButNonce a b) (nonce : Nonce) :
    forwardedFields (some nonce) a.fields = forwardedFields (some nonce) b.fields := by
  have hstripped : ∀ fields : Fields, (stripConnection fields).remove nonceName =
      stripConnection (fields.remove nonceName) := fun fields =>
    Fields.remove_removeAll connectionNames fields nonceName
  show ((stripConnection a.fields).remove nonceName).append nonceName (nonceValue nonce) =
    ((stripConnection b.fields).remove nonceName).append nonceName (nonceValue nonce)
  rw [hstripped, hstripped, h.fields]

theorem outgoing_eq (h : SameButNonce a b) (maxBodyBytes : Nat) (authority : Authority)
    (nonce : Nonce) :
    outgoing maxBodyBytes authority (some nonce) a =
      outgoing maxBodyBytes authority (some nonce) b := by
  have hlength : a.fields.values .contentLength = b.fields.values .contentLength :=
    h.values (by decide)
  rw [outgoing, outgoing, framingOf_congr h.method hlength h.body,
    sentBody_congr h.method hlength h.body, h.method, h.target, h.forwardedFields_eq nonce]

theorem forward_eq (h : SameButNonce a b) (setup : Setup) (authority : Authority)
    (server : OriginServer) (nonce : Nonce) :
    forward setup authority server (some nonce) a =
      forward setup authority server (some nonce) b := by
  have hid : requestIdText a.fields = requestIdText b.fields := by
    rw [requestIdText, requestIdText, h.get? (by decide)]
  have hstarted : forwardingEvent authority a = forwardingEvent authority b := by
    rw [forwardingEvent, forwardingEvent, hid, h.method, h.target]
  have hfailure : failureEvent a = failureEvent b := by
    funext cause
    rw [failureEvent, failureEvent, hid]
  unfold forward
  rw [h.outgoing_eq setup.maxBodyBytes authority nonce, hstarted, hfailure]

theorem handle_eq (h : SameButNonce a b) (setup : Setup) (server : OriginServer) (nonce : Nonce) :
    handle setup server (some nonce) a = handle setup server (some nonce) b := by
  unfold handle
  rw [h.target, h.method]
  cases setup.origin with
  | none => rfl
  | some authority =>
      dsimp only
      rw [h.forward_eq setup authority server nonce]

theorem isolate_eq (h : SameButNonce a b) {snapshot : Snapshot}
    (hcontent : snapshot.content.isSome = true) (setup : Setup) (server : OriginServer)
    (nonce : Nonce) :
    isolate snapshot nonce (handle setup server) a =
      isolate snapshot nonce (handle setup server) b := by
  obtain ⟨policy, hpolicy⟩ := Option.isSome_iff_exists.1 hcontent
  rw [isolate_eq_foldl, isolate_eq_foldl, hpolicy, Option.map_some,
    h.handle_eq setup server nonce, h.target]

theorem inside_eq (h : SameButNonce a b) {snapshot : Snapshot}
    (hcontent : snapshot.content.isSome = true) (setup : Setup) (server : OriginServer)
    (nonce : Nonce) :
    inside setup snapshot server nonce a = inside setup snapshot server nonce b := by
  have hlong : isTooLong setup a = isTooLong setup b := by
    rw [isTooLong, isTooLong, statedLength?, statedLength?, h.get? (by decide)]
  show limitTime (limitBody setup (isolate snapshot nonce (handle setup server))) a =
    limitTime (limitBody setup (isolate snapshot nonce (handle setup server))) b
  unfold limitTime limitBody
  rw [hlong, h.isolate_eq hcontent setup server nonce]

theorem guardWith_eq (h : SameButNonce a b) (filter : FetchMetadataFilter) {inner : Handler}
    (hinner : inner a = inner b) : guardWith filter inner a = guardWith filter inner b := by
  unfold guardWith
  rw [decide_congr h.sameToFilter, hinner, h.target, h.ofRequest_eq]

theorem layers_eq (h : SameButNonce a b) {snapshot : Snapshot}
    (hcontent : snapshot.content.isSome = true) (setup : Setup) (server : OriginServer)
    (nonce : Nonce) :
    layers setup snapshot server nonce a = layers setup snapshot server nonce b := by
  have hinside := h.inside_eq hcontent setup server nonce
  show guardIfOn snapshot (inside setup snapshot server nonce) a =
    guardIfOn snapshot (inside setup snapshot server nonce) b
  unfold guardIfOn
  cases snapshot.fetchMetadata with
  | none => exact hinside
  | some filter => exact h.guardWith_eq filter hinside

/-- With a content policy nothing that comes of a request depends on what the client sends under the
name of the nonce. -/
theorem answer_eq (h : SameButNonce a b) {snapshot : Snapshot}
    (hcontent : snapshot.content.isSome = true) (setup : Setup) (server : OriginServer)
    (fresh : Fresh) :
    answer setup snapshot server fresh a = answer setup snapshot server fresh b := by
  have hidentified := h.identified fresh.requestId
  have hcorrelated : correlated (Gateway.identified fresh.requestId a) =
      correlated (Gateway.identified fresh.requestId b) := by
    funext response
    rw [correlated, correlated, hidentified.get? (by decide)]
  have hfinish : finish a = finish b := by
    funext response
    rw [finish, finish, describeBody, describeBody, h.method, h.target]
  unfold answer identify
  dsimp only
  rw [hidentified.layers_eq hcontent setup server fresh.nonce, hcorrelated, hfinish]

end SameButNonce

/-! ## What the server is told -/

/-- Without a server behind the gateway nothing is sent on. -/
theorem sent_handle_of_page {setup : Setup} (horigin : setup.origin = none) (server : OriginServer)
    (nonce : Option Nonce) (request : Request) :
    (handle setup server nonce request).sent = none := by
  unfold handle
  rw [horigin]
  split <;> rfl

/-- With a content policy the server is told the nonce of the request. -/
theorem values_nonce_of_content_isSome {setup : Setup} {snapshot : Snapshot}
    (hcontent : snapshot.content.isSome = true) {server : OriginServer} {fresh : Fresh}
    {request : Request} {told : Outgoing}
    (h : (answer setup snapshot server fresh request).sent = some told) :
    told.fields.values nonceName = [nonceValue fresh.nonce] := by
  obtain ⟨policy, hpolicy⟩ := Option.isSome_iff_exists.1 hcontent
  have hsent := exists_sent_handle h
  rw [hpolicy, Option.map_some] at hsent
  obtain ⟨authority, rfl⟩ := sent_handle hsent
  exact values_nonce_outgoing setup.maxBodyBytes authority fresh.nonce _

/-- Without a content policy it is told what the client has sent. -/
theorem values_nonce_of_content_eq_none {setup : Setup} {snapshot : Snapshot}
    (hcontent : snapshot.content = none) {server : OriginServer} {fresh : Fresh}
    {request : Request} {told : Outgoing}
    (h : (answer setup snapshot server fresh request).sent = some told) :
    told.fields.values nonceName = request.fields.values nonceName := by
  have hsent := exists_sent_handle h
  rw [hcontent, Option.map_none] at hsent
  obtain ⟨authority, rfl⟩ := sent_handle hsent
  have hidentified : (identified fresh.requestId request).fields.values nonceName =
      request.fields.values nonceName :=
    Fields.values_setIfAbsent_of_ne (by decide) request.fields fresh.requestId
  rw [values_nonce_outgoing_none, hidentified]

/-! ## Which filters hide the nonce of the client -/

/-- A request whose client chooses a nonce. -/
def spoofing (value : FieldValue) : Request :=
  { Traffic.plainRequest with fields := Fields.empty.append nonceName value }

theorem sameButNonce_spoofing (value : FieldValue) :
    SameButNonce (spoofing value) Traffic.plainRequest where
  method := rfl
  target := rfl
  fields := by simp [spoofing, Traffic.plainRequest, Fields.append, Fields.remove, Fields.empty]
  body := rfl

/-- A request is sent on if it says nothing that the outer layers look at. -/
theorem exists_told {setup : Setup} {authority : Authority}
    (horigin : setup.origin = some authority) {request : Request}
    (h : SameButNonce request Traffic.plainRequest) (snapshot : Snapshot) (fresh : Fresh) :
    ∃ told, (answer setup snapshot (fun _ => .silent) fresh request).sent = some told := by
  have hfilter : ∀ filter, decide filter request = decide filter Traffic.plainRequest :=
    fun filter => decide_congr h.sameToFilter filter
  have hlong : isTooLong setup request = isTooLong setup Traffic.plainRequest := by
    rw [isTooLong, isTooLong, statedLength?, statedLength?, h.get? (by decide)]
  have hstopped : isStopped setup snapshot request = false := by
    rw [← Traffic.isStopped_plainRequest setup snapshot, isStopped, isStopped, hlong]
    simp only [hfilter]
  have hpath : (identified fresh.requestId request).target.path ≠ healthPath := by
    show request.target.path ≠ healthPath
    rw [h.target]
    decide
  have hends := ends_handle setup (fun _ => .silent) (snapshot.content.map fun _ => fresh.nonce)
    (identified fresh.requestId request)
  rw [(answer_of_not_isStopped hstopped (fun _ => .silent) fresh).2, hends.sent_eq hpath horigin]
  exact ⟨_, rfl⟩

/-- A server that is told what the client has sent is told what the client chooses. -/
theorem not_hidesClientNonce {setup : Setup} {snapshot : Snapshot} {authority : Authority}
    (hcontent : snapshot.content = none) (horigin : setup.origin = some authority) :
    ¬ HidesClientNonce setup snapshot := by
  intro hhides
  let value : FieldValue := .ofAscii "client"
  let fresh : Fresh := ⟨default, .ofAscii ""⟩
  have hsame := sameButNonce_spoofing value
  obtain ⟨told, htold⟩ := exists_told horigin hsame snapshot fresh
  obtain ⟨other, hother⟩ := exists_told horigin ⟨rfl, rfl, rfl, rfl⟩ snapshot fresh
  have hequal := (hhides _ fresh _ _ hsame told htold other hother).1
  rw [values_nonce_of_content_eq_none hcontent htold,
    values_nonce_of_content_eq_none hcontent hother] at hequal
  have hchosen : (spoofing value).fields.values nonceName = [value] :=
    Fields.values_append_self Fields.empty nonceName value
  rw [hchosen] at hequal
  cases hequal

/-- **Who chooses the nonce.** The server behind the gateway is told the nonce of the request or
nothing, whatever the client sends, exactly when there is a content policy or no such server. With a
content policy the gateway does not tell two requests apart that differ in the nonce of the client
only. Without one the server is told just what the client has sent. -/
theorem hidesClientNonce_iff (setup : Setup) (snapshot : Snapshot) :
    (HidesClientNonce setup snapshot ↔
        snapshot.content.isSome = true ∨ setup.origin = none) ∧
      (snapshot.content.isSome = true →
        ∀ (server : OriginServer) (fresh : Fresh) (a b : Request), SameButNonce a b →
          answer setup snapshot server fresh a = answer setup snapshot server fresh b) ∧
      (snapshot.content = none →
        ∀ (server : OriginServer) (fresh : Fresh) (request : Request),
          ∀ told ∈ (answer setup snapshot server fresh request).sent,
            told.fields.values nonceName = request.fields.values nonceName) := by
  refine ⟨⟨?_, ?_⟩, ?_, ?_⟩
  · intro hhides
    cases hcontent : snapshot.content with
    | some policy => exact .inl rfl
    | none =>
        cases horigin : setup.origin with
        | none => exact .inr rfl
        | some authority => exact absurd hhides (not_hidesClientNonce hcontent horigin)
  · rintro (hcontent | horigin) server fresh a b hsame told htold other hother
    · rw [values_nonce_of_content_isSome hcontent htold,
        values_nonce_of_content_isSome hcontent hother]
      exact ⟨rfl, .inr rfl⟩
    · -- Without a server behind the gateway nothing is sent on at all.
      have hsent := exists_sent_handle htold
      rw [sent_handle_of_page horigin] at hsent
      cases hsent
  · intro hcontent server fresh a b hsame
    exact hsame.answer_eq hcontent setup server fresh
  · intro hcontent server fresh request told htold
    exact values_nonce_of_content_eq_none hcontent htold

/-- A configuration with a server behind the gateway and without the content policy. -/
def unrestrictedForwarding : Config :=
  { origin := { address := some localServer.text }, content := { enabled := false } }

/-- The content policy is switched off, and the server is told the nonce that the client has
chosen. -/
theorem client_nonce_is_told :
    ∃ server, Server.start unrestrictedForwarding = .ok server ∧
      ¬ HidesClientNonce server.setup server.live ∧
      ∀ fresh, ∃ told,
        (answer server.setup server.live (fun _ => .silent) fresh
          (spoofing (.ofAscii "client"))).sent = some told ∧
        told.fields.values nonceName = [.ofAscii "client"] := by
  obtain ⟨server, hserver⟩ : ∃ server, Server.start unrestrictedForwarding = .ok server :=
    Traffic.exists_of_isSome (by decide +kernel)
  obtain ⟨hlive, hsetup, -, -⟩ := Server.start_eq_ok_iff.1 hserver
  have hcontent : server.live.content = none := (Snapshot.ofConfig_eq_ok_iff.1 hlive).2.2.2
  have hforwarding : Setup.ofConfig unrestrictedForwarding =
      .ok ⟨some localServer, 30, 2 * 1024 * 1024⟩ := rfl
  have horigin : server.setup.origin = some localServer := by
    rw [Except.ok.inj (hsetup.symm.trans hforwarding)]
  refine ⟨server, hserver, not_hidesClientNonce hcontent horigin, fun fresh => ?_⟩
  obtain ⟨told, htold⟩ :=
    exists_told horigin (sameButNonce_spoofing (.ofAscii "client")) server.live fresh
  exact ⟨told, htold, values_nonce_of_content_eq_none hcontent htold⟩

end IsolationGate.Gateway
