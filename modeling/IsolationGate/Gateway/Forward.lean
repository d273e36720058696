import IsolationGate.Gateway.Framing
import IsolationGate.Log.Event
import IsolationGate.Policy.Nonce

/-!
# Forwarding

A request that is let through goes to the server behind the gateway, and its answer comes back. Both
ways the fields that concern one connection only are dropped. The nonce of the request replaces
whatever the client sent under its name; without a nonce nothing is replaced, and the client's
values pass. A host is added when the client names none, and what it takes to say where the body
ends.

`Outgoing` is what the server receives, and `Reply` is what comes of it.
-/

namespace IsolationGate.Gateway

open Http (Authority FieldName FieldValue Fields Method Request Response)
open Policy (Nonce)

/-- A name of a field that concerns one connection only. -/
def connectionNames : List FieldName :=
  [⟨"connection"⟩, ⟨"keep-alive"⟩, ⟨"proxy-connection"⟩, ⟨"te"⟩, ⟨"trailer"⟩,
    ⟨"transfer-encoding"⟩, ⟨"upgrade"⟩]

/-- The fields without those that concern one connection only. -/
def stripConnection (fields : Fields) : Fields := fields.removeAll connectionNames

/-- The name `x-csp-nonce`. -/
def nonceName : FieldName := ⟨"x-csp-nonce"⟩

/-- The value of a nonce. -/
def nonceValue (nonce : Nonce) : FieldValue := .ofAscii nonce.text

/-! ## What is sent -/

/-- A request as the server behind the gateway receives it. -/
structure Outgoing where
  method : Method
  target : String
  fields : Fields
  body : List UInt8
  /-- The message is complete. Of any other no more arrives than this, and then the connection ends.
  -/
  whole : Bool := true
  deriving Repr, DecidableEq

/-- The first line of a request. -/
def Outgoing.requestLine (o : Outgoing) : String := o.method.text ++ " " ++ o.target ++ " HTTP/1.1"

/-- What stands behind the last occurrence of a character, if there is one. -/
def behindLast? (c : Char) (cs : List Char) : Option (List Char) :=
  if c ∈ cs then some (cs.reverse.takeWhile (· ≠ c)).reverse else none

/-- The host of an authority, without user information: what stands in brackets, or in front of a
colon. -/
def hostOf (authority : Authority) : List Char :=
  let cs := authority.text.toList
  let host := (behindLast? '@' cs).getD cs
  if host.head? = some '[' then host.takeWhile (· ≠ ']') ++ [']'] else host.takeWhile (· ≠ ':')

/-- The service number of an authority. -/
def serviceOf? (authority : Authority) : Option Nat :=
  (behindLast? ':' authority.text.toList).bind (Number.ofPlusWord? 16)

/-- The service number that goes without saying. -/
def usualService : Nat := 80

/-- An authority as it is named to a server: the host, and the service number unless it goes without
saying. -/
def hostText (authority : Authority) : String :=
  let service :=
    match serviceOf? authority with
    | some n => if n = usualService then [] else ':' :: Number.toDecimal n
    | none => []
  String.ofList (hostOf authority ++ service)

/-- The fields that are sent on: those of the request, with the nonce. -/
def forwardedFields (nonce : Option Nonce) (fields : Fields) : Fields :=
  match nonce with
  | some n => (stripConnection fields).set nonceName (nonceValue n)
  | none => stripConnection fields

/-- The fields that every message to a server has: the host, and what says where a body ends. -/
def messageFields (authority : Authority) (framing : Framing) (fields : Fields) : Fields :=
  framing.addTo (fields.setIfAbsent .host (.ofAscii (hostText authority)))

/-- The framing of a request that is sent on. -/
def framingOf (maxBodyBytes : Nat) (request : Request) : Framing :=
  framing (bodyLimit maxBodyBytes request.fields) request.method request.fields request.body

/-- What is sent of the body of a request, and whether the message is complete with it. -/
def sentBody (maxBodyBytes : Nat) (request : Request) : List UInt8 × Bool :=
  (framingOf maxBodyBytes request).sends (bodyLimit maxBodyBytes request.fields) request.body

/-- The request that is sent on. A `CONNECT` request names the server itself. -/
def outgoing (maxBodyBytes : Nat) (authority : Authority) (nonce : Option Nonce)
    (request : Request) : Outgoing where
  method := request.method
  target :=
    if request.method = .connect then authority.text else request.target.pathAndQuery
  fields := messageFields authority (framingOf maxBodyBytes request)
    (forwardedFields nonce request.fields)
  body := (sentBody maxBodyBytes request).1
  whole := (sentBody maxBodyBytes request).2

section

variable {a b : Request} (hmethod : a.method = b.method)
  (hlength : a.fields.values .contentLength = b.fields.values .contentLength)
  (hbody : a.body = b.body) (maxBodyBytes : Nat)

include hmethod hlength hbody

theorem framingOf_congr : framingOf maxBodyBytes a = framingOf maxBodyBytes b := by
  rw [framingOf, framingOf, bodyLimit_congr hlength, framing_congr hlength, hmethod, hbody]

/-- What is sent of a body does not depend on the other fields. -/
theorem sentBody_congr : sentBody maxBodyBytes a = sentBody maxBodyBytes b := by
  rw [sentBody, sentBody, framingOf_congr hmethod hlength hbody, bodyLimit_congr hlength, hbody]

end

theorem values_stripConnection (fields : Fields) (name : FieldName) :
    (stripConnection fields).values name =
      if name ∈ connectionNames then [] else fields.values name :=
  Fields.values_removeAll connectionNames fields name

theorem values_forwardedFields_of_ne {name : FieldName} (h : name ≠ nonceName)
    (nonce : Option Nonce) (fields : Fields) :
    (forwardedFields nonce fields).values name = (stripConnection fields).values name := by
  unfold forwardedFields
  split
  · exact Fields.values_set_of_ne h _ _
  · rfl

theorem values_messageFields_of_ne {name : FieldName} (hhost : name ≠ .host)
    (hlength : name ≠ .contentLength) (hcoding : name ≠ .transferEncoding)
    (authority : Authority) (framing : Framing) (fields : Fields) :
    (messageFields authority framing fields).values name = fields.values name := by
  rw [messageFields, Framing.values_addTo_of_ne hlength hcoding,
    Fields.values_setIfAbsent_of_ne hhost]

/-- Every name but four has the values of the client, or none when it concerns one connection only.
-/
theorem values_outgoing_of_ne {name : FieldName} (hhost : name ≠ .host)
    (hlength : name ≠ .contentLength) (hcoding : name ≠ .transferEncoding)
    (hnonce : name ≠ nonceName) (maxBodyBytes : Nat) (authority : Authority)
    (nonce : Option Nonce) (request : Request) :
    (outgoing maxBodyBytes authority nonce request).fields.values name =
      if name ∈ connectionNames then [] else request.fields.values name := by
  have hforwarded := values_forwardedFields_of_ne hnonce nonce request.fields
  rw [values_stripConnection] at hforwarded
  exact (values_messageFields_of_ne hhost hlength hcoding authority _ _).trans hforwarded

/-- Without a nonce the values under its name are those of the client. -/
theorem values_nonce_outgoing_none (maxBodyBytes : Nat) (authority : Authority)
    (request : Request) :
    (outgoing maxBodyBytes authority none request).fields.values nonceName =
      request.fields.values nonceName := by
  have hkept : nonceName ∉ connectionNames := by decide
  have hstripped : (stripConnection request.fields).values nonceName =
      request.fields.values nonceName := by
    rw [values_stripConnection, if_neg hkept]
  exact (values_messageFields_of_ne (by decide) (by decide) (by decide) authority _ _).trans
    hstripped

/-- What the client has sent under the name of the nonce is replaced. -/
theorem values_nonce_outgoing (maxBodyBytes : Nat) (authority : Authority) (nonce : Nonce)
    (request : Request) :
    (outgoing maxBodyBytes authority (some nonce) request).fields.values nonceName =
      [nonceValue nonce] := by
  have hset : (forwardedFields (some nonce) request.fields).values nonceName =
      [nonceValue nonce] := Fields.values_set_self _ _ _
  exact (values_messageFields_of_ne (by decide) (by decide) (by decide) authority _ _).trans hset

/-! ## What comes back -/

/-- What comes of a request that was sent on. -/
inductive Reply where
  /-- There is no connection. -/
  | unreachable
  /-- The connection ends too early. -/
  | broken
  /-- An answer after so many milliseconds. -/
  | answered (delay : Nat) (response : Response)
  /-- Nothing, for ever. -/
  | silent
  deriving Repr, DecidableEq

/-- What comes of a message once all that there is of it was sent: nobody waits for the answer to one
that is not complete. -/
def Reply.afterSending : Reply → (whole : Bool) → Reply
  | silent, false => broken
  | reply, _ => reply

/-- The answer that stands in for a failed one. -/
def failedResponse : Response := .plain 502 "Upstream request failed"

/-- The answer as it is passed back. -/
def relayed (response : Response) : Response :=
  { response with fields := stripConnection response.fields }

/-! ## Log events -/

/-- The part of the program that forwards. -/
def forwardTarget : String := Log.targetOf "http::forward"

/-- The name of a request in the log. -/
def requestIdText (fields : Fields) : String :=
  ((fields.get? .requestId).bind FieldValue.text?).getD "unknown"

/-- A request is sent on. -/
def forwardingEvent (authority : Authority) (request : Request) : Log.Event where
  level := .debug
  target := forwardTarget
  message := "Forwarding request"
  values := [("request_id", .shown (requestIdText request.fields)),
    ("method", .shown request.method.text),
    ("uri", .shown ("http://" ++ authority.text ++ request.target.pathAndQuery))]

/-- Nothing usable came back. -/
def failureEvent (request : Request) (cause : String) : Log.Event where
  level := .error
  target := forwardTarget
  message := "Upstream error"
  values := [("request_id", .shown (requestIdText request.fields)), ("error", .shown cause)]

end IsolationGate.Gateway
