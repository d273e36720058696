import IsolationGate.Gateway.Forward
import IsolationGate.Gateway.Snapshot
import IsolationGate.Page.DemoPage

/-!
# The answer to a request

A request runs through the layers of the gateway, from the outside in:

1. it gets an id if it has none, and the answer gets the id of the request if it has none;
2. the filter by Fetch Metadata rejects it or lets it through, and the answer varies on the fields
   that the decision looked at;
3. it is answered with a time-out when the inner layers take too long;
4. it is refused when it says that its body is too long;
5. the content, opener and embedder policies add their fields to the answer of a handler;
6. the handler says that the gateway is well, forwards the request, or shows a page.

`answer` is the whole of it for one request. It is a function of the filters that the layers have
read, of the settings that never change while the gateway runs, of what is freshly drawn for the
request, and of what the server behind the gateway replies.
-/

namespace IsolationGate.Gateway

open Http (Authority FieldName FieldValue Fields Method Request Response)
open Policy (ContentPolicy Decision EmbedderPolicy FetchMetadata FetchMetadataFilter Nonce
  OpenerPolicy)

/-- The settings that never change while the gateway runs. -/
structure Setup where
  origin : Option Authority
  requestSecs : Nat
  maxBodyBytes : Nat
  deriving Repr, DecidableEq

/-- What is freshly drawn for a request. -/
structure Fresh where
  nonce : Nonce
  requestId : FieldValue
  deriving Repr

/-- What the server behind the gateway replies. -/
abbrev OriginServer := Outgoing → Reply

/-- What comes of a request within a layer. Without a response it has not finished in time. -/
structure Outcome where
  response : Option Response
  events : List Log.Event := []
  /-- What the server behind the gateway has received. -/
  sent : Option Outgoing := none
  /-- What the filter by Fetch Metadata has decided, if it is on. -/
  decision : Option Decision := none
  deriving Repr

namespace Outcome

/-- A response that comes of itself. -/
def ofResponse (response : Response) : Outcome := { response := some response }

/-- The response changed, and the events of the change noted. -/
def andThen (outcome : Outcome) (change : Response → Response × List Log.Event) : Outcome :=
  match outcome.response with
  | none => outcome
  | some response =>
      let changed := change response
      { outcome with response := some changed.1, events := outcome.events ++ changed.2 }

/-- The response changed without an event. -/
def map (outcome : Outcome) (change : Response → Response) : Outcome :=
  { outcome with response := outcome.response.map change }

@[simp] theorem sent_andThen (outcome : Outcome) (change : Response → Response × List Log.Event) :
    (outcome.andThen change).sent = outcome.sent := by
  unfold andThen
  split <;> rfl

@[simp] theorem decision_andThen (outcome : Outcome)
    (change : Response → Response × List Log.Event) :
    (outcome.andThen change).decision = outcome.decision := by
  unfold andThen
  split <;> rfl

@[simp] theorem response_andThen (outcome : Outcome)
    (change : Response → Response × List Log.Event) :
    (outcome.andThen change).response = outcome.response.map fun r => (change r).1 := by
  unfold andThen
  split
  · next h => rw [h, Option.map_none]
  · next response h => rw [h, Option.map_some]

@[simp] theorem response_map (outcome : Outcome) (change : Response → Response) :
    (outcome.map change).response = outcome.response.map change := rfl

@[simp] theorem sent_map (outcome : Outcome) (change : Response → Response) :
    (outcome.map change).sent = outcome.sent := rfl

@[simp] theorem decision_map (outcome : Outcome) (change : Response → Response) :
    (outcome.map change).decision = outcome.decision := rfl

end Outcome

/-- A layer or a handler. -/
abbrev Handler := Request → Outcome

/-! ## Handlers -/

/-- The path that tells whether the gateway is well. -/
def healthPath : String := "/healthz"

/-- The methods that the health path answers. -/
def isHealthMethod (method : Method) : Bool := method == .get || method == .head

/-- The gateway is well. -/
def healthResponse (method : Method) : Response :=
  if isHealthMethod method then .plain 200 "ok" else .bare 405

/-- The reply comes before the time is over. -/
def inTime (setup : Setup) (delay : Nat) : Bool := delay ≤ 1000 * setup.requestSecs

/-- What comes of a request that is sent on. -/
def forward (setup : Setup) (authority : Authority) (server : OriginServer) (nonce : Option Nonce) :
    Handler := fun request =>
  let message := outgoing setup.maxBodyBytes authority nonce request
  let started := forwardingEvent authority request
  match (server message).afterSending message.whole with
  | .unreachable =>
      { response := some failedResponse
        events := [started, failureEvent request "client error (Connect)"] }
  | .broken =>
      { response := some failedResponse
        events := [started, failureEvent request "client error (SendRequest)"]
        sent := some message }
  | .answered delay response =>
      { response := if inTime setup delay then some (relayed response) else none
        events := [started]
        sent := some message }
  | .silent => { response := none, events := [started], sent := some message }

/-- The innermost handler. -/
def handle (setup : Setup) (server : OriginServer) (nonce : Option Nonce) : Handler :=
  fun request =>
    if request.target.path = healthPath then .ofResponse (healthResponse request.method)
    else
      match setup.origin with
      | some authority => forward setup authority server nonce request
      | none => .ofResponse (.html 200 (Page.demoPage nonce request.target.path))

/-! ## Policies on the answer of a handler -/

/-- A filter passes over an exempted path. -/
def skipEvent (part name path : String) : Log.Event where
  level := .debug
  target := Log.targetOf part
  message := "Skipping " ++ name ++ " header for exempted path"
  values := [("path", .shown path)]

/-- The embedder policy on an answer. -/
def embed (policy : EmbedderPolicy) (path : String) (response : Response) :
    Response × List Log.Event :=
  ({ response with fields := policy.apply path response.fields },
    if policy.isExempted path then [skipEvent "security::coep" "COEP" path] else [])

/-- The opener policy on an answer. -/
def openWith (policy : OpenerPolicy) (path : String) (response : Response) :
    Response × List Log.Event :=
  ({ response with fields := policy.apply path response.fields },
    if policy.isExempted path then [skipEvent "security::coop" "COOP" path] else [])

/-- The text of a content policy is no field value. -/
def invalidPolicyEvent : Log.Event where
  level := .error
  target := Log.targetOf "security::csp"
  message := "Invalid CSP header value"
  values := [("error", .shown "failed to parse header value")]

/-- The content policy on an answer. -/
def restrict (policy : ContentPolicy) (nonce : Nonce) (response : Response) :
    Response × List Log.Event :=
  match policy.addTo? nonce response.fields with
  | some fields => ({ response with fields := fields }, [])
  | none => (response, [invalidPolicyEvent])

/-- The policies around a handler. The handler knows the nonce when there is a content policy. -/
def isolate (snapshot : Snapshot) (nonce : Nonce) (inner : Option Nonce → Handler) : Handler :=
  fun request =>
    let path := request.target.path
    let outcome := inner (snapshot.content.map fun _ => nonce) request
    let outcome := outcome.andThen (embed snapshot.embedder path)
    let outcome :=
      match snapshot.opener with
      | some policy => outcome.andThen (openWith policy path)
      | none => outcome
    match snapshot.content with
    | some policy => outcome.andThen (restrict policy nonce)
    | none => outcome

/-! ## The outer layers -/

/-- The request says that its body is too long. -/
def isTooLong (setup : Setup) (request : Request) : Bool :=
  match statedLength? request.fields with
  | some n => setup.maxBodyBytes < n
  | none => false

/-- The answer to a request whose body is too long. -/
def tooLongResponse : Response := .plain 413 "length limit exceeded"

/-- Requests that are too long are refused. -/
def limitBody (setup : Setup) (inner : Handler) : Handler := fun request =>
  if isTooLong setup request then .ofResponse tooLongResponse else inner request

/-- The answer to a request that takes too long. -/
def lateResponse : Response := .bare 408

/-- Requests that take too long are answered. -/
def limitTime (inner : Handler) : Handler := fun request =>
  let outcome := inner request
  { outcome with response := some (outcome.response.getD lateResponse) }

/-- The answer to a rejected request. -/
def rejectedResponse : Response := .plain 403 "Cross-site request rejected"

/-- A request is rejected. -/
def rejectionEvent (path : String) (m : FetchMetadata) : Log.Event where
  level := .warn
  target := Log.targetOf "security::fetch_metadata"
  message := "Rejected cross-site request"
  values := [("path", .shown path), ("method", .shown m.method),
    ("site", .shown (Text.quotedOption m.site)), ("mode", .shown (Text.quotedOption m.mode)),
    ("dest", .shown (Text.quotedOption m.dest))]

/-- The decision on a request. -/
def decide (filter : FetchMetadataFilter) (request : Request) : Decision :=
  filter.judge request.target.path (.ofRequest request.fields request.method)

/-- The filter by Fetch Metadata around the inner layers. -/
def guardWith (filter : FetchMetadataFilter) (inner : Handler) : Handler := fun request =>
  let outcome : Outcome :=
    match decide filter request with
    | .allow => inner request
    | .reject =>
        { response := some rejectedResponse
          events := [rejectionEvent request.target.path
            (.ofRequest request.fields request.method)] }
  { outcome.map fun response => { response with fields := Policy.addVary response.fields } with
    decision := some (decide filter request) }

/-- The filter by Fetch Metadata, if it is on. -/
def guardIfOn (snapshot : Snapshot) (inner : Handler) : Handler :=
  match snapshot.fetchMetadata with
  | some filter => guardWith filter inner
  | none => inner

/-- The request with an id. -/
def identified (requestId : FieldValue) (request : Request) : Request :=
  { request with fields := request.fields.setIfAbsent .requestId requestId }

/-- The answer with the id of its request. -/
def correlated (request : Request) (response : Response) : Response :=
  match request.fields.get? .requestId with
  | some id => { response with fields := response.fields.setIfAbsent .requestId id }
  | none => response

@[simp] theorem status_correlated (request : Request) (response : Response) :
    (correlated request response).status = response.status := by
  unfold correlated
  split <;> rfl

@[simp] theorem body_correlated (request : Request) (response : Response) :
    (correlated request response).body = response.body := by
  unfold correlated
  split <;> rfl

@[simp] theorem sized_correlated (request : Request) (response : Response) :
    (correlated request response).sized = response.sized := by
  unfold correlated
  split <;> rfl

theorem values_correlated_of_ne {name : FieldName} (h : name ≠ .requestId) (request : Request)
    (response : Response) :
    (correlated request response).fields.values name = response.fields.values name := by
  unfold correlated
  split
  · exact Fields.values_setIfAbsent_of_ne h _ _
  · rfl

/-- The request gets an id, and so does its answer. -/
def identify (requestId : FieldValue) (inner : Handler) : Handler := fun request =>
  let request := identified requestId request
  (inner request).map (correlated request)

/-- The methods that the health path answers, for a request with another one. -/
def allowedMethods : FieldValue := .ofAscii "GET,HEAD"

/-- The fields that describe how an answer is sent: the methods of the health path, and the length
of the body where it is known. -/
def describeBody (request : Request) (response : Response) : Fields :=
  let fields :=
    if request.target.path = healthPath ∧ ¬ isHealthMethod request.method then
      response.fields.setIfAbsent .allow allowedMethods
    else response.fields
  if response.sized then fields.setIfAbsent .contentLength (.ofNat response.body.length) else fields

theorem values_describeBody {name : FieldName} (hlength : name ≠ .contentLength)
    (request : Request) (response : Response) :
    (describeBody request response).values name =
      (if request.target.path = healthPath ∧ ¬ isHealthMethod request.method then
        response.fields.setIfAbsent .allow allowedMethods
      else response.fields).values name := by
  unfold describeBody
  dsimp only
  split
  · exact Fields.values_setIfAbsent_of_ne hlength _ _
  · rfl

theorem values_describeBody_of_ne {name : FieldName} (hallow : name ≠ .allow)
    (hlength : name ≠ .contentLength) (request : Request) (response : Response) :
    (describeBody request response).values name = response.fields.values name := by
  rw [values_describeBody hlength]
  split
  · exact Fields.values_setIfAbsent_of_ne hallow _ _
  · rfl

/-- The answer as it is sent. A successful answer to `CONNECT` has no body and says nothing about
one; an answer to `HEAD` has no body but says how long it would be. -/
def finish (request : Request) (response : Response) : Response :=
  if request.method = .connect ∧ response.isSuccess then { response with body := [] }
  else
    { response with
      fields := describeBody request response
      body := if request.method = .head then [] else response.body
      sized := request.method == .head || response.sized }

@[simp] theorem status_finish (request : Request) (response : Response) :
    (finish request response).status = response.status := by
  unfold finish
  split <;> rfl

theorem values_finish_of_ne {name : FieldName} (hallow : name ≠ .allow)
    (hlength : name ≠ .contentLength) (request : Request) (response : Response) :
    (finish request response).fields.values name = response.fields.values name := by
  unfold finish
  split
  · rfl
  · exact values_describeBody_of_ne hallow hlength request response

/-- All layers inside the one that gives ids. -/
def layers (setup : Setup) (snapshot : Snapshot) (server : OriginServer) (nonce : Nonce) :
    Handler :=
  guardIfOn snapshot (limitTime (limitBody setup (isolate snapshot nonce (handle setup server))))

/-- What comes of a request. -/
def answer (setup : Setup) (snapshot : Snapshot) (server : OriginServer) (fresh : Fresh) :
    Handler := fun request =>
    (identify fresh.requestId (layers setup snapshot server fresh.nonce) request).map
      (finish request)

end IsolationGate.Gateway
