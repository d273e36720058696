import IsolationGate.Gateway.Server

/-!
# Requests in flight

The live filters can be replaced while requests are on their way through the layers. Four layers
read them, one after the other and each for itself: the filter by Fetch Metadata, the content
policy, the opener policy and the embedder policy. A request that the outer layers answer themselves
does not get beyond the first reading.

`Traffic.act` is one reading of one request, or one new configuration; a run is a list of these in
any order. The filters that a request has read decide its outcome, and without a new configuration
between its readings they are the live ones.
-/

namespace IsolationGate.Gateway

open Http (Request)

/-- The layers outside the policies answer a request themselves. -/
def isStopped (setup : Setup) (guarding : Snapshot) (request : Request) : Bool :=
  isTooLong setup request ||
    guarding.fetchMetadata.any fun filter => decide filter request == .reject

/-- A request with the snapshots that its layers have read so far, in the order of the layers. -/
structure InFlight where
  request : Request
  fresh : Fresh
  read : List Snapshot := []
  deriving Repr

namespace InFlight

/-- A layer of the request has not read its filters yet. -/
def isReading (r : InFlight) (setup : Setup) : Bool :=
  match r.read with
  | [guarding] => !isStopped setup guarding r.request
  | read => read.length < 4

/-- The next layer reads the live filters. -/
def readNext (r : InFlight) (setup : Setup) (live : Snapshot) : InFlight :=
  if r.isReading setup then { r with read := r.read ++ [live] } else r

/-- The filters of a request, once all its layers have read theirs. -/
def filters? (r : InFlight) (setup : Setup) : Option Snapshot :=
  match r.read with
  | [guarding] => if isStopped setup guarding r.request then some guarding else none
  | [guarding, restricting, opening, embedding] =>
      some (.mixed guarding restricting opening embedding)
  | _ => none

/-- What comes of a request, once all its layers have read their filters. -/
def outcome? (r : InFlight) (setup : Setup) (behind : OriginServer) : Option Outcome :=
  (r.filters? setup).map fun filters => answer setup filters behind r.fresh r.request

end InFlight

/-- A gateway with the requests that are on their way. -/
structure Traffic where
  server : Server
  requests : List InFlight := []
  deriving Repr

namespace Traffic

/-- A gateway without requests. -/
def start (server : Server) : Traffic := { server := server }

/-- Something that happens. -/
inductive Action where
  /-- A request arrives. -/
  | arrive (request : Request) (fresh : Fresh)
  /-- The next layer of a request reads the live filters. -/
  | read (place : Nat)
  /-- A new configuration arrives. -/
  | reload (config : Config)

/-- The traffic after something has happened. -/
def act (t : Traffic) : Action → Traffic
  | .arrive request fresh =>
      { t with requests := t.requests ++ [{ request := request, fresh := fresh }] }
  | .read place =>
      { t with
        requests := t.requests.modify place fun r =>
          r.readNext t.server.setup t.server.live }
  | .reload config => { t with server := (t.server.reload config).1 }

/-- The traffic after a run. -/
def run (t : Traffic) (actions : List Action) : Traffic := actions.foldl act t

end Traffic

/-- A request whose layers read without a pause reads the live filters. -/
theorem InFlight.filters?_undisturbed (request : Request) (fresh : Fresh) (setup : Setup)
    (live : Snapshot) :
    let first : InFlight := { request := request, fresh := fresh }
    ((List.replicate 4 live).foldl (fun r => InFlight.readNext r setup) first).filters? setup =
      some live := by
  cases hstopped : isStopped setup live request with
  | true => simp [List.replicate, readNext, isReading, filters?, hstopped]
  | false => simp [List.replicate, readNext, isReading, filters?, hstopped]

end IsolationGate.Gateway
