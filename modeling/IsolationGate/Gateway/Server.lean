import IsolationGate.Config.Load
import IsolationGate.Gateway.Answer
import IsolationGate.Gateway.Counters

/-!
# The running gateway

A gateway starts from one configuration. Its setup stays that of this configuration; its filters are
replaced, all at once, by those of every later configuration that filters can be built from. A
configuration that none can be built from changes nothing.
-/

namespace IsolationGate.Gateway

open Config (Violation)
open Http (Authority Request)

/-- The server behind the gateway that a configuration names. -/
def originOf (c : Config.Origin) : Except Violation (Option Authority) :=
  match c.address with
  | none => .ok none
  | some address =>
      match Authority.ofText? address with
      | some authority => .ok (some authority)
      | none => .error (.origin address)

/-- The setup of a configuration. -/
def Setup.ofConfig (c : Config) : Except Violation Setup :=
  (originOf c.origin).map fun origin => ⟨origin, c.timeouts.requestSecs, c.limits.maxBodyBytes⟩

/-- A running gateway. -/
structure Server where
  /-- The configuration that it started from. -/
  config : Config
  setup : Setup
  /-- The filters that requests read now. -/
  live : Snapshot
  counters : Counters := {}
  deriving Repr, DecidableEq

/-- A request that arrives, with what is drawn for it and what the server behind the gateway makes
of it. -/
structure Visit where
  request : Request
  behind : OriginServer
  fresh : Fresh

/-- A visit when it is over: the filters that were live, and what came of it. -/
structure Visited where
  visit : Visit
  live : Snapshot
  outcome : Outcome

/-- What a gateway is given. -/
inductive Input where
  | visit (visit : Visit)
  | reload (config : Config)

namespace Server

/-- The gateway of a configuration. -/
def start (c : Config) : Except Violation Server := do
  let live ← Snapshot.ofConfig c
  let setup ← Setup.ofConfig c
  .ok { config := c, setup := setup, live := live }

/-- A gateway starts when its configuration has both filters and a setup. -/
theorem start_eq_ok_iff {c : Config} {server : Server} :
    start c = .ok server ↔
      Snapshot.ofConfig c = .ok server.live ∧ Setup.ofConfig c = .ok server.setup ∧
        server.config = c ∧ server.counters = {} := by
  rw [start]
  cases hlive : Snapshot.ofConfig c with
  | error violation => simp [bind, Except.bind]
  | ok live =>
      cases hsetup : Setup.ofConfig c with
      | error violation => simp [bind, Except.bind]
      | ok setup =>
          cases server
          simp only [bind, Except.bind, Except.ok.injEq, mk.injEq]
          constructor
          · rintro ⟨rfl, rfl, rfl, rfl⟩
            exact ⟨rfl, rfl, rfl, rfl⟩
          · rintro ⟨rfl, rfl, rfl, rfl⟩
            exact ⟨rfl, rfl, rfl, rfl⟩

/-- A gateway that does not start lacks filters or a setup, and says why. -/
theorem error_of_start {c : Config} {violation : Violation} (h : start c = .error violation) :
    Snapshot.ofConfig c = .error violation ∨ Setup.ofConfig c = .error violation := by
  rw [start] at h
  cases hlive : Snapshot.ofConfig c with
  | error other =>
      rw [hlive] at h
      exact .inl (congrArg Except.error (Except.error.inj h))
  | ok live =>
      cases hsetup : Setup.ofConfig c with
      | error other =>
          rw [hlive, hsetup] at h
          exact .inr (congrArg Except.error (Except.error.inj h))
      | ok setup =>
          rw [hlive, hsetup] at h
          cases h

/-- A gateway starts with the filters of its configuration. -/
theorem ofConfig_of_start {c : Config} {server : Server} (h : start c = .ok server) :
    Snapshot.ofConfig c = .ok server.live ∧ server.config = c :=
  ⟨(start_eq_ok_iff.1 h).1, (start_eq_ok_iff.1 h).2.2.1⟩

/-- The outcome of a request, and the gateway after it. -/
def request (server : Server) (behind : OriginServer) (fresh : Fresh) (request : Request) :
    Server × Outcome :=
  let outcome := answer server.setup server.live behind fresh request
  match outcome.decision with
  | some decision => ({ server with counters := server.counters.record decision }, outcome)
  | none => (server, outcome)

/-- What comes of a new configuration. -/
structure Reload where
  applied : Bool
  events : List Log.Event
  deriving Repr, DecidableEq

/-- The part of the program that serves. -/
def serverTarget : String := Log.targetOf "http::server"

/-- An event of the server. -/
def serverEvent (level : Log.Level) (message : String) (values : List (String × Log.Value)) :
    Log.Event := ⟨level, serverTarget, message, values⟩

/-- A new configuration differs in what only a restart can change. -/
def needsRestart (server : Server) (c : Config) : Bool :=
  c.listener.bindAddress != server.config.listener.bindAddress ||
    c.origin.address != server.config.origin.address

/-- The warning about a restart, if it is due. -/
def restartEvents (server : Server) (c : Config) : List Log.Event :=
  if server.needsRestart c then
    [serverEvent .warn "Listener and upstream changes take effect after restart" []]
  else []

/-- The gateway after a new configuration. -/
def reload (server : Server) (c : Config) : Server × Reload :=
  match Snapshot.ofConfig c with
  | .ok snapshot =>
      ({ server with live := snapshot },
        ⟨true, server.restartEvents c ++ [serverEvent .info "Security filters reloaded" []]⟩)
  | .error violation =>
      (server,
        ⟨false, server.restartEvents c ++
          [serverEvent .error "Rejected reloaded config"
            [("error", .shown (Config.LoadError.message (.invalid [violation])))]]⟩)

/-- Filters that can be built replace the live ones, all at once. -/
theorem reload_of_ok {c : Config} {next : Snapshot} (h : Snapshot.ofConfig c = .ok next)
    (server : Server) :
    (server.reload c).1 = { server with live := next } ∧ (server.reload c).2.applied = true := by
  rw [reload, h]
  exact ⟨rfl, rfl⟩

/-- A configuration without filters changes nothing. -/
theorem reload_of_error {c : Config} {violation : Violation}
    (h : Snapshot.ofConfig c = .error violation) (server : Server) :
    (server.reload c).1 = server ∧ (server.reload c).2.applied = false := by
  rw [reload, h]
  exact ⟨rfl, rfl⟩

/-! ## Runs -/

/-- The gateway after an input, and the visit that it was. -/
def take (server : Server) : Input → Server × Option Visited
  | .visit visit =>
      let (next, outcome) := server.request visit.behind visit.fresh visit.request
      (next, some ⟨visit, server.live, outcome⟩)
  | .reload config => ((server.reload config).1, none)

/-- The gateway after a run, and its visits in their order. -/
def run (server : Server) : List Input → Server × List Visited
  | [] => (server, [])
  | input :: rest =>
      let (next, visited) := server.take input
      let (final, more) := next.run rest
      (final, visited.toList ++ more)

theorem run_cons (server : Server) (input : Input) (rest : List Input) :
    server.run (input :: rest) =
      (((server.take input).1.run rest).1,
        (server.take input).2.toList ++ ((server.take input).1.run rest).2) := rfl

theorem run_append (server : Server) (inputs more : List Input) :
    server.run (inputs ++ more) =
      (((server.run inputs).1.run more).1,
        (server.run inputs).2 ++ ((server.run inputs).1.run more).2) := by
  induction inputs generalizing server with
  | nil => rfl
  | cons input rest ih =>
      rw [List.cons_append, run_cons, run_cons, ih, List.append_assoc]

/-! ## Events -/

/-- The gateway listens. -/
def startedEvent (secure : Bool) (address : String) : Log.Event :=
  serverEvent .info (if secure then "HTTPS server starting" else "HTTP server starting")
    [("address", .shown address)]

/-- The gateway has been told to stop, and has stopped. -/
def stoppedEvents (secure : Bool) : List Log.Event :=
  [serverEvent .info "Shutdown signal received" [],
    serverEvent .info (if secure then "HTTPS server stopped" else "HTTP server stopped") []]

end Server

end IsolationGate.Gateway
