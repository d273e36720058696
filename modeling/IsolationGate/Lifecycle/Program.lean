import IsolationGate.Gateway.Server
import IsolationGate.Lifecycle.StartError
import IsolationGate.Lifecycle.Watch
import IsolationGate.Log.Filter

/-!
# The life of the program

The program loads its configuration, starts to watch the file, remembers the text that it finds
there, starts the loop that watches, builds the gateway and listens. From then on updates of the
loop are applied one by one, until a signal ends the program.

Others may change the file between any two of these steps, and once watching has started each change
queues an event, sooner or later. A run is therefore a list of actions, of the program and of
others, in any order; `Program.act` is one of them.
-/

namespace IsolationGate.Lifecycle

open Gateway (Server)

/-- What the program finds around it. -/
structure Surroundings where
  /-- Listening on an address: the address that is shown, or why it fails. -/
  listen : String → Except String String
  /-- Serving metrics on an address, or why it fails. -/
  serveMetrics : String → Except String Unit
  certificates : CertificateFiles

/-- How far the program has come. -/
inductive Stage where
  | starting
  /-- The configuration is loaded. -/
  | loaded
  /-- Changes of the file queue events. -/
  | registered
  /-- The text of the file is remembered. -/
  | remembering
  /-- The loop that watches runs, or there is nothing to watch. -/
  | watching
  /-- The gateway is built. -/
  | built
  /-- The gateway serves and applies updates. -/
  | serving
  /-- The program has ended. -/
  | ended
  deriving Repr, DecidableEq

/-- The program while it runs. -/
structure Program where
  /-- The path of the configuration file, if one is named. -/
  path : Option String
  /-- What the file holds. -/
  content : FileContent
  stage : Stage := .starting
  config : Config := {}
  /-- The loop that watches the file, if there is one. -/
  watch : Option Watch := none
  server : Option Server := none
  /-- Updates that were sent and not yet applied, the oldest first. -/
  updates : List Update := []
  events : List Log.Event := []
  failure : Option StartError := none
  deriving Repr, DecidableEq

namespace Program

/-- The version of the program. -/
def version : String := "0.1.0"

/-- The name of the program. -/
def name : String := "isolation-gate"

/-- The program before its first step, with a configuration file or with none. -/
def start (path : Option String) (content : FileContent) : Program :=
  { path := path, content := content }

/-- More events. -/
def log (p : Program) (events : List Log.Event) : Program := { p with events := p.events ++ events }

/-- The program ends with an error. -/
def fail (p : Program) (error : StartError) : Program :=
  { p with stage := .ended, failure := some error }

/-! ## Events -/

/-- The part of the program that starts it. -/
def startupTarget : String := Log.targetOf "lifecycle::startup"

/-- An event of the start. -/
def startupEvent (message : String) (values : List (String × Log.Value)) : Log.Event :=
  ⟨.info, startupTarget, message, values⟩

/-- What the configuration says, in short. -/
def configEvent (c : Config) : Log.Event :=
  startupEvent "Configuration loaded"
    [("bind_address", .shown c.listener.bindAddress),
      ("tls", .boolean c.listener.tls.isSome),
      ("upstream", .shown (Text.quotedOption c.origin.address)),
      ("fetch_metadata", .boolean c.fetchMetadata.enabled),
      ("exempted_paths", .number c.fetchMetadata.exemptedPaths.size),
      ("coop_mode", .shown c.opener.mode),
      ("coep_enforcing", .boolean c.embedder.enforcing)]

/-- Metrics are served, or not. -/
def metricsEvent (address : Net.SocketAddress) : Except String Unit → Log.Event
  | .ok () =>
      ⟨.info, Log.targetOf "observability::metrics", "Metrics endpoint listening",
        [("address", .shown address.toText)]⟩
  | .error cause =>
      ⟨.error, startupTarget, "Failed to start metrics endpoint", [("error", .shown cause)]⟩

/-- There is nothing to watch. -/
def unwatchedEvent : Log.Event :=
  ⟨.warn, startupTarget, "Config hot reload unavailable", [("error", .shown Watch.noFileName)]⟩

/-- A signal ends the program. -/
def signalEvent : Log.Event :=
  ⟨.info, Log.targetOf "lifecycle::signals", "Shutdown signal received", []⟩

/-! ## Starting -/

/-- The configuration is loaded; without a file it is the default one. -/
def load (p : Program) : Program :=
  match (if p.path.isSome then Config.loadFile p.content else .ok {}) with
  | .error error => p.fail (.config error)
  | .ok config => { p with stage := .loaded, config := config }

/-- The log starts, and metrics if they are wanted. -/
def announce (around : Surroundings) (p : Program) : Program :=
  let p := p.log [startupEvent (name ++ " starting") [("version", .text version)],
    configEvent p.config]
  if p.config.observability.metricsEnabled then
    match parseAddress p.config.observability.metricsAddress with
    | .ok address => p.log [metricsEvent address (around.serveMetrics address.toText)]
    | .error error => p.fail error
  else p

/-- Changes of the file queue events from now on. -/
def register (p : Program) : Program :=
  match p.path with
  | none => { p with stage := .watching }
  | some path =>
      if (Watch.fileName? path).isSome then
        { p with stage := .registered, watch := some { path := path, remembered := none } }
      else { p.log [unwatchedEvent] with stage := .watching }

/-- The text of the file is remembered. -/
def remember (p : Program) : Program :=
  { p with
    stage := .remembering
    watch := p.watch.map fun w => { w with remembered := Watch.readable p.content } }

/-- The loop that watches starts. -/
def spawn (p : Program) : Program :=
  { p.log (p.watch.toList.map Watch.startedEvent) with stage := .watching }

/-- The gateway is built. -/
def build (p : Program) : Program :=
  match Server.start p.config with
  | .ok server => { p with stage := .built, server := some server }
  | .error violation => p.fail (.config (.invalid [violation]))

/-- The gateway listens, with a certificate or without. -/
def listen (around : Surroundings) (p : Program) : Program :=
  let address := p.config.listener.bindAddress
  match p.config.listener.tls with
  | none =>
      match around.listen address with
      | .ok shown => { p.log [Server.startedEvent false shown] with stage := .serving }
      | .error cause => p.fail (.system cause)
  | some certificate =>
      match checkCertificate around.certificates certificate, parseAddress address with
      | .error error, _ => p.fail error
      | .ok (), .error error => p.fail error
      | .ok (), .ok parsed =>
          let p := p.log [Server.startedEvent true parsed.toText]
          match around.listen address with
          | .ok _ => { p with stage := .serving }
          | .error cause => p.fail (.system cause)

/-- The next step of the start. -/
def advance (around : Surroundings) (p : Program) : Program :=
  match p.stage with
  | .starting =>
      let p := p.load
      if p.stage = .loaded then p.announce around else p
  | .loaded => p.register
  | .registered => p.remember
  | .remembering => p.spawn
  | .watching => p.build
  | .built => p.listen around
  | .serving | .ended => p

/-! ## Running -/

/-- The loop that watches has started. -/
def isWatching (p : Program) : Bool :=
  p.stage == .watching || p.stage == .built || p.stage == .serving

/-- A step of the loop that watches. -/
def watchStep (p : Program) : Program :=
  match p.watch with
  | some w =>
      if p.isWatching then
        let progress := w.advance p.content
        { p.log progress.events with
          watch := some progress.watch
          updates := p.updates ++ progress.update.toList }
      else p
  | none => p

/-- The gateway applies the oldest update. -/
def applyUpdate (p : Program) : Program :=
  match p.server, p.updates with
  | some server, update :: rest =>
      if p.stage = .serving then
        let reloaded := server.reload update.config
        { p.log reloaded.2.events with server := some reloaded.1, updates := rest }
      else p
  | _, _ => p

/-- A signal ends the program, if it serves. -/
def stop (p : Program) : Program :=
  if p.stage = .serving then
    { p.log (signalEvent :: Server.stoppedEvents p.config.listener.tls.isSome ++
        [startupEvent "Shutdown complete" []]) with stage := .ended }
  else p

/-- Something that happens. -/
inductive Action where
  /-- The file gets a new content. -/
  | write (bytes : List UInt8)
  /-- The file is removed. -/
  | remove
  /-- The event of a change is queued. -/
  | deliver
  /-- The start takes a step. -/
  | start
  /-- The loop that watches takes a step. -/
  | watch
  /-- The gateway applies an update. -/
  | update
  /-- A signal arrives. -/
  | signal
  deriving Repr, DecidableEq

/-- The program after something has happened. -/
def act (around : Surroundings) (p : Program) : Action → Program
  | .write bytes => { p with content := some bytes, watch := p.watch.map Watch.noteChange }
  | .remove => { p with content := none }
  | .deliver => { p with watch := p.watch.map Watch.deliver }
  | .start => p.advance around
  | .watch => p.watchStep
  | .update => p.applyUpdate
  | .signal => p.stop

/-- The program after a run. -/
def run (around : Surroundings) (p : Program) (actions : List Action) : Program :=
  actions.foldl (act around) p

/-- The whole start, undisturbed. -/
def starting : List Action := List.replicate 6 .start

/-- The loop and the gateway deal with a change of the file. -/
def settling : List Action := .deliver :: List.replicate 4 .watch ++ [.update]

/-- The filter of the log. -/
def logFilter (p : Program) (environment : Option String) : Log.Filter :=
  Log.runFilter environment p.config.observability.logLevel

end Program

end IsolationGate.Lifecycle
