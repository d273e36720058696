import IsolationGate.Config.Load
import IsolationGate.Log.Event
import IsolationGate.Text.Segments

/-!
# Watching the configuration file

Each change of the watched file queues an event, sooner or later. The loop takes one event, waits a
moment, empties the queue, reads the file and compares its text with the one that it remembers. A
new text that is a valid configuration is remembered and sent on; one that is not, an unchanged text
and an unreadable file leave everything as it was.

`Watch.advance` is one step of the loop. The file and the queue may change between any two steps, so
the file is an argument of each step, and `noteChange` and `deliver` may come at any time.
-/

namespace IsolationGate.Lifecycle

open Config (LoadError)

/-- What a file holds; nothing for a file that does not exist. -/
abbrev FileContent := Option (List UInt8)

/-- How far the loop is with an event. -/
inductive WatchPhase where
  /-- It waits for an event. -/
  | waiting
  /-- It has taken an event. -/
  | woken
  /-- It has emptied the queue. -/
  | drained
  /-- It has read the file. -/
  | holding (content : FileContent)
  deriving Repr, DecidableEq

/-- The state of the loop. -/
structure Watch where
  /-- The path of the file, as the log shows it. -/
  path : String
  /-- The text that changes are told from. -/
  remembered : Option String
  /-- The number of changes whose event is not queued yet. -/
  undelivered : Nat := 0
  /-- The number of queued events. -/
  queued : Nat := 0
  phase : WatchPhase := .waiting
  deriving Repr, DecidableEq

/-- A configuration that the loop sends on, with its text. -/
structure Update where
  text : String
  config : Config
  deriving Repr, DecidableEq

namespace Watch

/-! ## The watched path -/

/-- The steps of a path; those that stay where they are do not count. -/
def pathSteps (path : String) : List String :=
  ((Text.segments '/' path.toList).filter fun part => part ≠ [] ∧ part ≠ ['.']).map String.ofList

/-- The name of the file at a path. -/
def fileName? (path : String) : Option String :=
  match (pathSteps path).getLast? with
  | some ".." => none
  | other => other

/-- Why a path cannot be watched. -/
def noFileName : String := "config path has no file name"

/-! ## Steps -/

/-- The text of a file, if there is one. -/
def readable (content : FileContent) : Option String := (Config.readFile content).toOption

/-- The loop at its start: it remembers what the file holds. -/
def start (path : String) (content : FileContent) : Watch :=
  { path := path, remembered := readable content }

/-- The file has changed. -/
def noteChange (w : Watch) : Watch := { w with undelivered := w.undelivered + 1 }

/-- The event of a change is queued. -/
def deliver (w : Watch) : Watch :=
  if w.undelivered = 0 then w
  else { w with undelivered := w.undelivered - 1, queued := w.queued + 1 }

/-- The part of the program that watches. -/
def target : String := Log.targetOf "config::watcher"

/-- An event about the file. -/
def fileEvent (w : Watch) (level : Log.Level) (message : String) : Log.Event where
  level := level
  target := target
  message := message
  values := [("path", .shown w.path)]

/-- Watching starts. -/
def startedEvent (w : Watch) : Log.Event := w.fileEvent .info "Config watcher started"

/-- The file cannot be read. -/
def unreadableEvent (w : Watch) (cause : String) : Log.Event where
  level := .warn
  target := target
  message := "Config file unreadable, keeping current configuration"
  values := [("error", .shown cause), ("path", .shown w.path)]

/-- The text is no valid configuration. -/
def refusedEvent (error : LoadError) : Log.Event where
  level := .error
  target := target
  message := "Failed to reload config, keeping current configuration"
  values := [("error", .shown error.message)]

/-- Why a file was not read. -/
def causeOf : LoadError → String
  | .unreadable cause => cause
  | other => other.message

/-- What comes of a step. -/
structure Progress where
  watch : Watch
  update : Option Update := none
  events : List Log.Event := []
  deriving Repr, DecidableEq

/-- What the loop does with the content that it holds. -/
def conclude (w : Watch) (content : FileContent) : Progress :=
  let idle := { w with phase := .waiting }
  match Config.readFile content with
  | .error error => { watch := idle, events := [w.unreadableEvent (causeOf error)] }
  | .ok text =>
      if w.remembered = some text then
        { watch := idle, events := [w.fileEvent .debug "Config file unchanged"] }
      else
        match Config.load text with
        | .ok config =>
            { watch := { idle with remembered := some text }
              update := some ⟨text, config⟩
              events := [w.fileEvent .info "Config file changed, reloading"] }
        | .error error => { watch := idle, events := [refusedEvent error] }

/-- One step of the loop. -/
def advance (w : Watch) (content : FileContent) : Progress :=
  match w.phase with
  | .waiting =>
      if w.queued = 0 then { watch := w }
      else { watch := { w with queued := w.queued - 1, phase := .woken } }
  | .woken => { watch := { w with queued := 0, phase := .drained } }
  | .drained => { watch := { w with phase := .holding content } }
  | .holding held => w.conclude held

/-- The loop waits and nothing is queued. -/
def isIdle (w : Watch) : Bool := w.phase == .waiting && w.queued == 0

/-- The loop waits, and every change has been dealt with. -/
def isSettled (w : Watch) : Bool := w.isIdle && w.undelivered == 0

end Watch

/-! ## Runs -/

/-- A watched file with the loop that watches it. -/
structure WatchedFile where
  content : FileContent
  watch : Watch
  /-- The updates that were sent, the last one first. -/
  sent : List Update := []
  /-- The events so far, in their order. -/
  events : List Log.Event := []
  deriving Repr, DecidableEq

namespace WatchedFile

/-- A step of a run. -/
inductive Step where
  /-- The file gets a new content. -/
  | write (bytes : List UInt8)
  /-- The file is removed; that is no change to tell of. -/
  | remove
  /-- The event of a change is queued. -/
  | deliver
  /-- The loop takes a step. -/
  | advance
  deriving Repr, DecidableEq

/-- A file with a loop that starts to watch it. -/
def start (path : String) (content : FileContent) : WatchedFile :=
  let watch := Watch.start path content
  { content := content, watch := watch, events := [watch.startedEvent] }

/-- One step. -/
def step (f : WatchedFile) : Step → WatchedFile
  | .write bytes => { f with content := some bytes, watch := f.watch.noteChange }
  | .remove => { f with content := none }
  | .deliver => { f with watch := f.watch.deliver }
  | .advance =>
      let progress := f.watch.advance f.content
      { f with
        watch := progress.watch
        sent := progress.update.toList ++ f.sent
        events := f.events ++ progress.events }

/-- The file and the loop after a run. -/
def run (f : WatchedFile) (steps : List Step) : WatchedFile := steps.foldl step f

/-- The steps with which the loop deals with a change. -/
def settling : List Step := .deliver :: List.replicate 4 .advance

end WatchedFile

end IsolationGate.Lifecycle
