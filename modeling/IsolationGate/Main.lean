import IsolationGate.Command.Run
import IsolationGate.Json.Writer
import IsolationGate.Log.Format

/-!
# The program

Arguments are read, files are looked at, and what a command prints is printed. Wrong usage ends with
the code 2, an error with the code 1. Serving goes as far as the start does without a network.
-/

namespace IsolationGate.Main

/-- What a file holds; nothing when it cannot be read. -/
def contentOf (path : String) : IO Lifecycle.FileContent := do
  try
    let bytes ← IO.FS.readBinFile path
    return some bytes.toList
  catch _ => return none

/-- What a configuration file holds, if one is named. -/
def configContent (path : Option String) : IO (Option Lifecycle.FileContent) :=
  match path with
  | some path => return some (← contentOf path)
  | none => return none

/-- The output of a command, or its error. -/
def report (result : Except Command.Failure Command.Output) : IO UInt32 := do
  match result with
  | .ok output =>
      IO.print output.stdout
      IO.eprint output.stderr
      return 0
  | .error failure =>
      IO.eprintln ("Error: " ++ failure.message)
      return 1

/-- A text holds one private key in the usual armour. -/
def holdsKey (content : Lifecycle.FileContent) : Bool :=
  match (content.bind Text.decode?).map fun text => text.splitOn "PRIVATE KEY-----" with
  | some parts => parts.length == 3
  | none => false

/-- What there is of the files of a certificate. -/
def certificateFiles (c : Option Config.Certificate) : IO Lifecycle.CertificateFiles := do
  match c with
  | none => return ⟨fun _ => false, fun _ => false⟩
  | some c =>
      let cert ← contentOf c.certPath
      let key ← contentOf c.keyPath
      return ⟨fun path => if path = c.certPath then cert.isSome else key.isSome,
        fun _ => holdsKey key⟩

/-- The start of the gateway, as far as it goes. -/
def serve (path : Option String) : IO UInt32 := do
  let content ← configContent path
  let program := Lifecycle.Program.start path content.join
  let files ← certificateFiles program.load.config.listener.tls
  let around : Lifecycle.Surroundings :=
    { listen := fun _ => .error "no network"
      serveMetrics := fun _ => .error "no network"
      certificates := files }
  let program := program.run around Lifecycle.Program.starting
  let filter := program.logFilter (← IO.getEnv "RUST_LOG")
  for event in program.events do
    if filter.passes event then
      match program.config.observability.logFormat with
      | .pretty => IO.println event.toLine
      | .json => IO.println (Json.render event.toRecord)
  match program.failure with
  | some error =>
      IO.eprintln ("Error: " ++ error.message)
      return 1
  | none => return 0

/-- What arguments ask for is done. -/
def run (arguments : List String) : IO UInt32 := do
  match Command.read arguments with
  | .wrongUsage => return 2
  | .help =>
      IO.println "Usage: isolation-gate [-c FILE] [serve | check-config | evaluate]"
      return 0
  | .version => report (.ok Command.versionOutput)
  | .run invocation =>
      match invocation.task with
      | .serve => serve invocation.config
      | .checkConfig => report (Command.checkConfig (← configContent invocation.config))
      | .evaluate query => report (Command.evaluate (← configContent invocation.config) query)

end IsolationGate.Main

/-- The program. -/
def main (arguments : List String) : IO UInt32 := IsolationGate.Main.run arguments
