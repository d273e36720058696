import IsolationGate.Command.Arguments
import IsolationGate.Lifecycle.Program

/-!
# What the commands print

`check-config` writes the configuration as a file again, and `evaluate` tells the decision on a
hypothetical request. Both load the configuration first; without a file it is the default one.
-/

namespace IsolationGate.Command

open Config (LoadError)
open Lifecycle (FileContent Program)
open Policy (FetchMetadata FetchMetadataFilter)

/-- What a command prints. -/
structure Output where
  stdout : String := ""
  stderr : String := ""
  deriving Repr, DecidableEq

/-- Why a command fails. -/
inductive Failure where
  | load (error : LoadError)
  /-- The configuration cannot be written as a file. -/
  | notWritable
  deriving Repr, DecidableEq

/-- The text of a failure. -/
def Failure.message : Failure → String
  | load error => error.message
  | notWritable => Config.tooLargeMessage

/-- The configuration of a command. -/
def loadConfig (file : Option FileContent) : Except LoadError Config :=
  match file with
  | some content => Config.loadFile content
  | none => .ok {}

/-- The output of `check-config`. -/
def checkConfig (file : Option FileContent) : Except Failure Output :=
  match loadConfig file with
  | .error error => .error (.load error)
  | .ok config =>
      match Config.render? config with
      | some text => .ok { stdout := text ++ "\n", stderr := "configuration OK\n" }
      | none => .error .notWritable

/-- What a hypothetical request says about itself. -/
def Query.metadata (q : Query) : FetchMetadata := ⟨q.site, q.mode, q.dest, q.method⟩

/-- The line that tells the decision on a request. -/
def verdict (config : Config) (q : Query) : String :=
  match Gateway.fetchMetadataOf config.fetchMetadata with
  | none => "allow (fetch_metadata filter disabled)"
  | some filter =>
      let word := (filter.judge q.path q.metadata).word
      if filter.exempted.contains q.path then word ++ " (exempted path)" else word

/-- The output of `evaluate`. -/
def evaluate (file : Option FileContent) (q : Query) : Except Failure Output :=
  match loadConfig file with
  | .error error => .error (.load error)
  | .ok config => .ok { stdout := verdict config q ++ "\n" }

/-- The output of a request for the version. -/
def versionOutput : Output := { stdout := Program.name ++ " " ++ Program.version ++ "\n" }

end IsolationGate.Command
