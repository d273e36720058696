import IsolationGate.Policy.ExemptedPaths

/-!
# Configuration

What can be configured, section by section, with the value that each setting has when nothing is
said about it. A `Config` need not make sense as a whole: which ones do is said in
`IsolationGate.Config.Violation`.
-/

namespace IsolationGate

namespace Config

open Policy (ExemptedPaths)

/-- The files of a certificate and its private key. -/
structure Certificate where
  certPath : String
  keyPath : String
  deriving Repr, DecidableEq

/-- Where the gateway listens, and whether with a certificate. -/
structure Listener where
  bindAddress : String := "0.0.0.0:8080"
  tls : Option Certificate := none
  deriving Repr, DecidableEq

/-- The server behind the gateway. Without an address the gateway shows a page of its own. -/
structure Origin where
  address : Option String := none
  deriving Repr, DecidableEq

/-- How long a request may take. -/
structure Timeouts where
  requestSecs : Nat := 30
  deriving Repr, DecidableEq

/-- How large a request may be. -/
structure Limits where
  maxBodyBytes : Nat := 2 * 1024 * 1024
  deriving Repr, DecidableEq

/-- The filter by Fetch Metadata. -/
structure FetchMetadata where
  enabled : Bool := true
  exemptedPaths : ExemptedPaths := .empty
  deriving Repr, DecidableEq

/-- The opener policy. Its mode is any text until the configuration is checked. -/
structure Opener where
  enabled : Bool := true
  mode : String := "same-origin"
  exemptedPaths : ExemptedPaths := .empty
  deriving Repr, DecidableEq

/-- The embedder policy. -/
structure Embedder where
  disabled : Bool := false
  enforcing : Bool := true
  reportUri : String := "/coep-reports"
  exemptedPaths : ExemptedPaths := .empty
  deriving Repr, DecidableEq

/-- The content policy. -/
structure Content where
  enabled : Bool := true
  reportOnly : Bool := false
  reportUri : Option String := none
  deriving Repr, DecidableEq

/-- How log lines are written. -/
inductive LogFormat where
  | pretty
  | json
  deriving Repr, DecidableEq

/-- The word for a format. -/
def LogFormat.word : LogFormat → String
  | pretty => "pretty"
  | json => "json"

/-- The format of a word. -/
def LogFormat.ofWord? (s : String) : Option LogFormat :=
  if s = "pretty" then some pretty else if s = "json" then some json else none

theorem LogFormat.ofWord?_word (f : LogFormat) : ofWord? f.word = some f := by
  cases f <;> rfl

/-- What the gateway tells about itself. -/
structure Observability where
  logLevel : String := "info"
  logFormat : LogFormat := .pretty
  metricsEnabled : Bool := false
  metricsAddress : String := "0.0.0.0:9090"
  deriving Repr, DecidableEq

end Config

/-- The configuration of a gateway. -/
structure Config where
  listener : Config.Listener := {}
  origin : Config.Origin := {}
  timeouts : Config.Timeouts := {}
  limits : Config.Limits := {}
  fetchMetadata : Config.FetchMetadata := {}
  opener : Config.Opener := {}
  embedder : Config.Embedder := {}
  content : Config.Content := {}
  observability : Config.Observability := {}
  deriving Repr, DecidableEq

instance : Inhabited Config := ⟨{}⟩

end IsolationGate
