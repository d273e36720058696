import IsolationGate.Text.Quoted

/-!
# Log events

An event has a level, the part of the program that it comes from, a message and named values. The
parts of the program form a tree; an event names its part by the path from the root.
-/

namespace IsolationGate.Log

/-- How important an event is. -/
inductive Level where
  | error
  | warn
  | info
  | debug
  | trace
  deriving Repr, DecidableEq

/-- The word for a level. -/
def Level.word : Level → String
  | error => "ERROR"
  | warn => "WARN"
  | info => "INFO"
  | debug => "DEBUG"
  | trace => "TRACE"

/-- How much a filter at this level lets through. -/
def Level.rank : Level → Nat
  | error => 1
  | warn => 2
  | info => 3
  | debug => 4
  | trace => 5

/-- A value of an event. -/
inductive Value where
  /-- A text that is shown as it is. -/
  | shown (text : String)
  /-- A text that is quoted where values are written without quotes. -/
  | text (text : String)
  | number (n : Nat)
  | boolean (b : Bool)
  deriving Repr, DecidableEq

/-- The text of a value. -/
def Value.toText : Value → String
  | shown s | text s => s
  | number n => toString n
  | boolean b => toString b

/-- An event. -/
structure Event where
  level : Level
  target : String
  message : String
  values : List (String × Value) := []
  deriving Repr, DecidableEq

/-- The root of the tree of parts. -/
def rootTarget : String := "isolation_gate"

/-- A part below the root. -/
def targetOf (part : String) : String := rootTarget ++ "::" ++ part

end IsolationGate.Log
