import IsolationGate.Datum
import IsolationGate.Log.Event

/-!
# How events are written

In the plain form an event is one line: its level, its part of the program, the message and the
values. In the JSON form it is a record in which the message is one of the values.
-/

namespace IsolationGate.Log

/-- A value in a line. -/
def Value.inLine : Value → String
  | text s => IsolationGate.Text.quoted s
  | other => other.toText

/-- An event as a line. -/
def Event.toLine (e : Event) : String :=
  e.level.word ++ " " ++ e.target ++ ": " ++ e.message ++
    String.join (e.values.map fun value => " " ++ value.1 ++ "=" ++ value.2.inLine)

/-- A value as a datum. -/
def Value.toDatum : Value → Datum
  | shown s | text s => .text s
  | number n => .integer n
  | boolean b => .boolean b

/-- An event as a record. -/
def Event.toRecord (e : Event) : Datum :=
  .record [("level", .text e.level.word), ("target", .text e.target),
    ("fields", .record (("message", .text e.message) ::
      e.values.map fun value => (value.1, value.2.toDatum)))]

end IsolationGate.Log
