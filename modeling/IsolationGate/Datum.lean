import IsolationGate.Number.Binary64

/-!
# Data without a schema

A configuration file and a JSON text both hold a tree of plain data. `Datum` is that tree: scalars,
lists and records. A record keeps its fields in the order in which they are visited. A moment (a
date or a time of day) and a list of tables that were given one by one come from configuration files
only, `null` from JSON only.
-/

namespace IsolationGate

/-- A tree of plain data. -/
inductive Datum where
  | null
  | boolean (value : Bool)
  | integer (value : Int)
  | real (value : Number.Binary64)
  | moment (text : String)
  | text (value : String)
  | list (items : List Datum)
  | tables (items : List Datum)
  | record (fields : List (String × Datum))
  deriving Repr

namespace Datum

instance : Inhabited Datum := ⟨.null⟩

/-- The value of a field of a record. -/
def field? (name : String) : Datum → Option Datum
  | .record fields => fields.lookup name
  | _ => none

end Datum

end IsolationGate
