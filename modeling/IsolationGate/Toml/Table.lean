import IsolationGate.Datum

/-!
# Tables that grow

A configuration file gives its tables piece by piece. A growing table knows how it came about: by a
header of its own, as a step on the way to a deeper header, or by a dotted key. The rules on what
may be added later depend on that, and nothing is ever given twice.

Entries keep the order in which they were added.
-/

namespace IsolationGate.Toml

/-- How a table came about. -/
inductive TableOrigin where
  /-- By its own header. -/
  | header
  /-- On the way to a deeper header. -/
  | onTheWay
  /-- By a dotted key. -/
  | dottedKey
  deriving DecidableEq

/-- An entry of a growing table. -/
inductive Node where
  /-- A finished value. -/
  | value (datum : Datum)
  /-- A table. -/
  | table (origin : TableOrigin) (entries : List (String × Node))
  /-- A list of tables, of which the last one still grows. -/
  | tables (finished : List Node) (last : Node)

/-- The entries of a table. -/
abbrev Entries := List (String × Node)

/-- The value of a key changed, or added behind the others. -/
def alter (change : Option Node → Option Node) (key : String) : Entries → Option Entries
  | [] => (change none).map fun node => [(key, node)]
  | (other, node) :: rest =>
      if other = key then (change (some node)).map fun node => (other, node) :: rest
      else (alter change key rest).map ((other, node) :: ·)

/-! ## Keys with values -/

/-- A value for a dotted key. The table that gets it is one of dotted keys, or is made; a table with
a header of its own is not even passed through, but the last one of a list of tables may be. -/
def insertValue (datum : Datum) : List String → Entries → Option Entries
  | [], _ => none
  | [key], entries =>
      alter (fun | none => some (.value datum) | some _ => none) key entries
  | key :: next :: path, entries =>
      alter (fun
          | none => (insertValue datum (next :: path) []).map (.table .dottedKey)
          | some (.table origin inner) =>
              if origin = .header ∨ (path = [] ∧ origin ≠ .dottedKey) then none
              else (insertValue datum (next :: path) inner).map (.table origin)
          | some (.tables finished (.table origin inner)) =>
              if path = [] then none
              else
                (insertValue datum (next :: path) inner).map fun inner =>
                  .tables finished (.table origin inner)
          | some _ => none)
        key entries

/-! ## Headers -/

/-- The table at the end of a path of headers changed. Tables on the way are made when they are
missing, and of a list of tables the last one is meant. -/
def descend (change : Entries → Option Entries) : List String → Entries → Option Entries
  | [], entries => change entries
  | key :: path, entries =>
      alter (fun
          | none => (descend change path []).map (.table .onTheWay)
          | some (.table origin inner) => (descend change path inner).map (.table origin)
          | some (.tables finished (.table origin inner)) =>
              (descend change path inner).map fun inner => .tables finished (.table origin inner)
          | some _ => none)
        key entries

/-- An entry taken out, for a header that names it: only a table that was made on the way to a
deeper header may be named later. -/
def takeOut (key : String) (entries : Entries) : Option (Entries × Entries) :=
  match entries.lookup key with
  | none => some ([], entries)
  | some (.table .onTheWay inner) => some (inner, entries.filter fun entry => entry.1 ≠ key)
  | some _ => none

/-- A finished table put under its key. -/
def putTable (key : String) (table : Entries) (entries : Entries) : Entries :=
  entries ++ [(key, .table .header table)]

/-- A finished table put at the end of the list of tables under its key. -/
def pushTable (key : String) (table : Entries) : Entries → Option Entries :=
  alter (fun
      | none => some (.tables [] (.table .header table))
      | some (.tables finished last) => some (.tables (finished ++ [last]) (.table .header table))
      | some _ => none)
    key

/-! ## The finished data -/

mutual

/-- The datum of an entry. -/
def Node.toDatum : Node → Datum
  | .value datum => datum
  | .table _ entries => .record (fieldsOf entries)
  | .tables finished last => .tables (itemsOf finished ++ [last.toDatum])

/-- The fields of a table. -/
def fieldsOf : List (String × Node) → List (String × Datum)
  | [] => []
  | (key, node) :: rest => (key, node.toDatum) :: fieldsOf rest

/-- The items of a list of tables. -/
def itemsOf : List Node → List Datum
  | [] => []
  | node :: rest => node.toDatum :: itemsOf rest

end

end IsolationGate.Toml
