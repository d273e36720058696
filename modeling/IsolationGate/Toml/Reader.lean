import IsolationGate.Toml.Moment
import IsolationGate.Toml.Number
import IsolationGate.Toml.Quote
import IsolationGate.Toml.Table

/-!
# Reading configuration files

`read?` gives the fields of a configuration file in the order of the file, or nothing when the text
breaks a rule of the format. A file is a row of lines: values under keys, headers of tables, and
headers of lists of tables. A table that is named after its parts were is moved behind the others.
-/

namespace IsolationGate.Toml

/-- Values are nested less deeply than this. -/
def nestingBound : Nat := 80

/-- The start of a value that is neither a list nor a table. -/
def readScalar (cs : List Char) : Option (Datum × List Char) :=
  match cs with
  | 't' :: 'r' :: 'u' :: 'e' :: rest => some (.boolean true, rest)
  | 'f' :: 'a' :: 'l' :: 's' :: 'e' :: rest => some (.boolean false, rest)
  | c :: _ =>
      if c = '\x22' ∨ c = '\x27' then (readText cs).map fun p => (.text p.1, p.2)
      else
        match readMoment cs with
        | .present rest =>
            some (.moment (String.ofList (cs.take (cs.length - rest.length))), rest)
        | .broken => none
        | .absent => readNumber cs
  | [] => none

mutual

/-- A value. `depth` is how many more levels of lists and tables are allowed. -/
def readValue : Nat → Nat → List Char → Option (Datum × List Char)
  | 0, _, _ => none
  | fuel + 1, depth, cs =>
      match cs, depth with
      | '[' :: rest, depth + 1 => do
          let rest ← skipLines rest
          let (items, after) ← readItems fuel depth rest
          some (.list items, after)
      | '\x7b' :: rest, depth + 1 =>
          match skipBlanks rest with
          | '\x7d' :: after => some (.record [], after)
          | more => (readPairs fuel depth more []).map fun p => (.record (fieldsOf p.1), p.2)
      | '[' :: _, 0 | '\x7b' :: _, 0 => none
      | _, _ => readScalar cs

/-- The items of a list up to its bracket. -/
def readItems : Nat → Nat → List Char → Option (List Datum × List Char)
  | 0, _, _ => none
  | fuel + 1, depth, cs =>
      match cs with
      | ']' :: after => some ([], after)
      | _ => do
          let (item, rest) ← readValue fuel depth cs
          let rest ← skipLines rest
          match rest with
          | ',' :: more =>
              let more ← skipLines more
              let (items, after) ← readItems fuel depth more
              some (item :: items, after)
          | ']' :: after => some ([item], after)
          | _ => none

/-- The keys and values of a table within one line, up to its brace. -/
def readPairs : Nat → Nat → List Char → Entries → Option (Entries × List Char)
  | 0, _, _, _ => none
  | fuel + 1, depth, cs, entries => do
      let (key, rest) ← readKey cs
      match rest with
      | '=' :: rest =>
          let (value, rest) ← readValue fuel depth (skipBlanks rest)
          let entries ← insertValue value key entries
          match skipBlanks rest with
          | ',' :: more => readPairs fuel depth more entries
          | '\x7d' :: after => some (entries, after)
          | _ => none
      | _ => none

end

/-- A key with its value, up to the end of the line. -/
def readKeyValue (cs : List Char) : Option (List String × Datum × List Char) := do
  let (key, rest) ← readKey cs
  match rest with
  | '=' :: rest =>
      let (value, rest) ← readValue (cs.length + 1) (nestingBound - 1) (skipBlanks rest)
      let rest ← lineEnd? rest
      some (key, value, rest)
  | _ => none

/-- A header up to the end of its line: whether it is one of a list of tables, and its key. -/
def readHeader : List Char → Option (Bool × List String × List Char)
  | '[' :: '[' :: rest => do
      let (key, rest) ← readKey rest
      match rest with
      | ']' :: ']' :: rest => (lineEnd? rest).map (true, key, ·)
      | _ => none
  | '[' :: rest => do
      let (key, rest) ← readKey rest
      match rest with
      | ']' :: rest => (lineEnd? rest).map (false, key, ·)
      | _ => none
  | _ => none

/-- Keys with their values, in the order of their lines. -/
abbrev Pairs := List (List String × Datum)

/-- A header with the values under it. -/
structure Block where
  ofList : Bool
  key : List String
  pairs : Pairs

/-- The values up to the next header, and the text from there on. The first argument bounds the
number of lines. -/
def readLines : Nat → List Char → Option (Pairs × List Char)
  | 0, _ => none
  | fuel + 1, cs => do
      let rest ← skipLines cs
      match rest with
      | [] => some ([], [])
      | '[' :: _ => some ([], rest)
      | _ =>
          let (key, value, rest) ← readKeyValue rest
          let (pairs, rest) ← readLines fuel rest
          some ((key, value) :: pairs, rest)

/-- The blocks from a header on. The first argument bounds their number. -/
def readBlocks : Nat → List Char → Option (List Block)
  | 0, _ => none
  | _, [] => some []
  | fuel + 1, cs => do
      let (ofList, key, rest) ← readHeader cs
      let (pairs, rest) ← readLines (rest.length + 1) rest
      let blocks ← readBlocks fuel rest
      some (⟨ofList, key, pairs⟩ :: blocks)

/-! ## From lines to tables -/

/-- Values added to a table. -/
def insertAll (pairs : Pairs) (table : Entries) : Option Entries :=
  pairs.foldlM (fun table pair => insertValue pair.2 pair.1 table) table

/-- A block put into a document. -/
def addBlock (document : Entries) (block : Block) : Option Entries :=
  match block.key.getLast? with
  | none => none
  | some name =>
      descend (fun parent =>
          if block.ofList then
            (insertAll block.pairs []).bind fun table => pushTable name table parent
          else do
            let (known, parent) ← takeOut name parent
            let table ← insertAll block.pairs known
            some (putTable name table parent))
        block.key.dropLast document

/-- The text without the mark that may start it. -/
def dropMark : List Char → List Char
  | '\uFEFF' :: rest => rest
  | cs => cs

/-- The fields of a configuration file. -/
def read? (s : String) : Option (List (String × Datum)) := do
  let cs := dropMark s.toList
  let (pairs, rest) ← readLines (cs.length + 1) cs
  let blocks ← readBlocks (rest.length + 1) rest
  let root ← insertAll pairs []
  let document ← blocks.foldlM addBlock root
  some (fieldsOf document)

end IsolationGate.Toml
