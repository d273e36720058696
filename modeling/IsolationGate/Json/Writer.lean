import IsolationGate.Datum

/-!
# Writing JSON

`write` prints a datum as JSON without blanks. In a string a quote, a backslash and the C0 controls
are escaped, the common controls by their letter and the others by four digits; every other
character stands for itself.
-/

namespace IsolationGate.Json

/-- One character of a string as it is written. -/
def escapeChar (c : Char) : List Char :=
  if c = '\x22' then ['\\', '\x22']
  else if c = '\\' then ['\\', '\\']
  else if c = '\x08' then ['\\', 'b']
  else if c = '\x0c' then ['\\', 'f']
  else if c = '\n' then ['\\', 'n']
  else if c = '\r' then ['\\', 'r']
  else if c = '\t' then ['\\', 't']
  else if c.toNat < 0x20 then ['\\', 'u'] ++ Number.padLeft 4 (Number.toHex c.toNat)
  else [c]

/-- A string with its quotes. -/
def writeString (cs : List Char) : List Char := '\x22' :: cs.flatMap escapeChar ++ ['\x22']

/-- Fields as a record writes them between its braces. -/
def separated (items : List (List Char)) : List Char :=
  match items with
  | [] => []
  | item :: rest => item ++ rest.flatMap fun next => ',' :: next

mutual

/-- A datum as JSON. -/
def write : Datum → List Char
  | .null => ['n', 'u', 'l', 'l']
  | .boolean true => ['t', 'r', 'u', 'e']
  | .boolean false => ['f', 'a', 'l', 's', 'e']
  | .integer n => Number.signedDecimal n
  | .real x => x.toCompact.toList
  | .moment s => writeString s.toList
  | .text s => writeString s.toList
  | .list items | .tables items => '[' :: separated (writeItems items) ++ [']']
  | .record fields => '\x7b' :: separated (writeFields fields) ++ ['\x7d']

/-- Each item of a list. -/
def writeItems : List Datum → List (List Char)
  | [] => []
  | item :: rest => write item :: writeItems rest

/-- Each field of a record. -/
def writeFields : List (String × Datum) → List (List Char)
  | [] => []
  | (name, value) :: rest => (writeString name.toList ++ ':' :: write value) :: writeFields rest

end

/-- A datum as a JSON text. -/
def render (d : Datum) : String := String.ofList (write d)

end IsolationGate.Json
