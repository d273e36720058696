import IsolationGate.Datum

/-!
# Writing configuration files

`render` writes the sections of a document, each under its header and with an empty line before the
next. A table inside a section comes after the values of the section, under a header of its own. A
list of several items has one item on a line.

A text is written in the first form that can hold it as it is: between double quotes, between single
quotes, between three double quotes, between three single quotes; a text that none can hold is
written with escapes.
-/

namespace IsolationGate.Toml

/-! ## Texts -/

/-- The character can only be written as an escape. -/
def isEscapedControl (c : Char) : Bool :=
  (c.toNat < 0x20 && c != '\t' && c != '\n') || c.toNat = 0x7F

/-- The length of the longest run of a character. -/
def longestRun (mark : Char) (cs : List Char) : Nat := go 0 0 cs
where
  /-- The longest run when the current one and the longest before it are known. -/
  go (longest current : Nat) : List Char → Nat
    | [] => max longest current
    | c :: rest =>
        if c = mark then go longest (current + 1) rest else go (max longest current) 0 rest

/-- How a text is written. -/
inductive TextForm where
  | basic
  | literal
  | longBasic
  | longLiteral
  deriving DecidableEq, Repr

/-- The form that a text is written in. -/
def TextForm.of (cs : List Char) : TextForm :=
  let plain := !cs.any isEscapedControl
  let lines := cs.contains '\n'
  let escapes := cs.any fun c => c = '\x22' || c = '\\'
  if plain && !lines && !escapes then .basic
  else if plain && !lines && !cs.contains '\x27' then .literal
  else if plain && !cs.contains '\\' && longestRun '\x22' cs ≤ 2 then .longBasic
  else if plain && longestRun '\x27' cs ≤ 2 then .longLiteral
  else if lines then .longBasic
  else .basic

/-- The quotes around a form. -/
def TextForm.quotes : TextForm → List Char
  | basic => ['\x22']
  | literal => ['\x27']
  | longBasic => ['\x22', '\x22', '\x22']
  | longLiteral => ['\x27', '\x27', '\x27']

/-- A character with an escape, if it needs one; a quote is judged by its neighbours. -/
def escapeChar (long : Bool) (c : Char) : List Char :=
  if c = '\x08' then ['\\', 'b']
  else if c = '\t' then ['\\', 't']
  else if c = '\n' then if long then ['\n'] else ['\\', 'n']
  else if c = '\x0c' then ['\\', 'f']
  else if c = '\r' then ['\\', 'r']
  else if c = '\x22' then ['\\', '\x22']
  else if c = '\\' then ['\\', '\\']
  else if isEscapedControl c then
    ['\\', 'u'] ++ Number.padLeft 4 (Number.toHexCapital c.toNat)
  else [c]

/-- A text with escapes. In a long text two quotes may follow each other; `quotes` counts those
before the next character. -/
def escapeText (long : Bool) (quotes : Nat) : List Char → List Char
  | [] => []
  | c :: rest =>
      if c = '\x22' ∧ long ∧ quotes < 2 then c :: escapeText long (quotes + 1) rest
      else escapeChar long c ++ escapeText long 0 rest

/-- A text as a value. A long form starts on a new line when the text has several lines. -/
def writeText (cs : List Char) : List Char :=
  let form := TextForm.of cs
  let start : List Char := match form with
    | .longBasic | .longLiteral => if cs.contains '\n' then ['\n'] else []
    | .basic | .literal => []
  let body := match form with
    | .basic => escapeText false 0 cs
    | .longBasic => escapeText true 0 cs
    | .literal | .longLiteral => cs
  form.quotes ++ start ++ body ++ form.quotes

/-! ## Values and sections -/

/-- A value on its own line, or within a list of one. -/
def writeScalar : Datum → List Char
  | .boolean true => "true".toList
  | .boolean false => "false".toList
  | .integer n => Number.signedDecimal n
  | .text s => writeText s.toList
  | _ => []

/-- A list: of several items each has a line. -/
def writeList (items : List Datum) : List Char :=
  match items with
  | [] => "[]".toList
  | [item] => '[' :: writeScalar item ++ [']']
  | _ =>
      '[' :: '\n' :: items.flatMap (fun item => "    ".toList ++ writeScalar item ++ [',', '\n']) ++
        [']']

/-- A value behind its key. -/
def writeValue : Datum → List Char
  | .list items | .tables items => writeList items
  | other => writeScalar other

/-- A line with a key and its value. -/
def writeLine (field : String × Datum) : List Char :=
  field.1.toList ++ " = ".toList ++ writeValue field.2 ++ ['\n']

/-- A header. -/
def writeHeader (path : List String) : List Char :=
  '[' :: (String.intercalate "." path).toList ++ [']', '\n']

/-- The field is a table. -/
def isTable (field : String × Datum) : Bool :=
  match field.2 with
  | .record _ => true
  | _ => false

/-- The values of a table under its header. -/
def writeTable (path : List String) (fields : List (String × Datum)) : List Char :=
  writeHeader path ++ (fields.filter fun field => !isTable field).flatMap writeLine

/-- A section: its values, and each of its tables with an empty line before it. -/
def writeSection (field : String × Datum) : List (List Char) :=
  match field.2 with
  | .record fields =>
      writeTable [field.1] fields ::
        fields.filterMap fun inner =>
          match inner.2 with
          | .record values => some (writeTable [field.1, inner.1] values)
          | _ => none
  | _ => []

/-- The text of a document that consists of sections. -/
def render (document : List (String × Datum)) : String :=
  String.ofList (List.intercalate ['\n'] (document.flatMap writeSection))

end IsolationGate.Toml
