import IsolationGate.Number.Digits
import IsolationGate.Toml.Space

/-!
# Texts and keys

A text stands between double quotes, where a backslash starts an escape, or between single quotes,
where it does not. Three quotes open a text that may run over several lines: a line end right after
them is dropped, up to two quotes may follow each other inside, and a backslash at the end of a line
drops the line end and the blanks after it. A key is a row of bare or quoted parts with points
between them.
-/

namespace IsolationGate.Toml

/-- How a text is quoted. -/
structure QuoteStyle where
  mark : Char
  long : Bool

/-- A backslash starts an escape. -/
def QuoteStyle.escapes (style : QuoteStyle) : Bool := style.mark = '\x22'

/-- The character of an escape with a numeral of fixed length. -/
def readCodePoint (width : Nat) (cs : List Char) : Option (Char × List Char) :=
  let digits := cs.take width
  if digits.length < width then none
  else
    match Number.ofNumeral? 16 digits with
    | some n => if n.isValidChar then some (Char.ofNat n, cs.drop width) else none
    | none => none

/-- The character of an escape, after its backslash. -/
def readEscape : List Char → Option (Char × List Char)
  | 'b' :: rest => some ('\x08', rest)
  | 't' :: rest => some ('\t', rest)
  | 'n' :: rest => some ('\n', rest)
  | 'f' :: rest => some ('\x0c', rest)
  | 'r' :: rest => some ('\r', rest)
  | '\x22' :: rest => some ('\x22', rest)
  | '\\' :: rest => some ('\\', rest)
  | 'u' :: rest => readCodePoint 4 rest
  | 'U' :: rest => readCodePoint 8 rest
  | _ => none

/-- The rest of a text after its opening quotes, and what follows it. The first argument bounds the
number of steps. -/
def readQuoted (style : QuoteStyle) : Nat → List Char → Option (List Char × List Char)
  | 0, _ | _, [] => none
  | fuel + 1, c :: rest =>
      let next := fun (taken : List Char) (after : List Char) =>
        (readQuoted style fuel after).map fun p => (taken ++ p.1, p.2)
      if c = style.mark then
        if style.long then
          let run := (c :: rest).takeWhile (· = style.mark)
          let after := rest.dropWhile (· = style.mark)
          if run.length < 3 then next run after
          else if run.length ≤ 5 then some (run.drop 3, after)
          else none
        else some ([], rest)
      else if c = '\\' && style.escapes then
        match if style.long then newline? (skipBlanks rest) else none with
        | some after => next [] (skipBlankLines after)
        | none =>
            match readEscape rest with
            | some (x, after) => next [x] after
            | none => none
      else
        match if style.long then newline? (c :: rest) else none with
        | some after => next ['\n'] after
        | none => if isTextChar c then next [c] rest else none

/-- A quoted text within one line, if a quote starts here. -/
def readShort (mark : Char) (rest : List Char) : Option (String × List Char) :=
  (readQuoted ⟨mark, false⟩ (rest.length + 1) rest).map fun p => (String.ofList p.1, p.2)

/-- A text over several lines, after its opening quotes. -/
def readLong (mark : Char) (rest : List Char) : Option (String × List Char) :=
  let body := (newline? rest).getD rest
  (readQuoted ⟨mark, true⟩ (body.length + 1) body).map fun p => (String.ofList p.1, p.2)

/-- A quoted text of either kind. -/
def readText : List Char → Option (String × List Char)
  | '\x22' :: '\x22' :: '\x22' :: rest => readLong '\x22' rest
  | '\x27' :: '\x27' :: '\x27' :: rest => readLong '\x27' rest
  | '\x22' :: rest => readShort '\x22' rest
  | '\x27' :: rest => readShort '\x27' rest
  | _ => none

/-! ## Keys -/

/-- A character of a bare key. -/
def isBareChar (c : Char) : Bool := c.isAlphanum || c = '_' || c = '-'

/-- One part of a key. -/
def readPart : List Char → Option (String × List Char)
  | '\x22' :: rest => readShort '\x22' rest
  | '\x27' :: rest => readShort '\x27' rest
  | cs =>
      let part := cs.takeWhile isBareChar
      if part = [] then none else some (String.ofList part, cs.dropWhile isBareChar)

/-- A key has fewer parts than this. -/
def partBound : Nat := 80

/-- The parts of a key, at most as many as the first argument says. -/
def readParts : Nat → List Char → Option (List String × List Char)
  | 0, _ => none
  | fuel + 1, cs => do
      let (part, rest) ← readPart (skipBlanks cs)
      match skipBlanks rest with
      | '.' :: more =>
          let (parts, after) ← readParts fuel more
          some (part :: parts, after)
      | after => some ([part], after)

/-- A key, with the blanks around it. -/
def readKey (cs : List Char) : Option (List String × List Char) := readParts (partBound - 1) cs

end IsolationGate.Toml
