import IsolationGate.Datum

/-!
# Reading JSON

`read?` accepts one JSON text with blanks around it. A number without fraction and exponent is whole
when it lies between `-2 ^ 63` and `2 ^ 64 - 1`, and a rounded real otherwise; so is `-0`. A real
has as many of its digits as fit 64 bits and is scaled by a power of ten, so it can differ in its
last bit from the nearest one. The fields of a record are kept in the order of their names, and of a
repeated name the last one counts.
-/

namespace IsolationGate.Json

/-- Blanks between tokens. -/
def isSpace (c : Char) : Bool := c = ' ' || c = '\t' || c = '\n' || c = '\r'

/-- The text after the blanks at its start. -/
def skipSpace (cs : List Char) : List Char := cs.dropWhile isSpace

/-- The value of four hexadecimal digits. -/
def unit? (a b c d : Char) : Option Nat := Number.ofNumeral? 16 [a, b, c, d]

/-- The character of a code point that is not a surrogate. -/
def character? (n : Nat) : Option Char := if n.isValidChar then some (Char.ofNat n) else none

/-- The character that a letter after a backslash stands for. -/
def letter? (c : Char) : Option Char :=
  if c = '\x22' then some '\x22'
  else if c = '\\' then some '\\'
  else if c = '/' then some '/'
  else if c = 'b' then some '\x08'
  else if c = 'f' then some '\x0c'
  else if c = 'n' then some '\n'
  else if c = 'r' then some '\r'
  else if c = 't' then some '\t'
  else none

/-- The rest of a string after its opening quote: its characters, and what follows it. -/
def readString : List Char → Option (List Char × List Char)
  | [] => none
  | '\x22' :: rest => some ([], rest)
  | '\\' :: 'u' :: a :: b :: c :: d :: rest => do
      let high ← unit? a b c d
      if 0xD800 ≤ high ∧ high < 0xDC00 then
        match rest with
        | '\\' :: 'u' :: e :: f :: g :: h :: more => do
            let low ← unit? e f g h
            if 0xDC00 ≤ low ∧ low < 0xE000 then
              let x ← character? (0x10000 + (high - 0xD800) * 0x400 + (low - 0xDC00))
              let (cs, after) ← readString more
              some (x :: cs, after)
            else none
        | _ => none
      else
        let x ← character? high
        let (cs, after) ← readString rest
        some (x :: cs, after)
  | '\\' :: c :: rest => do
      let x ← letter? c
      let (cs, after) ← readString rest
      some (x :: cs, after)
  | c :: rest => do
      if c.toNat < 0x20 then none
      else
        let (cs, after) ← readString rest
        some (c :: cs, after)

/-- The parts of a number as they are written. -/
structure Numeral where
  negative : Bool
  whole : List Char
  fraction : List Char
  exponent : Option Int

/-- A value with digits put behind it as long as it fits 64 bits, and the digits that did not. -/
def gather (value : Nat) : List Char → Nat × List Char
  | [] => (value, [])
  | c :: rest =>
      let next := value * 10 + Number.ofDigits 10 [c]
      if next < Nat.pow 2 64 then gather next rest else (value, c :: rest)

/-- The real of a number. The digits of the whole part that do not fit count as zeros, those of the
fraction not at all. -/
def Numeral.toReal (n : Numeral) : Number.Binary64 :=
  let (whole, wholeLeft) := gather 0 n.whole
  let (digits, fractionLeft) := gather whole n.fraction
  let places : Int := (n.fraction.length - fractionLeft.length : Nat)
  Number.Binary64.ofSteps n.negative digits (n.exponent.getD 0 + wholeLeft.length - places)

/-- The datum of a number. -/
def Numeral.toDatum (n : Numeral) : Datum :=
  let digits := Number.ofDigits 10 n.whole
  let real := Datum.real n.toReal
  if n.fraction ≠ [] ∨ n.exponent.isSome then real
  else if n.negative then
    if digits = 0 ∨ Nat.pow 2 63 < digits then real else .integer (-(digits : Int))
  else if digits < Nat.pow 2 64 then .integer digits
  else real

/-- A fraction, if a point follows. -/
def readFraction : List Char → Option (List Char × List Char)
  | '.' :: rest =>
      let digits := rest.takeWhile Number.isDecimal
      if digits = [] then none else some (digits, rest.dropWhile Number.isDecimal)
  | rest => some ([], rest)

/-- The digits of an exponent after its sign. -/
def readPower (negative : Bool) (rest : List Char) : Option (Option Int × List Char) :=
  let digits := rest.takeWhile Number.isDecimal
  if digits = [] then none
  else
    let value : Int := Number.ofDigits 10 digits
    some (some (if negative then -value else value), rest.dropWhile Number.isDecimal)

/-- An exponent, if its letter follows. -/
def readExponent : List Char → Option (Option Int × List Char)
  | e :: rest =>
      if e = 'e' ∨ e = 'E' then
        match rest with
        | '+' :: more => readPower false more
        | '-' :: more => readPower true more
        | more => readPower false more
      else some (none, e :: rest)
  | [] => some (none, [])

/-- A number without its sign. -/
def readUnsigned (negative : Bool) (cs : List Char) : Option (Datum × List Char) := do
  let whole := cs.takeWhile Number.isDecimal
  if whole = [] ∨ (whole.head? = some '0' ∧ whole ≠ ['0']) then none
  else
    let (fraction, rest) ← readFraction (cs.dropWhile Number.isDecimal)
    let (exponent, rest) ← readExponent rest
    some (Numeral.toDatum ⟨negative, whole, fraction, exponent⟩, rest)

/-- A number. -/
def readNumber : List Char → Option (Datum × List Char)
  | '-' :: rest => readUnsigned true rest
  | rest => readUnsigned false rest

/-- A field put at its place by name; an earlier value of the name is replaced. -/
def insertField (name : String) (value : Datum) :
    List (String × Datum) → List (String × Datum)
  | [] => [(name, value)]
  | (other, old) :: rest =>
      if name < other then (name, value) :: (other, old) :: rest
      else if name = other then (name, value) :: rest
      else (other, old) :: insertField name value rest

mutual

/-- A value that starts at the first character. -/
def readValue : Nat → List Char → Option (Datum × List Char)
  | 0, _ => none
  | fuel + 1, cs =>
      match cs with
      | '\x22' :: rest => (readString rest).map fun p => (.text (String.ofList p.1), p.2)
      | '[' :: rest =>
          match skipSpace rest with
          | ']' :: after => some (.list [], after)
          | more => (readItems fuel more).map fun p => (.list p.1, p.2)
      | '\x7b' :: rest =>
          match skipSpace rest with
          | '\x7d' :: after => some (.record [], after)
          | more => (readFields fuel more []).map fun p => (.record p.1, p.2)
      | 'n' :: 'u' :: 'l' :: 'l' :: rest => some (.null, rest)
      | 't' :: 'r' :: 'u' :: 'e' :: rest => some (.boolean true, rest)
      | 'f' :: 'a' :: 'l' :: 's' :: 'e' :: rest => some (.boolean false, rest)
      | rest => readNumber rest

/-- The items of a list up to its bracket. -/
def readItems : Nat → List Char → Option (List Datum × List Char)
  | 0, _ => none
  | fuel + 1, cs => do
      let (item, rest) ← readValue fuel cs
      match skipSpace rest with
      | ',' :: more =>
          let (items, after) ← readItems fuel (skipSpace more)
          some (item :: items, after)
      | ']' :: after => some ([item], after)
      | _ => none

/-- The fields of a record up to its brace, added to those already read. -/
def readFields : Nat → List Char → List (String × Datum) →
    Option (List (String × Datum) × List Char)
  | 0, _, _ => none
  | fuel + 1, cs, seen =>
      match cs with
      | '\x22' :: rest => do
          let (name, rest) ← readString rest
          match skipSpace rest with
          | ':' :: more =>
              let (value, rest) ← readValue fuel (skipSpace more)
              let seen := insertField (String.ofList name) value seen
              match skipSpace rest with
              | ',' :: more => readFields fuel (skipSpace more) seen
              | '\x7d' :: after => some (seen, after)
              | _ => none
          | _ => none
      | _ => none

end

/-- The datum of a JSON text. -/
def read? (cs : List Char) : Option Datum := do
  let (value, rest) ← readValue (cs.length + 1) (skipSpace cs)
  if skipSpace rest = [] then some value else none

end IsolationGate.Json
