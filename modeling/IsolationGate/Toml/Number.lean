import IsolationGate.Datum

/-!
# Numbers

A whole number is decimal with an optional sign, or hexadecimal, octal or binary behind its mark; it
lies between `-2 ^ 63` and `2 ^ 63 - 1`. A real number has a fraction, an exponent or both, or is
one of the words `inf` and `nan`; one that rounds to positive infinity is refused. Single
underscores may stand between digits, and a decimal number of several digits does not start with
zero.
-/

namespace IsolationGate.Toml

/-- No underscore is the first or last character or has one behind it. -/
def isRun : List Char → Bool
  | [] => false
  | ['_'] => false
  | '_' :: _ => false
  | [_] => true
  | _ :: '_' :: rest => isRun rest
  | _ :: d :: rest => isRun (d :: rest)

/-- The digits at the start of a text, without their underscores. -/
def readRun (base : Nat) (cs : List Char) : Option (List Char × List Char) :=
  let isPart := fun c => c = '_' || (Number.digitValue? base c).isSome
  let run := cs.takeWhile isPart
  if isRun run then some (run.filter (· ≠ '_'), cs.dropWhile isPart) else none

/-- A whole number within the range of 64 bits. -/
def integer? (n : Int) : Option Datum :=
  if -(Nat.pow 2 63 : Nat) ≤ n ∧ n < (Nat.pow 2 63 : Nat) then some (.integer n) else none

/-- A whole number behind the mark of its base. -/
def readMarked (base : Nat) (rest : List Char) : Option (Datum × List Char) := do
  let (digits, after) ← readRun base rest
  let value ← integer? (Number.ofDigits base digits)
  some (value, after)

/-- A sign, if there is one. -/
def readSign : List Char → Bool × List Char
  | '-' :: rest => (true, rest)
  | '+' :: rest => (false, rest)
  | rest => (false, rest)

/-- A fraction, if a point follows. -/
def readFraction : List Char → Option (List Char × List Char)
  | '.' :: rest => readRun 10 rest
  | rest => some ([], rest)

/-- An exponent, if its letter follows. -/
def readExponent : List Char → Option (Option Int × List Char)
  | e :: rest =>
      if e = 'e' ∨ e = 'E' then do
        let (negative, rest) := readSign rest
        let (digits, after) ← readRun 10 rest
        let value : Int := Number.ofDigits 10 digits
        some (some (if negative then -value else value), after)
      else some (none, e :: rest)
  | [] => some (none, [])

/-- A real number that is no positive infinity. -/
def real? (x : Number.Binary64) : Option Datum :=
  if x = .infinite false then none else some (.real x)

/-- A decimal number after its sign. -/
def readDecimal (negative : Bool) (cs : List Char) : Option (Datum × List Char) := do
  let (whole, rest) ← readRun 10 cs
  if whole.head? = some '0' ∧ 1 < whole.length then none
  else
    let (fraction, rest) ← readFraction rest
    let (exponent, rest) ← readExponent rest
    let digits := Number.ofDigits 10 (whole ++ fraction)
    if fraction ≠ [] ∨ exponent.isSome then
      let power := exponent.getD 0 - (fraction.length : Int)
      let value ← real? (Number.Binary64.ofDecimal negative digits power)
      some (value, rest)
    else
      let value ← integer? (if negative then -(digits : Int) else digits)
      some (value, rest)

/-- A number after its sign, the marked bases excepted. -/
def readSigned (negative : Bool) : List Char → Option (Datum × List Char)
  | 'i' :: 'n' :: 'f' :: rest => some (.real (.infinite negative), rest)
  | 'n' :: 'a' :: 'n' :: rest => some (.real .notANumber, rest)
  | rest => readDecimal negative rest

/-- A number. -/
def readNumber : List Char → Option (Datum × List Char)
  | '0' :: 'x' :: rest => readMarked 16 rest
  | '0' :: 'o' :: rest => readMarked 8 rest
  | '0' :: 'b' :: rest => readMarked 2 rest
  | cs =>
      let (negative, rest) := readSign cs
      readSigned negative rest

end IsolationGate.Toml
