import IsolationGate.Number.Digits

/-!
# Binary floating point numbers of 64 bits, exactly

A finite number is a sign, an integer below `2 ^ 53` and a power of two. Decimal numerals are
rounded to the nearest such number, ties to the even integer, and a number is written with the
fewest decimal digits that are read back as the same number. Both directions are computed in exact
integer arithmetic.
-/

namespace IsolationGate.Number

/-- A number of 64 bits. A finite one has the value `mantissa * 2 ^ exponent`. -/
inductive Binary64 where
  | finite (negative : Bool) (mantissa : Nat) (exponent : Int)
  | infinite (negative : Bool)
  | notANumber
  deriving Repr, DecidableEq

namespace Binary64

/-- The least power of two of a finite number. -/
def leastExponent : Int := -1074

/-- The greatest power of two of a finite number. -/
def greatestExponent : Int := 971

/-- A quotient rounded to the nearest integer, ties to even. -/
def roundQuotient (num den : Nat) : Nat :=
  let q := num / den
  let r := num % den
  if 2 * r < den then q
  else if den < 2 * r then q + 1
  else if q % 2 = 0 then q else q + 1

/-- The quotient `num / den / 2 ^ exponent` as a fraction of two integers. -/
def scaleByTwo (num den : Nat) (exponent : Int) : Nat × Nat :=
  if 0 ≤ exponent then (num, den * Nat.pow 2 exponent.toNat)
  else (num * Nat.pow 2 (-exponent).toNat, den)

/-- The number nearest to `num / den`. -/
def ofRatio (negative : Bool) (num den : Nat) : Binary64 :=
  if num = 0 then .finite negative 0 leastExponent
  else
    let guess : Int := (Nat.log2 num : Int) - (Nat.log2 den : Int) - 52
    let low := scaleByTwo num den guess
    let exponent := max leastExponent (if low.1 < low.2 * Nat.pow 2 52 then guess - 1 else guess)
    let scaled := scaleByTwo num den exponent
    let mantissa := roundQuotient scaled.1 scaled.2
    let (mantissa, exponent) :=
      if mantissa = Nat.pow 2 53 then (Nat.pow 2 52, exponent + 1) else (mantissa, exponent)
    if greatestExponent < exponent then .infinite negative
    else .finite negative mantissa exponent

/-- The number nearest to `digits * 10 ^ power`. Beyond the range of the format the power is not
computed. -/
def ofDecimal (negative : Bool) (digits : Nat) (power : Int) : Binary64 :=
  if digits = 0 then .finite negative 0 leastExponent
  else
    let size : Int := (Nat.log2 digits : Int) * 30103 / 100000
    if 320 < size + power then .infinite negative
    else if size + power < -345 then .finite negative 0 leastExponent
    else if 0 ≤ power then ofRatio negative (digits * Nat.pow 10 power.toNat) 1
    else ofRatio negative digits (Nat.pow 10 (-power).toNat)

/-- The number nearest to `num / den * 2 ^ exponent`. -/
def ofScaledRatio (negative : Bool) (num den : Nat) (exponent : Int) : Binary64 :=
  ofRatio negative (num * Nat.pow 2 exponent.toNat) (den * Nat.pow 2 (-exponent).toNat)

/-- The number nearest to the product of two numbers; only finite ones have a product here. -/
def mul : Binary64 → Binary64 → Binary64
  | .finite s m e, .finite t n f => ofScaledRatio (s != t) (m * n) 1 (e + f)
  | _, _ => .notANumber

/-- The number nearest to the quotient of two numbers; only finite ones have a quotient here, and
the divisor is not zero. -/
def div : Binary64 → Binary64 → Binary64
  | .finite s m e, .finite t n f => ofScaledRatio (s != t) m n (e - f)
  | _, _ => .notANumber

/-- The number nearest to a power of ten. -/
def powerOfTen (power : Nat) : Binary64 := ofRatio false (Nat.pow 10 power) 1

/-- The greatest power of ten of a finite number. -/
def greatestPower : Nat := 308

/-- A whole number times a power of ten, computed in single steps: the number is rounded, and every
step multiplies or divides by the number nearest to a power of ten and rounds again. A division by
more than the greatest power takes several steps, of which the first few leave nothing of any
number. -/
def ofSteps (negative : Bool) (digits : Nat) (power : Int) : Binary64 :=
  let x := ofRatio negative digits 1
  if digits = 0 then x
  else if 0 ≤ power then
    if power ≤ greatestPower then x.mul (powerOfTen power.toNat) else .infinite negative
  else
    let steps := min 4 ((-power).toNat / greatestPower)
    let reduced := (List.range steps).foldl (fun y _ => y.div (powerOfTen greatestPower)) x
    reduced.div (powerOfTen ((-power).toNat % greatestPower))

/-- The bounds of the numbers that round to a finite number, as numerators over a common
denominator, with the number itself in the middle. -/
structure Interval where
  low : Nat
  middle : Nat
  high : Nat
  den : Nat
  closed : Bool

/-- The interval of `mantissa * 2 ^ exponent`. -/
def interval (mantissa : Nat) (exponent : Int) : Interval :=
  let below := if mantissa = Nat.pow 2 52 ∧ leastExponent < exponent then 1 else 2
  let scale := Nat.pow 2 (exponent - 2).toNat
  ⟨(4 * mantissa - below) * scale, 4 * mantissa * scale, (4 * mantissa + 2) * scale,
    Nat.pow 2 (2 - exponent).toNat, mantissa % 2 = 0⟩

/-- Whether `digits * 10 ^ power` is in the interval. -/
def Interval.contains (i : Interval) (digits : Nat) (power : Int) : Bool :=
  let value := digits * Nat.pow 10 power.toNat * i.den
  let low := i.low * Nat.pow 10 (-power).toNat
  let high := i.high * Nat.pow 10 (-power).toNat
  if i.closed then low ≤ value && value ≤ high else low < value && value < high

/-- Which of two decimals is written when both are equally near. -/
inductive Tie where
  /-- The one whose last digit is even. -/
  | toEven
  /-- The one farther from zero. -/
  | fromZero
  deriving Repr, DecidableEq

/-- The lower of two equally near decimals is written. -/
def Tie.takesLower (tie : Tie) (lower : Nat) : Bool :=
  match tie with
  | .toEven => lower % 2 = 0
  | .fromZero => false

/-- The decimals with `power` as last place that enclose the middle, the nearer one first. -/
def Interval.neighbours (i : Interval) (tie : Tie) (power : Int) : List Nat :=
  let num := i.middle * Nat.pow 10 (-power).toNat
  let den := i.den * Nat.pow 10 power.toNat
  let q := num / den
  let r := num % den
  if 2 * r < den || (2 * r = den && tie.takesLower q) then [q, q + 1] else [q + 1, q]

/-- The power of ten of the leading digit of the middle: the least one above all, found by counting
up from a lower bound. -/
def Interval.leadingPower (i : Interval) : Int :=
  let size : Int := (Nat.log2 i.middle : Int) - (Nat.log2 i.den : Int) - 1
  let estimate : Int := size * 30103 / 100000 - 1
  let exceeds (p : Int) : Bool := i.middle * Nat.pow 10 (-p).toNat < i.den * Nat.pow 10 p.toNat
  let powers := (List.range 5).map fun (k : Nat) => estimate + (k : Int)
  (powers.filter fun p => !exceeds p).foldl max estimate

/-- The decimal of the fewest digits in the interval, as digits and a power of ten. -/
def Interval.shortest (i : Interval) (tie : Tie) : Nat × Int :=
  let leading := i.leadingPower
  let candidates := (List.range 17).flatMap fun (n : Nat) =>
    let power := leading - (n : Int)
    (i.neighbours tie power).map fun digits => (digits, power)
  (candidates.find? fun d => i.contains d.1 d.2).getD (0, 0)

/-- Decimal digits without zeros at the end, and the power of ten of the last one. -/
def stripZeros : Nat → Nat → Int → Nat × Int
  | 0, digits, power => (digits, power)
  | fuel + 1, digits, power =>
      if digits ≠ 0 ∧ digits % 10 = 0 then stripZeros fuel (digits / 10) (power + 1)
      else (digits, power)

/-- The fewest digits that are read back as the number, and the power of ten of the last one. -/
def shortestDecimal (tie : Tie) (mantissa : Nat) (exponent : Int) : Nat × Int :=
  if mantissa = 0 then (0, 0)
  else
    let d := (interval mantissa exponent).shortest tie
    stripZeros 20 d.1 d.2

/-- Digits with the point put `power` places from their end; a fraction is always written. -/
def positional (digits : List Char) (power : Int) : List Char :=
  if 0 ≤ power then digits ++ List.replicate power.toNat '0' ++ ['.', '0']
  else
    let places := (-power).toNat
    let padded := Number.padLeft (places + 1) digits
    padded.take (padded.length - places) ++ '.' :: padded.drop (padded.length - places)

/-- Digits as one digit, a fraction if there are more, and a signed power of ten. -/
def scientific (digits : List Char) (power : Int) : List Char :=
  let leading := power + (digits.length : Int) - 1
  let fraction := match digits.tail with
    | [] => []
    | rest => '.' :: rest
  let sign := if leading < 0 then '-' else '+'
  digits.take 1 ++ fraction ++ ['e', sign] ++ Number.toDecimal leading.natAbs

/-- The sign as it is written. -/
def signText (negative : Bool) : List Char := if negative then ['-'] else []

/-- The number with all its places written out; of two equally near decimals the one farther from
zero. -/
def toPositional : Binary64 → String
  | .notANumber => "NaN"
  | .infinite negative => String.ofList (signText negative ++ "inf".toList)
  | .finite negative mantissa exponent =>
      let d := shortestDecimal .fromZero mantissa exponent
      String.ofList (signText negative ++ positional (Number.toDecimal d.1) d.2)

/-- The number with its places written out when its leading digit is between the fifth place after
the point and the sixteenth before it, and with a power of ten otherwise; of two equally near
decimals the one with an even last digit. -/
def toCompact : Binary64 → String
  | .notANumber => "NaN"
  | .infinite negative => String.ofList (signText negative ++ "inf".toList)
  | .finite negative mantissa exponent =>
      let d := shortestDecimal .toEven mantissa exponent
      let digits := Number.toDecimal d.1
      let leading := d.2 + (digits.length : Int) - 1
      let body :=
        if -5 ≤ leading ∧ leading ≤ 15 then positional digits d.2 else scientific digits d.2
      String.ofList (signText negative ++ body)

end Binary64

end IsolationGate.Number
