/-!
# Punycode

The encoding of host labels beyond ASCII. A label is decoded one digit at a time: the digits build
variable-length integers, the least significant digit first, and each integer says which code point
comes next and where it goes. `decode?` is one fold over the digits, so it needs no bound on its
work.
-/

namespace IsolationGate.Url.Punycode

/-- The value of a digit: letters of either case first, then the decimal digits. -/
def digit? (c : Char) : Option Nat :=
  if 'a' ≤ c && c ≤ 'z' then some (c.toNat - 97)
  else if 'A' ≤ c && c ≤ 'Z' then some (c.toNat - 65)
  else if '0' ≤ c && c ≤ '9' then some (c.toNat - 22)
  else none

/-- The digits below this value end an integer. -/
def threshold (place bias : Nat) : Nat :=
  if place ≤ bias then 1 else if bias + 26 ≤ place then 26 else place - bias

/-- Division by 35 until the rest is at most 455, with 36 added for each step. -/
def shrink (delta places : Nat) : Nat × Nat :=
  if 455 < delta then shrink (delta / 35) (places + 36) else (delta, places)
termination_by delta
decreasing_by exact Nat.div_lt_self (by omega) (by omega)

/-- The bias after an integer. -/
def adapt (delta size : Nat) (first : Bool) : Nat :=
  let delta := if first then delta / 700 else delta / 2
  let (rest, places) := shrink (delta + delta / size) 0
  places + 36 * rest / (rest + 38)

/-- Where a decoding stands: what has been decoded, and the integer that is being read. -/
structure State where
  decoded : List Nat
  codePoint : Nat
  position : Nat
  bias : Nat
  started : Nat
  weight : Nat
  place : Nat

/-- The state after the basic code points. -/
def State.start (basic : List Nat) : State := ⟨basic, 128, 0, 72, 0, 1, 36⟩

/-- The integers of an encoding, and the weights of their digits, stay below this bound. -/
def bound : Nat := Nat.pow 2 32

/-- The next digit. -/
def State.step (s : State) (c : Char) : Option State := do
  let digit ← digit? c
  let position := s.position + digit * s.weight
  let limit := threshold s.place s.bias
  if bound ≤ position then none
  else if digit < limit then
    let size := s.decoded.length + 1
    let codePoint := s.codePoint + position / size
    let index := position % size
    if codePoint.isValidChar then
      some {
        decoded := s.decoded.take index ++ codePoint :: s.decoded.drop index
        codePoint
        position := index + 1
        bias := adapt (position - s.started) size (s.started = 0)
        started := index + 1
        weight := 1
        place := 36 }
    else none
  else if bound ≤ s.weight * (36 - limit) then none
  else
    some { s with position, weight := s.weight * (36 - limit), place := s.place + 36 }

/-- The text of an encoded label, without its first four characters: the basic code points, a
hyphen when there are any, and the digits. -/
def decode? (cs : List Char) : Option (List Char) := do
  let digits := (cs.reverse.takeWhile (· ≠ '-')).reverse
  let start := cs.take (cs.length - digits.length)
  let basic := start.dropLast
  if start ≠ [] ∧ basic = [] ∨ basic.any (0x80 ≤ ·.toNat) then none
  let state ← digits.foldlM State.step (State.start (basic.map Char.toNat))
  if state.place = 36 then some (state.decoded.map Char.ofNat) else none

end IsolationGate.Url.Punycode
