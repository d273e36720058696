/-!
# Digits

Numerals in bases up to 16: the value of a digit, the value of a digit sequence and the digits of a
value. A digit sequence is read most significant digit first.
-/

namespace IsolationGate.Number

/-- A digit of base ten. -/
def isDecimal (c : Char) : Bool := '0' ≤ c && c ≤ '9'

/-- The value of a digit in a base up to 16; letters of either case count from ten. -/
def digitValue? (base : Nat) (c : Char) : Option Nat :=
  let value :=
    if '0' ≤ c && c ≤ '9' then c.toNat - 48
    else if 'a' ≤ c && c ≤ 'f' then c.toNat - 87
    else if 'A' ≤ c && c ≤ 'F' then c.toNat - 55
    else 16
  if value < base then some value else none

/-- A digit of base sixteen, of either case. -/
def isHex (c : Char) : Bool := (digitValue? 16 c).isSome

/-- The value of a digit sequence in a base; other characters count as zero. -/
def ofDigits (base : Nat) (digits : List Char) : Nat :=
  digits.foldl (fun value c => value * base + (digitValue? base c).getD 0) 0

/-- The value of a numeral: at least one digit and nothing else. -/
def ofNumeral? (base : Nat) (cs : List Char) : Option Nat :=
  if cs ≠ [] ∧ cs.all (fun c => (digitValue? base c).isSome) then some (ofDigits base cs) else none

/-- The value of a decimal numeral. -/
def ofDecimal? (cs : List Char) : Option Nat := ofNumeral? 10 cs

/-- The value of a decimal numeral, if it has no more than so many bits. -/
def ofWord? (bits : Nat) (cs : List Char) : Option Nat :=
  match ofDecimal? cs with
  | some n => if n < Nat.pow 2 bits then some n else none
  | none => none

/-- The same for a numeral that may stand behind a plus sign. -/
def ofPlusWord? (bits : Nat) (cs : List Char) : Option Nat :=
  ofWord? bits (match cs with
    | '+' :: rest => rest
    | _ => cs)

/-- The decimal numeral of a value. -/
def toDecimal (n : Nat) : List Char := Nat.toDigits 10 n

/-- The decimal numeral of a value of either sign. -/
def signedDecimal (n : Int) : List Char :=
  if n < 0 then '-' :: toDecimal n.natAbs else toDecimal n.natAbs

/-- The hexadecimal numeral of a value, in small letters. -/
def toHex (n : Nat) : List Char := Nat.toDigits 16 n

/-- The hexadecimal numeral of a value, in capital letters. -/
def toHexCapital (n : Nat) : List Char := (toHex n).map Char.toUpper

/-- A numeral filled up with zeros on the left. -/
def padLeft (width : Nat) (digits : List Char) : List Char :=
  List.replicate (width - digits.length) '0' ++ digits

/-! ## Decimal numerals -/

theorem digitValue?_of_isDecimal {c : Char} (h : isDecimal c = true) :
    digitValue? 10 c = some (c.toNat - 48) := by
  have hbounds := h
  rw [isDecimal, Bool.and_eq_true, decide_eq_true_eq, decide_eq_true_eq] at hbounds
  have h0 : 48 ≤ c.toNat := hbounds.1
  have h9 : c.toNat ≤ 57 := hbounds.2
  rw [isDecimal] at h
  rw [digitValue?, h, if_pos rfl, if_pos (by omega)]

theorem isDecimal_of_mem_toDecimal {n : Nat} {c : Char} (h : c ∈ toDecimal n) :
    isDecimal c = true := by
  have hdigit := Nat.isDigit_of_mem_toDigits (by decide) (by decide) h
  exact hdigit

theorem toDecimal_ne_nil (n : Nat) : toDecimal n ≠ [] := Nat.toDigits_ne_nil

/-- A numeral is that of all but the last digit, and the last digit. -/
theorem toDecimal_of_le {n : Nat} (h : 10 ≤ n) :
    toDecimal n = toDecimal (n / 10) ++ [Nat.digitChar (n % 10)] :=
  Nat.toDigits_of_base_le (by decide) h

theorem ofDigits_append (base : Nat) (digits : List Char) (c : Char) :
    ofDigits base (digits ++ [c]) = ofDigits base digits * base + (digitValue? base c).getD 0 := by
  rw [ofDigits, List.foldl_append]
  rfl

/-- A numeral has the value that it was made of. -/
theorem ofDigits_toDecimal (n : Nat) : ofDigits 10 (toDecimal n) = n := by
  have hdigit : ∀ d < 10, (digitValue? 10 (Nat.digitChar d)).getD 0 = d := by decide
  induction n using Nat.strongRecOn with
  | ind n ih =>
      by_cases h : n < 10
      · rw [toDecimal, Nat.toDigits_of_lt_base h, ← List.nil_append [Nat.digitChar n],
          ofDigits_append, hdigit n h]
        exact Nat.zero_add n
      · rw [toDecimal_of_le (by omega), ofDigits_append, ih (n / 10) (by omega),
          hdigit (n % 10) (by omega)]
        omega

/-- Only the numeral of zero starts with one. -/
theorem eq_zero_of_head?_toDecimal {n : Nat} (h : (toDecimal n).head? = some '0') : n = 0 := by
  have hdigit : ∀ d < 10, Nat.digitChar d = '0' → d = 0 := by decide
  induction n using Nat.strongRecOn with
  | ind n ih =>
      by_cases hlt : n < 10
      · rw [toDecimal, Nat.toDigits_of_lt_base hlt] at h
        exact hdigit n hlt (Option.some.inj h)
      · have hhead : (toDecimal (n / 10)).head? = some '0' := by
          obtain ⟨c, cs, hcs⟩ := List.exists_cons_of_ne_nil (toDecimal_ne_nil (n / 10))
          rw [toDecimal_of_le (by omega), hcs] at h
          rw [hcs]
          exact h
        have hzero := ih (n / 10) (by omega) hhead
        omega

end IsolationGate.Number
