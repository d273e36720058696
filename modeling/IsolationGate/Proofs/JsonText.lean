import IsolationGate.Json.Reader
import IsolationGate.Json.Writer

/-!
# Reading what was written as JSON

A string is written between quotes with some of its characters escaped, and the reader takes it back
whatever text follows. The same then holds of the names and the texts of a record, and one lemma for
each kind of value leads through a whole text.

## Main results

* `readString_escaped` — the characters of a string, by induction on them.
* `readValue_text`, `readFields_cons` — the values that are texts, and the fields of a record.
-/

namespace IsolationGate.Json

/-! ## Strings -/

/-- A control without a letter is written by four digits, which have its code for their value. -/
theorem unit?_padLeft {n : Nat} (h : n < 0x20) :
    ∃ a b c d, Number.padLeft 4 (Number.toHex n) = [a, b, c, d] ∧ unit? a b c d = some n := by
  have hall : ∀ m < 0x20, (Number.padLeft 4 (Number.toHex m)).length = 4 ∧
      unit? ((Number.padLeft 4 (Number.toHex m)).getD 0 ' ')
        ((Number.padLeft 4 (Number.toHex m)).getD 1 ' ')
        ((Number.padLeft 4 (Number.toHex m)).getD 2 ' ')
        ((Number.padLeft 4 (Number.toHex m)).getD 3 ' ') = some m := by decide +kernel
  obtain ⟨hlength, hunit⟩ := hall n h
  generalize Number.padLeft 4 (Number.toHex n) = digits at hlength hunit ⊢
  rcases digits with _ | ⟨a, _ | ⟨b, _ | ⟨c, _ | ⟨d, _ | ⟨e, rest⟩⟩⟩⟩⟩ <;>
    simp at hlength
  exact ⟨a, b, c, d, rfl, hunit⟩

/-- One character is read back. -/
theorem readString_escapeChar (c : Char) {rest cs after : List Char}
    (h : readString rest = some (cs, after)) :
    readString (escapeChar c ++ rest) = some (c :: cs, after) := by
  by_cases hletter : c ∈ ['\x22', '\\', '\x08', '\x0c', '\n', '\r', '\t']
  · simp only [List.mem_cons, List.not_mem_nil, or_false] at hletter
    rcases hletter with rfl | rfl | rfl | rfl | rfl | rfl | rfl
    all_goals simp [escapeChar, readString, letter?, h]
  · simp only [List.mem_cons, List.not_mem_nil, or_false, not_or] at hletter
    obtain ⟨hquote, hslash, hb, hf, hn, hr, ht⟩ := hletter
    by_cases hcontrol : c.toNat < 0x20
    · obtain ⟨x, y, z, w, hdigits, hunit⟩ := unit?_padLeft hcontrol
      have hescape : escapeChar c = ['\\', 'u', x, y, z, w] := by
        simp [escapeChar, hquote, hslash, hb, hf, hn, hr, ht, hcontrol, hdigits]
      have hvalid : c.toNat.isValidChar := Or.inl (by omega)
      have hlow : ¬ (0xD800 ≤ c.toNat ∧ c.toNat < 0xDC00) := by omega
      rw [hescape]
      simp [readString, hunit, hlow, character?, hvalid, Char.ofNat_toNat, h]
    · have hescape : escapeChar c = [c] := by
        simp [escapeChar, hquote, hslash, hb, hf, hn, hr, ht, hcontrol]
      rw [hescape]
      simp [readString, hslash, hcontrol, h]

/-- **A string is read back**, whatever follows it. -/
theorem readString_escaped (cs rest : List Char) :
    readString (cs.flatMap escapeChar ++ '\x22' :: rest) = some (cs, rest) := by
  induction cs with
  | nil => rfl
  | cons c cs ih =>
      rw [List.flatMap_cons, List.append_assoc]
      exact readString_escapeChar c ih

theorem writeString_append (cs rest : List Char) :
    writeString cs ++ rest = '\x22' :: (cs.flatMap escapeChar ++ '\x22' :: rest) := by
  simp [writeString]

/-! ## Values and fields -/

theorem readValue_text (fuel : Nat) (s : String) (rest : List Char) :
    readValue (fuel + 1) (writeString s.toList ++ rest) = some (.text s, rest) := by
  rw [writeString_append, readValue]
  simp only [readString_escaped, Option.map_some, String.ofList_toList]

theorem skipSpace_writeString (cs rest : List Char) :
    skipSpace (writeString cs ++ rest) = writeString cs ++ rest := by
  rw [writeString_append]
  rfl

/-- A record that is not empty starts with a name. -/
theorem readValue_record (fuel : Nat) (name rest : List Char) :
    readValue (fuel + 1) ('\x7b' :: (writeString name ++ rest)) =
      (readFields fuel (writeString name ++ rest) []).map fun p => (.record p.1, p.2) := by
  rw [readValue, skipSpace_writeString, writeString_append]
  rfl

/-- A list that is not empty starts with an item, here with a record. -/
theorem readValue_list (fuel : Nat) (rest : List Char) :
    readValue (fuel + 1) ('[' :: '\x7b' :: rest) =
      (readItems fuel ('\x7b' :: rest)).map fun p => (.list p.1, p.2) := by
  rw [readValue]
  rfl

/-- What stands behind a field: a comma with the next field, or the end of the record. -/
def readMore (fuel : Nat) (rest : List Char) (fields : List (String × Datum)) :
    Option (List (String × Datum) × List Char) :=
  match skipSpace rest with
  | ',' :: next => readFields fuel (skipSpace next) fields
  | '\x7d' :: after => some (fields, after)
  | _ => none

/-- A field is read, and what is left is the next one or the end of the record. -/
theorem readFields_cons {fuel : Nat} {name more rest : List Char} {value : Datum}
    (hmore : skipSpace more = more) (h : readValue fuel more = some (value, rest))
    (seen : List (String × Datum)) :
    readFields (fuel + 1) (writeString name ++ ':' :: more) seen =
      readMore fuel rest (insertField (String.ofList name) value seen) := by
  have hcolon : skipSpace (':' :: more) = ':' :: more := rfl
  rw [writeString_append, readFields]
  simp only [readString_escaped, Option.bind_eq_bind, Option.bind_some, hcolon, hmore, h]
  rfl

end IsolationGate.Json
