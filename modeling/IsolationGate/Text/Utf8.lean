/-!
# Text as bytes

Field values, bodies and files are byte lists; their text is UTF-8. `encode` is the concatenation
of the characters' encodings, so it distributes over appending; `decode?` accepts exactly the byte
lists that are well formed.
-/

namespace IsolationGate.Text

/-- The UTF-8 encoding of a text. -/
def encode (cs : List Char) : List UInt8 := cs.flatMap String.utf8EncodeChar

/-- The UTF-8 encoding of a string. -/
def bytesOf (s : String) : List UInt8 := encode s.toList

/-- The text with this encoding, if the bytes are well formed. -/
def decode? (bytes : List UInt8) : Option String := String.fromUTF8? ⟨bytes.toArray⟩

/-- The text of bytes below 128, one character a byte. -/
def ofAscii (bytes : List UInt8) : String :=
  String.ofList (bytes.map fun b => Char.ofNat b.toNat)

@[simp] theorem encode_nil : encode [] = [] := rfl

@[simp] theorem encode_append (a b : List Char) : encode (a ++ b) = encode a ++ encode b := by
  simp [encode]

theorem bytesOf_append (a b : String) : bytesOf (a ++ b) = bytesOf a ++ bytesOf b := by
  simp [bytesOf]

theorem bytesOf_inj {a b : String} : bytesOf a = bytesOf b ↔ a = b := by
  refine ⟨fun h => ?_, fun h => congrArg bytesOf h⟩
  rw [← String.toByteArray_inj, ← String.utf8Encode_toList, ← String.utf8Encode_toList]
  exact congrArg List.toByteArray h

/-- A byte below 128 is the encoding of its character. -/
theorem utf8EncodeChar_ofNat {b : UInt8} (h : b < 128) :
    String.utf8EncodeChar (Char.ofNat b.toNat) = [b] := by
  have hlt : b.toNat < 128 := UInt8.lt_iff_toNat_lt.1 h
  have hvalid : b.toNat.isValidChar := Or.inl (by omega)
  have hval : (Char.ofNat b.toNat).val.toNat = b.toNat := by
    rw [Char.ofNat, dif_pos hvalid]
    rfl
  have hle : b.toNat ≤ 0x7f := by omega
  rw [String.utf8EncodeChar]
  simp only [hval, hle, if_true]
  simp

/-- A character of ASCII is encoded in one byte. -/
theorem utf8EncodeChar_of_lt {c : Char} (h : c.toNat < 0x80) :
    (UInt8.ofNat c.toNat).toNat = c.toNat ∧
      String.utf8EncodeChar c = [UInt8.ofNat c.toNat] := by
  have hnat : (UInt8.ofNat c.toNat).toNat = c.toNat := by
    rw [UInt8.toNat_ofNat', Nat.mod_eq_of_lt]
    omega
  have hlt : UInt8.ofNat c.toNat < 128 := by
    rw [UInt8.lt_iff_toNat_lt, hnat]
    exact h
  have hsingle := utf8EncodeChar_ofNat hlt
  rw [hnat, Char.ofNat_toNat] at hsingle
  exact ⟨hnat, hsingle⟩

theorem bytesOf_ofAscii {bytes : List UInt8} (h : ∀ b ∈ bytes, b < 128) :
    bytesOf (ofAscii bytes) = bytes := by
  rw [bytesOf, ofAscii, String.toList_ofList]
  induction bytes with
  | nil => rfl
  | cons b bytes ih =>
      have hb : String.utf8EncodeChar (Char.ofNat b.toNat) = [b] :=
        utf8EncodeChar_ofNat (h b List.mem_cons_self)
      have hbytes := ih fun x hx => h x (List.mem_cons_of_mem b hx)
      rw [encode, List.map_cons, List.flatMap_cons, hb]
      exact congrArg (b :: ·) hbytes

theorem toList_ofAscii_append (a b : List UInt8) :
    (ofAscii (a ++ b)).toList = (ofAscii a).toList ++ (ofAscii b).toList := by
  simp [ofAscii]

/-- A text of ASCII is read from its bytes one by one. -/
theorem ofAscii_encode {cs : List Char} (h : ∀ c ∈ cs, c.toNat < 0x80) :
    (ofAscii (encode cs)).toList = cs := by
  induction cs with
  | nil => rfl
  | cons c cs ih =>
      obtain ⟨hnat, hsingle⟩ := utf8EncodeChar_of_lt (h c List.mem_cons_self)
      have hcs := ih fun d hd => h d (List.mem_cons_of_mem c hd)
      have hc : (ofAscii [UInt8.ofNat c.toNat]).toList = [c] := by
        rw [ofAscii, String.toList_ofList, List.map_singleton, hnat, Char.ofNat_toNat]
      rw [encode, List.flatMap_cons, hsingle, toList_ofAscii_append, hc]
      exact congrArg (c :: ·) hcs

theorem decode?_bytesOf (s : String) : decode? (bytesOf s) = some s := by
  have hbytes : (⟨(bytesOf s).toArray⟩ : ByteArray) = s.toByteArray := by
    rw [← String.utf8Encode_toList]
    ext1
    rw [List.utf8Encode, bytesOf, encode, List.data_toByteArray]
  have hvalid : s.toByteArray.IsValidUTF8 := s.isValidUTF8
  rw [decode?, hbytes, String.fromUTF8?, dif_pos hvalid]
  rfl

/-- The encoding of a character beyond ASCII has no byte below 128. -/
theorem le_of_mem_utf8EncodeChar {c : Char} (hc : 0x80 ≤ c.toNat) {b : UInt8}
    (hb : b ∈ String.utf8EncodeChar c) : 0x80 ≤ b := by
  have hor : ∀ a m : UInt8, 0x80 ≤ m → 0x80 ≤ a ||| m := by
    intro a m hm
    rw [UInt8.le_iff_toNat_le, UInt8.toNat_or]
    exact Nat.le_trans (UInt8.le_iff_toNat_le.1 hm) Nat.right_le_or
  have hwide : ¬ c.val ≤ 0x7f := by
    rw [UInt32.le_iff_toNat_le]
    show ¬ c.toNat ≤ 0x7f
    omega
  rw [String.utf8EncodeChar_eq_utf8EncodeCharFast, String.utf8EncodeCharFast] at hb
  simp only [hwide, if_false] at hb
  -- Two, three or four bytes, each of which has the highest bit.
  split at hb
  · simp only [List.mem_cons, List.not_mem_nil, or_false] at hb
    rcases hb with rfl | rfl
    all_goals exact hor _ _ (by decide)
  · split at hb
    · simp only [List.mem_cons, List.not_mem_nil, or_false] at hb
      rcases hb with rfl | rfl | rfl
      all_goals exact hor _ _ (by decide)
    · simp only [List.mem_cons, List.not_mem_nil, or_false] at hb
      rcases hb with rfl | rfl | rfl | rfl
      all_goals exact hor _ _ (by decide)

end IsolationGate.Text
