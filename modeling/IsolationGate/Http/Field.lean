import IsolationGate.Text.Utf8

/-!
# Field names and field values

A message carries fields. A name is a token without capital letters: it is read with its letters
made small, so two spellings of one name are the same name. A value is a list of bytes without
control bytes, the tab excepted; it is `plain` when all its bytes are visible, blank or tab.
-/

namespace IsolationGate.Http

/-- The characters of a token other than letters and digits. -/
def tokenMarks : List UInt8 := [33, 35, 36, 37, 38, 39, 42, 43, 45, 46, 94, 95, 96, 124, 126]

/-- A capital letter. -/
def isCapital (b : UInt8) : Bool := 65 ≤ b && b ≤ 90

/-- A byte of a token. -/
def isTokenByte (b : UInt8) : Bool :=
  (48 ≤ b && b ≤ 57) || isCapital b || (97 ≤ b && b ≤ 122) || tokenMarks.contains b

/-- A capital letter made small. -/
def smallByte (b : UInt8) : UInt8 := if isCapital b then b + 32 else b

/-- The greatest length of a name. -/
def longestName : Nat := 65535

/-- The name of a field, in small letters. -/
structure FieldName where
  text : String
  deriving Repr, DecidableEq

/-- The name that these bytes spell. -/
def FieldName.ofBytes? (bytes : List UInt8) : Option FieldName :=
  if bytes ≠ [] ∧ bytes.length ≤ longestName ∧ bytes.all isTokenByte then
    some ⟨Text.ofAscii (bytes.map smallByte)⟩
  else none

/-- A byte of a value: a tab, or no control byte. -/
def isFieldByte (b : UInt8) : Bool := b == 9 || (32 ≤ b && b != 127)

/-- A visible byte, a blank or a tab. -/
def isPlainByte (b : UInt8) : Bool := b == 9 || (32 ≤ b && b < 127)

theorem isPlainByte_iff {b : UInt8} : isPlainByte b = true ↔ b = 9 ∨ (0x20 ≤ b ∧ b ≤ 0x7E) := by
  have hlast : b < 127 ↔ b ≤ 0x7E := by
    simp only [UInt8.lt_iff_toNat_lt, UInt8.le_iff_toNat_le, UInt8.reduceToNat]
    omega
  simp only [isPlainByte, Bool.or_eq_true, Bool.and_eq_true, beq_iff_eq, decide_eq_true_eq, hlast]

theorem lt_of_isPlainByte {b : UInt8} (h : isPlainByte b = true) : b < 128 := by
  rcases isPlainByte_iff.1 h with rfl | ⟨_, hle⟩
  · decide
  · simp only [UInt8.lt_iff_toNat_lt, UInt8.le_iff_toNat_le, UInt8.reduceToNat] at hle ⊢
    omega

/-- A byte of a value is plain when it is one of ASCII. -/
theorem isPlainByte_of_lt {b : UInt8} (hfield : isFieldByte b = true) (h : b < 128) :
    isPlainByte b = true := by
  rw [UInt8.lt_iff_toNat_lt] at h
  have h : b.toNat < 128 := h
  simp only [isFieldByte, Bool.or_eq_true, beq_iff_eq, Bool.and_eq_true, decide_eq_true_eq,
    bne_iff_ne] at hfield
  rw [isPlainByte_iff]
  rcases hfield with htab | ⟨hlow, hdelete⟩
  · exact .inl htab
  · refine .inr ⟨hlow, ?_⟩
    have hne : b.toNat ≠ 127 := fun heq => hdelete (UInt8.toNat_inj.1 heq)
    rw [UInt8.le_iff_toNat_le]
    show b.toNat ≤ 126
    omega

/-- A character that may stand anywhere in a value. -/
def IsFieldChar (c : Char) : Prop := 0x20 ≤ c.toNat ∧ c.toNat ≠ 0x7F

instance (c : Char) : Decidable (IsFieldChar c) := by
  unfold IsFieldChar
  infer_instance

/-- No byte of such a character is a control byte. -/
theorem bounds_of_mem_utf8EncodeChar {c : Char} (hc : IsFieldChar c) {b : UInt8}
    (hb : b ∈ String.utf8EncodeChar c) : 0x20 ≤ b ∧ b ≠ 0x7F := by
  obtain ⟨hlow, hdelete⟩ := hc
  by_cases hascii : c.toNat < 0x80
  · obtain ⟨hnat, hsingle⟩ := Text.utf8EncodeChar_of_lt hascii
    rw [hsingle, List.mem_singleton] at hb
    subst hb
    constructor
    · rw [UInt8.le_iff_toNat_le, hnat]
      exact hlow
    · intro heq
      exact hdelete (hnat.symm.trans (congrArg UInt8.toNat heq))
  · have hhigh := Text.le_of_mem_utf8EncodeChar (Nat.le_of_not_lt hascii) hb
    constructor
    · exact UInt8.le_trans (by decide) hhigh
    · rintro rfl
      revert hhigh
      decide

theorem isFieldByte_of_mem_utf8EncodeChar {c : Char} (hc : IsFieldChar c) {b : UInt8}
    (hb : b ∈ String.utf8EncodeChar c) : isFieldByte b = true := by
  obtain ⟨hlow, hdelete⟩ := bounds_of_mem_utf8EncodeChar hc hb
  simp [isFieldByte, hlow, hdelete]

/-- The value of a field. -/
structure FieldValue where
  bytes : List UInt8
  valid : bytes.all isFieldByte = true
  deriving DecidableEq

namespace FieldValue

instance : Repr FieldValue := ⟨fun v _ => repr v.bytes⟩

/-- The value with these bytes, if none is a control byte. -/
def ofBytes? (bytes : List UInt8) : Option FieldValue :=
  if h : bytes.all isFieldByte = true then some ⟨bytes, h⟩ else none

/-- The value with this text. -/
def ofText? (s : String) : Option FieldValue := ofBytes? (Text.bytesOf s)

/-- The text of a plain value; any other value has none. -/
def text? (v : FieldValue) : Option String :=
  if v.bytes.all isPlainByte then some (Text.ofAscii v.bytes) else none

theorem ofBytes?_eq_some_iff {bytes : List UInt8} {v : FieldValue} :
    ofBytes? bytes = some v ↔ v.bytes = bytes := by
  unfold ofBytes?
  constructor
  · intro h
    split at h
    · cases h
      rfl
    · simp at h
  · rintro rfl
    simp [v.valid]

theorem ofBytes?_eq_none_iff {bytes : List UInt8} :
    ofBytes? bytes = none ↔ ∃ b ∈ bytes, isFieldByte b = false := by
  simp [ofBytes?]

/-- A text without control characters of ASCII is the text of a value. -/
theorem exists_ofText? {s : String} (h : ∀ c ∈ s.toList, IsFieldChar c) :
    ∃ v, ofText? s = some v := by
  have hbytes : (Text.bytesOf s).all isFieldByte = true := by
    rw [List.all_eq_true]
    intro b hb
    obtain ⟨c, hc, hbc⟩ := List.mem_flatMap.1 hb
    exact isFieldByte_of_mem_utf8EncodeChar (h c hc) hbc
  exact ⟨⟨Text.bytesOf s, hbytes⟩, dif_pos hbytes⟩

theorem exists_text?_of_plain {v : FieldValue} (h : ∀ b ∈ v.bytes, isPlainByte b = true) :
    ∃ s, v.text? = some s :=
  ⟨Text.ofAscii v.bytes, if_pos (List.all_eq_true.2 h)⟩

/-- A plain value and its text hold the same bytes. -/
theorem text?_eq_some_iff {v : FieldValue} {s : String} :
    v.text? = some s ↔ (∀ b ∈ v.bytes, isPlainByte b = true) ∧ v.bytes = Text.bytesOf s := by
  have hread : (∀ b ∈ v.bytes, isPlainByte b = true) →
      Text.bytesOf (Text.ofAscii v.bytes) = v.bytes := fun h =>
    Text.bytesOf_ofAscii fun b hb => lt_of_isPlainByte (h b hb)
  unfold text?
  constructor
  · intro h
    split at h
    · next hplain =>
        have hplain := List.all_eq_true.1 hplain
        cases h
        exact ⟨hplain, (hread hplain).symm⟩
    · cases h
  · rintro ⟨hplain, hbytes⟩
    rw [if_pos (List.all_eq_true.2 hplain)]
    exact congrArg some (Text.bytesOf_inj.1 ((hread hplain).trans hbytes))

end FieldValue

end IsolationGate.Http
