import IsolationGate.Text.Utf8

/-!
# The order of texts and of their bytes

Texts are ordered character by character, byte strings byte by byte, and the two orders agree: of
two texts the smaller one has the smaller encoding. What carries this from characters to texts is
that the encoding of a smaller character is smaller in a byte of its own, so it stays smaller
whatever stands behind.

## Main results

* `utf8EncodeChar_append_lt` — the encodings of two characters, whatever stands behind them.
* `bytesOf_lt_iff` — the order of two texts is that of their bytes.
* `sortByBytes_eq` — sorting by bytes does not depend on the order in which the texts come.
-/

namespace IsolationGate.Text

/-! ## Characters -/

theorem cons_ofNat_lt_iff {m n : Nat} (hm : m < 256) (hn : n < 256) {a b : List UInt8} :
    UInt8.ofNat m :: a < UInt8.ofNat n :: b ↔ m < n ∨ m = n ∧ a < b := by
  rw [List.cons_lt_cons_iff, UInt8.lt_iff_toNat_lt, ← UInt8.toNat_inj,
    UInt8.toNat_ofNat_of_lt' hm, UInt8.toNat_ofNat_of_lt' hn]

/-- The smaller of two numbers is smaller without its last digit in base 64, or in that digit. -/
theorem lt_last_digit {m n : Nat} (h : m < n) :
    m / 64 < n / 64 ∨ m / 64 = n / 64 ∧ m % 64 < n % 64 := by
  omega

/-- The smaller of two numbers is smaller in the first digit in which they differ. The digits are
those that four bytes hold of a code point. -/
theorem lt_digits {m n : Nat} (h : m < n) (hn : n < 0x110000) :
    m / 262144 % 8 < n / 262144 % 8 ∨ m / 262144 % 8 = n / 262144 % 8 ∧
      (m / 4096 % 64 < n / 4096 % 64 ∨ m / 4096 % 64 = n / 4096 % 64 ∧
        (m / 64 % 64 < n / 64 % 64 ∨ m / 64 % 64 = n / 64 % 64 ∧ m % 64 < n % 64)) := by
  have htwo (k : Nat) : k / 64 / 64 = k / 4096 := Nat.div_div_eq_div_mul k 64 64
  have hthree (k : Nat) : k / 4096 / 64 = k / 262144 := Nat.div_div_eq_div_mul k 4096 64
  have hm8 : m / 262144 % 8 = m / 262144 := Nat.mod_eq_of_lt (by omega)
  have hn8 : n / 262144 % 8 = n / 262144 := Nat.mod_eq_of_lt (by omega)
  rw [hm8, hn8]
  rcases lt_last_digit h with hmore | ⟨hsame, hlast⟩
  · rcases lt_last_digit hmore with hmore | ⟨hsame, hlast⟩
    · rw [htwo, htwo] at hmore
      rcases lt_last_digit hmore with hmore | ⟨hsame, hlast⟩
      · rw [hthree, hthree] at hmore
        exact .inl hmore
      · rw [hthree, hthree] at hsame
        exact .inr ⟨hsame, .inl hlast⟩
    · rw [htwo, htwo] at hsame
      rw [← hthree, ← hthree, hsame]
      exact .inr ⟨rfl, .inr ⟨rfl, .inl hlast⟩⟩
  · rw [← hthree, ← hthree, ← htwo, ← htwo, hsame]
    exact .inr ⟨rfl, .inr ⟨rfl, .inr ⟨rfl, hlast⟩⟩⟩

/-- **A smaller character has a smaller encoding**, whatever stands behind the two. -/
theorem utf8EncodeChar_append_lt {c d : Char} (h : c < d) (x y : List UInt8) :
    String.utf8EncodeChar c ++ x < String.utf8EncodeChar d ++ y := by
  have hlt : c.val.toNat < d.val.toNat := h
  have hbound : d.val.toNat < 0x110000 := by
    rcases d.valid with hlow | hhigh
    · exact Nat.lt_trans hlow (by decide)
    · exact hhigh.2
  have hdigits := lt_digits hlt hbound
  unfold String.utf8EncodeChar
  dsimp only
  generalize c.val.toNat = m at hlt hdigits ⊢
  generalize d.val.toNat = n at hlt hbound hdigits ⊢
  -- One case for each pair of lengths. A longer encoding has a larger first byte.
  repeat' split
  all_goals
    simp (disch := omega) only [List.cons_append, List.nil_append, cons_ofNat_lt_iff]
    omega

/-! ## Texts -/

theorem utf8EncodeChar_ne_nil (c : Char) : String.utf8EncodeChar c ≠ [] := by
  unfold String.utf8EncodeChar
  dsimp only
  repeat' split
  all_goals simp

theorem encode_lt_encode {a b : List Char} (h : a < b) : encode a < encode b := by
  induction h with
  | nil =>
      next c cs =>
        rw [encode, encode, List.flatMap_cons]
        obtain ⟨byte, bytes, hbytes⟩ := List.exists_cons_of_ne_nil (utf8EncodeChar_ne_nil c)
        rw [hbytes]
        exact List.nil_lt_cons byte _
  | rel hlt =>
      rw [encode, encode, List.flatMap_cons, List.flatMap_cons]
      exact utf8EncodeChar_append_lt hlt _ _
  | cons hlt ih =>
      rw [encode, encode, List.flatMap_cons, List.flatMap_cons]
      exact List.append_left_lt ih

/-- **The order of two texts is that of their bytes.** -/
theorem bytesOf_lt_iff {a b : String} : bytesOf a < bytesOf b ↔ a < b := by
  constructor
  · intro hbytes
    by_cases hlt : a < b
    · exact hlt
    · -- A text that is not smaller is the same or larger, and then so are its bytes.
      by_cases heq : a = b
      · rw [heq] at hbytes
        exact absurd hbytes (List.lt_irrefl _)
      · have hgt : b < a :=
          String.not_le.1 fun hle => heq (String.le_antisymm hle (String.not_lt.1 hlt))
        exact absurd hbytes (List.lt_asymm (encode_lt_encode hgt))
  · intro hlt
    exact encode_lt_encode hlt

/-! ## Sorting -/

/-- Texts put in the order of their bytes. -/
def sortByBytes (texts : List String) : List String :=
  texts.mergeSort fun a b => decide (bytesOf a ≤ bytesOf b)

theorem pairwise_sortByBytes (texts : List String) :
    (sortByBytes texts).Pairwise fun a b => bytesOf a ≤ bytesOf b := by
  refine (List.pairwise_mergeSort ?_ ?_ texts).imp of_decide_eq_true
  · intro a b c hab hbc
    exact decide_eq_true (List.le_trans (of_decide_eq_true hab) (of_decide_eq_true hbc))
  · intro a b
    rw [Bool.or_eq_true, decide_eq_true_iff, decide_eq_true_iff]
    exact List.le_total _ _

/-- **An increasing list is what sorting makes of its members**, whatever order they come in. -/
theorem sortByBytes_eq {texts sorted : List String} (hperm : texts.Perm sorted)
    (hincreasing : sorted.Pairwise (· < ·)) : sortByBytes texts = sorted := by
  have hsorted : sorted.Pairwise fun a b => bytesOf a ≤ bytesOf b :=
    hincreasing.imp fun hlt => List.le_of_lt (bytesOf_lt_iff.2 hlt)
  refine ((List.mergeSort_perm texts _).trans hperm).eq_of_pairwise ?_
    (pairwise_sortByBytes texts) hsorted
  intro a b _ _ hab hba
  exact bytesOf_inj.1 (List.le_antisymm hab hba)

end IsolationGate.Text
