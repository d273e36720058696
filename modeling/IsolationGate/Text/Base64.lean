/-!
# Base 64

Bytes written in the standard alphabet of 64 characters, three bytes as four characters and the rest
filled up with equals signs. Every character of the result belongs to that alphabet or is the
filling.
-/

namespace IsolationGate.Text.Base64

/-- The 64 characters, in the order of their values. -/
def alphabet : List Char :=
  "ABCDEFGHIJKLMNOPQRSTUVWXYZabcdefghijklmnopqrstuvwxyz0123456789+/".toList

/-- The character of a value below 64. -/
def symbol (n : Nat) : Char := alphabet.getD (n % 64) 'A'

/-- A character of the alphabet, or the filling. -/
def isSymbol (c : Char) : Bool := alphabet.contains c || c = '='

/-- Three bytes as four characters. -/
def encode : List UInt8 → List Char
  | [] => []
  | [a] => [symbol (a.toNat / 4), symbol (a.toNat * 16), '=', '=']
  | [a, b] =>
      [symbol (a.toNat / 4), symbol (a.toNat * 16 + b.toNat / 16), symbol (b.toNat * 4), '=']
  | a :: b :: c :: rest =>
      symbol (a.toNat / 4) :: symbol (a.toNat * 16 + b.toNat / 16) ::
        symbol (b.toNat * 4 + c.toNat / 64) :: symbol c.toNat :: encode rest

theorem isSymbol_symbol (n : Nat) : isSymbol (symbol n) = true := by
  have hlength : alphabet.length = 64 := by decide
  have hlt : n % 64 < alphabet.length := by
    rw [hlength]
    exact Nat.mod_lt _ (by decide)
  have hmem : symbol n ∈ alphabet := by
    unfold symbol
    simp only [List.getD, List.getElem?_eq_getElem hlt, Option.getD_some]
    exact List.getElem_mem hlt
  simp [isSymbol, hmem]

theorem isSymbol_of_mem_encode {bytes : List UInt8} : ∀ c ∈ encode bytes, isSymbol c = true := by
  have hfill : isSymbol '=' = true := by decide
  fun_induction encode bytes with
  | case1 => simp
  | case2 a => simp [isSymbol_symbol, hfill]
  | case3 a b => simp [isSymbol_symbol, hfill]
  | case4 a b c rest ih =>
      simp only [List.mem_cons, forall_eq_or_imp]
      exact ⟨isSymbol_symbol _, isSymbol_symbol _, isSymbol_symbol _, isSymbol_symbol _, ih⟩

/-- Whole groups of three bytes need no filling. -/
theorem length_encode {bytes : List UInt8} (h : bytes.length % 3 = 0) :
    (encode bytes).length = bytes.length / 3 * 4 := by
  fun_induction encode bytes with
  | case1 => simp
  | case2 a => simp at h
  | case3 a b => simp at h
  | case4 a b c rest ih =>
      have hrest : rest.length % 3 = 0 := by
        simp only [List.length_cons] at h
        omega
      simp only [List.length_cons, ih hrest]
      omega

end IsolationGate.Text.Base64
