import IsolationGate.Text.Base64

/-!
# Nonces

A nonce ties the inline style of one answer to the content policy of that answer. It is drawn fresh
for each request from random bytes and written in base 64, so it holds no blank, quote, comma or
semicolon and can stand in a policy and in an attribute as it is.
-/

namespace IsolationGate.Policy

/-- The nonce of a request. -/
structure Nonce where
  text : String
  symbols : text.toList.all Text.Base64.isSymbol = true
  deriving DecidableEq

namespace Nonce

instance : Repr Nonce := ⟨fun n _ => repr n.text⟩

/-- The number of random bytes of a nonce. -/
def byteCount : Nat := 18

/-- The nonce of random bytes. -/
def ofBytes (bytes : List UInt8) : Nonce :=
  ⟨String.ofList (Text.Base64.encode bytes), by
    simpa using fun c hc => Text.Base64.isSymbol_of_mem_encode c hc⟩

instance : Inhabited Nonce := ⟨ofBytes []⟩

/-- A nonce has 24 characters. -/
theorem length_ofBytes {bytes : List UInt8} (h : bytes.length = byteCount) :
    (ofBytes bytes).text.length = 24 := by
  have hthirds : bytes.length % 3 = 0 := by rw [h]; rfl
  have hlength := Text.Base64.length_encode hthirds
  rw [h] at hlength
  simpa [ofBytes, byteCount] using hlength

end Nonce

end IsolationGate.Policy
