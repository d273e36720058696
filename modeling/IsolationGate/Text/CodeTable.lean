import IsolationGate.Number.Digits
import IsolationGate.Text.Segments

/-!
# Tables of code points

A property of characters is a table of closed ranges of code points. A table that gives texts for
code points is cut into blocks: a block holds the entries of consecutive code points, one word for
each, written as hexadecimal numbers with plus signs between them. The word of a code point that the
table passes over is an equals sign.
-/

namespace IsolationGate.Text

/-- Whether a code point is in one of the ranges. -/
def inRanges (table : List (Nat × Nat)) (n : Nat) : Bool :=
  table.any fun range => range.1 ≤ n && n ≤ range.2

/-- The entries of the code points from `first` on. -/
structure CodeBlock where
  first : Nat
  entries : Array (Option (List Nat))

namespace CodeBlock

/-- The entry that a word stands for. -/
def entryOfWord (word : List Char) : Option (List Nat) :=
  (segments '+' word).mapM (Number.ofNumeral? 16)

/-- The block of a first code point and the words that follow. -/
def ofWords (first : Nat) (words : String) : CodeBlock :=
  ⟨first, ((segments ' ' words.toList).map entryOfWord).toArray⟩

/-- The entry of a code point in a block. -/
def get? (block : CodeBlock) (n : Nat) : Option (List Nat) :=
  if block.first ≤ n then (block.entries[n - block.first]?).join else none

/-- The code points of a block with their entries. -/
def toList (block : CodeBlock) : List (Nat × List Nat) :=
  (block.entries.toList.zipIdx block.first).filterMap fun (entry, n) => entry.map (n, ·)

end CodeBlock

/-- The entry of a code point in the first block that has one. -/
def lookup? (blocks : List CodeBlock) (n : Nat) : Option (List Nat) :=
  blocks.findSome? (·.get? n)

end IsolationGate.Text
