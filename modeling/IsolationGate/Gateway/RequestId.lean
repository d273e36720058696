import IsolationGate.Http.Message

/-!
# Request ids

A request that brings no id gets a random one of 16 bytes, written in groups of hexadecimal digits.
Some of its bits tell that it is random.
-/

namespace IsolationGate.Gateway

/-- The number of random bytes of an id. -/
def requestIdBytes : Nat := 16

/-- A byte as two digits. -/
def hexByte (b : UInt8) : List Char := Number.padLeft 2 (Number.toHex b.toNat)

/-- A byte with its high bits replaced by the mark of a random id. -/
def markByte (place : Nat) (b : UInt8) : UInt8 :=
  if place = 6 then b &&& 0x0F ||| 0x40
  else if place = 8 then b &&& 0x3F ||| 0x80
  else b

/-- A dash stands before the byte at this place. -/
def startsGroup (place : Nat) : Bool := place = 4 || place = 6 || place = 8 || place = 10

/-- The id of random bytes. -/
def requestIdOf (bytes : List UInt8) : Http.FieldValue :=
  .ofAscii (String.ofList ((bytes.take requestIdBytes).zipIdx.flatMap fun (b, place) =>
    (if startsGroup place then ['-'] else []) ++ hexByte (markByte place b)))

end IsolationGate.Gateway
