import IsolationGate.Http.Message
import IsolationGate.Number.Digits
import IsolationGate.Text.Blank
import IsolationGate.Text.Segments

/-!
# Where a body ends

A request may tell the length of its body. The limit on bodies goes by the first value that does,
and no more is read than that. The sender of a message goes by all values, and by none of them
unless they agree. When nothing is told it counts the body if its length is known beforehand; else
it sends the body in chunks, with a mark at the end, or, for a method that seldom has a body, does
not send it.

`Framing` is the way that is taken, `Framing.addTo` what it writes into the fields of the message,
and `Framing.sends` what it makes of the body.
-/

namespace IsolationGate.Gateway

open Http (Body FieldName FieldValue Fields Method)

/-! ## The length that is told -/

/-- A numeral of a length, possibly behind a plus sign. -/
def lengthOfText? (s : String) : Option Nat := Number.ofPlusWord? 64 s.toList

/-- The length that a request says its body has. -/
def statedLength? (fields : Fields) : Option Nat :=
  ((fields.get? .contentLength).bind FieldValue.text?).bind lengthOfText?

/-- The most bytes of a body that are read. -/
def bodyLimit (maxBodyBytes : Nat) (fields : Fields) : Nat :=
  match statedLength? fields with
  | some n => min maxBodyBytes n
  | none => maxBodyBytes

theorem bodyLimit_le (maxBodyBytes : Nat) (fields : Fields) :
    bodyLimit maxBodyBytes fields ≤ maxBodyBytes := by
  unfold bodyLimit
  split
  · exact Nat.min_le_left _ _
  · exact Nat.le_refl _

/-- The lengths that a value tells, one between any two commas. -/
def lengthsOf (value : FieldValue) : List (Option Nat) :=
  match value.text? with
  | some s => (Text.segments ',' s.toList).map fun segment => Number.ofWord? 64 (Text.trim segment)
  | none => [none]

/-- The length that all values tell alike. -/
def agreedLength? (fields : Fields) : Option Nat :=
  match (fields.values .contentLength).flatMap lengthsOf with
  | some n :: rest => if rest.all (· == some n) then some n else none
  | _ => none

/-! ## Framing -/

/-- How the receiver of a message is told where its body ends. -/
inductive Framing where
  /-- No body is sent. -/
  | bodiless
  /-- The fields tell its length as they are. -/
  | told (n : Nat)
  /-- The length is counted and told. -/
  | counted (n : Nat)
  /-- There is a mark behind it. -/
  | chunked
  deriving Repr, DecidableEq

/-- The methods that seldom have a body. -/
def seldomHasBody (method : Method) : Bool :=
  method == .get || method == .head || method == .connect

/-- The framing of a message. A body that is too long is counted as far as it is read. -/
def framing (limit : Nat) (method : Method) (fields : Fields) (body : Body) : Framing :=
  if body.isEmpty then .bodiless
  else
    match agreedLength? fields with
    | some n => .told n
    | none =>
        if body.sized then .counted (min limit body.bytes.length)
        else if seldomHasBody method then .bodiless
        else .chunked

namespace Framing

/-- The value that announces chunks. -/
def chunkedValue : FieldValue := .ofAscii "chunked"

/-- The fields of a message with this framing. -/
def addTo (fields : Fields) : Framing → Fields
  | bodiless | told _ => fields
  | counted n => fields.set .contentLength (.ofNat n)
  | chunked => fields.set .transferEncoding chunkedValue

/-- What is sent of a body, and whether the message is complete with it: reading fails when there is
more than the limit, and a length that was told has to be reached. -/
def sends (limit : Nat) (body : Body) : Framing → List UInt8 × Bool
  | bodiless => ([], true)
  | told n | counted n =>
      (body.bytes.take (min n limit),
        n == 0 || (body.bytes.length ≤ limit && n ≤ body.bytes.length))
  | chunked => (body.bytes.take limit, body.bytes.length ≤ limit)

theorem length_sends_le (limit : Nat) (body : Body) (framing : Framing) :
    (framing.sends limit body).1.length ≤ limit := by
  cases framing with
  | bodiless => exact Nat.zero_le limit
  | told n | counted n =>
      exact Nat.le_trans (List.length_take_le _ _) (Nat.min_le_right n limit)
  | chunked => exact List.length_take_le _ _

theorem values_addTo_of_ne {name : FieldName} (hlength : name ≠ .contentLength)
    (hcoding : name ≠ .transferEncoding) (fields : Fields) (framing : Framing) :
    (framing.addTo fields).values name = fields.values name := by
  cases framing with
  | bodiless | told n => rfl
  | counted n => exact Fields.values_set_of_ne hlength _ _
  | chunked => exact Fields.values_set_of_ne hcoding _ _

end Framing

/-- Of the fields only what is told of the length decides. -/
theorem framing_congr {fields other : Fields}
    (h : fields.values .contentLength = other.values .contentLength) (limit : Nat)
    (method : Method) (body : Body) :
    framing limit method fields body = framing limit method other body := by
  rw [framing, framing, agreedLength?, agreedLength?, h]

theorem bodyLimit_congr {fields other : Fields}
    (h : fields.values .contentLength = other.values .contentLength) (maxBodyBytes : Nat) :
    bodyLimit maxBodyBytes fields = bodyLimit maxBodyBytes other := by
  rw [bodyLimit, bodyLimit, statedLength?, statedLength?, Fields.get?, Fields.get?, h]

end IsolationGate.Gateway
