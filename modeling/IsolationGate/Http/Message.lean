import IsolationGate.Http.Fields
import IsolationGate.Http.Target

/-!
# Requests and responses

The messages that the gateway handles, with their whole body. The length of a body need not be known
before the body has been read. A response knows its body until it is written out; `Response.plain` and
`Response.html` are the forms that the gateway produces itself.
-/

namespace IsolationGate.Http

/-- The method of a request: a token, whose case matters. -/
structure Method where
  text : String
  deriving Repr, DecidableEq

namespace Method

/-- The method `GET`. -/
def get : Method := ⟨"GET"⟩

/-- The method `HEAD`. -/
def head : Method := ⟨"HEAD"⟩

/-- The method `CONNECT`. -/
def connect : Method := ⟨"CONNECT"⟩

/-- The method with this text. -/
def ofText? (s : String) : Option Method :=
  let bytes := Text.bytesOf s
  if bytes ≠ [] ∧ bytes.all isTokenByte then some ⟨s⟩ else none

end Method

/-- The body of a request. -/
structure Body where
  bytes : List UInt8
  /-- The length is known before the body has been read. -/
  sized : Bool := true
  deriving Repr, DecidableEq

namespace Body

/-- Bytes that are at hand are a body of known length. -/
instance : Coe (List UInt8) Body := ⟨fun bytes => { bytes := bytes }⟩

/-- No bytes. -/
def empty : Body := { bytes := [] }

/-- It is known beforehand that there is nothing to read. -/
def isEmpty (b : Body) : Bool := b.sized && b.bytes.isEmpty

end Body

/-- A request. -/
structure Request where
  method : Method
  target : Target
  fields : Fields
  body : Body
  deriving Repr

/-- A response. -/
structure Response where
  status : Nat
  fields : Fields
  body : List UInt8
  /-- The length is known before the body has been read. -/
  sized : Bool := true
  deriving Repr, DecidableEq

/-! ## Names of fields -/

namespace FieldName

/-- The name `allow`. -/
def allow : FieldName := ⟨"allow"⟩

/-- The name `content-length`. -/
def contentLength : FieldName := ⟨"content-length"⟩

/-- The name `content-type`. -/
def contentType : FieldName := ⟨"content-type"⟩

/-- The name `host`. -/
def host : FieldName := ⟨"host"⟩

/-- The name `transfer-encoding`. -/
def transferEncoding : FieldName := ⟨"transfer-encoding"⟩

/-- The name `vary`. -/
def vary : FieldName := ⟨"vary"⟩

/-- The name `x-request-id`. -/
def requestId : FieldName := ⟨"x-request-id"⟩

end FieldName

namespace FieldValue

/-- A value of visible ASCII characters and blanks; other characters are left out. -/
def ofAscii (s : String) : FieldValue :=
  ⟨(Text.bytesOf s).filter isPlainByte, by
    simp only [List.all_filter, List.all_eq_true, Bool.or_eq_true, Bool.not_eq_true']
    intro b _
    by_cases h : isPlainByte b = true
    · refine Or.inr ?_
      simp only [isPlainByte, isFieldByte, Bool.or_eq_true, Bool.and_eq_true, decide_eq_true_eq,
        beq_iff_eq, bne_iff_ne] at h ⊢
      rcases h with h | ⟨h1, h2⟩
      · exact Or.inl h
      · exact Or.inr ⟨h1, fun he => by simp [he] at h2⟩
    · exact Or.inl (by simpa using h)⟩

/-- The value of a count. -/
def ofNat (n : Nat) : FieldValue := ofAscii (String.ofList (Number.toDecimal n))

end FieldValue

namespace Response

/-- A response without fields and body. -/
def bare (status : Nat) : Response := { status := status, fields := .empty, body := [] }

/-- A response with a text of a given type. -/
def ofText (status : Nat) (type text : String) : Response where
  status := status
  fields := Fields.empty.append .contentType (.ofAscii type)
  body := Text.bytesOf text

/-- A response with a plain text. -/
def plain (status : Nat) (text : String) : Response :=
  ofText status "text/plain; charset=utf-8" text

/-- A response with a page. -/
def html (status : Nat) (page : String) : Response :=
  ofText status "text/html; charset=utf-8" page

theorem body_html (status : Nat) (page : String) :
    (html status page).body = Text.bytesOf page := rfl

/-- The response is a success. -/
def isSuccess (r : Response) : Bool := 200 ≤ r.status && r.status < 300

end Response

end IsolationGate.Http
