import IsolationGate.Number.Digits
import IsolationGate.Text.Utf8
import IsolationGate.Url.Domain

/-!
# Hosts of absolute URLs

A host in brackets is an IPv6 address. The host of a web scheme is otherwise a domain name after
percent decoding, and must be an IPv4 address when its last label is a number. The host of any other
scheme is opaque: it is only kept free of the characters that would end it.
-/

namespace IsolationGate.Url

/-- The byte of two hexadecimal digits. -/
def byteOfHex? (high low : UInt8) : Option UInt8 := do
  let h ← Number.digitValue? 16 (Char.ofNat high.toNat)
  let l ← Number.digitValue? 16 (Char.ofNat low.toNat)
  some (UInt8.ofNat (16 * h + l))

/-- Percent signs with two hexadecimal digits are replaced by their bytes. -/
def percentDecode : List UInt8 → List UInt8
  | 37 :: high :: low :: rest =>
      match byteOfHex? high low with
      | some b => b :: percentDecode rest
      | none => 37 :: percentDecode (high :: low :: rest)
  | b :: rest => b :: percentDecode rest
  | [] => []

/-! ## IPv4 -/

/-- One part of an IPv4 address: decimal, octal after a zero, or hexadecimal after `0x`. -/
def ipv4Part? (cs : List Char) : Option Nat :=
  match cs with
  | [] => none
  | '0' :: x :: rest =>
      if x = 'x' ∨ x = 'X' then
        if rest = [] then some 0 else Number.ofNumeral? 16 rest
      else Number.ofNumeral? 8 (x :: rest)
  | _ => Number.ofNumeral? 10 cs

/-- The parts of a name, without an empty last one. -/
def nameParts (name : List Char) : List (List Char) :=
  let parts := Text.segments '.' name
  if parts.getLast? = some [] then parts.dropLast else parts

/-- The last part of a name is a number, so the name is an IPv4 address or nothing. -/
def endsInNumber (name : List Char) : Bool :=
  match (nameParts name).getLast? with
  | none => false
  | some last => (last ≠ [] && last.all Number.isDecimal) || (ipv4Part? last).isSome

/-- An IPv4 address of one to four parts: the last one fills the bytes that the others leave. -/
def isIpv4 (name : List Char) : Bool :=
  match (nameParts name).mapM ipv4Part? with
  | none => false
  | some numbers =>
      match numbers.reverse with
      | [] => false
      | last :: others =>
          others.length < 4 && others.all (· < 256) && last < Nat.pow 256 (4 - others.length)

/-! ## IPv6 -/

/-- The four decimal parts of an IPv4 address at the end of an IPv6 address. -/
def isIpv4Tail (cs : List Char) : Bool :=
  let parts := Text.segments '.' cs
  parts.length == 4 && parts.all fun part =>
    match Number.ofDecimal? part with
    | some n => n < 256 && (part.length == 1 || part.head? != some '0')
    | none => false

/-- The rest of an IPv6 address after `pieces` pieces. `compressed` says whether two colons have
stood for the pieces that are left out. -/
def ipv6Rest (fuel pieces : Nat) (compressed : Bool) (cs : List Char) : Bool :=
  match fuel with
  | 0 => false
  | fuel + 1 =>
      match cs with
      | [] => compressed || pieces == 8
      | ':' :: rest =>
          if pieces == 8 || compressed then false else ipv6Rest fuel (pieces + 1) true rest
      | _ =>
          if pieces == 8 then false
          else
            let digits := (cs.take 4).takeWhile Number.isHex
            match cs.drop digits.length with
            | [] => ipv6Rest fuel (pieces + 1) compressed []
            | '.' :: _ =>
                digits ≠ [] && pieces ≤ 6 && isIpv4Tail cs && (compressed || pieces == 6)
            | [':'] => false
            | ':' :: rest => ipv6Rest fuel (pieces + 1) compressed rest
            | _ => false

/-- The text between the brackets is an IPv6 address. -/
def isIpv6 (cs : List Char) : Bool :=
  match cs with
  | ':' :: ':' :: rest => ipv6Rest (rest.length + 1) 1 true rest
  | ':' :: _ => false
  | [] => false
  | [_] => false
  | _ => ipv6Rest (cs.length + 1) 0 false cs

/-- A host in brackets. -/
def isBracketed (cs : List Char) : Bool :=
  cs.getLast? = some ']' && isIpv6 cs.tail.dropLast && 2 ≤ cs.length

/-! ## Kinds of hosts -/

/-- A host of a web scheme. -/
def isDomainHost (cs : List Char) : Bool :=
  if cs.head? = some '[' then isBracketed cs
  else
    match Text.decode? (percentDecode (Text.encode cs)) with
    | none => false
    | some decoded =>
        match Domain.ofText? decoded.toList with
        | none => false
        | some name => name ≠ [] && (!endsInNumber name || isIpv4 name)

/-- The characters that an opaque host may not hold. -/
def isForbiddenOpaque (c : Char) : Bool :=
  ['\x00', '\t', '\n', '\r', ' ', '#', '/', ':', '<', '>', '?', '@', '[', '\\', ']', '^',
    '|'].contains c

/-- A host of a scheme that is not of the web. -/
def isOpaqueHost (cs : List Char) : Bool :=
  if cs.head? = some '[' then isBracketed cs else !cs.any isForbiddenOpaque

end IsolationGate.Url
