import IsolationGate.Number.Digits

/-!
# Socket addresses

An address that a listener binds to: an IPv4 address or a bracketed IPv6 address with an optional
numeric zone, then a service number. `ofText?` reads an address and `toText` writes its canonical
form, in which a run of two or more zero groups is shortened once, at the leftmost of the longest
runs.

Every reader takes a text and gives what it read together with the text behind it.
-/

namespace IsolationGate.Net

/-- The text behind an expected character. -/
def expect (c : Char) : List Char → Option (List Char)
  | d :: rest => if d = c then some rest else none
  | [] => none

/-- A numeral of at most `width` digits (`none`: any number) whose value is below `bound`. -/
def readNumeral (base : Nat) (width : Option Nat) (bound : Nat) (cs : List Char) :
    Option (Nat × List Char) :=
  let isDigit := fun c => (Number.digitValue? base c).isSome
  let digits := cs.takeWhile isDigit
  let fits : Bool := match width with
    | some w => decide (digits.length ≤ w)
    | none => true
  let value := Number.ofDigits base digits
  if digits ≠ [] ∧ fits ∧ value < bound then some (value, cs.dropWhile isDigit) else none

/-- An IPv4 address. -/
structure Ipv4 where
  a : Nat
  b : Nat
  c : Nat
  d : Nat
  deriving Repr, DecidableEq

/-- One part of an IPv4 address: at most three digits without a leading zero. -/
def readOctet (cs : List Char) : Option (Nat × List Char) :=
  match cs with
  | '0' :: c :: _ => if Number.isDecimal c then none else readNumeral 10 (some 3) 256 cs
  | _ => readNumeral 10 (some 3) 256 cs

/-- An IPv4 address in four decimal parts. -/
def readIpv4 (cs : List Char) : Option (Ipv4 × List Char) := do
  let (a, cs) ← readOctet cs
  let cs ← expect '.' cs
  let (b, cs) ← readOctet cs
  let cs ← expect '.' cs
  let (c, cs) ← readOctet cs
  let cs ← expect '.' cs
  let (d, cs) ← readOctet cs
  some (⟨a, b, c, d⟩, cs)

/-- The text behind the colon that separates a group from the one before it. -/
def readColon (first : Bool) (cs : List Char) : Option (List Char) :=
  if first then some cs else expect ':' cs

/-- Up to `limit` groups of an IPv6 address, the text behind them, and whether the last two were
written as an IPv4 address. -/
def readGroups (first : Bool) : Nat → List Char → List Nat × List Char × Bool
  | 0, cs => ([], cs, false)
  | limit + 1, cs =>
      let embedded : Option (Ipv4 × List Char) :=
        if limit = 0 then none else (readColon first cs).bind readIpv4
      match embedded with
      | some (ip, rest) => ([ip.a * 256 + ip.b, ip.c * 256 + ip.d], rest, true)
      | none =>
          match (readColon first cs).bind (readNumeral 16 (some 4) 65536) with
          | some (group, rest) =>
              let (groups, after, ended) := readGroups false limit rest
              (group :: groups, after, ended)
          | none => ([], cs, false)

/-- The eight groups of an IPv6 address. Two colons stand for at least one zero group, and an IPv4
address can stand only at the end. -/
def readIpv6 (cs : List Char) : Option (List Nat × List Char) := do
  let (head, rest, ended) := readGroups true 8 cs
  if head.length = 8 then some (head, rest)
  else if ended then none
  else
    let rest ← expect ':' rest
    let rest ← expect ':' rest
    let (tail, rest, _) := readGroups true (7 - head.length) rest
    some (head ++ List.replicate (8 - head.length - tail.length) 0 ++ tail, rest)

/-- An address to bind to. -/
inductive SocketAddress where
  | v4 (ip : Ipv4) (service : Nat)
  | v6 (groups : List Nat) (zone service : Nat)
  deriving Repr, DecidableEq

namespace SocketAddress

/-- The service number, after its colon. -/
def readService (cs : List Char) : Option (Nat × List Char) :=
  (expect ':' cs).bind (readNumeral 10 none 65536)

/-- An IPv4 address and a service number. -/
def readV4 (cs : List Char) : Option (SocketAddress × List Char) := do
  let (ip, cs) ← readIpv4 cs
  let (service, cs) ← readService cs
  some (.v4 ip service, cs)

/-- The zone of an IPv6 address; zero when it has none. -/
def readZone : List Char → Option (Nat × List Char)
  | '%' :: cs => readNumeral 10 none (Nat.pow 2 32) cs
  | cs => some (0, cs)

/-- A bracketed IPv6 address and a service number. -/
def readV6 (cs : List Char) : Option (SocketAddress × List Char) := do
  let cs ← expect '[' cs
  let (groups, cs) ← readIpv6 cs
  let (zone, cs) ← readZone cs
  let cs ← expect ']' cs
  let (service, cs) ← readService cs
  some (.v6 groups zone service, cs)

/-- The address that a text denotes. -/
def ofText? (s : String) : Option SocketAddress :=
  match readV4 s.toList with
  | some (address, []) => some address
  | some _ => none
  | none =>
      match readV6 s.toList with
      | some (address, []) => some address
      | _ => none

/-- The length of the run of zeros at the start. -/
def zeroRun (groups : List Nat) : Nat := (groups.takeWhile (· = 0)).length

/-- The start and the length of the leftmost longest run of zeros. -/
def longestZeroRun (groups : List Nat) : Nat × Nat :=
  (List.range groups.length).foldl
    (fun best start =>
      let length := zeroRun (groups.drop start)
      if best.2 < length then (start, length) else best)
    (0, 0)

/-- Groups in hexadecimal with colons between them. -/
def groupsText (groups : List Nat) : List Char :=
  List.intercalate [':'] (groups.map Number.toHex)

/-- An IPv4 address in four decimal parts. -/
def ipv4Text (ip : Ipv4) : List Char :=
  List.intercalate ['.'] ([ip.a, ip.b, ip.c, ip.d].map Number.toDecimal)

/-- An IPv6 address in its shortest form; one that holds an IPv4 address shows it. -/
def ipv6Text (groups : List Nat) : List Char :=
  match groups with
  | [0, 0, 0, 0, 0, 0xFFFF, high, low] =>
      [':', ':', 'f', 'f', 'f', 'f', ':'] ++
        ipv4Text ⟨high / 256, high % 256, low / 256, low % 256⟩
  | _ =>
      let (start, length) := longestZeroRun groups
      if 1 < length then
        groupsText (groups.take start) ++ [':', ':'] ++ groupsText (groups.drop (start + length))
      else groupsText groups

/-- The canonical text of an address. -/
def toText : SocketAddress → String
  | .v4 ip service => String.ofList (ipv4Text ip ++ ':' :: Number.toDecimal service)
  | .v6 groups zone service =>
      let zoneText := if zone = 0 then [] else '%' :: Number.toDecimal zone
      String.ofList ('[' :: ipv6Text groups ++ zoneText ++ [']', ':'] ++ Number.toDecimal service)

end SocketAddress

end IsolationGate.Net
