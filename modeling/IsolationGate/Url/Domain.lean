import IsolationGate.Text.Composition
import IsolationGate.Text.Direction
import IsolationGate.Text.Joining
import IsolationGate.Text.Printable
import IsolationGate.Text.Segments
import IsolationGate.Url.NameForms
import IsolationGate.Url.Punycode

/-!
# Domain names

A domain name is mapped character by character (letters made small, special forms made plain,
invisible characters dropped), put into composed form, and then checked label by label. An encoded
label is checked by the text that it stands for. A name with letters from right to left must read in
one direction in each of its labels. `Domain.ofText?` gives the mapped name, or nothing when a
character may not stand in a host name.
-/

namespace IsolationGate.Url

/-- The ASCII characters that a domain name may not hold. -/
def isForbiddenAscii (c : Char) : Bool :=
  c.toNat ≤ 0x20 || c = '\x7f' ||
    ['#', '%', '/', ':', '<', '>', '?', '@', '[', '\\', ']', '^', '|'].contains c

/-- The two invisible characters that ask letters to join or not to join. -/
def isJoiner (c : Char) : Bool := c.toNat == 0x200C || c.toNat == 0x200D

/-- What a character becomes in a name; nothing if it may not stand there. Whether an ASCII
character is forbidden is asked of the composed name, since a mark can join it. -/
def mapChar (c : Char) : Option (List Char) :=
  let n := c.toNat
  if n < 0x80 then some [c.toLower]
  else if Text.inRanges droppedForms n then some []
  else
    match replacement? n with
    | some ns => some (ns.map Char.ofNat)
    | none =>
        if isJoiner c || Text.inRanges acceptedForms n then some [c]
        else if Text.inRanges refusedForms n || !Text.isPrintable c then none
        else some [c]

/-- A text without characters beyond ASCII. -/
def isAscii (cs : List Char) : Bool := cs.all (·.toNat < 0x80)

/-- The mapped and composed form of a text; nothing if a character may not stand in a name. -/
def mapName (cs : List Char) : Option (List Char) := do
  let mapped := (← cs.mapM mapChar).flatten
  let name := if isAscii mapped then mapped else Text.compose mapped
  if name.any isForbiddenAscii then none else some name

/-- Each joiner follows a vowel killer, or is one that keeps letters apart and stands between
letters that would join. The text before the place comes last character first. -/
def joinersFit (before : List Char) : List Char → Bool
  | [] => true
  | c :: rest =>
      (!isJoiner c ||
        match before with
        | [] => false
        | b :: _ => Text.isVirama b || (c.toNat == 0x200C && Text.joinsAcross before rest)) &&
      joinersFit (c :: before) rest

/-- The most digits of an encoded label. -/
def maxEncodedDigits : Nat := 2000

/-- The most characters of a label that is not ASCII. -/
def maxLabelSize : Nat := 1000

/-- The label starts like an encoded one. -/
def hasEncodedStart (label : List Char) : Bool := "xn--".toList.isPrefixOf label

/-- A label as it is shown: no mark at its start, joiners in their places and, beyond ASCII, not too
long and without the start of an encoded label. -/
def isShownLabel (label : List Char) : Bool :=
  !(label.head?.any Text.isMark) && joinersFit [] label &&
    (isAscii label || (label.length ≤ maxLabelSize && !hasEncodedStart label))

/-- The text that a label shows: an encoded label is decoded. The text must have needed the encoding
and must be one that mapping leaves as it is. -/
def shownLabel? (label : List Char) : Option (List Char) :=
  if hasEncodedStart label then
    let digits := label.drop 4
    if digits.length ≤ maxEncodedDigits then
      (Punycode.decode? digits).filter fun shown => !isAscii shown && mapName shown == some shown
    else none
  else some label

/-- In a name with a letter from right to left, each label reads in one direction. -/
def isDirected (labels : List (List Char)) : Bool :=
  labels.all isAscii ||
    let directions := labels.map (·.map Text.Direction.ofChar)
    !directions.any (·.any Text.Direction.isFromRight) || directions.all Text.Direction.isLabel

namespace Domain

/-- The mapped name of a text. -/
def ofText? (cs : List Char) : Option (List Char) := do
  let name ← mapName cs
  let labels ← (Text.segments '.' name).mapM shownLabel?
  if labels.all isShownLabel && isDirected labels then some name else none

end Domain

end IsolationGate.Url
