import IsolationGate.Number.Digits

/-!
# Authorities

An authority names a host, with an optional service number and optional user information before an
`@`. It is accepted by one scan: every character is allowed in a URI; brackets come at most as one
pair; what follows the last bracket or `@` holds at most one colon and no percent sign; and
something follows an `@`. It ends before the first `/`, `?` or `#`.
-/

namespace IsolationGate.Http

/-- A character of an authority, the percent sign excepted. -/
def isAuthorityChar (c : Char) : Bool :=
  c.isAlphanum || ['!', '$', '&', '\x27', '(', ')', '*', '+', ',', '-', '.', ':', ';', '=', '@',
    '[', ']', '_', '~'].contains c

/-- The character ends an authority. -/
def endsAuthority (c : Char) : Bool := c = '/' || c = '?' || c = '#'

/-- What a scan has seen: the colons and percent signs of the current part, and the brackets. -/
structure AuthorityScan where
  colons : Nat
  percent : Bool
  opened : Bool
  closed : Bool
  afterAt : Bool
  deriving Repr, DecidableEq

namespace AuthorityScan

/-- Nothing has been seen. -/
def start : AuthorityScan := ⟨0, false, false, false, false⟩

/-- The most colons of one part: those of a full IPv6 address and its service number. -/
def mostColons : Nat := 8

/-- One more character. -/
def step (scan : AuthorityScan) (c : Char) : Option AuthorityScan :=
  let scan := { scan with afterAt := c = '@' }
  if c = ':' then
    if scan.colons < mostColons then some { scan with colons := scan.colons + 1 } else none
  else if c = '[' then
    if scan.percent || scan.opened then none else some { scan with opened := true }
  else if c = ']' then
    if !scan.opened || scan.closed then none
    else some { scan with closed := true, colons := 0, percent := false }
  else if c = '@' then some { scan with colons := 0, percent := false }
  else if c = '%' then some { scan with percent := true }
  else if isAuthorityChar c then some scan
  else none

/-- The scan may end here. -/
def accepts (scan : AuthorityScan) : Bool :=
  scan.opened == scan.closed && scan.colons ≤ 1 && !scan.afterAt && !scan.percent

/-- Whether a text without an ending character is an authority, possibly the empty one. -/
def acceptsText (cs : List Char) : Bool :=
  match cs.foldlM step start with
  | some scan => scan.accepts
  | none => false

end AuthorityScan

/-- The authority at the start of a text, and the text behind it. -/
def splitAuthority (cs : List Char) : Option (List Char × List Char) :=
  let head := cs.takeWhile fun c => !endsAuthority c
  if AuthorityScan.acceptsText head then some (head, cs.dropWhile fun c => !endsAuthority c)
  else none

/-- The whole text is an authority, and not the empty one. -/
def isAuthority (s : String) : Bool :=
  let cs := s.toList
  cs ≠ [] && cs.all (fun c => !endsAuthority c) && AuthorityScan.acceptsText cs

/-- An authority. -/
structure Authority where
  text : String
  valid : isAuthority text = true
  deriving DecidableEq

namespace Authority

instance : Repr Authority := ⟨fun a _ => repr a.text⟩

/-- The authority with this text. -/
def ofText? (s : String) : Option Authority :=
  if h : isAuthority s = true then some ⟨s, h⟩ else none

theorem ofText?_isSome_iff {s : String} : (ofText? s).isSome = true ↔ isAuthority s = true := by
  unfold ofText?
  split <;> simp_all

end Authority

end IsolationGate.Http
