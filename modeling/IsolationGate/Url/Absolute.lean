import IsolationGate.Url.Host

/-!
# Absolute URLs

`Url.check` reads a text as a URL without a base. A text without a scheme is relative and has no
meaning alone; a text with one is an absolute URL when its authority is well formed. Paths, queries
and fragments never fail. The text is expected to be free of blanks and control characters.
-/

namespace IsolationGate.Url

/-- Why a text is no URL. -/
inductive UrlError where
  /-- There is no scheme, and no base to complete it. -/
  | relativeWithoutBase
  /-- The host, the service number or the user information is malformed. -/
  | malformedAuthority
  deriving Repr, DecidableEq

/-- How the part behind a scheme is read. -/
inductive SchemeKind where
  | file
  | web
  | other
  deriving Repr, DecidableEq

/-- The kind of a scheme in small letters. -/
def SchemeKind.ofScheme (scheme : List Char) : SchemeKind :=
  if scheme = "file".toList then .file
  else if ["http", "https", "ws", "wss", "ftp"].any (fun s => scheme = s.toList) then .web
  else .other

/-- A character of a scheme after its first one. -/
def isSchemeTail (c : Char) : Bool := c.isAlphanum || c = '+' || c = '-' || c = '.'

/-- The scheme of a text in small letters, and the text behind its colon. -/
def splitScheme? (cs : List Char) : Option (List Char × List Char) :=
  match cs with
  | first :: _ =>
      if first.isAlpha then
        match cs.dropWhile isSchemeTail with
        | ':' :: rest => some ((cs.takeWhile isSchemeTail).map Char.toLower, rest)
        | _ => none
      else none
  | [] => none

/-- A slash; a backslash counts as one in the schemes of the web. -/
def isSlash (kind : SchemeKind) (c : Char) : Bool :=
  c = '/' || (c = '\\' && kind ≠ .other)

/-- The character ends the authority. -/
def endsAuthority (kind : SchemeKind) (c : Char) : Bool := isSlash kind c || c = '?' || c = '#'

/-- Digits with a value below 65536. -/
def isServiceNumber (cs : List Char) : Bool :=
  cs = [] || (match Number.ofDecimal? cs with
    | some n => n < 65536
    | none => false)

/-- The length of a host: it ends before the first colon outside brackets. -/
def hostLength : Bool → List Char → Nat
  | _, [] => 0
  | inside, c :: cs =>
      if c = ':' && !inside then 0
      else if c = '[' then 1 + hostLength true cs
      else if c = ']' then 1 + hostLength false cs
      else 1 + hostLength inside cs

/-- A host with an optional service number. `named` says that user information stands before it. -/
def isHostAndService (kind : SchemeKind) (named : Bool) (cs : List Char) : Bool :=
  let host := cs.take (hostLength false cs)
  let rest := cs.drop host.length
  let serviceOk := match rest with
    | [] => true
    | _ :: service => isServiceNumber (service.takeWhile (· ≠ '\\'))
  if host = [] then rest = [] && kind = .other && !named
  else (if kind = .other then isOpaqueHost host else isDomainHost host) && serviceOk

/-- The authority behind two slashes: user information up to the last `@`, then a host and a
service number. -/
def isAuthority (kind : SchemeKind) (cs : List Char) : Bool :=
  let authority := cs.takeWhile fun c => !endsAuthority kind c
  let host := (authority.reverse.takeWhile (· ≠ '@')).reverse
  if host.length = authority.length then isHostAndService kind false authority
  else
    let user := authority.take (authority.length - host.length - 1)
    if user = [] then
      (host ≠ [] || (cs.drop authority.length = [])) && isHostAndService kind false host
    else isHostAndService kind (user ≠ [':']) host

/-- A letter and a colon or a bar, which name a drive and no host. -/
def isDrive (cs : List Char) : Bool :=
  match cs with
  | [letter, mark] => letter.isAlpha && (mark = ':' || mark = '|')
  | _ => false

/-- The part of a file URL behind its scheme. Only two slashes start a host. -/
def isFileRest (cs : List Char) : Bool :=
  match cs with
  | a :: b :: rest =>
      if isSlash .file a && isSlash .file b then
        let host := rest.takeWhile fun c => !endsAuthority .file c
        host = [] || isDrive host || isDomainHost host
      else true
  | _ => true

/-- The part of a URL behind its scheme. -/
def isSchemeRest (kind : SchemeKind) (cs : List Char) : Bool :=
  match kind with
  | .file => isFileRest cs
  | .web => isAuthority .web (cs.dropWhile (isSlash .web))
  | .other =>
      match cs with
      | '/' :: '/' :: rest => isAuthority .other rest
      | _ => true

/-- Whether a text is an absolute URL, and why not. -/
def check (cs : List Char) : Except UrlError Unit :=
  match splitScheme? cs with
  | none => .error .relativeWithoutBase
  | some (scheme, rest) =>
      if isSchemeRest (SchemeKind.ofScheme scheme) rest then .ok ()
      else .error .malformedAuthority

end IsolationGate.Url
