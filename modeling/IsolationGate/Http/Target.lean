import IsolationGate.Http.Authority

/-!
# Request targets

The target of a request is a path with an optional query, an absolute URI, an authority alone, or
the asterisk. `Target.ofText?` reads it and cuts off a fragment; `pathAndQuery?` is the part that is
sent on to another server.
-/

namespace IsolationGate.Http

/-- The target of a request. Its path is empty only when the target is an authority alone. -/
structure Target where
  scheme : Option String
  authority : Option String
  path : String
  query : Option String
  deriving Repr, DecidableEq

/-- Characters beyond ASCII are taken as they are. -/
def isBeyondAscii (c : Char) : Bool := 0x80 ≤ c.toNat

/-- A character of a path. -/
def isPathChar (c : Char) : Bool :=
  let n := c.toNat
  n == 0x21 || n == 0x22 || (0x24 ≤ n && n ≤ 0x3B) || n == 0x3D || (0x40 ≤ n && n ≤ 0x5F) ||
    (0x61 ≤ n && n ≤ 0x7E) || isBeyondAscii c

/-- A character of a query. -/
def isQueryChar (c : Char) : Bool :=
  let n := c.toNat
  n == 0x21 || (0x24 ≤ n && n ≤ 0x3B) || n == 0x3D || (0x3F ≤ n && n ≤ 0x7E) || isBeyondAscii c

/-- A character of a scheme, or the colon behind it. -/
def isSchemeChar (c : Char) : Bool := c.isAlphanum || ['+', '-', '.', ':', '~'].contains c

/-- A path and a query as they are written, without a fragment. -/
structure PathAndQuery where
  path : List Char
  query : Option (List Char)

namespace PathAndQuery

/-- The path and query of a text. -/
def ofText? (cs : List Char) : Option PathAndQuery :=
  let path := cs.takeWhile fun c => c ≠ '?' && c ≠ '#'
  if path.all isPathChar then
    match cs.dropWhile fun c => c ≠ '?' && c ≠ '#' with
    | '?' :: rest =>
        let query := rest.takeWhile fun c => c ≠ '#'
        if query.all isQueryChar then some ⟨path, some query⟩ else none
    | _ => some ⟨path, none⟩
  else none

/-- The path; an empty one is the root. -/
def shownPath (p : PathAndQuery) : String := if p.path = [] then "/" else String.ofList p.path

end PathAndQuery

namespace Target

/-- The most bytes of a target. -/
def longest : Nat := 65534

/-- The most characters of a scheme. -/
def longestScheme : Nat := 64

/-- A scheme with its `://` cut off, and the text behind it. -/
inductive SchemePart where
  | absent
  | tooLong
  | present (scheme rest : List Char)

/-- The scheme at the start of a text. The two schemes of the web are recognised in any case and
made small; any other is kept as it is. -/
def splitScheme (cs : List Char) : SchemePart :=
  let small := cs.map Char.toLower
  if "http://".toList.isPrefixOf small then .present "http".toList (cs.drop 7)
  else if "https://".toList.isPrefixOf small then .present "https".toList (cs.drop 8)
  else if cs.length ≤ 3 then .absent
  else
    let scheme := cs.takeWhile fun c => isSchemeChar c && c ≠ ':'
    match cs.drop scheme.length with
    | ':' :: '/' :: '/' :: rest =>
        if longestScheme < scheme.length then .tooLong else .present scheme rest
    | _ => .absent

/-- A target with a path. -/
def ofPath (scheme authority : Option String) (p : PathAndQuery) : Target :=
  ⟨scheme, authority, p.shownPath, p.query.map String.ofList⟩

/-- A target that is an authority alone. -/
def ofAuthority? (cs : List Char) : Option Target :=
  match splitAuthority cs with
  | some (_, []) => some ⟨none, some (String.ofList cs), "", none⟩
  | _ => none

/-- The target that a text denotes. -/
def ofText? (s : String) : Option Target :=
  let cs := s.toList
  if longest < s.utf8ByteSize then none
  else
    match cs with
    | [] => none
    | ['*'] => some ⟨none, none, "*", none⟩
    | '/' :: _ => (PathAndQuery.ofText? cs).map (ofPath none none)
    | _ =>
        match splitScheme cs with
        | .absent => ofAuthority? cs
        | .tooLong => none
        | .present scheme rest =>
            match splitAuthority rest with
            | some (authority, path) =>
                if authority = [] then none
                else
                  (PathAndQuery.ofText? path).map
                    (ofPath (some (String.ofList scheme)) (some (String.ofList authority)))
            | none => none

/-- The path with its query; a target that is an authority alone stands for the root. -/
def pathAndQuery (t : Target) : String :=
  let path := if t.path = "" then "/" else t.path
  match t.query with
  | some query => path ++ "?" ++ query
  | none => path

end Target

end IsolationGate.Http
