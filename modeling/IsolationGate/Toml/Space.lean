/-!
# Blanks, comments and line ends

What may stand between the tokens of a configuration file. Every function takes a text and gives the
text behind what it consumes.
-/

namespace IsolationGate.Toml

/-- A blank within a line. -/
def isBlank (c : Char) : Bool := c = ' ' || c = '\t'

/-- A character of a comment or of a text: no control character, the tab excepted. -/
def isTextChar (c : Char) : Bool := c = '\t' || (0x20 ≤ c.toNat && c.toNat != 0x7F)

/-- The text after the blanks at its start. -/
def skipBlanks (cs : List Char) : List Char := cs.dropWhile isBlank

/-- The text after one line end. -/
def newline? : List Char → Option (List Char)
  | '\n' :: rest => some rest
  | '\r' :: '\n' :: rest => some rest
  | _ => none

/-- The text after a comment, if one starts here. -/
def skipComment : List Char → List Char
  | '#' :: rest => rest.dropWhile isTextChar
  | cs => cs

/-- The text of the next line, when only blanks and a comment are left of this one. -/
def lineEnd? (cs : List Char) : Option (List Char) :=
  match skipComment (skipBlanks cs) with
  | [] => some []
  | rest => newline? rest

/-- The text after blanks, comments and line ends, of which there are at most as many as the first
argument says. A comment must end with its line or with the text. -/
def skipSpace : Nat → List Char → Option (List Char)
  | 0, _ => none
  | fuel + 1, cs =>
      match skipBlanks cs with
      | '#' :: _ => (lineEnd? cs).bind (skipSpace fuel)
      | rest =>
          match newline? rest with
          | some next => skipSpace fuel next
          | none => some rest

/-- The text after all blanks, comments and line ends. -/
def skipLines (cs : List Char) : Option (List Char) := skipSpace (cs.length + 1) cs

/-- The text after blanks and line ends, comments not allowed. -/
def skipBlankLines (cs : List Char) : List Char :=
  go (cs.length + 1) cs
where
  /-- At most as many line ends as the first argument says. -/
  go : Nat → List Char → List Char
    | 0, cs => cs
    | fuel + 1, cs =>
        match newline? (skipBlanks cs) with
        | some next => go fuel next
        | none => skipBlanks cs

end IsolationGate.Toml
