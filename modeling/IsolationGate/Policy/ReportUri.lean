import IsolationGate.Text.Blank
import IsolationGate.Url.Absolute

/-!
# Report URIs

Violation reports go to an absolute URL or to a path from the root. A text with a blank or a control
character is neither. `ReportUri.check` says which rule a text breaks.
-/

namespace IsolationGate.Policy

/-- Why a text is no report URI. -/
inductive ReportUriError where
  /-- It is empty, holds a blank or a control character, or is a malformed absolute URL. -/
  | unparseable (uri : String)
  /-- It has no scheme and does not start with a slash. -/
  | notRootRelative (uri : String)
  deriving Repr, DecidableEq

namespace ReportUriError

/-- The text of the error. -/
def message : ReportUriError → String
  | unparseable uri => "could not parse report URI '" ++ uri ++ "'"
  | notRootRelative uri =>
      "report URI '" ++ uri ++ "' is not relative to the root, it must start with /"

end ReportUriError

namespace ReportUri

/-- A blank or a control character. -/
def isRefused (c : Char) : Bool := Text.isBlank c || Text.isControl c

/-- Whether a text is a report URI, and why not. -/
def check (uri : String) : Except ReportUriError Unit :=
  let cs := uri.toList
  if cs = [] ∨ cs.any isRefused then .error (.unparseable uri)
  else
    match Url.check cs with
    | .ok () => .ok ()
    | .error .relativeWithoutBase =>
        if cs.head? = some '/' then .ok () else .error (.notRootRelative uri)
    | .error .malformedAuthority => .error (.unparseable uri)

end ReportUri

end IsolationGate.Policy
