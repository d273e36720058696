/-!
# Style elements

An inline style element with the nonce of its request. The nonce comes first, then `type`, `media`
and `title` as far as they are set, then further attributes in the order in which they were added.
Values are escaped; names and the body are written as they are.
-/

namespace IsolationGate.Page

/-- One character of an attribute value. -/
def escapeChar (c : Char) : List Char :=
  if c = '&' then "&amp;".toList
  else if c = '<' then "&lt;".toList
  else if c = '>' then "&gt;".toList
  else if c = '\x22' then "&quot;".toList
  else if c = '\x27' then "&#39;".toList
  else [c]

/-- A text as an attribute value. -/
def escape (s : String) : String := String.ofList (s.toList.flatMap escapeChar)

/-- A style element. -/
structure StyleTag where
  type : Option String := none
  media : Option String := none
  title : Option String := none
  attributes : List (String × String) := []
  body : String := ""
  deriving Repr, DecidableEq

namespace StyleTag

/-- The style element with this type. -/
def withType (tag : StyleTag) (value : String) : StyleTag := { tag with type := some value }

/-- The style element for this medium. -/
def withMedia (tag : StyleTag) (value : String) : StyleTag := { tag with media := some value }

/-- The style element with this title. -/
def withTitle (tag : StyleTag) (value : String) : StyleTag := { tag with title := some value }

/-- The style element with one more attribute. -/
def withAttribute (tag : StyleTag) (name value : String) : StyleTag :=
  { tag with attributes := tag.attributes ++ [(name, value)] }

/-- The style element with this body. -/
def withBody (tag : StyleTag) (css : String) : StyleTag := { tag with body := css }

/-- An attribute as it is written. -/
def attributeText (name value : String) : String := " " ++ name ++ "=\"" ++ escape value ++ "\""

/-- The attributes of an element, in the order in which they are written. -/
def allAttributes (tag : StyleTag) (nonce : Option String) : List (String × String) :=
  ("nonce", nonce.getD "") ::
    ((tag.type.map ("type", ·)).toList ++ (tag.media.map ("media", ·)).toList ++
      (tag.title.map ("title", ·)).toList ++ tag.attributes)

/-- The element as it is written. Without a nonce the attribute is empty. -/
def render (tag : StyleTag) (nonce : Option String) : String :=
  "<style" ++ String.join ((tag.allAttributes nonce).map fun a => attributeText a.1 a.2) ++ ">" ++
    tag.body ++ "</style>"

end StyleTag

end IsolationGate.Page
