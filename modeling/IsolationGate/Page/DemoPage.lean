import IsolationGate.Page.StyleTag
import IsolationGate.Policy.Nonce

/-!
# The page of the gateway itself

Shown when there is no server behind the gateway. Its inline style works only when the nonce is that
of the content policy.
-/

namespace IsolationGate.Page

/-- The style of the page. -/
def demoStyle : StyleTag :=
  StyleTag.withBody (StyleTag.withType {} "text/css")
    "body \x7b font-family: system-ui, sans-serif; margin: 2rem; color: #222; \x7d"

/-- The page for a path. -/
def demoPage (nonce : Option Policy.Nonce) (path : String) : String :=
  "<!DOCTYPE html>\n<html>\n<head>\n<title>isolation-gate</title>\n" ++
    demoStyle.render (nonce.map (·.text)) ++
    "\n</head>\n<body>\n<h1>isolation-gate</h1>\n<p>Requested path: <code>" ++ escape path ++
    "</code></p>\n</body>\n</html>\n"

end IsolationGate.Page
