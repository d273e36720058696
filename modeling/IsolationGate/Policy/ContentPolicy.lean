import IsolationGate.Http.Message
import IsolationGate.Policy.Nonce

/-!
# The content policy

`content-security-policy` lets a page run only the scripts and styles that carry the nonce of the
request. An answer that has a policy of its own keeps it.
-/

namespace IsolationGate.Policy

open Http (FieldName FieldValue Fields)

/-- The content policy of the gateway. -/
structure ContentPolicy where
  reportOnly : Bool
  reportUri : Option String
  deriving Repr, DecidableEq

namespace ContentPolicy

/-- The name `content-security-policy`. -/
def enforcingName : FieldName := ⟨"content-security-policy"⟩

/-- The name of the field that only reports. -/
def reportingName : FieldName := ⟨"content-security-policy-report-only"⟩

/-- The name under which the policy is sent. -/
def fieldName (policy : ContentPolicy) : FieldName :=
  if policy.reportOnly then reportingName else enforcingName

/-- The directives with a nonce. -/
def directives (nonce : Nonce) : String :=
  "object-src 'none'; script-src 'nonce-" ++ nonce.text ++
    "' 'strict-dynamic' http: https:; style-src 'self' 'nonce-" ++ nonce.text ++
    "'; base-uri 'none'"

/-- The text of the policy for a request. -/
def text (policy : ContentPolicy) (nonce : Nonce) : String :=
  match policy.reportUri with
  | some uri => directives nonce ++ "; report-uri " ++ uri
  | none => directives nonce

/-- The fields of an answer: a policy is added when there is none. Nothing comes out when the text
of the policy is no field value. -/
def addTo? (policy : ContentPolicy) (nonce : Nonce) (fields : Fields) : Option Fields :=
  if fields.contains policy.fieldName then some fields
  else (FieldValue.ofText? (policy.text nonce)).map fun value => fields.set policy.fieldName value

end ContentPolicy

end IsolationGate.Policy
