import IsolationGate.Http.Message
import IsolationGate.Json.Writer
import IsolationGate.Policy.ExemptedPaths
import IsolationGate.Policy.ReportUri

/-!
# The embedder policy

`cross-origin-embedder-policy` lets a page load only resources that agree to it. Violations are
reported to a group that the field `report-to` defines; the group is named after the report URI. The
policy is either enforced or only reported, and exempted paths get neither field.
-/

namespace IsolationGate.Policy

open Http (FieldName FieldValue Fields)

/-- The embedder policy of the gateway. -/
structure EmbedderPolicy where
  disabled : Bool
  enforcing : Bool
  value : FieldValue
  reportTo : FieldValue
  exempted : ExemptedPaths
  deriving Repr, DecidableEq

namespace EmbedderPolicy

/-- The name `cross-origin-embedder-policy`. -/
def enforcingName : FieldName := ⟨"cross-origin-embedder-policy"⟩

/-- The name of the field that only reports. -/
def reportingName : FieldName := ⟨"cross-origin-embedder-policy-report-only"⟩

/-- The name `report-to`. -/
def reportToName : FieldName := ⟨"report-to"⟩

/-- How long a browser remembers the group, in seconds. -/
def maxAge : Nat := 86400

/-- The value of the policy that reports to a group. -/
def valueText (uri : String) : String := "require-corp; report-to=\"" ++ uri ++ "\""

/-- The group of a report URI. -/
def group (uri : String) : Datum :=
  .record [("endpoints", .list [.record [("url", .text uri)]]), ("group", .text uri),
    ("max_age", .integer maxAge)]

/-- The value that defines the group of a report URI. -/
def reportToText (uri : String) : String := Json.render (group uri)

/-- The policy with a report URI. -/
def ofUri (enforcing disabled : Bool) (uri : String) (exempted : ExemptedPaths) :
    Except ReportUriError EmbedderPolicy := do
  ReportUri.check uri
  match FieldValue.ofText? (valueText uri), FieldValue.ofText? (reportToText uri) with
  | some value, some reportTo => .ok ⟨disabled, enforcing, value, reportTo, exempted⟩
  | _, _ => .error (.unparseable uri)

/-- The name under which the policy is sent. -/
def fieldName (policy : EmbedderPolicy) : FieldName :=
  if policy.enforcing then enforcingName else reportingName

/-- Whether answers for a path are left alone although the policy is on. -/
def isExempted (policy : EmbedderPolicy) (path : String) : Bool :=
  !policy.disabled && policy.exempted.contains path

/-- The fields of an answer for a path. -/
def apply (policy : EmbedderPolicy) (path : String) (fields : Fields) : Fields :=
  if policy.disabled || policy.isExempted path then fields
  else (fields.set policy.fieldName policy.value).set reportToName policy.reportTo

end EmbedderPolicy

end IsolationGate.Policy
