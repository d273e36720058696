import IsolationGate.Config.Schema
import IsolationGate.Datum

/-!
# Configurations as data

`toDatum` writes every setting under its name, in the order of the schema. An option that is not set
is `null`; a configuration file has no `null`, so `document?` leaves such options out. It also has
no whole number above `2 ^ 63 - 1`, so a configuration with a larger one has no document.
-/

namespace IsolationGate.Config

open Policy (ExemptedPaths)

/-- Exempted paths as an increasing list. -/
def pathsDatum (exempted : ExemptedPaths) : Datum := .list (exempted.paths.map .text)

/-- An optional setting. -/
def optionalText : Option String → Datum
  | some s => .text s
  | none => .null

/-- A certificate. -/
def Certificate.toDatum (s : Certificate) : Datum :=
  .record [("cert_path", .text s.certPath), ("key_path", .text s.keyPath)]

/-- The section `listener`. -/
def Listener.toDatum (s : Listener) : Datum :=
  .record [("bind_address", .text s.bindAddress),
    ("tls", (s.tls.map Certificate.toDatum).getD .null)]

/-- The section about the server behind the gateway. -/
def Origin.toDatum (s : Origin) : Datum := .record [("address", optionalText s.address)]

/-- The section `timeouts`. -/
def Timeouts.toDatum (s : Timeouts) : Datum := .record [("request_secs", .integer s.requestSecs)]

/-- The section `limits`. -/
def Limits.toDatum (s : Limits) : Datum := .record [("max_body_bytes", .integer s.maxBodyBytes)]

/-- The section `fetch_metadata`. -/
def FetchMetadata.toDatum (s : FetchMetadata) : Datum :=
  .record [("enabled", .boolean s.enabled), ("exempted_paths", pathsDatum s.exemptedPaths)]

/-- The section `coop`. -/
def Opener.toDatum (s : Opener) : Datum :=
  .record [("enabled", .boolean s.enabled), ("mode", .text s.mode),
    ("exempted_paths", pathsDatum s.exemptedPaths)]

/-- The section `coep`. -/
def Embedder.toDatum (s : Embedder) : Datum :=
  .record [("disabled", .boolean s.disabled), ("enforcing_mode", .boolean s.enforcing),
    ("report_uri", .text s.reportUri), ("exempted_paths", pathsDatum s.exemptedPaths)]

/-- The section `csp`. -/
def Content.toDatum (s : Content) : Datum :=
  .record [("enabled", .boolean s.enabled), ("report_only", .boolean s.reportOnly),
    ("report_uri", optionalText s.reportUri)]

/-- The section `observability`. -/
def Observability.toDatum (s : Observability) : Datum :=
  .record [("log_level", .text s.logLevel), ("log_format", .text s.logFormat.word),
    ("metrics_enabled", .boolean s.metricsEnabled), ("metrics_address", .text s.metricsAddress)]

/-- The sections of a configuration under their names. -/
def sections (c : Config) : List (String × Datum) :=
  [("listener", c.listener.toDatum), ("upstream", c.origin.toDatum),
    ("timeouts", c.timeouts.toDatum), ("limits", c.limits.toDatum),
    ("fetch_metadata", c.fetchMetadata.toDatum), ("coop", c.opener.toDatum),
    ("coep", c.embedder.toDatum), ("csp", c.content.toDatum),
    ("observability", c.observability.toDatum)]

/-- Every setting of a configuration. -/
def toDatum (c : Config) : Datum := .record c.sections

/-- The datum is there. -/
def isSet : Datum → Bool
  | .null => false
  | _ => true

/-- A section without the options that are not set. -/
def dropUnset : Datum → Datum
  | .record fields => .record (fields.filter fun field => isSet field.2)
  | other => other

/-- The greatest whole number of a configuration file. -/
def greatestInteger : Nat := Nat.pow 2 63 - 1

/-- Every number fits into a configuration file. -/
def fits (c : Config) : Bool :=
  c.timeouts.requestSecs ≤ greatestInteger && c.limits.maxBodyBytes ≤ greatestInteger

/-- The data of the configuration file for a configuration. -/
def document? (c : Config) : Option (List (String × Datum)) :=
  if c.fits then some (c.sections.map fun (name, datum) => (name, dropUnset datum)) else none

end IsolationGate.Config
