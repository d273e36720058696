import IsolationGate.Config.Schema
import IsolationGate.Http.Authority
import IsolationGate.Net.SocketAddress
import IsolationGate.Policy.OpenerPolicy
import IsolationGate.Policy.ReportUri

/-!
# Violations

A configuration is valid when it breaks none of the rules below. `Config.violations` lists every
broken rule once, in the order of the rules, so the list is empty exactly for valid configurations.
A rule holds for a switched-off filter too; only the address for metrics does not matter while
metrics are off.
-/

namespace IsolationGate.Config

open Policy (ExemptedPaths OpenerMode ReportUriError UnknownOpenerMode)

/-- A setting that a rule is about. -/
inductive Setting where
  | bindAddress
  | metricsAddress
  | certPath
  | keyPath
  | requestSecs
  | maxBodyBytes
  | embedderReportUri
  | contentReportUri
  | fetchMetadataPaths
  | openerPaths
  | embedderPaths
  deriving Repr, DecidableEq

/-- The name of a setting. The two files of a certificate are named within their section. -/
def Setting.name : Setting → String
  | bindAddress => "listener.bind_address"
  | metricsAddress => "observability.metrics_address"
  | certPath => "cert_path"
  | keyPath => "key_path"
  | requestSecs => "timeouts.request_secs"
  | maxBodyBytes => "limits.max_body_bytes"
  | embedderReportUri => "coep.report_uri"
  | contentReportUri => "csp.report_uri"
  | fetchMetadataPaths => "fetch_metadata.exempted_paths"
  | openerPaths => "coop.exempted_paths"
  | embedderPaths => "coep.exempted_paths"

/-- A broken rule. -/
inductive Violation where
  /-- The value is no socket address. -/
  | address (setting : Setting) (value : String)
  /-- The address of the server behind the gateway is no authority. -/
  | origin (value : String)
  /-- The number is zero. -/
  | zero (setting : Setting)
  /-- The opener mode is not known. -/
  | openerMode (error : UnknownOpenerMode)
  /-- The value is no report URI. -/
  | reportUri (setting : Setting) (error : ReportUriError)
  /-- An exempted path does not start at the root. -/
  | exemptedPath (setting : Setting) (path : String)
  /-- A file of the certificate is not named. -/
  | tlsPath (setting : Setting)
  deriving Repr, DecidableEq

/-- The text of a violation. -/
def Violation.message : Violation → String
  | address setting value => setting.name ++ ": '" ++ value ++ "' is not a socket address"
  | origin value => "upstream.address: '" ++ value ++ "' is not a host:port authority"
  | zero setting => setting.name ++ " must be greater than zero"
  | openerMode error => "coop.mode: " ++ error.message
  | reportUri setting error => setting.name ++ ": " ++ error.message
  | exemptedPath setting path =>
      setting.name ++ ": exempted path '" ++ path ++ "' must start with /"
  | tlsPath setting => "listener.tls: " ++ setting.name ++ " must not be empty"

/-- One violation when a condition holds. -/
def violationIf (condition : Bool) (violation : Violation) : List Violation :=
  if condition then [violation] else []

/-- The rule on a socket address. -/
def addressViolations (setting : Setting) (value : String) : List Violation :=
  violationIf (Net.SocketAddress.ofText? value).isNone (.address setting value)

/-- The rules on a certificate. -/
def certificateViolations : Option Certificate → List Violation
  | some certificate =>
      violationIf (certificate.certPath == "") (.tlsPath .certPath) ++
        violationIf (certificate.keyPath == "") (.tlsPath .keyPath)
  | none => []

/-- The rule on the server behind the gateway. -/
def originViolations : Option String → List Violation
  | some address => violationIf (Http.Authority.ofText? address).isNone (.origin address)
  | none => []

/-- The rule on the opener mode. -/
def openerModeViolations (mode : String) : List Violation :=
  match OpenerMode.ofWord mode with
  | .ok _ => []
  | .error error => [.openerMode error]

/-- The rule on a report URI. -/
def reportUriViolations (setting : Setting) (uri : String) : List Violation :=
  match Policy.ReportUri.check uri with
  | .ok () => []
  | .error error => [.reportUri setting error]

/-- A path starts at the root. -/
def isRooted (path : String) : Bool := path.toList.head? == some '/'

/-- The rule on exempted paths, in the order of the paths. -/
def pathViolations (setting : Setting) (exempted : ExemptedPaths) : List Violation :=
  (exempted.paths.filter fun path => !isRooted path).map (.exemptedPath setting)

/-- Every broken rule, in the order of the rules. -/
def violations (c : Config) : List Violation :=
  addressViolations .bindAddress c.listener.bindAddress ++
    (if c.observability.metricsEnabled then
      addressViolations .metricsAddress c.observability.metricsAddress else []) ++
    certificateViolations c.listener.tls ++
    originViolations c.origin.address ++
    violationIf (c.timeouts.requestSecs == 0) (.zero .requestSecs) ++
    violationIf (c.limits.maxBodyBytes == 0) (.zero .maxBodyBytes) ++
    openerModeViolations c.opener.mode ++
    reportUriViolations .embedderReportUri c.embedder.reportUri ++
    (c.content.reportUri.map (reportUriViolations .contentReportUri)).getD [] ++
    pathViolations .fetchMetadataPaths c.fetchMetadata.exemptedPaths ++
    pathViolations .openerPaths c.opener.exemptedPaths ++
    pathViolations .embedderPaths c.embedder.exemptedPaths

/-- No rule is broken. -/
def isValid (c : Config) : Bool := c.violations.isEmpty

end IsolationGate.Config
