import IsolationGate.Config.Load
import IsolationGate.Net.SocketAddress

/-!
# Errors of a start

Why a gateway does not start, with the text of each error and of the cause behind it.
-/

namespace IsolationGate.Lifecycle

/-- Why a gateway does not start. -/
inductive StartError where
  /-- There is no configuration to start from. -/
  | config (error : Config.LoadError)
  /-- The system refuses something, such as an address. -/
  | system (cause : String)
  /-- The address to listen on is no socket address. -/
  | bindAddress (address : String)
  /-- There is no usable certificate. -/
  | certificate (cause : String)
  deriving Repr, DecidableEq

namespace StartError

/-- Why a text is no socket address. -/
def addressCause : String := "invalid socket address syntax"

/-- The text of the error. -/
def message : StartError → String
  | config error => "Configuration error: " ++ error.message
  | system cause => "IO error: " ++ cause
  | bindAddress address => "Invalid bind address '" ++ address ++ "': " ++ addressCause
  | certificate cause => "TLS error: " ++ cause

/-- The text of the error behind this one, if there is one. -/
def source? : StartError → Option String
  | config error => some error.message
  | system cause => some cause
  | bindAddress _ => some addressCause
  | certificate _ => none

end StartError

/-- The socket address of a text. -/
def parseAddress (address : String) : Except StartError Net.SocketAddress :=
  match Net.SocketAddress.ofText? address with
  | some parsed => .ok parsed
  | none => .error (.bindAddress address)

/-- What there is of the files of a certificate. -/
structure CertificateFiles where
  /-- The file exists. -/
  exist : String → Bool
  /-- The file holds one private key. -/
  holdKey : String → Bool

/-- A certificate is usable when both files exist, of which the certificate is looked for first, and
the second one holds one private key. -/
def checkCertificate (files : CertificateFiles) (c : Config.Certificate) : Except StartError Unit :=
  if !files.exist c.certPath then
    .error (.certificate ("Certificate file not found: " ++ Text.quoted c.certPath))
  else if !files.exist c.keyPath then
    .error (.certificate ("Private key file not found: " ++ Text.quoted c.keyPath))
  else if !files.holdKey c.keyPath then
    .error (.certificate "private key format not supported")
  else .ok ()

end IsolationGate.Lifecycle
