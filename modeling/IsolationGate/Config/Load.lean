import IsolationGate.Config.Decode
import IsolationGate.Config.Encode
import IsolationGate.Config.Violation
import IsolationGate.Text.Utf8
import IsolationGate.Toml.Reader
import IsolationGate.Toml.Writer

/-!
# Loading configurations

A configuration file is read, decoded and checked; the first of these steps that fails gives the
error. `load` does so for a text, `loadFile` for what a file holds, and `render?` writes the file of
a configuration.
-/

namespace IsolationGate.Config

/-- Why there is no configuration. -/
inductive LoadError where
  /-- The file cannot be read. -/
  | unreadable (cause : String)
  /-- The text breaks a rule of the file format. -/
  | malformed
  /-- The data has the wrong shape. -/
  | shape (error : DataError)
  /-- The configuration breaks rules. -/
  | invalid (violations : List Violation)
  deriving Repr, DecidableEq

/-- The text of the error. What exactly is wrong with a text that cannot be parsed is left to the
parser to say. -/
def LoadError.message : LoadError → String
  | unreadable cause => "IO error: " ++ cause
  | malformed | shape _ => "Parse error"
  | invalid violations =>
      "Validation failed: " ++ String.intercalate ", " (violations.map Violation.message)

/-- The configuration, if it breaks no rule. -/
def validated (c : Config) : Except LoadError Config :=
  if c.violations = [] then .ok c else .error (.invalid c.violations)

theorem validated_eq_ok_iff {c : Config} : validated c = .ok c ↔ c.violations = [] := by
  rw [validated]
  split
  · next hnone => exact ⟨fun _ => hnone, fun _ => rfl⟩
  · next hsome =>
      refine ⟨fun herror => ?_, fun hnone => absurd hnone hsome⟩
      cases herror

theorem validated_eq_error_iff {c : Config} {e : LoadError} :
    validated c = .error e ↔ c.violations ≠ [] ∧ e = .invalid c.violations := by
  rw [validated]
  split
  · next hnone =>
      refine ⟨fun hok => ?_, fun hsome => absurd hnone hsome.1⟩
      cases hok
  · next hsome =>
      constructor
      · intro herror
        cases herror
        exact ⟨hsome, rfl⟩
      · rintro ⟨-, rfl⟩
        rfl

/-- The configuration in a text, valid or not. -/
def parse (text : String) : Except LoadError Config :=
  match Toml.read? text with
  | none => .error .malformed
  | some fields =>
      match ofDatum .toml (.record fields) with
      | .ok c => .ok c
      | .error e => .error (.shape e)

/-- The valid configuration in a text. -/
def load (text : String) : Except LoadError Config := (parse text).bind validated

/-- Why a file cannot be read when it does not exist. -/
def missingFile : String := "No such file or directory (os error 2)"

/-- Why a file cannot be read when it does not hold a text. -/
def notText : String := "stream did not contain valid UTF-8"

/-- The text of a file; `none` is a file that does not exist. -/
def readFile : Option (List UInt8) → Except LoadError String
  | none => .error (.unreadable missingFile)
  | some bytes =>
      match Text.decode? bytes with
      | some text => .ok text
      | none => .error (.unreadable notText)

/-- The valid configuration in a file. -/
def loadFile (content : Option (List UInt8)) : Except LoadError Config :=
  (readFile content).bind load

/-- The configuration that a JSON value describes, valid or not. -/
def ofJson (value : Datum) : Except DataError Config := ofDatum .json value

/-- The text of the configuration file for a configuration. There is none when a number is too large
for the file format. -/
def render? (c : Config) : Option String := c.document?.map Toml.render

/-- Why there is no text for a configuration. -/
def tooLargeMessage : String := "out-of-range value for u64 type"

end IsolationGate.Config
