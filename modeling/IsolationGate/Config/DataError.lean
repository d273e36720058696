import IsolationGate.Datum
import IsolationGate.Text.Quoted

/-!
# Data of the wrong shape

Why a tree of plain data is no configuration, and how a message describes the datum that was found.
Configuration files and JSON describe a real number differently; everything else is described in the
same way.
-/

namespace IsolationGate.Config

/-- Where data comes from. -/
inductive Dialect where
  /-- A configuration file. -/
  | toml
  /-- A JSON text. -/
  | json
  deriving Repr, DecidableEq

/-- A text between backticks. -/
def backticked (s : String) : String := "\x60" ++ s ++ "\x60"

/-- A number in a message. -/
def numberText (dialect : Dialect) (x : Number.Binary64) : String :=
  match dialect with
  | .toml => x.toPositional
  | .json => x.toCompact

/-- How a message describes a datum. -/
def describe (dialect : Dialect) : Datum → String
  | .null => "null"
  | .boolean true => "boolean " ++ backticked "true"
  | .boolean false => "boolean " ++ backticked "false"
  | .integer n => "integer " ++ backticked (toString n)
  | .real x => "floating point " ++ backticked (numberText dialect x)
  | .moment _ => "map"
  | .text s => "string " ++ Text.quoted s
  | .list _ | .tables _ => "sequence"
  | .record _ => "map"

/-- The word for the kind of a datum that was found where a table was expected. -/
def kindWord : Datum → String
  | .integer _ => "integer"
  | .real _ => "float"
  | .boolean _ => "boolean"
  | .moment _ => "datetime"
  | .text _ => "string"
  | .list _ => "array"
  | .tables _ => "array of tables"
  | .null | .record _ => "table"

/-- Why data is no configuration. -/
inductive DataError where
  /-- A datum of another kind was expected. -/
  | wrongKind (found expected : String)
  /-- The datum has the right kind but cannot be the value. -/
  | wrongValue (found expected : String)
  /-- The list is too short or too long. -/
  | wrongLength (count : Nat) (expected : String)
  /-- The word names no log format. -/
  | unknownFormat (word : String)
  /-- A setting without a default is not given. -/
  | missing (name : String)
  /-- The datum is neither a list of texts nor a text. -/
  | noPathList
  /-- A log format is neither a word nor a table. -/
  | neitherWordNorTable
  /-- A log format is a table that does not have exactly one entry. -/
  | notOneEntry (entries : Nat)
  /-- The entry of a log format holds something. -/
  | entryNotEmpty
  /-- The entry of a log format is a list of tables. -/
  | entryRepeated
  /-- The entry of a log format is no table. -/
  | entryNotTable (kind : String)
  deriving Repr, DecidableEq

/-- The text of the error. -/
def DataError.message : DataError → String
  | wrongKind found expected => "invalid type: " ++ found ++ ", expected " ++ expected
  | wrongValue found expected => "invalid value: " ++ found ++ ", expected " ++ expected
  | wrongLength count expected =>
      "invalid length " ++ toString count ++ ", expected " ++ expected
  | unknownFormat word =>
      "unknown variant " ++ backticked word ++ ", expected " ++ backticked "pretty" ++ " or " ++
        backticked "json"
  | missing name => "missing field " ++ backticked name
  | noPathList => "data did not match any variant of untagged enum PathList"
  | neitherWordNorTable => "wanted string or table"
  | notOneEntry 0 => "wanted exactly 1 element, found 0 elements"
  | notOneEntry _ => "wanted exactly 1 element, more than 1 element"
  | entryNotEmpty => "expected empty table"
  | entryRepeated => "expected empty array"
  | entryNotTable kind => "expected table, found " ++ kind

end IsolationGate.Config
