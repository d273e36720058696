import IsolationGate.Number.Digits
import IsolationGate.Text.Printable

/-!
# Quoted texts in messages

A text that is quoted in a message or a log line stands between double quotes. A quote and a
backslash get a backslash, the usual controls their letters, and every other character without a
visible form of its own is written by its code point in hexadecimal.
-/

namespace IsolationGate.Text

/-- One character of a quoted text. -/
def quotedChar (c : Char) : List Char :=
  if c = '\x22' then ['\\', '\x22']
  else if c = '\\' then ['\\', '\\']
  else if c = '\n' then ['\\', 'n']
  else if c = '\r' then ['\\', 'r']
  else if c = '\t' then ['\\', 't']
  else if c = '\x00' then ['\\', '0']
  else if isExtending c || !isPrintable c then
    ['\\', 'u', '\x7b'] ++ Number.toHex c.toNat ++ ['\x7d']
  else [c]

/-- A text between double quotes. -/
def quoted (s : String) : String :=
  String.ofList ('\x22' :: s.toList.flatMap quotedChar ++ ['\x22'])

/-- An optional text, quoted when it is there. -/
def quotedOption : Option String → String
  | none => "None"
  | some s => "Some(" ++ quoted s ++ ")"

end IsolationGate.Text
