import IsolationGate.Log.Event
import IsolationGate.Text.Segments

/-!
# Log filters

A filter is a text of directives with commas between them. A directive names a part of the program
and a level: events of that part, and of all parts whose path starts with its text, pass up to the
level. A level alone is for all parts, a part alone lets everything pass. Of several directives for
an event the one with the longest part counts, and of two with the same part the later one.

A directive may also ask for a span; there are none here, so it lets nothing pass.
-/

namespace IsolationGate.Log

/-- What a directive lets through: nothing, or events up to a level. -/
abbrev Threshold := Option Level

/-- The words for thresholds, with the numerals that stand for them. -/
def thresholdWords : List (String × Threshold) :=
  [("off", none), ("0", none), ("error", some .error), ("1", some .error), ("warn", some .warn),
    ("2", some .warn), ("info", some .info), ("3", some .info), ("debug", some .debug),
    ("4", some .debug), ("trace", some .trace), ("5", some .trace)]

/-- The threshold of a word, in any case. -/
def threshold? (word : String) : Option Threshold := thresholdWords.lookup word.toLower

/-- A directive. -/
structure Directive where
  /-- The part of the program; nothing for all parts. -/
  part : Option String
  threshold : Threshold
  /-- It asks for a span. -/
  inSpan : Bool := false
  deriving Repr, DecidableEq

namespace Directive

/-- A character of the name of a part. -/
def isPartChar (c : Char) : Bool := c.isAlphanum || c = '_' || c = ':' || c = '-'

/-- A span between brackets is cut off. -/
def skipSpan : List Char → Option (Bool × List Char)
  | '[' :: rest =>
      match rest.dropWhile (· ≠ ']') with
      | ']' :: after => some (true, after)
      | _ => none
  | cs => some (false, cs)

/-- The level behind a part. -/
def behindPart? : List Char → Option Threshold
  | [] => some (some .trace)
  | ['='] => some (some .trace)
  | '=' :: word => threshold? (String.ofList word)
  | _ => none

/-- The directive that a text spells. -/
def ofText? (s : String) : Option Directive :=
  match threshold? s with
  | some threshold => some { part := none, threshold := threshold }
  | none => do
      let cs := s.toList
      let part := String.ofList (cs.takeWhile isPartChar)
      let (inSpan, rest) ← skipSpan (cs.dropWhile isPartChar)
      if part = "" ∧ !inSpan then none
      else
        let threshold ← behindPart? rest
        let named := if part = "" ∨ (threshold? part).isSome then none else some part
        some { part := named, threshold := threshold, inSpan := inSpan }

/-- The directive is about a part of the program. -/
def concerns (d : Directive) (target : String) : Bool :=
  !d.inSpan && (match d.part with
    | some part => part.toList.isPrefixOf target.toList
    | none => true)

/-- How closely a directive describes its part. -/
def closeness (d : Directive) : Nat :=
  match d.part with
  | some part => part.length + 1
  | none => 0

end Directive

/-- A filter. -/
abbrev Filter := List Directive

namespace Filter

/-- The filter without directives lets errors pass. -/
def orErrors (directives : List Directive) : Filter :=
  if directives = [] then [{ part := none, threshold := some .error }] else directives

/-- The directives of a text between its commas. -/
def pieces (s : String) : List String := (Text.segments ',' s.toList).map String.ofList

/-- The filter that a text spells, when all its directives do. -/
def ofText? (s : String) : Option Filter :=
  if s = "" then some (orErrors []) else ((pieces s).mapM Directive.ofText?).map orErrors

/-- The filter of those directives in a text that are ones. -/
def ofTextLenient (s : String) : Filter := orErrors ((pieces s).filterMap Directive.ofText?)

/-- The later of two directives, unless the earlier one is closer. -/
def closer (best : Option Directive) (d : Directive) : Option Directive :=
  match best with
  | some b => if d.closeness < b.closeness then some b else some d
  | none => some d

/-- The directive that counts for a part of the program. -/
def directive? (filter : Filter) (target : String) : Option Directive :=
  (filter.filter fun d => d.concerns target).foldl closer none

/-- An event passes. -/
def passes (filter : Filter) (event : Event) : Bool :=
  match (filter.directive? event.target).bind (·.threshold) with
  | some level => event.level.rank ≤ level.rank
  | none => false

end Filter

/-- The directives for a configured level: the program itself and its HTTP layers. -/
def levelDirectives (level : String) : String :=
  rootTarget ++ "=" ++ level ++ ",tower_http=" ++ level

/-- The filter of a run: the one from the environment when it is there and can be read, else the one
for the configured level. -/
def runFilter (environment : Option String) (level : String) : Filter :=
  (environment.bind Filter.ofText?).getD (Filter.ofTextLenient (levelDirectives level))

end IsolationGate.Log
