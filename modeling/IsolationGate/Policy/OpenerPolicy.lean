import IsolationGate.Http.Message
import IsolationGate.Policy.ExemptedPaths

/-!
# The opener policy

`cross-origin-opener-policy` keeps a page apart from the windows that opened it. The configured mode
replaces whatever value an answer has, except on exempted paths.
-/

namespace IsolationGate.Policy

open Http (FieldName FieldValue Fields)

/-- How far a page is kept apart. -/
inductive OpenerMode where
  | sameOrigin
  | sameOriginAllowPopups
  | unsafeNone
  deriving Repr, DecidableEq

/-- A mode that is not known. -/
structure UnknownOpenerMode where
  word : String
  deriving Repr, DecidableEq

/-- The text of the error. -/
def UnknownOpenerMode.message (e : UnknownOpenerMode) : String :=
  "Mode '" ++ e.word ++ "' not recognized"

namespace OpenerMode

/-- The word for a mode. -/
def word : OpenerMode → String
  | sameOrigin => "same-origin"
  | sameOriginAllowPopups => "same-origin-allow-popups"
  | unsafeNone => "unsafe-none"

/-- The mode of a word. -/
def ofWord (s : String) : Except UnknownOpenerMode OpenerMode :=
  if s = "same-origin" then .ok sameOrigin
  else if s = "same-origin-allow-popups" then .ok sameOriginAllowPopups
  else if s = "unsafe-none" then .ok unsafeNone
  else .error ⟨s⟩

theorem ofWord_word (mode : OpenerMode) : ofWord mode.word = .ok mode := by
  cases mode <;> rfl

theorem ofWord_eq_ok_iff {s : String} {mode : OpenerMode} :
    ofWord s = .ok mode ↔ s = mode.word := by
  constructor
  · unfold ofWord
    intro h
    split at h
    · cases h; assumption
    · split at h
      · cases h; assumption
      · split at h
        · cases h; assumption
        · simp at h
  · rintro rfl
    exact ofWord_word mode

theorem eq_of_ofWord {s : String} {error : UnknownOpenerMode} (h : ofWord s = .error error) :
    error = ⟨s⟩ := by
  unfold ofWord at h
  repeat' split at h
  all_goals cases h
  rfl

/-- A text has no mode exactly when it is the word of none, and the error tells the text. -/
theorem ofWord_eq_error_iff {s : String} {error : UnknownOpenerMode} :
    ofWord s = .error error ↔ (∀ mode : OpenerMode, s ≠ mode.word) ∧ error = ⟨s⟩ := by
  constructor
  · intro h
    refine ⟨?_, eq_of_ofWord h⟩
    rintro mode rfl
    rw [ofWord_word] at h
    cases h
  · rintro ⟨hnone, rfl⟩
    cases hword : ofWord s with
    | ok mode => exact absurd (ofWord_eq_ok_iff.1 hword) (hnone mode)
    | error other => rw [eq_of_ofWord hword]

end OpenerMode

/-- The opener policy of the gateway. -/
structure OpenerPolicy where
  mode : OpenerMode
  exempted : ExemptedPaths
  deriving Repr, DecidableEq

namespace OpenerPolicy

/-- The name `cross-origin-opener-policy`. -/
def fieldName : FieldName := ⟨"cross-origin-opener-policy"⟩

/-- Whether answers for a path are left alone. -/
def isExempted (policy : OpenerPolicy) (path : String) : Bool := policy.exempted.contains path

/-- The fields of an answer for a path. -/
def apply (policy : OpenerPolicy) (path : String) (fields : Fields) : Fields :=
  if policy.isExempted path then fields
  else fields.set fieldName (.ofAscii policy.mode.word)

end OpenerPolicy

end IsolationGate.Policy
