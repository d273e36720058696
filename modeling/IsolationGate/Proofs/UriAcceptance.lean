import IsolationGate.Policy.ReportUri
import Mathlib.Data.List.TakeWhile

/-!
# Which texts are report URIs

A text is first looked through for blanks and control characters, whatever its form, and only then
read as an absolute URL. A text without a scheme is no absolute URL, and that alone is forgiven: it
is a report URI when it starts at the root. A scheme is enough for a URL to be absolute, so two
slashes behind the colon are not asked for, and a host with a service number but without a scheme is
taken for a URL whose scheme is the name of the host.

The scheme is described here by its characters, apart from the reader that looks for it.

## Main results

* `Url.splitScheme?_eq_some_iff` — the reader finds the scheme that is there, and no other.
* `Url.check_eq_relative_iff` — a text is relative exactly when it has no scheme.
* `ReportUri.check_settles` — what becomes of every text.
-/

namespace IsolationGate

namespace Url

/-! ## Schemes -/

/-- A letter, then letters, digits, plus signs, hyphens and points. -/
def IsScheme (cs : List Char) : Prop :=
  ∃ first tail, cs = first :: tail ∧ first.isAlpha = true ∧ ∀ c ∈ tail, isSchemeTail c = true

/-- A text starts with a scheme and a colon. -/
def HasScheme (cs : List Char) : Prop := ∃ scheme rest, IsScheme scheme ∧ cs = scheme ++ ':' :: rest

theorem isSchemeTail_of_isAlpha {c : Char} (h : c.isAlpha = true) : isSchemeTail c = true := by
  simp [isSchemeTail, Char.isAlphanum, h]

/-- Every character of a scheme may stand behind its first one. -/
theorem IsScheme.forall_isSchemeTail {scheme : List Char} (h : IsScheme scheme) :
    ∀ c ∈ scheme, isSchemeTail c = true := by
  obtain ⟨first, tail, rfl, hfirst, htail⟩ := h
  intro c hc
  cases hc with
  | head => exact isSchemeTail_of_isAlpha hfirst
  | tail _ hmem => exact htail c hmem

/-- A scheme ends at the first colon, since no colon is a character of one. -/
theorem IsScheme.split {scheme : List Char} (h : IsScheme scheme) (rest : List Char) :
    (scheme ++ ':' :: rest).takeWhile isSchemeTail = scheme ∧
      (scheme ++ ':' :: rest).dropWhile isSchemeTail = ':' :: rest := by
  have hall := h.forall_isSchemeTail
  have hcolon : ¬ isSchemeTail ':' = true := by decide
  constructor
  · rw [List.takeWhile_append_of_pos hall, List.takeWhile_cons_of_neg hcolon, List.append_nil]
  · rw [List.dropWhile_append_of_pos hall, List.dropWhile_cons_of_neg hcolon]

/-- **The reader finds the scheme that is there**, and nothing else is taken for one. -/
theorem splitScheme?_eq_some_iff {cs small rest : List Char} :
    splitScheme? cs = some (small, rest) ↔
      ∃ scheme, IsScheme scheme ∧ cs = scheme ++ ':' :: rest ∧ small = scheme.map Char.toLower := by
  constructor
  · intro h
    cases cs with
    | nil => cases h
    | cons first tail =>
        rw [splitScheme?] at h
        split at h
        · next hfirst =>
            split at h
            · next after hafter =>
                cases h
                have hjoin :=
                  List.takeWhile_append_dropWhile (p := isSchemeTail) (l := first :: tail)
                refine ⟨(first :: tail).takeWhile isSchemeTail, ?_, ?_, rfl⟩
                · rw [List.takeWhile_cons_of_pos (isSchemeTail_of_isAlpha hfirst)]
                  exact ⟨first, _, rfl, hfirst, fun c hc => List.mem_takeWhile_imp hc⟩
                · rw [hafter] at hjoin
                  exact hjoin.symm
            · cases h
        · cases h
  · rintro ⟨scheme, hscheme, rfl, rfl⟩
    obtain ⟨htake, hdrop⟩ := hscheme.split rest
    obtain ⟨first, tail, rfl, hfirst, htail⟩ := hscheme
    rw [List.cons_append] at htake hdrop ⊢
    rw [splitScheme?, if_pos hfirst, hdrop, htake]
    rfl

theorem splitScheme?_eq_none_iff {cs : List Char} : splitScheme? cs = none ↔ ¬ HasScheme cs := by
  rw [← Option.not_isSome_iff_eq_none, not_iff_not, Option.isSome_iff_exists]
  constructor
  · rintro ⟨⟨small, rest⟩, hsplit⟩
    obtain ⟨scheme, hscheme, hcs, -⟩ := splitScheme?_eq_some_iff.1 hsplit
    exact ⟨scheme, rest, hscheme, hcs⟩
  · rintro ⟨scheme, rest, hscheme, hcs⟩
    exact ⟨_, splitScheme?_eq_some_iff.2 ⟨scheme, hscheme, hcs, rfl⟩⟩

/-- **A text is relative exactly when it has no scheme.** -/
theorem check_eq_relative_iff {cs : List Char} :
    check cs = .error .relativeWithoutBase ↔ ¬ HasScheme cs := by
  rw [← splitScheme?_eq_none_iff, check]
  cases splitScheme? cs with
  | none => simp
  | some parts =>
      dsimp only
      split <;> simp

theorem hasScheme_of_check {cs : List Char} (h : check cs = .ok ()) : HasScheme cs := by
  by_contra hnone
  rw [check_eq_relative_iff.2 hnone] at h
  cases h

/-- A text from the root has no scheme. -/
theorem not_hasScheme_rooted (cs : List Char) : ¬ HasScheme ('/' :: cs) := by
  rintro ⟨scheme, rest, ⟨first, tail, rfl, hfirst, -⟩, hcs⟩
  have hslash : first = '/' := (List.cons.inj hcs).1.symm
  rw [hslash] at hfirst
  revert hfirst
  decide

end Url

namespace Policy.ReportUri

/-! ## Report URIs -/

/-- A text that is not empty and has neither blanks nor control characters. -/
def IsUnbroken (uri : String) : Prop :=
  uri ≠ "" ∧ ∀ c ∈ uri.toList, Text.isBlank c = false ∧ Text.isControl c = false

/-- A path from the root. -/
def IsRooted (uri : String) : Prop := ∃ rest, uri.toList = '/' :: rest

theorem isRefused_eq_false_iff {c : Char} :
    isRefused c = false ↔ Text.isBlank c = false ∧ Text.isControl c = false := by
  rw [isRefused, Bool.or_eq_false_iff]

theorem isUnbroken_iff {uri : String} :
    IsUnbroken uri ↔ ¬ (uri.toList = [] ∨ uri.toList.any isRefused = true) := by
  rw [IsUnbroken, not_or, Bool.not_eq_true, List.any_eq_false, ne_eq, ← String.toList_eq_nil_iff]
  simp only [Bool.not_eq_true, isRefused_eq_false_iff]

theorem isRooted_iff {uri : String} : IsRooted uri ↔ uri.toList.head? = some '/' := by
  rw [IsRooted]
  cases uri.toList <;> simp

theorem check_of_not_isUnbroken {uri : String} (h : ¬ IsUnbroken uri) :
    check uri = .error (.unparseable uri) := by
  rw [isUnbroken_iff, not_not] at h
  rw [check]
  exact if_pos h

/-- A text without blanks and control characters is judged by its form. -/
theorem check_of_isUnbroken {uri : String} (h : IsUnbroken uri) :
    check uri = match Url.check uri.toList with
      | .ok () => .ok ()
      | .error .relativeWithoutBase =>
          if uri.toList.head? = some '/' then .ok () else .error (.notRootRelative uri)
      | .error .malformedAuthority => .error (.unparseable uri) := by
  rw [check]
  exact if_neg (isUnbroken_iff.1 h)

theorem isUnbroken_of_check {uri : String} (h : check uri = .ok ()) : IsUnbroken uri := by
  by_contra hbroken
  rw [check_of_not_isUnbroken hbroken] at h
  cases h

theorem check_of_isRooted {uri : String} (h : IsUnbroken uri) (hrooted : IsRooted uri) :
    check uri = .ok () := by
  obtain ⟨rest, hrest⟩ := hrooted
  have hrelative : Url.check uri.toList = .error .relativeWithoutBase := by
    rw [hrest, Url.check_eq_relative_iff]
    exact Url.not_hasScheme_rooted rest
  rw [check_of_isUnbroken h, hrelative, hrest]
  rfl

theorem check_of_not_isRooted {uri : String} (h : IsUnbroken uri) (hrooted : ¬ IsRooted uri) :
    check uri = match Url.check uri.toList with
      | .ok () => .ok ()
      | .error .relativeWithoutBase => .error (.notRootRelative uri)
      | .error .malformedAuthority => .error (.unparseable uri) := by
  rw [check_of_isUnbroken h, if_neg fun hhead => hrooted (isRooted_iff.2 hhead)]

/-- With a scheme that is neither one of the web nor the one of files, everything but two slashes
may stand behind the colon. -/
theorem check_of_otherScheme {uri : String} (h : IsUnbroken uri) {scheme rest : List Char}
    (hscheme : Url.IsScheme scheme) (huri : uri.toList = scheme ++ ':' :: rest)
    (hkind : Url.SchemeKind.ofScheme (scheme.map Char.toLower) = .other)
    (hrest : ¬ ['/', '/'] <+: rest) : check uri = .ok () := by
  have hsplit : Url.splitScheme? uri.toList = some (scheme.map Char.toLower, rest) :=
    Url.splitScheme?_eq_some_iff.2 ⟨scheme, hscheme, huri, rfl⟩
  have hopaque : Url.isSchemeRest .other rest = true := by
    rw [Url.isSchemeRest]
    rintro more rfl
    exact hrest ⟨more, rfl⟩
  have hparsed : Url.check uri.toList = .ok () := by
    rw [Url.check, hsplit]
    simp only [hkind, hopaque, if_true]
  rw [check_of_isUnbroken h, hparsed]

/-- **What becomes of every text.** It is a report URI exactly when it is not empty, holds neither
blanks nor control characters, and is a path from the root or has a scheme and is read as an
absolute URL. Every error tells the text, and the text is called relative exactly when its form
alone is wrong: it neither has a scheme nor starts at the root. -/
theorem check_settles (uri : String) :
    (check uri = .ok () ↔
      IsUnbroken uri ∧
        (IsRooted uri ∨ (Url.HasScheme uri.toList ∧ Url.check uri.toList = .ok ()))) ∧
      (check uri = .ok () ∨ check uri = .error (.unparseable uri) ∨
        check uri = .error (.notRootRelative uri)) ∧
      (check uri = .error (.notRootRelative uri) ↔
        IsUnbroken uri ∧ ¬ Url.HasScheme uri.toList ∧ ¬ IsRooted uri) := by
  by_cases hunbroken : IsUnbroken uri
  · by_cases hrooted : IsRooted uri
    · rw [check_of_isRooted hunbroken hrooted]
      simp [hunbroken, hrooted]
    · rw [check_of_not_isRooted hunbroken hrooted, ← Url.check_eq_relative_iff]
      cases hparsed : Url.check uri.toList with
      | ok u => simp [hunbroken, hrooted, Url.hasScheme_of_check hparsed]
      | error error => cases error <;> simp [hunbroken, hrooted]
  · rw [check_of_not_isUnbroken hunbroken]
    simp [hunbroken]

/-- A host and a service number pass for a URL, though no scheme, colon and two slashes stand there
and no path from the root. -/
theorem hostWithService_accepted :
    check "localhost:9000" = .ok () ∧ ¬ IsRooted "localhost:9000" ∧
      ¬ ∃ scheme rest, "localhost:9000".toList = scheme ++ "://".toList ++ rest := by
  have hunbroken : IsUnbroken "localhost:9000" := isUnbroken_iff.2 (by decide)
  have htail : "ocalhost".toList.all Url.isSchemeTail = true := by decide
  have hscheme : Url.IsScheme "localhost".toList :=
    ⟨'l', "ocalhost".toList, rfl, by decide, List.all_eq_true.1 htail⟩
  refine ⟨check_of_otherScheme hunbroken hscheme rfl (by decide) (by decide), ?_, ?_⟩
  · rw [isRooted_iff]
    decide
  · rintro ⟨scheme, rest, huri⟩
    have hslash : '/' ∈ scheme ++ "://".toList ++ rest := by simp
    rw [← huri] at hslash
    revert hslash
    decide

end Policy.ReportUri

end IsolationGate
