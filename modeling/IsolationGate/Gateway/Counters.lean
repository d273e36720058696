import IsolationGate.Policy.FetchMetadata

/-!
# Counters of decisions

Every decision of the filter by Fetch Metadata is counted under its word, and a rejection once more
by itself. A counter appears when it is first incremented.
-/

namespace IsolationGate.Gateway

open Policy (Decision)

/-- The counters. -/
structure Counters where
  allowed : Nat := 0
  rejected : Nat := 0
  rejections : Nat := 0
  deriving Repr, DecidableEq

namespace Counters

/-- One more decision. -/
def record (counters : Counters) : Decision → Counters
  | .allow => { counters with allowed := counters.allowed + 1 }
  | .reject =>
      { counters with
        rejected := counters.rejected + 1
        rejections := counters.rejections + 1 }

/-- The counter of a decision. -/
def decisionSeries (decision : Decision) : String :=
  "isolation_requests_total\x7bdecision=\"" ++ decision.word ++ "\"\x7d"

/-- The counter of rejections. -/
def rejectionSeries : String := "isolation_requests_rejected_total"

/-- The counters that have appeared, under their names. -/
def series (counters : Counters) : List (String × Nat) :=
  [(decisionSeries .allow, counters.allowed), (decisionSeries .reject, counters.rejected),
    (rejectionSeries, counters.rejections)].filter fun entry => entry.2 ≠ 0

/-- What is shown under a name; a counter that has not appeared counts as zero. -/
def shown (counters : Counters) (name : String) : Nat := (counters.series.lookup name).getD 0

theorem lookup_eq_none_of_notMem {entries : List (String × Nat)} {name : String}
    (h : name ∉ entries.map Prod.fst) : entries.lookup name = none := by
  rw [List.lookup_eq_none_iff]
  intro entry hentry
  rw [bne_iff_ne]
  rintro rfl
  exact h (List.mem_map_of_mem hentry)

/-- Zeros that are left out are shown as zeros all the same. -/
theorem getD_lookup_filter {entries : List (String × Nat)} (h : (entries.map Prod.fst).Nodup)
    (name : String) :
    ((entries.filter fun entry => entry.2 ≠ 0).lookup name).getD 0 =
      (entries.lookup name).getD 0 := by
  induction entries with
  | nil => rfl
  | cons entry rest ih =>
      obtain ⟨key, count⟩ := entry
      obtain ⟨hkey, hrest⟩ := List.nodup_cons.1 h
      rw [List.lookup_cons]
      by_cases hcount : count = 0
      · rw [List.filter_cons_of_neg (by simpa using hcount), ih hrest]
        cases hname : name == key with
        | true =>
            rw [eq_of_beq hname, lookup_eq_none_of_notMem hkey]
            simp [hcount]
        | false => rfl
      · rw [List.filter_cons_of_pos (by simpa using hcount), List.lookup_cons]
        cases hname : name == key with
        | true => rfl
        | false => exact ih hrest

/-- Each counter is shown under its own name. -/
theorem shown_eq (counters : Counters) :
    counters.shown (decisionSeries .allow) = counters.allowed ∧
      counters.shown (decisionSeries .reject) = counters.rejected ∧
        counters.shown rejectionSeries = counters.rejections := by
  have hnames : (decisionSeries .reject == decisionSeries .allow) = false ∧
      (rejectionSeries == decisionSeries .allow) = false ∧
      (rejectionSeries == decisionSeries .reject) = false := by decide
  obtain ⟨hreject, htotal, htotal'⟩ := hnames
  have hnodup : ([(decisionSeries .allow, counters.allowed),
      (decisionSeries .reject, counters.rejected),
      (rejectionSeries, counters.rejections)].map Prod.fst).Nodup := by
    show ([decisionSeries .allow, decisionSeries .reject, rejectionSeries]).Nodup
    decide
  simp only [shown, series, getD_lookup_filter hnodup]
  simp only [List.lookup_cons, hreject, htotal, htotal', beq_self_eq_true]
  exact ⟨rfl, rfl, rfl⟩

end Counters

end IsolationGate.Gateway
