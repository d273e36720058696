import IsolationGate.Text.Blank
import IsolationGate.Text.Segments

/-!
# Exempted paths

A set of request paths to which a filter is not applied. Matching is exact. A set is built from a
list of texts or from one text with commas: each entry is trimmed and blank entries are dropped.
The members are held in strictly increasing order, so a set is determined by its list, and no member
is empty or has a blank at either end.
-/

namespace IsolationGate.Policy

/-- A path without blanks at its ends. -/
def trimPath (s : String) : String := String.ofList (Text.trim s.toList)

/-- A member of a set: not empty, and without blanks at its ends. -/
def IsExemptible (path : String) : Prop := path ≠ "" ∧ Text.IsTrimmed path.toList

instance (path : String) : Decidable (IsExemptible path) := by
  unfold IsExemptible
  infer_instance

/-- A path put at its place in an increasing list, unless it is there. -/
def insertPath (path : String) : List String → List String
  | [] => [path]
  | other :: rest =>
      if path < other then path :: other :: rest
      else if path = other then other :: rest
      else other :: insertPath path rest

theorem mem_insertPath {p path : String} {paths : List String} :
    p ∈ insertPath path paths ↔ p = path ∨ p ∈ paths := by
  induction paths with
  | nil => simp [insertPath]
  | cons other rest ih =>
      unfold insertPath
      split
      · simp
      · split
        · next h => simp [h]
        · simp only [List.mem_cons, ih]
          exact or_left_comm

theorem pairwise_insertPath {path : String} {paths : List String}
    (h : paths.Pairwise (· < ·)) : (insertPath path paths).Pairwise (· < ·) := by
  induction paths with
  | nil => simp [insertPath]
  | cons other rest ih =>
      have hrest := (List.pairwise_cons.1 h).2
      have hother := (List.pairwise_cons.1 h).1
      unfold insertPath
      split
      · next hlt =>
          refine List.pairwise_cons.2 ⟨fun p hp => ?_, h⟩
          rcases List.mem_cons.1 hp with rfl | hp
          · exact hlt
          · exact String.lt_trans hlt (hother p hp)
      · next hnlt =>
          split
          · exact h
          · next hne =>
              refine List.pairwise_cons.2 ⟨fun p hp => ?_, ih hrest⟩
              rcases mem_insertPath.1 hp with rfl | hp
              · exact String.not_le.1 fun hle => hne (String.le_antisymm hle (String.not_lt.1 hnlt))
              · exact hother p hp

/-- Paths to which a filter is not applied, in increasing order. -/
structure ExemptedPaths where
  paths : List String
  increasing : paths.Pairwise (· < ·)
  exemptible : ∀ p ∈ paths, IsExemptible p
  deriving DecidableEq

theorem trimPath_eq_empty_iff {s : String} : trimPath s = "" ↔ Text.IsBlankRun s.toList := by
  rw [← Text.trim_eq_nil_iff, ← String.toList_inj, trimPath, String.toList_ofList]
  rfl

namespace ExemptedPaths

instance : Repr ExemptedPaths := ⟨fun e _ => repr e.paths⟩

/-- No path is exempted. -/
def empty : ExemptedPaths := ⟨[], by simp, by simp⟩

instance : Inhabited ExemptedPaths := ⟨empty⟩

/-- One more path. -/
def insert (e : ExemptedPaths) (path : String) (h : IsExemptible path) : ExemptedPaths :=
  ⟨insertPath path e.paths, pairwise_insertPath e.increasing, fun p hp => by
    rcases mem_insertPath.1 hp with rfl | hp
    · exact h
    · exact e.exemptible p hp⟩

theorem isExemptible_trimPath {s : String} (h : trimPath s ≠ "") : IsExemptible (trimPath s) :=
  ⟨h, by simpa [trimPath] using Text.isTrimmed_trim s.toList⟩

/-- One more entry: it is trimmed, and dropped when nothing is left. -/
def add (e : ExemptedPaths) (entry : String) : ExemptedPaths :=
  if h : trimPath entry = "" then e else e.insert (trimPath entry) (isExemptible_trimPath h)

/-- The set of the entries of a list. An entry is not split. -/
def ofList (entries : List String) : ExemptedPaths := entries.foldl add empty

/-- The set of the entries between the commas of a text. -/
def ofDelimited (s : String) : ExemptedPaths :=
  ofList ((Text.segments ',' s.toList).map String.ofList)

/-- Whether a path is exempted. -/
def contains (e : ExemptedPaths) (path : String) : Bool := e.paths.contains path

/-- The number of paths. -/
def size (e : ExemptedPaths) : Nat := e.paths.length

/-- Whether no path is exempted. -/
def isEmpty (e : ExemptedPaths) : Bool := e.paths.isEmpty

/-! ## Membership -/

theorem contains_iff {e : ExemptedPaths} {path : String} :
    e.contains path = true ↔ path ∈ e.paths := by
  simp [contains]

theorem mem_paths_add {e : ExemptedPaths} {entry p : String} :
    p ∈ (e.add entry).paths ↔ (p = trimPath entry ∧ p ≠ "") ∨ p ∈ e.paths := by
  unfold add
  split
  · next h =>
      constructor
      · exact Or.inr
      · rintro (⟨rfl, hne⟩ | hp)
        · exact absurd h hne
        · exact hp
  · next h =>
      simp only [insert, mem_insertPath]
      constructor
      · rintro (rfl | hp)
        · exact Or.inl ⟨rfl, h⟩
        · exact Or.inr hp
      · rintro (⟨rfl, _⟩ | hp)
        · exact Or.inl rfl
        · exact Or.inr hp

theorem mem_paths_ofList {entries : List String} {p : String} :
    p ∈ (ofList entries).paths ↔ p ≠ "" ∧ ∃ entry ∈ entries, p = trimPath entry := by
  have general : ∀ (entries : List String) (e : ExemptedPaths),
      p ∈ (entries.foldl add e).paths ↔
        p ∈ e.paths ∨ (p ≠ "" ∧ ∃ entry ∈ entries, p = trimPath entry) := by
    intro entries
    induction entries with
    | nil => simp
    | cons entry rest ih =>
        intro e
        rw [List.foldl_cons, ih, mem_paths_add]
        simp only [List.mem_cons, exists_eq_or_imp]
        grind
  simpa [ofList, empty] using general entries empty

/-- A path that stays of an entry is its trim. -/
theorem eq_trimPath_iff {p entry : String} :
    p = trimPath entry ↔ Text.IsTrimOf p.toList entry.toList := by
  rw [← Text.trim_eq_iff, ← String.toList_inj, trimPath, String.toList_ofList, eq_comm]

theorem mem_paths_ofList_iff {entries : List String} {p : String} :
    p ∈ (ofList entries).paths ↔
      p ≠ "" ∧ ∃ entry ∈ entries, Text.IsTrimOf p.toList entry.toList := by
  simp only [mem_paths_ofList, eq_trimPath_iff]

/-- Only the entries between commas make members, and each is an entry of its own. -/
theorem mem_paths_ofDelimited_iff {text p : String} :
    p ∈ (ofDelimited text).paths ↔
      p ≠ "" ∧ ∃ entry : String, Text.IsSegment ',' entry.toList text.toList ∧
        Text.IsTrimOf p.toList entry.toList := by
  have hentry : ∀ entry : String, entry ∈ (Text.segments ',' text.toList).map String.ofList ↔
      Text.IsSegment ',' entry.toList text.toList := by
    intro entry
    rw [← Text.mem_segments_iff, List.mem_map]
    constructor
    · rintro ⟨segment, hsegment, rfl⟩
      rw [String.toList_ofList]
      exact hsegment
    · intro hsegment
      exact ⟨_, hsegment, String.ofList_toList⟩
  simp only [ofDelimited, mem_paths_ofList_iff, hentry]

/-- No member of a text with commas has one. -/
theorem comma_notMem_of_mem_ofDelimited {text p : String} (h : p ∈ (ofDelimited text).paths) :
    ',' ∉ p.toList := by
  obtain ⟨-, entry, hsegment, ⟨before, after, -, -, hentry⟩, -⟩ := mem_paths_ofDelimited_iff.1 h
  intro hcomma
  refine hsegment.free ?_
  rw [hentry]
  exact List.mem_append_left _ (List.mem_append_right _ hcomma)

/-- Entries without commas can be written as one text. -/
theorem ofDelimited_intercalate {entries : List String}
    (h : ∀ entry ∈ entries, ',' ∉ entry.toList) :
    ofDelimited (",".intercalate entries) = ofList entries := by
  cases entries with
  | nil => decide
  | cons first rest =>
      have hsegments : Text.segments ',' (",".intercalate (first :: rest)).toList =
          (first :: rest).map String.toList := by
        rw [String.toList_intercalate, ← Text.joinWith_eq_intercalate]
        refine Text.segments_joinWith (by simp) fun item hitem => ?_
        obtain ⟨entry, hentry, rfl⟩ := List.mem_map.1 hitem
        exact h entry hentry
      rw [ofDelimited, hsegments, List.map_map]
      simp

/-- A comma between two texts parts them. -/
theorem mem_paths_ofDelimited_append {a b p : String} :
    p ∈ (ofDelimited (a ++ "," ++ b)).paths ↔
      p ∈ (ofDelimited a).paths ∨ p ∈ (ofDelimited b).paths := by
  have hsegments : Text.segments ',' (a ++ "," ++ b).toList =
      Text.segments ',' a.toList ++ Text.segments ',' b.toList := by
    rw [← Text.segments_append]
    simp
  simp only [ofDelimited, mem_paths_ofList, hsegments, List.map_append, List.mem_append,
    or_and_right, exists_or, and_or_left]

/-! ## Equal sets -/

theorem nodup_paths (e : ExemptedPaths) : e.paths.Nodup := by
  refine e.increasing.imp ?_
  rintro p q hlt rfl
  exact String.lt_irrefl p hlt

theorem eq_of_paths {a b : ExemptedPaths} (h : a.paths = b.paths) : a = b := by
  cases a
  cases b
  cases h
  rfl

/-- Sets with the same members are equal. -/
theorem eq_of_mem_iff {a b : ExemptedPaths} (h : ∀ p, p ∈ a.paths ↔ p ∈ b.paths) : a = b := by
  have hperm : a.paths.Perm b.paths :=
    (List.perm_ext_iff_of_nodup a.nodup_paths b.nodup_paths).2 h
  exact eq_of_paths (hperm.eq_of_pairwise (fun p q _ _ hpq hqp =>
    absurd (String.lt_trans hpq hqp) (String.lt_irrefl p)) a.increasing b.increasing)

/-! ## Sets from their own lists -/

theorem trimPath_eq_self {path : String} (h : IsExemptible path) : trimPath path = path := by
  rw [trimPath, Text.trim_eq_self h.2, String.ofList_toList]

theorem insertPath_eq_append {path : String} {paths : List String}
    (h : ∀ other ∈ paths, other < path) : insertPath path paths = paths ++ [path] := by
  induction paths with
  | nil => rfl
  | cons other rest ih =>
      have hother := h other List.mem_cons_self
      have hnot : ¬ path < other := fun hlt =>
        String.lt_irrefl path (String.lt_trans hlt hother)
      have hne : path ≠ other := by
        rintro rfl
        exact String.lt_irrefl path hother
      rw [insertPath, if_neg hnot, if_neg hne, ih fun p hp => h p (List.mem_cons_of_mem other hp),
        List.cons_append]

theorem paths_add {e : ExemptedPaths} {path : String} (h : IsExemptible path)
    (hlast : ∀ other ∈ e.paths, other < path) : (e.add path).paths = e.paths ++ [path] := by
  rw [add, dif_neg (by rw [trimPath_eq_self h]; exact h.1)]
  show insertPath (trimPath path) e.paths = _
  rw [trimPath_eq_self h, insertPath_eq_append hlast]

/-- Increasing members are put behind those that are there. -/
theorem paths_foldl_add {members : List String} (hexemptible : ∀ p ∈ members, IsExemptible p)
    {e : ExemptedPaths} (hincreasing : (e.paths ++ members).Pairwise (· < ·)) :
    (members.foldl add e).paths = e.paths ++ members := by
  induction members generalizing e with
  | nil => rw [List.append_nil, List.foldl_nil]
  | cons path members ih =>
      have hlast : ∀ other ∈ e.paths, other < path := fun other hother =>
        (List.pairwise_append.1 hincreasing).2.2 other hother path List.mem_cons_self
      have hadd := paths_add (hexemptible path List.mem_cons_self) hlast
      have hmore : ((e.add path).paths ++ members).Pairwise (· < ·) := by
        rw [hadd, List.append_assoc]
        exact hincreasing
      rw [List.foldl_cons, ih (fun p hp => hexemptible p (List.mem_cons_of_mem path hp)) hmore,
        hadd, List.append_assoc]
      rfl

/-- **The list of a set makes the set again.** -/
theorem ofList_paths (e : ExemptedPaths) : ofList e.paths = e :=
  eq_of_paths (paths_foldl_add e.exemptible (e := empty) e.increasing)

end ExemptedPaths

end IsolationGate.Policy
