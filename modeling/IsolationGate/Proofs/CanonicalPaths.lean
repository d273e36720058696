import IsolationGate.Config.Encode
import IsolationGate.Proofs.ByteOrder
import IsolationGate.Proofs.PathMembership
import Mathlib.Data.List.Dedup
import Mathlib.Logic.Relation

/-!
# The list of a set of exempted paths

A set is written as the list of its members, in the order of their bytes. The list is read with much
tolerance: its items may come in any order and more than once, with blanks around them and blank
items between them. `Rework` is one such change of a list, and no change of a list shows in the set
that is read. The converse holds as well: a list that is read as a set comes from the list of this
set by such changes, so they are all the tolerance there is.

A set can also be written as one text with commas between the items. That works for every reworked
list, unless a member has a comma of its own.

## Main results

* `ofList_eq_of_rework`, `ofList_eq_of_reworked` — what one change and any number of them preserve.
* `reworked_iff` — the lists that are read as a set.
* `readPaths_intercalate_iff` — when the text of such a list is read as the set.
* `exemptedPaths_isCanonical` — the whole of it, and that equal sets are those with equal lists.
-/

namespace IsolationGate.Config

open Policy (ExemptedPaths trimPath)
open Policy.ExemptedPaths (ofDelimited ofList)
open Text (IsBlankRun)

/-! ## Changes of a list -/

/-- A text with blanks added at either end. -/
def IsPadded (item padded : String) : Prop :=
  ∃ before after : String, IsBlankRun before.toList ∧ IsBlankRun after.toList ∧
    padded = before ++ item ++ after

/-- One change of a list that its reader tolerates. -/
inductive Rework : List String → List String → Prop where
  /-- The items come in another order. -/
  | permuted {items other : List String} (h : items.Perm other) : Rework items other
  /-- An item comes once more. -/
  | repeated {before after : List String} {item : String} (h : item ∈ before ++ after) :
      Rework (before ++ after) (before ++ item :: after)
  /-- Blanks are added around an item. -/
  | padded {before after : List String} {item padded : String} (h : IsPadded item padded) :
      Rework (before ++ item :: after) (before ++ padded :: after)
  /-- A blank item is put in. -/
  | blank {before after : List String} {item : String} (h : IsBlankRun item.toList) :
      Rework (before ++ after) (before ++ item :: after)

/-- Any number of such changes. -/
abbrev Reworked : List String → List String → Prop := Relation.ReflTransGen Rework

theorem trimPath_of_isPadded {item padded : String} (h : IsPadded item padded) :
    trimPath padded = trimPath item := by
  obtain ⟨before, after, hbefore, hafter, rfl⟩ := h
  rw [trimPath, String.toList_append, String.toList_append, Text.trim_padded hbefore hafter]
  rfl

/-- **One change does not show** in the set that is read. -/
theorem ofList_eq_of_rework {items other : List String} (h : Rework items other) :
    ofList other = ofList items := by
  refine ExemptedPaths.eq_of_mem_iff fun p => ?_
  rw [ExemptedPaths.mem_paths_ofList, ExemptedPaths.mem_paths_ofList]
  refine and_congr_right fun hne => ?_
  cases h with
  | permuted hperm => simp only [hperm.mem_iff]
  | @repeated before after item hmem =>
      constructor
      · rintro ⟨entry, hentry, hp⟩
        rcases List.mem_cons.1 (List.perm_middle.mem_iff.1 hentry) with rfl | hentry
        · exact ⟨entry, hmem, hp⟩
        · exact ⟨entry, hentry, hp⟩
      · rintro ⟨entry, hentry, hp⟩
        exact ⟨entry, List.perm_middle.mem_iff.2 (List.mem_cons_of_mem item hentry), hp⟩
  | padded hpadded =>
      simp only [List.mem_append, List.mem_cons, or_and_right, exists_or, exists_eq_left,
        trimPath_of_isPadded hpadded]
  | @blank before after item hblank =>
      -- A blank item leaves the empty path, and that is no member.
      have hnone : p ≠ trimPath item := by
        rw [Policy.trimPath_eq_empty_iff.2 hblank]
        exact hne
      simp only [List.mem_append, List.mem_cons, or_and_right, exists_or, exists_eq_left, hnone,
        false_or]

/-- **No number of changes shows**, by induction on them. -/
theorem ofList_eq_of_reworked {items other : List String} (h : Reworked items other) :
    ofList other = ofList items := by
  induction h with
  | refl => rfl
  | tail _ hstep ih => rw [ofList_eq_of_rework hstep, ih]

/-! ## No other list -/

theorem Rework.cons {items other : List String} (h : Rework items other) (first : String) :
    Rework (first :: items) (first :: other) := by
  cases h with
  | permuted hperm => exact .permuted (hperm.cons first)
  | repeated hmem =>
      rw [← List.cons_append, ← List.cons_append]
      exact .repeated (List.mem_cons_of_mem first hmem)
  | padded hpadded =>
      rw [← List.cons_append, ← List.cons_append]
      exact .padded hpadded
  | blank hblank =>
      rw [← List.cons_append, ← List.cons_append]
      exact .blank hblank

theorem Reworked.cons {items other : List String} (h : Reworked items other) (first : String) :
    Reworked (first :: items) (first :: other) := by
  induction h with
  | refl => exact .refl
  | tail _ hstep ih => exact ih.tail (hstep.cons first)

/-- Items that come more than once come from those that come once. -/
theorem reworked_dedup (items : List String) : Reworked items.dedup items := by
  induction items with
  | nil => exact .refl
  | cons first rest ih =>
      by_cases hmem : first ∈ rest
      · rw [List.dedup_cons_of_mem hmem]
        exact ih.tail (@Rework.repeated [] rest first hmem)
      · rw [List.dedup_cons_of_notMem hmem]
        exact Reworked.cons ih first

theorem isPadded_trimPath (entry : String) : IsPadded (trimPath entry) entry := by
  obtain ⟨before, after, hbefore, hafter, hentry⟩ := (Text.isTrimOf_trim entry.toList).between
  refine ⟨.ofList before, .ofList after, ?_, ?_, ?_⟩
  · rw [String.toList_ofList]
    exact hbefore
  · rw [String.toList_ofList]
    exact hafter
  · rw [← String.toList_inj, hentry]
    simp [trimPath]

/-- Entries come from what is left of them. -/
theorem reworked_map_trimPath (entries : List String) :
    Reworked (entries.map trimPath) entries := by
  induction entries with
  | nil => exact .refl
  | cons entry rest ih =>
      have hpadded := @Rework.padded [] rest _ _ (isPadded_trimPath entry)
      exact (Reworked.cons ih (trimPath entry)).tail hpadded

/-- Blank items come from nothing. -/
theorem reworked_append_of_blank {items blanks : List String}
    (h : ∀ item ∈ blanks, IsBlankRun item.toList) : Reworked items (blanks ++ items) := by
  induction blanks with
  | nil => exact .refl
  | cons first rest ih =>
      have hrest := ih fun item hitem => h item (List.mem_cons_of_mem first hitem)
      exact hrest.tail (@Rework.blank [] _ first (h first List.mem_cons_self))

/-- A list that is read as a set comes from the list of the set: the members are repeated and put
in order, then blanks are added around them, and then the blank items. -/
theorem reworked_of_ofList_eq {e : ExemptedPaths} {entries : List String}
    (h : ofList entries = e) : Reworked e.paths entries := by
  let isKept : String → Bool := fun entry => trimPath entry ≠ ""
  let kept := entries.filter isKept
  let blanks := entries.filter fun entry => !isKept entry
  have hmembers : ∀ p, p ∈ e.paths ↔ p ∈ (kept.map trimPath).dedup := by
    intro p
    rw [← h, ExemptedPaths.mem_paths_ofList, List.mem_dedup, List.mem_map]
    constructor
    · rintro ⟨hne, entry, hentry, rfl⟩
      exact ⟨entry, List.mem_filter.2 ⟨hentry, decide_eq_true hne⟩, rfl⟩
    · rintro ⟨entry, hentry, rfl⟩
      obtain ⟨hentry, hne⟩ := List.mem_filter.1 hentry
      exact ⟨of_decide_eq_true hne, entry, hentry, rfl⟩
  have hperm : e.paths.Perm (kept.map trimPath).dedup :=
    (List.perm_ext_iff_of_nodup e.nodup_paths (List.nodup_dedup _)).2 hmembers
  have hblanks : ∀ item ∈ blanks, IsBlankRun item.toList := by
    intro item hitem
    have hdropped := (List.mem_filter.1 hitem).2
    rw [← Policy.trimPath_eq_empty_iff]
    simpa [isKept] using hdropped
  have hparts : (blanks ++ kept).Perm entries :=
    List.perm_append_comm.trans (List.filter_append_perm isKept entries)
  have hkept : Reworked e.paths kept :=
    (Relation.ReflTransGen.single (.permuted hperm)).trans
      ((reworked_dedup _).trans (reworked_map_trimPath kept))
  exact (hkept.trans (reworked_append_of_blank hblanks)).tail (.permuted hparts)

/-- **The lists that are read as a set.** -/
theorem reworked_iff {e : ExemptedPaths} {entries : List String} :
    Reworked e.paths entries ↔ ofList entries = e := by
  constructor
  · intro h
    rw [ofList_eq_of_reworked h, ExemptedPaths.ofList_paths]
  · exact reworked_of_ofList_eq

/-! ## One text with commas -/

/-- No item has a comma. -/
def HasNoComma (items : List String) : Prop := ∀ item ∈ items, ',' ∉ item.toList

theorem comma_notMem_of_isBlankRun {cs : List Char} (h : IsBlankRun cs) : ',' ∉ cs := fun hcomma =>
  absurd (h ',' hcomma) (by decide)

/-- No change puts a comma into an item, or takes one out. -/
theorem hasNoComma_of_rework {items other : List String} (h : Rework items other) :
    HasNoComma other ↔ HasNoComma items := by
  unfold HasNoComma
  cases h with
  | permuted hperm => simp only [hperm.mem_iff]
  | @repeated before after item hmem =>
      simp only [List.perm_middle.mem_iff, List.forall_mem_cons]
      exact ⟨fun hboth => hboth.2, fun hall => ⟨hall item hmem, hall⟩⟩
  | @padded before after item padded hpadded =>
      obtain ⟨left, right, hleft, hright, rfl⟩ := hpadded
      have hleft := comma_notMem_of_isBlankRun hleft
      have hright := comma_notMem_of_isBlankRun hright
      simp only [List.perm_middle.mem_iff, List.forall_mem_cons, String.toList_append,
        List.mem_append, hleft, hright, false_or, or_false]
  | @blank before after item hblank =>
      have hcomma := comma_notMem_of_isBlankRun hblank
      simp only [List.perm_middle.mem_iff, List.forall_mem_cons, hcomma, not_false_eq_true,
        true_and]

theorem hasNoComma_of_reworked {items other : List String} (h : Reworked items other) :
    HasNoComma other ↔ HasNoComma items := by
  induction h with
  | refl => exact .rfl
  | tail _ hstep ih => rw [hasNoComma_of_rework hstep, ih]

/-- **When the text of a list is read as the set**: exactly when no member has a comma. -/
theorem readPaths_intercalate_iff {e : ExemptedPaths} {entries : List String}
    (h : Reworked e.paths entries) :
    readPaths (.text (",".intercalate entries)) = .ok e ↔ HasNoComma e.paths := by
  rw [readPaths, Except.ok.injEq]
  constructor
  · rintro rfl p hp
    exact ExemptedPaths.comma_notMem_of_mem_ofDelimited hp
  · intro hcomma
    rw [ExemptedPaths.ofDelimited_intercalate ((hasNoComma_of_reworked h).2 hcomma)]
    exact reworked_iff.1 h

/-! ## Every set -/

/-- A list is the one that a set is written as. -/
structure IsCanonical (e : ExemptedPaths) (items : List String) : Prop where
  written : pathsDatum e = .list (items.map .text)
  /-- It is in the order of its bytes, and nothing comes twice. -/
  increasing : items.Pairwise fun p q => Text.bytesOf p < Text.bytesOf q
  length : items.length = e.size
  /-- The order in which the members are met before they are sorted does not show. -/
  unordered : ∀ met : List String, met.Nodup → (∀ p, p ∈ met ↔ e.contains p = true) →
    Text.sortByBytes met = items
  /-- The lists that come of it, and no others, are read as the set. -/
  read : ∀ entries : List String,
    readPaths (.list (entries.map .text)) = .ok e ↔ Reworked items entries
  /-- Their texts are as well, unless a member has a comma. -/
  readText : ∀ entries : List String, Reworked items entries →
    (readPaths (.text (",".intercalate entries)) = .ok e ↔
      ∀ p, e.contains p = true → ',' ∉ p.toList)

theorem isCanonical_paths (e : ExemptedPaths) : IsCanonical e e.paths where
  written := rfl
  increasing := e.increasing.imp Text.bytesOf_lt_iff.2
  length := rfl
  unordered _ hnodup hmem := Text.sortByBytes_eq (perm_paths_of_met hnodup hmem) e.increasing
  read entries := by
    rw [reworked_iff, readPaths, textsOf?_eq_some_iff.2 rfl, Except.ok.injEq]
  readText entries h := by
    simp only [readPaths_intercalate_iff h, HasNoComma, ExemptedPaths.contains_iff]

theorem pathsDatum_inj {a b : ExemptedPaths} : pathsDatum a = pathsDatum b ↔ a = b := by
  constructor
  · intro h
    have hread := congrArg readPaths h
    rw [(isCanonical_paths a).written, (isCanonical_paths b).written,
      ((isCanonical_paths a).read _).2 .refl, ((isCanonical_paths b).read _).2 .refl] at hread
    exact Except.ok.inj hread
  · rintro rfl
    rfl

/-- **Every set has one list**, and two sets are equal exactly when they are written alike, which is
when they have the same members. -/
theorem exemptedPaths_isCanonical :
    (∀ e : ExemptedPaths, ∃ items, IsCanonical e items) ∧
      ∀ a b : ExemptedPaths, (a = b ↔ pathsDatum a = pathsDatum b) ∧
        (a = b ↔ ∀ p, a.contains p = b.contains p) := by
  refine ⟨fun e => ⟨e.paths, isCanonical_paths e⟩, fun a b => ⟨pathsDatum_inj.symm, ?_⟩⟩
  constructor
  · rintro rfl p
    rfl
  · intro h
    refine ExemptedPaths.eq_of_mem_iff fun p => ?_
    rw [← ExemptedPaths.contains_iff, ← ExemptedPaths.contains_iff, h]

end IsolationGate.Config
