import IsolationGate.Config.Decode
import IsolationGate.Policy.EmbedderPolicy
import IsolationGate.Policy.FetchMetadata
import IsolationGate.Policy.OpenerPolicy
import Mathlib.Data.Set.Card

/-!
# Which paths are exempted

A request for an exempted path bypasses a filter, so it has to be plain from a configuration which
paths these are. There are four ways to a set: nothing is set, texts are collected, one text is cut
at its commas, and a setting is read, which is a list or one text. `PathSource.Offers` says which
entries each of them gives, before blanks are taken away. The members are what is left of the
entries, and nothing else; an entry of a list is not cut, whatever is in it.

What no member can be follows from this for every set: empty, or with a blank at an end. So a
request for the empty path, which is what a target without a path has, bypasses nothing.

## Main results

* `PathSource.exists_build_iff` — which sources give a set.
* `PathSource.isMadeFrom_of_build` — what its members are, and how many.
* `exemptedPaths_are_trims` — the same for all sources, and what a comma does.
-/

namespace IsolationGate.Config

open Policy (EmbedderPolicy ExemptedPaths FetchMetadataFilter IsExemptible OpenerMode OpenerPolicy)
open Text (IsSegment IsTrimOf)

/-! ## Sources -/

/-- Where a set of exempted paths comes from. -/
inductive PathSource where
  /-- Nothing is set. -/
  | unset
  /-- Texts are collected. -/
  | collected (entries : List String)
  /-- One text is cut at its commas. -/
  | delimited (text : String)
  /-- The setting of a configuration. -/
  | setting (datum : Datum)

namespace PathSource

/-- The set that comes of a source. -/
def build : PathSource → Except DataError ExemptedPaths
  | unset => .ok .empty
  | collected entries => .ok (.ofList entries)
  | delimited text => .ok (.ofDelimited text)
  | setting datum => readPaths datum

/-- A source has an entry. Only one text is cut at its commas. -/
def Offers : PathSource → String → Prop
  | unset, _ => False
  | collected entries, entry => entry ∈ entries
  | delimited text, entry => IsSegment ',' entry.toList text.toList
  | setting (.text text), entry => IsSegment ',' entry.toList text.toList
  | setting (.list items), entry => .text entry ∈ items
  | setting _, _ => False

/-- A source gives a set: a setting has to be one text, or a list of texts only. -/
def IsReadable : PathSource → Prop
  | setting (.text _) => True
  | setting (.list items) => ∀ item ∈ items, ∃ entry, item = .text entry
  | setting _ => False
  | _ => True

/-- **The members of a set are what is left of the entries of its source.** -/
theorem mem_paths_of_build {source : PathSource} {e : ExemptedPaths} (h : source.build = .ok e)
    {p : String} :
    p ∈ e.paths ↔ p ≠ "" ∧ ∃ entry, source.Offers entry ∧ IsTrimOf p.toList entry.toList := by
  cases source with
  | unset =>
      cases h
      simp [ExemptedPaths.empty, Offers]
  | collected entries =>
      cases h
      exact ExemptedPaths.mem_paths_ofList_iff
  | delimited text =>
      cases h
      exact ExemptedPaths.mem_paths_ofDelimited_iff
  | setting datum =>
      rcases readPaths_eq_ok_iff.1 h with ⟨text, rfl, rfl⟩ | ⟨entries, rfl, rfl⟩
      · exact ExemptedPaths.mem_paths_ofDelimited_iff
      · have hoffers : ∀ entry, (setting (.list (entries.map .text))).Offers entry ↔
            entry ∈ entries := by
          intro entry
          simp [Offers]
        simp only [ExemptedPaths.mem_paths_ofList_iff, hoffers]

/-- The data of texts only. -/
theorem exists_map_text_iff {items : List Datum} :
    (∃ entries : List String, items = entries.map .text) ↔
      ∀ item ∈ items, ∃ entry, item = .text entry := by
  constructor
  · rintro ⟨entries, rfl⟩ item hitem
    obtain ⟨entry, -, rfl⟩ := List.mem_map.1 hitem
    exact ⟨entry, rfl⟩
  · intro htexts
    have hrange : items ∈ Set.range (List.map Datum.text) := by
      rw [Set.range_list_map]
      intro item hitem
      obtain ⟨entry, rfl⟩ := htexts item hitem
      exact ⟨entry, rfl⟩
    obtain ⟨entries, rfl⟩ := hrange
    exact ⟨entries, rfl⟩

/-- **Which sources give a set.** -/
theorem exists_build_iff {source : PathSource} :
    (∃ e, source.build = .ok e) ↔ source.IsReadable := by
  cases source with
  | unset => exact ⟨fun _ => trivial, fun _ => ⟨_, rfl⟩⟩
  | collected entries => exact ⟨fun _ => trivial, fun _ => ⟨_, rfl⟩⟩
  | delimited text => exact ⟨fun _ => trivial, fun _ => ⟨_, rfl⟩⟩
  | setting datum =>
      simp only [build, readPaths_eq_ok_iff]
      cases datum with
      | text text => simp [IsReadable]
      | list items => simp [IsReadable, ← exists_map_text_iff]
      | _ => simp [IsReadable]

end PathSource

/-! ## Sets next to their sources -/

/-- A set of exempted paths next to the source that it is made from. -/
structure IsMadeFrom (source : PathSource) (e : ExemptedPaths) : Prop where
  /-- The members are what is left of the entries when blanks are taken away, if anything is. -/
  member : ∀ p, e.contains p = true ↔
    p ≠ "" ∧ ∃ entry, source.Offers entry ∧ IsTrimOf p.toList entry.toList
  /-- No member is empty or has a blank at either end. -/
  exemptible : ∀ p, e.contains p = true → IsExemptible p
  /-- A request for the empty path is judged like any other. -/
  judged : ∀ m : Policy.FetchMetadata, (FetchMetadataFilter.mk e).judge "" m = m.evaluate
  /-- The answer to such a request is exempted from neither policy. -/
  opened : ∀ mode : OpenerMode, (OpenerPolicy.mk mode e).isExempted "" = false
  embedded : ∀ policy : EmbedderPolicy, policy.exempted = e → policy.isExempted "" = false
  /-- The size counts each member once. -/
  size : e.size = {p | e.contains p = true}.ncard
  /-- It is how many paths are met when all members are, each once and in any order. -/
  met : ∀ paths : List String, paths.Nodup → (∀ p, p ∈ paths ↔ e.contains p = true) →
    paths.length = e.size

/-- The members of a set that are met one by one are those of its list. -/
theorem perm_paths_of_met {e : ExemptedPaths} {paths : List String} (hnodup : paths.Nodup)
    (hmem : ∀ p, p ∈ paths ↔ e.contains p = true) : paths.Perm e.paths := by
  refine (List.perm_ext_iff_of_nodup hnodup e.nodup_paths).2 fun p => ?_
  rw [hmem, ExemptedPaths.contains_iff]

theorem ncard_members (e : ExemptedPaths) : {p | e.contains p = true}.ncard = e.size := by
  have hmembers : {p | e.contains p = true} = ↑e.paths.toFinset := by
    ext p
    simp only [Set.mem_ofPred_eq, ExemptedPaths.contains_iff, List.coe_toFinset]
  rw [hmembers, Set.ncard_coe_finset, List.toFinset_card_of_nodup e.nodup_paths]
  rfl

theorem PathSource.isMadeFrom_of_build {source : PathSource} {e : ExemptedPaths}
    (h : source.build = .ok e) : IsMadeFrom source e := by
  have hmember : ∀ p, e.contains p = true ↔
      p ≠ "" ∧ ∃ entry, source.Offers entry ∧ IsTrimOf p.toList entry.toList := by
    intro p
    rw [ExemptedPaths.contains_iff]
    exact mem_paths_of_build h
  have hempty : e.contains "" = false := by
    rw [← Bool.not_eq_true, hmember]
    exact fun hboth => hboth.1 rfl
  refine ⟨hmember, ?_, ?_, fun _ => hempty, ?_, (ncard_members e).symm, ?_⟩
  · intro p hp
    obtain ⟨hne, entry, -, htrim⟩ := (hmember p).1 hp
    exact ⟨hne, htrim.isTrimmed⟩
  · intro m
    exact if_neg (by simp [hempty])
  · rintro policy rfl
    rw [EmbedderPolicy.isExempted, hempty, Bool.and_false]
  · intro paths hnodup hmem
    exact (perm_paths_of_met hnodup hmem).length_eq

/-- **Who is exempted.** A set comes of every source but a setting that is neither one text nor a
list of texts, and its members are what is left of the entries of the source; no set comes about in
another way. A comma in one text parts it into two, each of which gives its own members. -/
theorem exemptedPaths_are_trims :
    (∀ source : PathSource, ((∃ e, source.build = .ok e) ↔ source.IsReadable) ∧
      ∀ e, source.build = .ok e → IsMadeFrom source e) ∧
    (∀ e : ExemptedPaths, ∃ source : PathSource, source.build = .ok e) ∧
    ∀ a b p : String, (ExemptedPaths.ofDelimited (a ++ "," ++ b)).contains p = true ↔
      (ExemptedPaths.ofDelimited a).contains p = true ∨
        (ExemptedPaths.ofDelimited b).contains p = true := by
  refine ⟨fun source => ⟨PathSource.exists_build_iff, fun e => PathSource.isMadeFrom_of_build⟩,
    fun e => ⟨.collected e.paths, congrArg Except.ok e.ofList_paths⟩, ?_⟩
  intro a b p
  simp only [ExemptedPaths.contains_iff]
  exact ExemptedPaths.mem_paths_ofDelimited_append

end IsolationGate.Config
