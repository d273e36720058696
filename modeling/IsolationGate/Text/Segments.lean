/-!
# Splitting at a separator

`segments sep cs` are the stretches of `cs` between occurrences of `sep`; there is always at least
one. Joining is undone by splitting where the separator itself is cut out, which is what
`segments_append` states. `IsSegment` says what a stretch is without saying how it is found, and
`mem_segments_iff` that these are the ones that are found.
-/

namespace IsolationGate.Text

/-- The stretches between separators, empty ones included. -/
def segments (sep : Char) : List Char → List (List Char)
  | [] => [[]]
  | c :: cs =>
      if c = sep then [] :: segments sep cs
      else
        match segments sep cs with
        | [] => [[c]]
        | s :: ss => (c :: s) :: ss

/-- Items with `sep` written between neighbours. -/
def joinWith (sep : List Char) : List (List Char) → List Char
  | [] => []
  | [item] => item
  | item :: rest => item ++ sep ++ joinWith sep rest

theorem joinWith_eq_intercalate (sep : List Char) (items : List (List Char)) :
    joinWith sep items = sep.intercalate items := by
  induction items with
  | nil => rfl
  | cons item rest ih =>
      cases rest with
      | nil => simp [joinWith]
      | cons next more =>
          rw [joinWith, ih, List.intercalate_cons_cons]
          simp

/-- A character of a joined text is one of the separator or of an item. -/
theorem mem_joinWith {sep : List Char} {items : List (List Char)} {c : Char}
    (h : c ∈ joinWith sep items) : c ∈ sep ∨ ∃ item ∈ items, c ∈ item := by
  induction items with
  | nil => cases h
  | cons item rest ih =>
      cases rest with
      | nil => exact .inr ⟨item, List.mem_cons_self, h⟩
      | cons next more =>
          rw [joinWith, List.mem_append, List.mem_append] at h
          · rcases h with (hitem | hsep) | hrest
            · exact .inr ⟨item, List.mem_cons_self, hitem⟩
            · exact .inl hsep
            · refine (ih hrest).imp_right ?_
              rintro ⟨other, hother, hc⟩
              exact ⟨other, List.mem_cons_of_mem item hother, hc⟩
          · simp

theorem segments_ne_nil (sep : Char) (cs : List Char) : segments sep cs ≠ [] := by
  induction cs with
  | nil => simp [segments]
  | cons c cs ih =>
      simp only [segments]
      split
      · simp
      · split <;> simp

/-- A separator between two texts ends the segments of the first and starts those of the second. -/
theorem segments_append (sep : Char) (a b : List Char) :
    segments sep (a ++ sep :: b) = segments sep a ++ segments sep b := by
  induction a with
  | nil => simp [segments]
  | cons c a ih =>
      by_cases h : c = sep
      · simp [segments, h, ih]
      · simp only [List.cons_append, segments, h, if_false, ih]
        cases hs : segments sep a with
        | nil => exact absurd hs (segments_ne_nil sep a)
        | cons s ss => simp

/-- A text without the separator is one segment. -/
theorem segments_eq_singleton {sep : Char} {cs : List Char} (h : sep ∉ cs) :
    segments sep cs = [cs] := by
  induction cs with
  | nil => rfl
  | cons c cs ih =>
      have hc : c ≠ sep := fun e => h (by simp [e])
      have hcs : sep ∉ cs := fun e => h (List.mem_cons_of_mem _ e)
      simp [segments, hc, ih hcs]

/-- No segment holds the separator, and each holds characters of the text only. -/
theorem of_mem_segments {sep c : Char} {cs s : List Char} (hs : s ∈ segments sep cs) (hc : c ∈ s) :
    c ≠ sep ∧ c ∈ cs := by
  induction cs generalizing s with
  | nil =>
      rw [segments, List.mem_singleton] at hs
      subst hs
      cases hc
  | cons d cs ih =>
      rw [segments] at hs
      split at hs
      · rcases List.mem_cons.1 hs with rfl | hs
        · cases hc
        · exact (ih hs hc).imp_right (List.mem_cons_of_mem d)
      · next hd =>
          split at hs
          · next hnone => exact absurd hnone (segments_ne_nil sep cs)
          · next first rest hsegments =>
              rw [hsegments] at ih
              rcases List.mem_cons.1 hs with rfl | hs
              · rcases List.mem_cons.1 hc with rfl | hc
                · exact ⟨hd, List.mem_cons_self⟩
                · exact (ih List.mem_cons_self hc).imp_right (List.mem_cons_of_mem d)
              · exact (ih (List.mem_cons_of_mem first hs) hc).imp_right (List.mem_cons_of_mem d)

/-- A stretch of a text without separators, with one on either side unless the text ends there. -/
structure IsSegment (sep : Char) (segment cs : List Char) : Prop where
  free : sep ∉ segment
  stands : ∃ before after, cs = before ++ segment ++ after ∧
    (before = [] ∨ before.getLast? = some sep) ∧ (after = [] ∨ after.head? = some sep)

theorem mem_segments_of_isSegment {sep : Char} {segment cs : List Char}
    (h : IsSegment sep segment cs) : segment ∈ segments sep cs := by
  obtain ⟨hfree, before, after, rfl, hbefore, hafter⟩ := h
  have hrest : segment ∈ segments sep (segment ++ after) := by
    rcases hafter with rfl | hafter
    · rw [List.append_nil, segments_eq_singleton hfree]
      exact List.mem_singleton_self segment
    · obtain ⟨after, rfl⟩ := List.head?_eq_some_iff.1 hafter
      rw [segments_append, segments_eq_singleton hfree]
      exact List.mem_cons_self
  rw [List.append_assoc]
  rcases hbefore with rfl | hbefore
  · exact hrest
  · obtain ⟨before, rfl⟩ := List.getLast?_eq_some_iff.1 hbefore
    rw [List.append_assoc, List.singleton_append, segments_append]
    exact List.mem_append_right _ hrest

/-- A stretch of a text is one of every text that has it behind a separator. -/
theorem IsSegment.append {sep : Char} {segment cs : List Char} (h : IsSegment sep segment cs)
    (first : List Char) : IsSegment sep segment (first ++ sep :: cs) := by
  obtain ⟨hfree, before, after, rfl, hbefore, hafter⟩ := h
  refine ⟨hfree, first ++ sep :: before, after, by simp, .inr ?_, hafter⟩
  rcases hbefore with rfl | hbefore
  · exact List.getLast?_concat
  · rw [List.getLast?_append, List.getLast?_cons, hbefore]
    rfl

/-- **What the segments are**, by induction on the length: a text without separators is one segment,
and any other is cut at its first one. -/
theorem mem_segments_iff {sep : Char} {segment cs : List Char} :
    segment ∈ segments sep cs ↔ IsSegment sep segment cs := by
  refine ⟨fun h => ?_, mem_segments_of_isSegment⟩
  induction hlength : cs.length using Nat.strongRecOn generalizing cs with
  | _ n ih =>
      by_cases hsep : sep ∈ cs
      · obtain ⟨first, rest, rfl, hfirst⟩ := List.eq_append_cons_of_mem hsep
        rw [segments_append, segments_eq_singleton hfirst, List.singleton_append] at h
        rcases List.mem_cons.1 h with rfl | h
        · exact ⟨hfirst, [], sep :: rest, rfl, .inl rfl, .inr rfl⟩
        · have hshorter : rest.length < n := by
            rw [← hlength, List.length_append, List.length_cons]
            omega
          exact (ih rest.length hshorter h rfl).append first
      · rw [segments_eq_singleton hsep, List.mem_singleton] at h
        subst h
        exact ⟨hsep, [], [], (List.append_nil _).symm, .inl rfl, .inl rfl⟩

/-- What stands before the first separator of a text belongs to its first segment. -/
theorem segments_append_of_not_mem {sep : Char} {a b first : List Char} {rest : List (List Char)}
    (h : sep ∉ a) (hb : segments sep b = first :: rest) :
    segments sep (a ++ b) = (a ++ first) :: rest := by
  induction a with
  | nil => exact hb
  | cons c a ih =>
      have hc : c ≠ sep := fun e => h (by simp [e])
      have ha : sep ∉ a := fun e => h (List.mem_cons_of_mem _ e)
      rw [List.cons_append, segments, if_neg hc, ih ha]
      rfl

/-- Items free of the separator are recovered from their joined text. -/
theorem segments_joinWith {sep : Char} {items : List (List Char)} (hne : items ≠ [])
    (h : ∀ item ∈ items, sep ∉ item) : segments sep (joinWith [sep] items) = items := by
  induction items with
  | nil => exact absurd rfl hne
  | cons item rest ih =>
      cases rest with
      | nil => simpa [joinWith] using segments_eq_singleton (h item (by simp))
      | cons next more =>
          have htail := ih (by simp) fun x hx => h x (List.mem_cons_of_mem _ hx)
          rw [joinWith, List.append_assoc, List.singleton_append, segments_append, htail,
            segments_eq_singleton (h item (by simp))]
          · rfl
          · simp

end IsolationGate.Text
