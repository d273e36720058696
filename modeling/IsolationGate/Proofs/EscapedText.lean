import IsolationGate.Page.StyleTag

/-!
# Escaped texts

Five characters are escaped in an attribute value, and a browser reads the value with its entities
replaced. `decode` is this reading, for the five entities that are written. It goes from the left,
so an entity that was in the text before it was escaped is not read as one: the `&` that starts it
has become an entity of its own. In an escaped text there is no other `&`, so nothing in it can be
taken for an entity that was not written.

## Main results

* `escapeChar_cases` — what is written for a character.
* `decode_escape` — an escaped text is read as the text.
* `isMarkup_eq_false_of_mem_escape` — what an escaped text cannot have in it.
* `hasOnlyEntities_escape` — where an `&` can stand in it.
* `isSafeEscaping_escape` — all that escaping promises for every text.
-/

namespace IsolationGate.Page

/-- A text with its entities replaced, from the left. Everything else stands for itself. -/
def decode : List Char → List Char
  | [] => []
  | '&' :: 'a' :: 'm' :: 'p' :: ';' :: rest => '&' :: decode rest
  | '&' :: 'l' :: 't' :: ';' :: rest => '<' :: decode rest
  | '&' :: 'g' :: 't' :: ';' :: rest => '>' :: decode rest
  | '&' :: 'q' :: 'u' :: 'o' :: 't' :: ';' :: rest => '\x22' :: decode rest
  | '&' :: '#' :: '3' :: '9' :: ';' :: rest => '\x27' :: decode rest
  | c :: rest => c :: decode rest

/-- The characters that are escaped, each with its entity. -/
def entities : List (Char × List Char) :=
  [('&', "&amp;".toList), ('<', "&lt;".toList), ('>', "&gt;".toList), ('\x22', "&quot;".toList),
    ('\x27', "&#39;".toList)]

/-- A character that can end a value or a tag, or start one. -/
def isMarkup (c : Char) : Bool := c = '<' || c = '>' || c = '\x22' || c = '\x27'

/-- **What is written for a character**: its entity if it has one, and else the character. -/
theorem escapeChar_cases (c : Char) :
    (c, escapeChar c) ∈ entities ∨ c ≠ '&' ∧ isMarkup c = false ∧ escapeChar c = [c] := by
  by_cases hescaped : c ∈ entities.map Prod.fst
  · left
    simp only [entities, List.map_cons, List.map_nil, List.mem_cons, List.not_mem_nil,
      or_false] at hescaped
    rcases hescaped with rfl | rfl | rfl | rfl | rfl <;> decide
  · right
    simp only [entities, List.map_cons, List.map_nil, List.mem_cons, List.not_mem_nil, or_false,
      not_or] at hescaped
    obtain ⟨hamp, hlt, hgt, hquote, hapostrophe⟩ := hescaped
    exact ⟨hamp, by simp [isMarkup, hlt, hgt, hquote, hapostrophe],
      by simp [escapeChar, hamp, hlt, hgt, hquote, hapostrophe]⟩

/-- An entity is read as its character, whatever stands behind it. -/
theorem decode_append_of_mem_entities {p : Char × List Char} (h : p ∈ entities)
    (rest : List Char) : decode (p.2 ++ rest) = p.1 :: decode rest := by
  simp only [entities, List.mem_cons, List.not_mem_nil, or_false] at h
  rcases h with rfl | rfl | rfl | rfl | rfl <;> rfl

/-- Only `&` starts an entity. -/
theorem decode_cons_of_ne {c : Char} (h : c ≠ '&') (rest : List Char) :
    decode (c :: rest) = c :: decode rest := by
  rw [decode]
  all_goals
    intros
    exact absurd ‹c = '&'› h

theorem decode_escapeChar_append (c : Char) (rest : List Char) :
    decode (escapeChar c ++ rest) = c :: decode rest := by
  rcases escapeChar_cases c with hentity | ⟨hamp, -, hself⟩
  · exact decode_append_of_mem_entities hentity rest
  · rw [hself]
    exact decode_cons_of_ne hamp rest

theorem decode_flatMap_escapeChar (cs : List Char) : decode (cs.flatMap escapeChar) = cs := by
  induction cs with
  | nil => rfl
  | cons c cs ih => rw [List.flatMap_cons, decode_escapeChar_append, ih]

/-- **An escaped text is read as the text.** -/
theorem decode_escape (s : String) : decode (escape s).toList = s.toList := by
  rw [escape, String.toList_ofList, decode_flatMap_escapeChar]

theorem isMarkup_eq_false_of_mem_entity :
    ∀ p ∈ entities, ∀ c ∈ p.2, isMarkup c = false := by
  have hfree : ∀ p ∈ entities, (p.2.all fun c => !isMarkup c) = true := by decide
  intro p hp c hc
  simpa using List.all_eq_true.1 (hfree p hp) c hc

/-- **No escaped text has markup in it.** -/
theorem isMarkup_eq_false_of_mem_escape {s : String} {c : Char} (h : c ∈ (escape s).toList) :
    isMarkup c = false := by
  rw [escape, String.toList_ofList] at h
  obtain ⟨d, -, hmem⟩ := List.mem_flatMap.1 h
  rcases escapeChar_cases d with hentity | ⟨-, hplain, hself⟩
  · exact isMarkup_eq_false_of_mem_entity _ hentity c hmem
  · rw [hself, List.mem_singleton] at hmem
    rw [hmem]
    exact hplain

/-! ## Where an ampersand stands -/

/-- Every `&` of a text starts an entity. -/
def HasOnlyEntities (cs : List Char) : Prop :=
  ∀ after, '&' :: after <:+ cs → ∃ p ∈ entities, p.2 <+: '&' :: after

/-- An entity starts with the only `&` it has. -/
theorem exists_cons_of_mem_entities :
    ∀ p ∈ entities, ∃ name, p.2 = '&' :: name ∧ '&' ∉ name := by
  have hheads : ∀ p ∈ entities, p.2 = '&' :: p.2.tail ∧ '&' ∉ p.2.tail := by decide
  exact fun p hp => ⟨p.2.tail, hheads p hp⟩

/-- A stretch that begins with `c` does not begin before the last characters without `c`. -/
theorem suffix_of_suffix_append {c : Char} {after a b : List Char} (ha : c ∉ a)
    (h : c :: after <:+ a ++ b) : c :: after <:+ b := by
  induction a with
  | nil => exact h
  | cons d a ih =>
      rcases List.suffix_cons_iff.1 h with heq | hrest
      · obtain ⟨rfl, -⟩ := List.cons.inj heq
        exact absurd List.mem_cons_self ha
      · exact ih (fun hmem => ha (List.mem_cons_of_mem d hmem)) hrest

/-- **Every `&` of an escaped text starts an entity**, by induction on the text: it either starts
what is written for the first character or stands behind it. -/
theorem hasOnlyEntities_flatMap_escapeChar (cs : List Char) :
    HasOnlyEntities (cs.flatMap escapeChar) := by
  induction cs with
  | nil => exact fun after h => absurd (List.suffix_nil.1 h) (List.cons_ne_nil _ _)
  | cons c cs ih =>
      intro after h
      rw [List.flatMap_cons] at h
      rcases escapeChar_cases c with hentity | ⟨hamp, -, hself⟩
      · obtain ⟨name, hname, hfree⟩ := exists_cons_of_mem_entities _ hentity
        dsimp only at hname
        rw [hname, List.cons_append] at h
        rcases List.suffix_cons_iff.1 h with heq | hrest
        · refine ⟨_, hentity, ?_⟩
          rw [heq, ← List.cons_append]
          exact hname ▸ List.prefix_append _ _
        · exact ih after (suffix_of_suffix_append hfree hrest)
      · rw [hself] at h
        have hfree : '&' ∉ [c] := fun hmem => hamp (List.mem_singleton.1 hmem).symm
        exact ih after (suffix_of_suffix_append hfree h)

theorem hasOnlyEntities_escape (s : String) : HasOnlyEntities (escape s).toList := by
  rw [escape, String.toList_ofList]
  exact hasOnlyEntities_flatMap_escapeChar s.toList

/-! ## Escaping as a whole -/

/-- Different texts stay different, also where one looks like the other escaped. -/
theorem escape_injective : Function.Injective escape := by
  intro s t h
  refine String.toList_inj.1 ?_
  calc s.toList = decode (escape s).toList := (decode_escape s).symm
    _ = decode (escape t).toList := by rw [h]
    _ = t.toList := decode_escape t

theorem escape_append (a b : String) : escape (a ++ b) = escape a ++ escape b := by
  rw [escape, String.toList_append, List.flatMap_append, String.ofList_append]
  rfl

/-- What a way of escaping has to be for a text to stand between quotes or tags and be read there as
it is. -/
structure IsSafeEscaping (escaping : String → String) : Prop where
  markup : ∀ s, ∀ c ∈ (escaping s).toList, isMarkup c = false
  ampersands : ∀ s, HasOnlyEntities (escaping s).toList
  decoded : ∀ s, decode (escaping s).toList = s.toList
  injective : Function.Injective escaping
  append : ∀ a b, escaping (a ++ b) = escaping a ++ escaping b

theorem isSafeEscaping_escape : IsSafeEscaping escape where
  markup _ _ h := isMarkup_eq_false_of_mem_escape h
  ampersands := hasOnlyEntities_escape
  decoded := decode_escape
  injective := escape_injective
  append := escape_append

end IsolationGate.Page
