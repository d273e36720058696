/-!
# White space and control characters

Two Unicode character classes decide what the gateway trims, splits and refuses: `White_Space`
(`isBlank`) and general category `Cc` (`isControl`). `trim` removes blanks at both ends and keeps
everything between them; the lemmas below say that a trimmed text has no blank at either end and
that trimming it again changes nothing.
-/

namespace IsolationGate.Text

/-- The Unicode property `White_Space`. -/
def isBlank (c : Char) : Bool :=
  let n := c.toNat
  (9 ≤ n && n ≤ 13) || n == 0x20 || n == 0x85 || n == 0xA0 || n == 0x1680 ||
    (0x2000 ≤ n && n ≤ 0x200A) || n == 0x2028 || n == 0x2029 || n == 0x202F || n == 0x205F ||
    n == 0x3000

/-- The general category `Cc`: C0 controls, delete and C1 controls. -/
def isControl (c : Char) : Bool :=
  let n := c.toNat
  n < 0x20 || (0x7F ≤ n && n ≤ 0x9F)

/-- Blanks at the end are dropped. -/
def trimEnd : List Char → List Char
  | [] => []
  | c :: cs =>
      match trimEnd cs with
      | [] => if isBlank c then [] else [c]
      | d :: ds => c :: d :: ds

/-- Blanks at both ends are dropped, blanks inside stay. -/
def trim (cs : List Char) : List Char := trimEnd (cs.dropWhile isBlank)

/-- No blank at either end. -/
def IsTrimmed (cs : List Char) : Prop :=
  (∀ c ∈ cs.head?, isBlank c = false) ∧ (∀ c ∈ cs.getLast?, isBlank c = false)

instance (cs : List Char) : Decidable (IsTrimmed cs) :=
  decidable_of_iff ((cs.head?.all fun c => !isBlank c) ∧ (cs.getLast?.all fun c => !isBlank c))
    (by simp [IsTrimmed, Option.all_eq_true])

/-! ## Trimming -/

theorem trimEnd_eq_nil_iff {cs : List Char} : trimEnd cs = [] ↔ ∀ c ∈ cs, isBlank c = true := by
  induction cs with
  | nil => simp [trimEnd]
  | cons c cs ih =>
      simp only [trimEnd, List.mem_cons, forall_eq_or_imp]
      split
      · next h =>
          cases hc : isBlank c
          · simp
          · simpa using ih.1 h
      · next d ds h =>
          have : ¬ ∀ x ∈ cs, isBlank x = true := fun hall => by simp [ih.2 hall] at h
          simp [this]

theorem getLast?_trimEnd (cs : List Char) : ∀ c ∈ (trimEnd cs).getLast?, isBlank c = false := by
  induction cs with
  | nil => simp [trimEnd]
  | cons c cs ih =>
      simp only [trimEnd]
      split
      · by_cases hc : isBlank c <;> simp [hc]
      · next d ds h =>
          intro x hx
          rw [List.getLast?_cons_cons] at hx
          exact ih x (by rw [h]; exact hx)

theorem head?_trimEnd {c : Char} {cs : List Char} (hc : isBlank c = false) :
    (trimEnd (c :: cs)).head? = some c := by
  simp only [trimEnd]
  split <;> simp [hc]

theorem trimEnd_eq_self {cs : List Char} (h : ∀ c ∈ cs.getLast?, isBlank c = false) :
    trimEnd cs = cs := by
  induction cs with
  | nil => rfl
  | cons c cs ih =>
      cases cs with
      | nil => simp [trimEnd, h c (by simp)]
      | cons d ds =>
          have hd : trimEnd (d :: ds) = d :: ds :=
            ih fun x hx => h x (by rw [List.getLast?_cons_cons]; exact hx)
          rw [trimEnd, hd]

theorem isTrimmed_trim (cs : List Char) : IsTrimmed (trim cs) := by
  refine ⟨?_, getLast?_trimEnd _⟩
  unfold trim
  cases h : cs.dropWhile isBlank with
  | nil => simp [trimEnd]
  | cons c rest =>
      have hc : isBlank c = false := by
        have := List.head?_dropWhile_not isBlank cs
        simp only [h, List.head?_cons] at this
        simpa using this
      rw [head?_trimEnd hc]
      simpa using hc

theorem trim_eq_self {cs : List Char} (h : IsTrimmed cs) : trim cs = cs := by
  unfold trim
  have hdrop : cs.dropWhile isBlank = cs := by
    cases cs with
    | nil => rfl
    | cons c rest => simp [List.dropWhile, h.1 c (by simp)]
  rw [hdrop]
  exact trimEnd_eq_self h.2

theorem trim_trim (cs : List Char) : trim (trim cs) = trim cs :=
  trim_eq_self (isTrimmed_trim cs)

/-! ## What is taken away -/

/-- A text of blanks only. -/
def IsBlankRun (cs : List Char) : Prop := ∀ c ∈ cs, isBlank c = true

/-- What is left of a text when as many blanks as possible are taken away at both ends. -/
structure IsTrimOf (trimmed cs : List Char) : Prop where
  between : ∃ before after, IsBlankRun before ∧ IsBlankRun after ∧ cs = before ++ trimmed ++ after
  isTrimmed : IsTrimmed trimmed

theorem trimEnd_append_of_isBlankRun {after : List Char} (h : IsBlankRun after)
    (cs : List Char) : trimEnd (cs ++ after) = trimEnd cs := by
  induction cs with
  | nil => exact trimEnd_eq_nil_iff.2 h
  | cons c cs ih => rw [List.cons_append, trimEnd, trimEnd, ih]

theorem dropWhile_append_of_isBlankRun {before : List Char} (h : IsBlankRun before)
    (cs : List Char) : (before ++ cs).dropWhile isBlank = cs.dropWhile isBlank := by
  induction before with
  | nil => rfl
  | cons c before ih =>
      rw [List.cons_append, List.dropWhile_cons_of_pos (h c List.mem_cons_self)]
      exact ih fun d hd => h d (List.mem_cons_of_mem c hd)

/-- Blanks around a text make no difference to its trim. -/
theorem trim_padded {before after : List Char} (hbefore : IsBlankRun before)
    (hafter : IsBlankRun after) (cs : List Char) : trim (before ++ cs ++ after) = trim cs := by
  rw [trim, trim, List.append_assoc, dropWhile_append_of_isBlankRun hbefore,
    List.dropWhile_append]
  split
  · next hnone =>
      have hdropped := dropWhile_append_of_isBlankRun hafter []
      rw [List.append_nil] at hdropped
      rw [hdropped, List.isEmpty_iff.1 hnone]
      rfl
  · exact trimEnd_append_of_isBlankRun hafter _

theorem trim_eq_nil_iff {cs : List Char} : trim cs = [] ↔ IsBlankRun cs := by
  constructor
  · intro h c hc
    rw [← List.takeWhile_append_dropWhile (p := isBlank) (l := cs), List.mem_append] at hc
    rcases hc with htaken | hdropped
    · exact List.all_eq_true.1 List.all_takeWhile c htaken
    · exact trimEnd_eq_nil_iff.1 h c hdropped
  · intro h
    have hnone : IsBlankRun [] := nofun
    have hpadded := trim_padded hnone h []
    rwa [List.append_nil, List.nil_append] at hpadded

theorem exists_eq_trimEnd_append (cs : List Char) :
    ∃ after, IsBlankRun after ∧ cs = trimEnd cs ++ after := by
  induction cs with
  | nil => exact ⟨[], nofun, rfl⟩
  | cons c cs ih =>
      obtain ⟨after, hafter, hcs⟩ := ih
      rw [trimEnd]
      split
      · next hnone =>
          rw [hnone, List.nil_append] at hcs
          split
          · next hc =>
              refine ⟨c :: cs, ?_, rfl⟩
              rw [hcs]
              exact List.forall_mem_cons.2 ⟨hc, hafter⟩
          · exact ⟨cs, hcs ▸ hafter, rfl⟩
      · next d ds hsome =>
          rw [hsome] at hcs
          exact ⟨after, hafter, congrArg (c :: ·) hcs⟩

theorem isTrimOf_trim (cs : List Char) : IsTrimOf (trim cs) cs := by
  obtain ⟨after, hafter, hrest⟩ := exists_eq_trimEnd_append (cs.dropWhile isBlank)
  refine ⟨⟨cs.takeWhile isBlank, after, fun c hc => ?_, hafter, ?_⟩, isTrimmed_trim cs⟩
  · exact List.all_eq_true.1 List.all_takeWhile c hc
  · calc
      cs = cs.takeWhile isBlank ++ cs.dropWhile isBlank := List.takeWhile_append_dropWhile.symm
      _ = cs.takeWhile isBlank ++ (trim cs ++ after) := congrArg _ hrest
      _ = cs.takeWhile isBlank ++ trim cs ++ after := (List.append_assoc _ _ _).symm

/-- **What trimming is.** -/
theorem trim_eq_iff {cs trimmed : List Char} : trim cs = trimmed ↔ IsTrimOf trimmed cs := by
  constructor
  · rintro rfl
    exact isTrimOf_trim cs
  · rintro ⟨⟨before, after, hbefore, hafter, rfl⟩, htrimmed⟩
    rw [trim_padded hbefore hafter, trim_eq_self htrimmed]

end IsolationGate.Text
