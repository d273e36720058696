import IsolationGate.Proofs.TomlText
import IsolationGate.Toml.Reader

/-!
# Values of a configuration file are read back

A value that is written is a truth value, a number from zero, a text, or a list of these. What
follows a value ends it: a line end, a comma or a bracket. A number is no moment, because neither a
dash nor a colon follows its digits.

## Main results

* `readNumber_toDecimal`, `readMoment_toDecimal` — a number is read back, and is no moment.
* `readScalar_writeScalar` — so is every value that is no list.
* `readItems_lines` — the items of a list, by induction on them.
* `readValue_writeValue` — every value that is written.
-/

namespace IsolationGate.Toml

/-! ## Space between tokens -/

/-- A character that starts a token. -/
structure IsSolid (c : Char) : Prop where
  blank : isBlank c = false
  comment : c ≠ '#'
  line : c ≠ '\n' ∧ c ≠ '\r'

theorem skipBlanks_solid {c : Char} (h : IsSolid c) (blanks : List Char)
    (hblanks : blanks.all isBlank = true) (rest : List Char) :
    skipBlanks (blanks ++ c :: rest) = c :: rest := by
  rw [skipBlanks, List.dropWhile_append_of_pos (List.all_eq_true.1 hblanks),
    List.dropWhile_cons_of_neg (by simp [h.blank])]

/-- Blanks before a token are skipped, and nothing else. -/
theorem skipLines_solid {c : Char} (h : IsSolid c) (blanks : List Char)
    (hblanks : blanks.all isBlank = true) (rest : List Char) :
    skipLines (blanks ++ c :: rest) = some (c :: rest) := by
  rw [skipLines, skipSpace, skipBlanks_solid h blanks hblanks]
  split
  · next heq => exact absurd (List.cons.inj heq).1 h.comment
  · rw [newline?_cons h.line.1 h.line.2]

theorem skipLines_cons {c : Char} (h : IsSolid c) (rest : List Char) :
    skipLines (c :: rest) = some (c :: rest) :=
  skipLines_solid h [] rfl rest

/-- A line end is skipped. -/
theorem skipLines_line (rest : List Char) : skipLines ('\n' :: rest) = skipLines rest := rfl

/-- A character that ends a value. -/
def endMarks : List Char := ['\n', ',', ']']

/-! ## Numbers -/

variable {t : Char} {rest : List Char}

theorem not_isDecimal_of_mem_endMarks (h : t ∈ endMarks) :
    Number.isDecimal t = false ∧ Number.digitValue? 10 t = none := by
  simp only [endMarks, List.mem_cons, List.not_mem_nil, or_false] at h
  rcases h with rfl | rfl | rfl <;> decide

theorem isRun_of_forall {cs : List Char} (hne : cs ≠ []) (h : ∀ c ∈ cs, c ≠ '_') :
    isRun cs = true := by
  fun_induction isRun cs with
  | case1 => exact absurd rfl hne
  | case2 => exact absurd rfl (h '_' List.mem_cons_self)
  | case3 => exact absurd rfl (h '_' List.mem_cons_self)
  | case4 => rfl
  | case5 c rest' hc ih => exact absurd rfl (h '_' (by simp))
  | case6 c d rest' hc hd ih =>
      exact ih (List.cons_ne_nil d rest') fun x hx => h x (List.mem_cons_of_mem c hx)

/-- The digits of a number are one run. -/
theorem readRun_toDecimal (ht : t ∈ endMarks) (n : Nat) :
    readRun 10 (Number.toDecimal n ++ t :: rest) = some (Number.toDecimal n, t :: rest) := by
  have hdigit : ∀ c ∈ Number.toDecimal n, Number.digitValue? 10 c = some (c.toNat - 48) :=
    fun c hc => Number.digitValue?_of_isDecimal (Number.isDecimal_of_mem_toDecimal hc)
  have hunder : ∀ c ∈ Number.toDecimal n, c ≠ '_' := by
    rintro c hc rfl
    have hnone := hdigit '_' hc
    revert hnone
    decide
  have hpart : ∀ c ∈ Number.toDecimal n,
      (decide (c = '_') || (Number.digitValue? 10 c).isSome) = true := by
    intro c hc
    rw [hdigit c hc]
    simp
  have hend : (decide (t = '_') || (Number.digitValue? 10 t).isSome) ≠ true := by
    simp only [endMarks, List.mem_cons, List.not_mem_nil, or_false] at ht
    rcases ht with rfl | rfl | rfl <;> decide
  have htake : (Number.toDecimal n ++ t :: rest).takeWhile
      (fun c => c = '_' || (Number.digitValue? 10 c).isSome) = Number.toDecimal n :=
    (List.takeWhile_append_of_pos hpart).trans (by
      rw [List.takeWhile_cons_of_neg (p := fun c => c = '_' || (Number.digitValue? 10 c).isSome)
        hend, List.append_nil])
  have hdrop : (Number.toDecimal n ++ t :: rest).dropWhile
      (fun c => c = '_' || (Number.digitValue? 10 c).isSome) = t :: rest :=
    (List.dropWhile_append_of_pos hpart).trans
      (List.dropWhile_cons_of_neg (p := fun c => c = '_' || (Number.digitValue? 10 c).isSome) hend)
  have hfilter : (Number.toDecimal n).filter (· ≠ '_') = Number.toDecimal n :=
    List.filter_eq_self.2 fun c hc => decide_eq_true (hunder c hc)
  rw [readRun]
  simp only [htake, hdrop, isRun_of_forall (Number.toDecimal_ne_nil n) hunder, hfilter, if_true]

theorem integer?_natCast {n : Nat} (h : n < Nat.pow 2 63) :
    integer? n = some (.integer n) := by
  rw [integer?]
  generalize Nat.pow 2 63 = bound at h ⊢
  rw [if_pos (by omega)]

/-- What ends a value starts neither a fraction nor an exponent. -/
theorem readFraction_end (ht : t ∈ endMarks) (rest : List Char) :
    readFraction (t :: rest) = some ([], t :: rest) ∧
      readExponent (t :: rest) = some (none, t :: rest) := by
  simp only [endMarks, List.mem_cons, List.not_mem_nil, or_false] at ht
  rcases ht with rfl | rfl | rfl <;> exact ⟨rfl, rfl⟩

/-- A number from zero. -/
theorem readDecimal_toDecimal (ht : t ∈ endMarks) {n : Nat} (hn : n < Nat.pow 2 63) :
    readDecimal false (Number.toDecimal n ++ t :: rest) = some (.integer n, t :: rest) := by
  have hzero : ¬ ((Number.toDecimal n).head? = some '0' ∧ 1 < (Number.toDecimal n).length) := by
    rintro ⟨hhead, hlength⟩
    rw [Number.eq_zero_of_head?_toDecimal hhead] at hlength
    revert hlength
    decide
  obtain ⟨hfraction, hexponent⟩ := readFraction_end ht rest
  have hplain : ¬ (([] : List Char) ≠ [] ∨ (none : Option Int).isSome = true) := by simp
  rw [readDecimal, readRun_toDecimal ht]
  simp only [Option.bind_eq_bind, Option.bind_some, if_neg hzero, hfraction, hexponent,
    List.append_nil, Number.ofDigits_toDecimal, if_neg hplain, Bool.false_eq_true, if_false,
    integer?_natCast hn]

theorem ne_of_isDecimal {c x : Char} (h : Number.isDecimal c = true)
    (hx : Number.isDecimal x = false) : c ≠ x := by
  rintro rfl
  rw [hx] at h
  cases h

/-- The first digit of a number. -/
theorem exists_cons_toDecimal (n : Nat) :
    ∃ c cs, Number.toDecimal n = c :: cs ∧ Number.isDecimal c = true := by
  obtain ⟨c, cs, hcs⟩ := List.exists_cons_of_ne_nil (Number.toDecimal_ne_nil n)
  exact ⟨c, cs, hcs, Number.isDecimal_of_mem_toDecimal (hcs ▸ List.mem_cons_self)⟩

/-- A number starts with a digit. -/
theorem toDecimal_append_ne {n : Nat} {x : Char} (hx : Number.isDecimal x = false)
    (more : List Char) : Number.toDecimal n ++ rest ≠ x :: more := by
  obtain ⟨c, cs, hcs, hdigit⟩ := exists_cons_toDecimal n
  rw [hcs]
  exact fun heq => ne_of_isDecimal hdigit hx (List.cons.inj heq).1

/-- A zero at the start is the whole number. -/
theorem second_of_zero {n : Nat} {x : Char} {more : List Char}
    (h : Number.toDecimal n ++ t :: rest = '0' :: x :: more) : x = t := by
  obtain ⟨c, cs, hcs, -⟩ := exists_cons_toDecimal n
  have hhead : (Number.toDecimal n).head? = some '0' := by
    rw [hcs] at h ⊢
    exact congrArg some (List.cons.inj h).1
  rw [Number.eq_zero_of_head?_toDecimal hhead] at h
  exact (List.cons.inj (List.cons.inj h).2).1.symm

/-- **A number is read back.** -/
theorem readNumber_toDecimal (ht : t ∈ endMarks) {n : Nat} (hn : n < Nat.pow 2 63) :
    readNumber (Number.toDecimal n ++ t :: rest) = some (.integer n, t :: rest) := by
  have hmark : ∀ x ∈ ['x', 'o', 'b'], ∀ more,
      Number.toDecimal n ++ t :: rest ≠ '0' :: x :: more := by
    intro x hx more heq
    rw [second_of_zero heq] at hx
    simp only [endMarks, List.mem_cons, List.not_mem_nil, or_false] at ht
    rcases ht with rfl | rfl | rfl <;> revert hx <;> decide
  have hsign : readSign (Number.toDecimal n ++ t :: rest) =
      (false, Number.toDecimal n ++ t :: rest) := by
    unfold readSign
    split
    · next heq => exact absurd heq (toDecimal_append_ne (by decide) _)
    · next heq => exact absurd heq (toDecimal_append_ne (by decide) _)
    · rfl
  have hsigned : readSigned false (Number.toDecimal n ++ t :: rest) =
      readDecimal false (Number.toDecimal n ++ t :: rest) := by
    unfold readSigned
    split
    · next heq => exact absurd heq (toDecimal_append_ne (by decide) _)
    · next heq => exact absurd heq (toDecimal_append_ne (by decide) _)
    · rfl
  unfold readNumber
  split
  · next heq => exact absurd heq (hmark 'x' (by decide) _)
  · next heq => exact absurd heq (hmark 'o' (by decide) _)
  · next heq => exact absurd heq (hmark 'b' (by decide) _)
  · rw [hsign]
    exact hsigned.trans (readDecimal_toDecimal ht hn)

/-- Behind a row of digits of a number comes a digit or its end. -/
theorem head?_of_readFixed {width value n : Nat} {after : List Char} (ht : t ∈ endMarks)
    (h : readFixed width (Number.toDecimal n ++ t :: rest) = some (value, after)) {x : Char}
    (hx : after.head? = some x) : Number.isDecimal x = true ∨ x = t := by
  unfold readFixed at h
  dsimp only at h
  split at h
  · cases h
  · next hlength =>
      obtain ⟨m, hm, heq⟩ := Option.map_eq_some_iff.1 h
      have hafter : after = (Number.toDecimal n ++ t :: rest).drop width :=
        (congrArg Prod.snd heq).symm
      have hall : ∀ c ∈ (Number.toDecimal n ++ t :: rest).take width,
          (Number.digitValue? 10 c).isSome = true := by
        rw [Number.ofDecimal?, Number.ofNumeral?] at hm
        split at hm
        · next hcs => exact List.all_eq_true.1 hcs.2
        · cases hm
      -- The end of the number is no digit, so all of the row is in the number.
      have hle : width ≤ (Number.toDecimal n).length := by
        refine Nat.le_of_not_lt fun hlt => ?_
        have hmem : t ∈ (Number.toDecimal n ++ t :: rest).take width := by
          rw [List.take_append]
          have hpos : width - (Number.toDecimal n).length =
              (width - (Number.toDecimal n).length - 1) + 1 := by omega
          rw [hpos, List.take_succ_cons]
          exact List.mem_append_right _ List.mem_cons_self
        have hdigit := hall t hmem
        rw [(not_isDecimal_of_mem_endMarks ht).2] at hdigit
        cases hdigit
      rw [hafter, List.drop_append_of_le_length hle] at hx
      cases hdrop : (Number.toDecimal n).drop width with
      | nil =>
          rw [hdrop] at hx
          exact .inr (Option.some.inj hx).symm
      | cons d ds =>
          rw [hdrop] at hx
          have hd : d = x := Option.some.inj hx
          refine .inl (Number.isDecimal_of_mem_toDecimal (n := n) ?_)
          exact List.mem_of_mem_drop (hd ▸ hdrop ▸ List.mem_cons_self)

/-- **A number is no moment.** -/
theorem readMoment_toDecimal (ht : t ∈ endMarks) (n : Nat) :
    readMoment (Number.toDecimal n ++ t :: rest) = .absent := by
  have hdash : ¬ (Number.isDecimal '-' = true ∨ '-' = t) := by
    simp only [endMarks, List.mem_cons, List.not_mem_nil, or_false] at ht
    rcases ht with rfl | rfl | rfl <;> decide
  have hcolon : ¬ (Number.isDecimal ':' = true ∨ ':' = t) := by
    simp only [endMarks, List.mem_cons, List.not_mem_nil, or_false] at ht
    rcases ht with rfl | rfl | rfl <;> decide
  have htime : readTime (Number.toDecimal n ++ t :: rest) = .absent := by
    unfold readTime
    split
    · next value after htwo =>
        obtain ⟨⟨m, more⟩, hfixed, hbounds⟩ := Option.bind_eq_some_iff.1 htwo
        have hmore : more = ':' :: after := by
          dsimp only at hbounds
          split at hbounds
          · exact congrArg Prod.snd (Option.some.inj hbounds)
          · cases hbounds
        exact absurd (head?_of_readFixed ht hfixed (hmore ▸ rfl)) hcolon
    · rfl
  unfold readMoment
  split
  · next year after hfixed => exact absurd (head?_of_readFixed ht hfixed rfl) hdash
  · exact htime

/-! ## Values that are no lists -/

/-- A truth value, a text, or a number from zero that a configuration file can hold. -/
def IsScalar : Datum → Prop
  | .boolean _ | .text _ => True
  | .integer n => ∃ m : Nat, n = m ∧ m < Nat.pow 2 63
  | _ => False

theorem exists_cons_writeText (cs : List Char) :
    ∃ q more, writeText cs = q :: more ∧ (q = '\x22' ∨ q = '\x27') := by
  unfold writeText
  cases TextForm.of cs with
  | basic | longBasic => exact ⟨_, _, rfl, .inl rfl⟩
  | literal | longLiteral => exact ⟨_, _, rfl, .inr rfl⟩

theorem isSolid_of_isDecimal {c : Char} (h : Number.isDecimal c = true) : IsSolid c where
  blank := by
    have hspace : c ≠ ' ' := ne_of_isDecimal h (by decide)
    have htab : c ≠ '\t' := ne_of_isDecimal h (by decide)
    simp [isBlank, hspace, htab]
  comment := ne_of_isDecimal h (by decide)
  line := ⟨ne_of_isDecimal h (by decide), ne_of_isDecimal h (by decide)⟩

/-- A value that is no list starts with a character that no bracket is. -/
theorem exists_cons_writeScalar {d : Datum} (h : IsScalar d) :
    ∃ c cs, writeScalar d = c :: cs ∧ IsSolid c ∧ c ≠ '[' ∧ c ≠ ']' ∧ c ≠ '\x7b' := by
  cases d with
  | boolean b =>
      cases b
      · exact ⟨'f', _, rfl, ⟨by decide, by decide, by decide⟩, by decide⟩
      · exact ⟨'t', _, rfl, ⟨by decide, by decide, by decide⟩, by decide⟩
  | text s =>
      obtain ⟨q, more, hq, rfl | rfl⟩ := exists_cons_writeText s.toList
      · exact ⟨_, more, hq, ⟨by decide, by decide, by decide⟩, by decide⟩
      · exact ⟨_, more, hq, ⟨by decide, by decide, by decide⟩, by decide⟩
  | integer n =>
      obtain ⟨m, rfl, -⟩ := h
      obtain ⟨c, cs, hcs, hdigit⟩ := exists_cons_toDecimal m
      exact ⟨c, cs, hcs, isSolid_of_isDecimal hdigit, ne_of_isDecimal hdigit (by decide),
        ne_of_isDecimal hdigit (by decide), ne_of_isDecimal hdigit (by decide)⟩
  | null | real | moment | list | tables | record => exact h.elim

/-- **A value that is no list is read back.** -/
theorem readScalar_writeScalar (ht : t ∈ endMarks) {d : Datum} (h : IsScalar d)
    (rest : List Char) :
    readScalar (writeScalar d ++ t :: rest) = some (d, t :: rest) := by
  cases d with
  | boolean b => cases b <;> rfl
  | text s =>
      have hne : ∀ q, q ∉ endMarks → (t :: rest).head? ≠ some q := by
        rintro q hq heq
        exact hq (Option.some.inj heq ▸ ht)
      have hread := readText_writeText s.toList (hne '\x22' (by decide)) (hne '\x27' (by decide))
      rw [String.ofList_toList] at hread
      obtain ⟨q, more, hq, hquote⟩ := exists_cons_writeText s.toList
      show readScalar (writeText s.toList ++ t :: rest) = _
      rw [hq, List.cons_append] at hread ⊢
      have hscalar : ∀ cs, readScalar (q :: cs) = (readText (q :: cs)).map fun p =>
          (.text p.1, p.2) := by
        rcases hquote with rfl | rfl <;> exact fun _ => rfl
      rw [hscalar, hread]
      rfl
  | integer n =>
      obtain ⟨m, rfl, hm⟩ := h
      show readScalar (Number.toDecimal m ++ t :: rest) = _
      unfold readScalar
      split
      · next heq => exact absurd heq (toDecimal_append_ne (by decide) _)
      · next heq => exact absurd heq (toDecimal_append_ne (by decide) _)
      · next c more _ _ heq =>
          have hquote : ¬ (c = '\x22' ∨ c = '\x27') := by
            rintro (rfl | rfl) <;> exact absurd heq (toDecimal_append_ne (by decide) _)
          rw [if_neg hquote, readMoment_toDecimal ht]
          exact readNumber_toDecimal ht hm
      · next heq =>
          obtain ⟨c, cs, hcs, -⟩ := exists_cons_toDecimal m
          rw [hcs] at heq
          cases heq
  | null | real | moment | list | tables | record => exact h.elim

theorem readValue_writeScalar (ht : t ∈ endMarks) {d : Datum} (h : IsScalar d)
    (rest : List Char) (fuel depth : Nat) :
    readValue (fuel + 1) depth (writeScalar d ++ t :: rest) = some (d, t :: rest) := by
  have hread := readScalar_writeScalar ht h rest
  obtain ⟨c, cs, hcs, -, hbracket, -, hbrace⟩ := exists_cons_writeScalar h
  rw [hcs, List.cons_append] at hread ⊢
  rw [← hread]
  unfold readValue
  split
  · next heq => exact absurd (List.cons.inj heq).1 hbracket
  · next heq => exact absurd (List.cons.inj heq).1 hbrace
  · next heq => exact absurd (List.cons.inj heq).1 hbracket
  · next heq => exact absurd (List.cons.inj heq).1 hbrace
  · rfl

/-! ## Lists -/

/-- A value that can be written behind a key. -/
def IsPlain : Datum → Prop
  | .list items => ∀ item ∈ items, IsScalar item
  | other => IsScalar other

/-- The items of a list, each on its line, and the bracket behind them. -/
def itemLines (items : List Datum) (rest : List Char) : List Char :=
  items.flatMap (fun item => "    ".toList ++ writeScalar item ++ [',', '\n']) ++ ']' :: rest

theorem itemLines_cons (item : Datum) (items : List Datum) (rest : List Char) :
    itemLines (item :: items) rest =
      "    ".toList ++ (writeScalar item ++ ',' :: '\n' :: itemLines items rest) := by
  simp [itemLines]

/-- The items of a list are read one after the other. -/
theorem readItems_cons {fuel depth : Nat} {item : Datum} (h : IsScalar item) {rest : List Char} :
    readItems (fuel + 2) depth (writeScalar item ++ ',' :: rest) =
      (skipLines rest).bind fun more =>
        (readItems (fuel + 1) depth more).map fun p => (item :: p.1, p.2) := by
  have hread := readValue_writeScalar (t := ',') (by decide) h rest fuel depth
  have hcomma : skipLines (',' :: rest) = some (',' :: rest) :=
    skipLines_cons ⟨by decide, by decide, by decide⟩ rest
  obtain ⟨c, cs, hcs, -, -, hbracket, -⟩ := exists_cons_writeScalar h
  rw [hcs, List.cons_append] at hread ⊢
  rw [readItems]
  · simp only [hread, Option.bind_eq_bind, Option.bind_some, hcomma]
    cases skipLines rest with
    | none => rfl
    | some more =>
        dsimp only [Option.bind_some]
        cases readItems (fuel + 1) depth more <;> rfl
  · exact fun after heq => hbracket (List.cons.inj heq).1

/-- The last item of a list may have no comma behind it. -/
theorem readItems_last {fuel depth : Nat} {item : Datum} (h : IsScalar item) {rest : List Char} :
    readItems (fuel + 2) depth (writeScalar item ++ ']' :: rest) = some ([item], rest) := by
  have hread := readValue_writeScalar (t := ']') (by decide) h rest fuel depth
  have hclose : skipLines (']' :: rest) = some (']' :: rest) :=
    skipLines_cons ⟨by decide, by decide, by decide⟩ rest
  obtain ⟨c, cs, hcs, -, -, hbracket, -⟩ := exists_cons_writeScalar h
  rw [hcs, List.cons_append] at hread ⊢
  rw [readItems]
  · simp only [hread, Option.bind_eq_bind, Option.bind_some, hclose]
  · exact fun after heq => hbracket (List.cons.inj heq).1

/-- **The items of a list are read back**, by induction on them. -/
theorem readItems_lines {items : List Datum} (h : ∀ item ∈ items, IsScalar item)
    (rest : List Char) {fuel : Nat} (hfuel : items.length < fuel) (depth : Nat) :
    ((skipLines (itemLines items rest)).bind fun more => readItems fuel depth more) =
      some (items, rest) := by
  induction items generalizing fuel with
  | nil =>
      have hclose : skipLines (itemLines [] rest) = some (']' :: rest) :=
        skipLines_cons ⟨by decide, by decide, by decide⟩ rest
      obtain ⟨fuel, rfl⟩ := Nat.exists_eq_add_of_lt hfuel
      rw [hclose, Option.bind_some, List.length_nil, Nat.zero_add, readItems]
  | cons item items ih =>
      have hitem := h item List.mem_cons_self
      obtain ⟨c, cs, hcs, hsolid, -⟩ := exists_cons_writeScalar hitem
      have hskip : skipLines (itemLines (item :: items) rest) =
          some (writeScalar item ++ ',' :: '\n' :: itemLines items rest) := by
        rw [itemLines_cons, hcs]
        exact skipLines_solid hsolid "    ".toList (by decide) _
      rw [List.length_cons] at hfuel
      obtain ⟨fuel, rfl⟩ : ∃ more, fuel = more + 2 := ⟨fuel - 2, by omega⟩
      rw [hskip, Option.bind_some, readItems_cons hitem, skipLines_line]
      have hmore : items.length < fuel + 1 := by omega
      have hmore := ih (fun other hother => h other (List.mem_cons_of_mem item hother)) hmore
      obtain ⟨more, hskipped, hread⟩ := Option.bind_eq_some_iff.1 hmore
      rw [hskipped, Option.bind_some, hread]
      rfl

theorem readValue_bracket (fuel depth : Nat) (cs : List Char) :
    readValue (fuel + 1) (depth + 1) ('[' :: cs) =
      ((skipLines cs).bind fun more => readItems fuel depth more).map fun p =>
        (.list p.1, p.2) := by
  rw [readValue]
  cases skipLines cs with
  | none => rfl
  | some more =>
      simp only [Option.bind_eq_bind, Option.bind_some]
      cases readItems fuel depth more <;> rfl

theorem length_itemLines (items : List Datum) (rest : List Char) :
    items.length + rest.length < (itemLines items rest).length := by
  induction items with
  | nil => simp [itemLines]
  | cons item items ih =>
      rw [itemLines_cons]
      simp only [List.length_append, List.length_cons]
      omega

/-- **Every value behind a key is read back.** -/
theorem readValue_writeValue (ht : t ∈ endMarks) {d : Datum} (h : IsPlain d)
    (rest : List Char) {fuel : Nat} (hfuel : (writeValue d).length ≤ fuel) (depth : Nat) :
    readValue fuel (depth + 1) (writeValue d ++ t :: rest) = some (d, t :: rest) := by
  have hscalar : ∀ d, IsScalar d → (writeScalar d).length ≤ fuel →
      readValue fuel (depth + 1) (writeScalar d ++ t :: rest) = some (d, t :: rest) := by
    intro d hd hlength
    obtain ⟨c, cs, hcs, -⟩ := exists_cons_writeScalar hd
    rw [hcs, List.length_cons] at hlength
    obtain ⟨fuel, rfl⟩ : ∃ more, fuel = more + 1 := ⟨fuel - 1, by omega⟩
    exact readValue_writeScalar ht hd rest fuel (depth + 1)
  cases d with
  | list items =>
      have hitems : ∀ item ∈ items, IsScalar item := h
      match items, hitems with
      | [], _ =>
          obtain ⟨fuel, rfl⟩ : ∃ more, fuel = more + 2 := ⟨fuel - 2, by
            have hlength : 2 ≤ fuel := hfuel
            omega⟩
          rfl
      | [item], hitems =>
          have hitem := hitems item List.mem_cons_self
          obtain ⟨c, cs, hcs, hsolid, -⟩ := exists_cons_writeScalar hitem
          have hlength : (writeScalar item).length + 2 ≤ fuel := by
            simp only [writeValue, writeList, List.length_cons, List.length_append,
              List.length_nil] at hfuel
            omega
          rw [hcs, List.length_cons] at hlength
          obtain ⟨fuel, rfl⟩ : ∃ more, fuel = more + 2 + 1 := ⟨fuel - 3, by omega⟩
          have hskip : skipLines (writeScalar item ++ ']' :: t :: rest) =
              some (writeScalar item ++ ']' :: t :: rest) := by
            rw [hcs]
            exact skipLines_cons hsolid _
          have hwrite : writeValue (.list [item]) ++ t :: rest =
              '[' :: (writeScalar item ++ ']' :: t :: rest) := by
            simp [writeValue, writeList]
          rw [hwrite, readValue_bracket, hskip, Option.bind_some, readItems_last hitem]
          rfl
      | first :: second :: items, hitems =>
          have hwrite : writeValue (.list (first :: second :: items)) ++ t :: rest =
              '[' :: '\n' :: itemLines (first :: second :: items) (t :: rest) := by
            simp [writeValue, writeList, itemLines]
          have hlength := length_itemLines (first :: second :: items) (t :: rest)
          have hsum := congrArg List.length hwrite
          simp only [List.length_append, List.length_cons] at hsum hlength
          obtain ⟨fuel, rfl⟩ : ∃ more, fuel = more + 1 := ⟨fuel - 1, by omega⟩
          rw [hwrite, readValue_bracket, skipLines_line, readItems_lines hitems]
          · rfl
          · simp only [List.length_cons]
            omega
  | boolean b => exact hscalar (.boolean b) h hfuel
  | text s => exact hscalar (.text s) h hfuel
  | integer n => exact hscalar (.integer n) h hfuel
  | null | real | moment | tables | record => exact h.elim

end IsolationGate.Toml
