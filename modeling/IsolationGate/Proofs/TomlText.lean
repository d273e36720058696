import IsolationGate.Toml.Quote
import IsolationGate.Toml.Writer

/-!
# Texts of a configuration file are read back

A text is written in one of four forms. Between its quotes it is a row of pieces, each of which
stands for one character, and in the long forms up to two quotes may stand between the pieces.
`IsBody` describes such rows, with the number of quotes before the next piece. Every form writes
one, and the reader gives back the text of every one.

## Main results

* `isPiece_escapeChar` — an escape stands for its character.
* `IsBody.readQuoted_long`, `IsBody.readQuoted_short` — reading a row of pieces, by induction on it.
* `isBody_escapeText`, `isBody_self` — the rows that are written.
* `readText_writeText` — a text is read back whatever follows it, as long as that is no quote.
-/

namespace IsolationGate.Toml

variable {style : QuoteStyle} {c : Char} {cs body : List Char}

/-! ## Pieces -/

/-- A piece of a quoted text that stands for one character and does not start with a quote. -/
structure IsPiece (style : QuoteStyle) (piece : List Char) (c : Char) : Prop where
  start : ∃ d rest, piece = d :: rest ∧ d ≠ style.mark
  read : ∀ fuel after, readQuoted style (fuel + 1) (piece ++ after) =
    (readQuoted style fuel after).map fun p => (c :: p.1, p.2)
  /-- Only a line end starts with one. -/
  line : c ≠ '\n' → ∀ after, newline? (piece ++ after) = none

theorem newline?_cons (hn : c ≠ '\n') (hr : c ≠ '\r') (rest : List Char) :
    newline? (c :: rest) = none := by
  unfold newline?
  split
  · next heq => exact absurd (List.cons.inj heq).1 hn
  · next heq => exact absurd (List.cons.inj heq).1 hr
  · rfl

theorem newline?_of_isTextChar (htext : isTextChar c = true) (rest : List Char) :
    newline? (c :: rest) = none := by
  refine newline?_cons ?_ ?_ rest
  · rintro rfl
    revert htext
    decide
  · rintro rfl
    revert htext
    decide

/-- A character that is written as it is. -/
theorem isPiece_char (hmark : c ≠ style.mark) (hescape : c = '\\' → style.escapes = false)
    (htext : isTextChar c = true) : IsPiece style [c] c where
  start := ⟨c, [], rfl, hmark⟩
  read := by
    intro fuel after
    have hplain : (c = '\\' && style.escapes) = false := by
      by_cases hc : c = '\\'
      · rw [hescape hc, Bool.and_false]
      · simp [hc]
    have hline := newline?_of_isTextChar htext after
    rw [List.singleton_append, readQuoted]
    simp only [hmark, hplain, hline, htext, if_true, if_false, ite_self, Bool.false_eq_true]
    rfl
  line := fun _ after => newline?_of_isTextChar htext after

/-- A character that needs no escape may stand in a text, if it is no line end. -/
theorem isTextChar_of_not_isEscapedControl (hline : c ≠ '\n') (h : isEscapedControl c = false) :
    isTextChar c = true := by
  simp only [isEscapedControl, Bool.or_eq_false_iff, Bool.and_eq_false_imp, Bool.and_eq_true,
    decide_eq_true_eq, decide_eq_false_iff_not, bne_iff_ne, bne_eq_false_iff_eq] at h
  simp only [isTextChar, Bool.or_eq_true, Bool.and_eq_true, decide_eq_true_eq, bne_iff_ne]
  by_cases htab : c = '\t'
  · exact .inl htab
  · exact .inr ⟨Nat.le_of_not_lt fun hlow => hline (h.1 ⟨hlow, htab⟩), h.2⟩

/-- A line end in a long text. -/
theorem isPiece_newline (hlong : style.long = true) (hmark : style.mark ≠ '\n') :
    IsPiece style ['\n'] '\n' where
  start := ⟨'\n', [], rfl, hmark.symm⟩
  read := by
    intro fuel after
    have hplain : ('\n' = '\\' && style.escapes) = false := by simp
    rw [List.singleton_append, readQuoted]
    simp only [hmark.symm, hplain, hlong, if_true, if_false, newline?, Bool.false_eq_true]
    rfl
  line := fun hne => absurd rfl hne

/-- An escape, which starts with neither a blank nor a line end. -/
theorem isPiece_escape {long : Bool} {first : Char} {sequence : List Char}
    (hfirst : isBlank first = false ∧ first ≠ '\n' ∧ first ≠ '\r')
    (hread : ∀ after, readEscape (first :: sequence ++ after) = some (c, after)) :
    IsPiece ⟨'\x22', long⟩ ('\\' :: first :: sequence) c where
  start := ⟨'\\', _, rfl, show '\\' ≠ '\x22' by decide⟩
  read := by
    intro fuel after
    have hescapes : (QuoteStyle.mk '\x22' long).escapes = true := rfl
    have hskip : skipBlanks (first :: sequence ++ after) = first :: sequence ++ after := by
      rw [skipBlanks, List.cons_append, List.dropWhile_cons_of_neg (by simp [hfirst.1])]
    have hline : newline? (first :: sequence ++ after) = none :=
      newline?_cons hfirst.2.1 hfirst.2.2 _
    rw [List.cons_append, readQuoted]
    simp only [show ('\\' : Char) ≠ '\x22' by decide, hescapes, hskip, hline, hread, if_false,
      ite_self]
    rfl
  line := fun _ after => newline?_cons (by decide) (by decide) (first :: sequence ++ after)

/-- A control character is written by four digits, which have its code for their value. -/
theorem readCodePoint_padLeft {n : Nat} (h : n < 0x80) (after : List Char) :
    readCodePoint 4 (Number.padLeft 4 (Number.toHexCapital n) ++ after) =
      some (Char.ofNat n, after) := by
  have hall : ∀ m < 0x80, (Number.padLeft 4 (Number.toHexCapital m)).length = 4 ∧
      Number.ofNumeral? 16 (Number.padLeft 4 (Number.toHexCapital m)) = some m := by
    decide +kernel
  obtain ⟨hlength, hvalue⟩ := hall n h
  have hvalid : n.isValidChar := Or.inl (by omega)
  rw [readCodePoint]
  simp only [List.take_left' hlength, List.drop_left' hlength, hlength, hvalue, hvalid,
    Nat.lt_irrefl, if_true, if_false]

/-- **An escape stands for its character.** A line end is none in a long text. -/
theorem isPiece_escapeChar (long : Bool) (c : Char) :
    IsPiece ⟨'\x22', long⟩ (escapeChar long c) c := by
  by_cases hletter : c ∈ ['\x08', '\t', '\x0c', '\r', '\x22', '\\']
  · simp only [List.mem_cons, List.not_mem_nil, or_false] at hletter
    rcases hletter with rfl | rfl | rfl | rfl | rfl | rfl
    all_goals exact isPiece_escape (by decide) fun _ => rfl
  · simp only [List.mem_cons, List.not_mem_nil, or_false, not_or] at hletter
    obtain ⟨hb, ht, hf, hr, hquote, hslash⟩ := hletter
    by_cases hline : c = '\n'
    · subst hline
      cases long with
      | true => exact isPiece_newline rfl (by decide)
      | false => exact isPiece_escape (by decide) fun _ => rfl
    · by_cases hcontrol : isEscapedControl c = true
      · have hescape : escapeChar long c =
            '\\' :: 'u' :: Number.padLeft 4 (Number.toHexCapital c.toNat) := by
          simp [escapeChar, hb, ht, hline, hf, hr, hquote, hslash, hcontrol]
        have hcode : c.toNat < 0x80 := by
          simp only [isEscapedControl, Bool.or_eq_true, Bool.and_eq_true, decide_eq_true_eq]
            at hcontrol
          omega
        rw [hescape]
        refine isPiece_escape (by decide) fun after => ?_
        show readCodePoint 4 (_ ++ after) = _
        rw [readCodePoint_padLeft hcode, Char.ofNat_toNat]
      · have hescape : escapeChar long c = [c] := by
          simp [escapeChar, hb, ht, hline, hf, hr, hquote, hslash, hcontrol]
        rw [hescape]
        exact isPiece_char hquote (fun h => absurd h hslash)
          (isTextChar_of_not_isEscapedControl hline (Bool.eq_false_iff.2 hcontrol))

/-! ## Rows of pieces -/

/-- What stands for a text behind so many quotes: pieces for its characters, and in the long forms
quotes that stand for themselves, at most two of them in a row. -/
inductive IsBody (style : QuoteStyle) : Nat → List Char → List Char → Prop where
  | nil (quotes : Nat) : IsBody style quotes [] []
  | mark {quotes : Nat} {cs body : List Char} (hlong : style.long = true) (hquotes : quotes < 2)
      (h : IsBody style (quotes + 1) cs body) :
      IsBody style quotes (style.mark :: cs) (style.mark :: body)
  | piece {quotes : Nat} {c : Char} {piece cs body : List Char} (hpiece : IsPiece style piece c)
      (h : IsBody style 0 cs body) : IsBody style quotes (c :: cs) (piece ++ body)

theorem IsPiece.length_pos {piece : List Char} (h : IsPiece style piece c) : 0 < piece.length := by
  obtain ⟨d, rest, rfl, -⟩ := h.start
  exact Nat.succ_pos _

/-- A row within one line is read up to the quote after it. -/
theorem IsBody.readQuoted_short {mark : Char} {quotes : Nat}
    (h : IsBody ⟨mark, false⟩ quotes cs body) (rest : List Char) {fuel : Nat}
    (hfuel : body.length < fuel) :
    readQuoted ⟨mark, false⟩ fuel (body ++ mark :: rest) = some (cs, rest) := by
  induction h generalizing fuel with
  | nil =>
      obtain ⟨fuel, rfl⟩ := Nat.exists_eq_add_of_lt hfuel
      rw [List.nil_append, readQuoted]
      simp
  | mark hlong => cases hlong
  | piece hpiece _ ih =>
      have hpos := hpiece.length_pos
      rw [List.length_append] at hfuel
      cases fuel with
      | zero => omega
      | succ fuel =>
          rw [List.append_assoc, hpiece.read, ih (by omega)]
          rfl

/-- A run of quotes is read at once: it belongs to the text, or it ends it. -/
theorem readQuoted_run {mark : Char} {rest : List Char} (hrest : rest.head? ≠ some mark)
    (quotes fuel : Nat) :
    readQuoted ⟨mark, true⟩ (fuel + 1) (List.replicate (quotes + 1) mark ++ rest) =
      if quotes + 1 < 3 then
        (readQuoted ⟨mark, true⟩ fuel rest).map fun p =>
          (List.replicate (quotes + 1) mark ++ p.1, p.2)
      else if quotes + 1 ≤ 5 then some (List.replicate (quotes + 1 - 3) mark, rest)
      else none := by
  have hstop : rest.takeWhile (· = mark) = [] ∧ rest.dropWhile (· = mark) = rest := by
    cases rest with
    | nil => exact ⟨rfl, rfl⟩
    | cons d rest =>
        have hne : ¬ (decide (d = mark)) = true := by simpa using hrest
        exact ⟨List.takeWhile_cons_of_neg hne, List.dropWhile_cons_of_neg hne⟩
  have htake : ∀ n, (List.replicate n mark ++ rest).takeWhile (· = mark) =
      List.replicate n mark := by
    intro n
    rw [List.takeWhile_append_of_pos (by simp), hstop.1, List.append_nil]
  have hdrop : (List.replicate quotes mark ++ rest).dropWhile (· = mark) = rest := by
    rw [List.dropWhile_append_of_pos (by simp), hstop.2]
  have hrun := htake (quotes + 1)
  rw [List.replicate_succ, List.cons_append] at hrun ⊢
  rw [readQuoted]
  simp only [if_true, hrun, hdrop, List.length_cons, List.length_replicate]
  rw [← List.replicate_succ, List.drop_replicate]

/-- **A long row is read** up to the quotes after it. The quotes before it have not been read yet,
since the reader takes a run of them at once. -/
theorem IsBody.readQuoted_long {mark : Char} {quotes : Nat}
    (h : IsBody ⟨mark, true⟩ quotes cs body) (hquotes : quotes ≤ 2) {rest : List Char}
    (hrest : rest.head? ≠ some mark) {fuel : Nat} (hfuel : quotes + body.length < fuel) :
    readQuoted ⟨mark, true⟩ fuel
        (List.replicate quotes mark ++ (body ++ mark :: mark :: mark :: rest)) =
      some (List.replicate quotes mark ++ cs, rest) := by
  induction h generalizing fuel with
  | nil quotes =>
      cases fuel with
      | zero => omega
      | succ fuel =>
          have hrun : List.replicate quotes mark ++ ([] ++ mark :: mark :: mark :: rest) =
              List.replicate (quotes + 2 + 1) mark ++ rest := by
            rw [Nat.add_assoc, ← List.replicate_append_replicate, List.append_assoc]
            rfl
          rw [hrun, readQuoted_run hrest, if_neg (by omega), if_pos (by omega), List.append_nil]
          rfl
  | @mark quotes cs body hlong hlt _ ih =>
      have hshift : ∀ x : List Char, List.replicate quotes mark ++ (mark :: x) =
          List.replicate (quotes + 1) mark ++ x := by
        intro x
        rw [List.replicate_succ', List.append_assoc]
        rfl
      rw [List.length_cons] at hfuel
      show readQuoted _ fuel (List.replicate quotes mark ++ (mark :: (body ++ _))) = _
      rw [hshift, hshift]
      exact ih (by omega) (by omega)
  | @piece quotes c piece cs body hpiece _ ih =>
      have hpos := hpiece.length_pos
      rw [List.length_append] at hfuel
      have hread : ∀ {more : Nat}, piece.length + body.length < more →
          readQuoted ⟨mark, true⟩ more (piece ++ body ++ mark :: mark :: mark :: rest) =
            some (c :: cs, rest) := by
        intro more hmore
        cases more with
        | zero => omega
        | succ more =>
            have hmore : 0 + body.length < more := by omega
            have hbody := ih (Nat.zero_le 2) hmore
            rw [List.replicate_zero, List.nil_append, List.nil_append] at hbody
            rw [List.append_assoc, hpiece.read, hbody]
            rfl
      cases quotes with
      | zero => exact hread (by omega)
      | succ quotes =>
          cases fuel with
          | zero => omega
          | succ fuel =>
              obtain ⟨d, more, hstart, hne⟩ := hpiece.start
              have hhead : (piece ++ body ++ mark :: mark :: mark :: rest).head? ≠ some mark := by
                rw [hstart]
                simpa using hne
              rw [readQuoted_run hhead, if_pos (by omega), hread (by omega)]
              rfl

/-! ## The rows that are written -/

/-- **Escapes make a row.** -/
theorem isBody_escapeText (long : Bool) (quotes : Nat) (cs : List Char) :
    IsBody ⟨'\x22', long⟩ quotes cs (escapeText long quotes cs) := by
  induction cs generalizing quotes with
  | nil => exact .nil quotes
  | cons c cs ih =>
      rw [escapeText]
      split
      · next hraw =>
          obtain ⟨rfl, hlong, hlt⟩ := hraw
          exact .mark hlong hlt (ih (quotes + 1))
      · exact .piece (isPiece_escapeChar long c) (ih 0)

theorem le_longestRun_go (mark : Char) (cs : List Char) (longest current : Nat) :
    longest ≤ longestRun.go mark longest current cs ∧
      current ≤ longestRun.go mark longest current cs := by
  induction cs generalizing longest current with
  | nil => exact ⟨Nat.le_max_left _ _, Nat.le_max_right _ _⟩
  | cons c cs ih =>
      rw [longestRun.go]
      split
      · have h := ih longest (current + 1)
        omega
      · have h := ih (max longest current) 0
        omega

/-- **A text between single quotes makes a row of itself** when no character needs an escape, and
when a short one has no quote and a long one no long run of them. -/
theorem isBody_self {long : Bool} {quotes : Nat} (longest : Nat)
    (hplain : ∀ c ∈ cs, isEscapedControl c = false)
    (hshort : long = false → '\n' ∉ cs ∧ '\x27' ∉ cs)
    (hlong : long = true → longestRun.go '\x27' longest quotes cs ≤ 2) :
    IsBody ⟨'\x27', long⟩ quotes cs cs := by
  induction cs generalizing quotes longest with
  | nil => exact .nil quotes
  | cons c cs ih =>
      have hrest : ∀ d ∈ cs, isEscapedControl d = false := fun d hd =>
        hplain d (List.mem_cons_of_mem c hd)
      have hrest' : long = false → '\n' ∉ cs ∧ '\x27' ∉ cs := fun h =>
        ⟨fun hm => (hshort h).1 (List.mem_cons_of_mem c hm),
          fun hm => (hshort h).2 (List.mem_cons_of_mem c hm)⟩
      by_cases hmark : c = '\x27'
      · subst hmark
        cases long with
        | false => exact absurd List.mem_cons_self (hshort rfl).2
        | true =>
            have hrun := hlong rfl
            rw [longestRun.go, if_pos rfl] at hrun
            have hle := (le_longestRun_go '\x27' cs longest (quotes + 1)).2
            exact .mark rfl (by omega) (ih _ hrest hrest' fun _ => hrun)
      · have hmore : long = true → longestRun.go '\x27' (max longest quotes) 0 cs ≤ 2 := by
          intro h
          have hrun := hlong h
          rw [longestRun.go, if_neg hmark] at hrun
          exact hrun
        refine .piece (?_ : IsPiece _ [c] c) (ih _ hrest hrest' hmore)
        have hcontrol := hplain c List.mem_cons_self
        by_cases hline : c = '\n'
        · subst hline
          cases long with
          | false => exact absurd List.mem_cons_self (hshort rfl).1
          | true => exact isPiece_newline rfl (show '\x27' ≠ '\n' by decide)
        · refine isPiece_char hmark (fun _ => rfl) ?_
          exact isTextChar_of_not_isEscapedControl hline hcontrol

/-! ## Whole texts -/

/-- A form without escapes can hold its text as it is. -/
theorem TextForm.of_spec (cs : List Char) :
    ((of cs = .literal ∨ of cs = .longLiteral) → ∀ c ∈ cs, isEscapedControl c = false) ∧
      (of cs = .literal → '\n' ∉ cs ∧ '\x27' ∉ cs) ∧
      (of cs = .longLiteral → longestRun '\x27' cs ≤ 2) := by
  have hplain : (!cs.any isEscapedControl) = true → ∀ c ∈ cs, isEscapedControl c = false := by
    simp
  unfold TextForm.of
  dsimp only
  split
  · simp
  · split
    · next h =>
        simp only [Bool.and_eq_true, Bool.not_eq_true', List.contains_eq_mem,
          decide_eq_false_iff_not] at h
        obtain ⟨⟨hall, hline⟩, hquote⟩ := h
        exact ⟨fun _ => hplain (by rw [hall]; rfl), fun _ => ⟨hline, hquote⟩, nofun⟩
    · split
      · simp
      · split
        · next h =>
            simp only [Bool.and_eq_true, decide_eq_true_eq] at h
            exact ⟨fun _ => hplain h.1, nofun, fun _ => h.2⟩
        · split <;> simp

/-- A short text is not taken for a long one. -/
theorem readText_short {mark : Char} (hmark : mark = '\x22' ∨ mark = '\x27') {rest : List Char}
    (hbody : body.head? ≠ some mark) (hrest : rest.head? ≠ some mark) :
    readText (mark :: (body ++ mark :: rest)) = readShort mark (body ++ mark :: rest) := by
  cases body with
  | nil =>
      cases rest with
      | nil => rcases hmark with rfl | rfl <;> rfl
      | cons d rest =>
          have hd : d ≠ mark := by simpa using hrest
          rcases hmark with rfl | rfl <;> simp [readText, hd]
  | cons d body =>
      have hd : d ≠ mark := by simpa using hbody
      rcases hmark with rfl | rfl <;> simp [readText, hd]

/-- A long text starts with three quotes. -/
theorem readText_long {mark : Char} (hmark : mark = '\x22' ∨ mark = '\x27') (rest : List Char) :
    readText (mark :: mark :: mark :: rest) = readLong mark rest := by
  rcases hmark with rfl | rfl <;> rfl

theorem IsBody.head_ne {quotes : Nat} (h : IsBody style quotes cs body)
    (hshort : style.long = false) : body.head? ≠ some style.mark := by
  cases h with
  | nil => exact nofun
  | mark hlong => exact absurd hlong (by rw [hshort]; exact Bool.false_ne_true)
  | piece hpiece =>
      obtain ⟨d, rest, rfl, hne⟩ := hpiece.start
      simpa using hne

/-- A short text is read back. -/
theorem readText_of_short {mark : Char} (hmark : mark = '\x22' ∨ mark = '\x27')
    (h : IsBody ⟨mark, false⟩ 0 cs body) {rest : List Char} (hrest : rest.head? ≠ some mark) :
    readText (mark :: (body ++ mark :: rest)) = some (String.ofList cs, rest) := by
  have hlength : body.length < (body ++ mark :: rest).length + 1 := by
    rw [List.length_append]
    omega
  rw [readText_short hmark (h.head_ne rfl) hrest, readShort, h.readQuoted_short rest hlength]
  rfl

/-- A long text is read back. The line end that is dropped at its start was put there, or there is
none. -/
theorem readText_of_long {mark : Char} (hmark : mark = '\x22' ∨ mark = '\x27')
    (h : IsBody ⟨mark, true⟩ 0 cs body) {rest : List Char} (hrest : rest.head? ≠ some mark) :
    readText (mark :: mark :: mark :: ((if cs.contains '\n' then ['\n'] else []) ++
      (body ++ mark :: mark :: mark :: rest))) = some (String.ofList cs, rest) := by
  have hdropped : (newline? ((if cs.contains '\n' then ['\n'] else []) ++
      (body ++ mark :: mark :: mark :: rest))).getD ((if cs.contains '\n' then ['\n'] else []) ++
      (body ++ mark :: mark :: mark :: rest)) = body ++ mark :: mark :: mark :: rest := by
    have hquote : ∀ more, newline? (mark :: more) = none := by
      rcases hmark with rfl | rfl <;> exact fun _ => rfl
    by_cases hline : cs.contains '\n' = true
    · rw [if_pos hline]
      rfl
    · rw [if_neg hline, List.nil_append]
      have hnone : newline? (body ++ mark :: mark :: mark :: rest) = none := by
        cases h with
        | nil => exact hquote _
        | mark => exact hquote _
        | @piece _ c piece cs body hpiece =>
            have hc : c ≠ '\n' := by
              rintro rfl
              exact hline (by simp)
            rw [List.append_assoc]
            exact hpiece.line hc _
      rw [hnone]
      rfl
  have hfuel : 0 + body.length < (body ++ mark :: mark :: mark :: rest).length + 1 := by
    rw [List.length_append]
    omega
  have hread := h.readQuoted_long (Nat.zero_le 2) hrest hfuel
  rw [List.replicate_zero, List.nil_append, List.nil_append] at hread
  rw [readText_long hmark, readLong, hdropped, hread]
  rfl

/-- **A text is read back**, whatever follows it, as long as that is no quote. -/
theorem readText_writeText (cs : List Char) {rest : List Char}
    (hbasic : rest.head? ≠ some '\x22') (hliteral : rest.head? ≠ some '\x27') :
    readText (writeText cs ++ rest) = some (String.ofList cs, rest) := by
  obtain ⟨hplain, hshort, hlong⟩ := TextForm.of_spec cs
  cases hform : TextForm.of cs with
  | basic =>
      have hread := readText_of_short (.inl rfl) (isBody_escapeText false 0 cs) hbasic
      simpa [writeText, hform, TextForm.quotes] using hread
  | literal =>
      have hbody : IsBody ⟨'\x27', false⟩ 0 cs cs :=
        isBody_self 0 (hplain (.inl hform)) (fun _ => hshort hform) nofun
      have hread := readText_of_short (.inr rfl) hbody hliteral
      simpa [writeText, hform, TextForm.quotes] using hread
  | longBasic =>
      have hread := readText_of_long (.inl rfl) (isBody_escapeText true 0 cs) hbasic
      simpa [writeText, hform, TextForm.quotes] using hread
  | longLiteral =>
      have hbody : IsBody ⟨'\x27', true⟩ 0 cs cs :=
        isBody_self 0 (hplain (.inr hform)) nofun fun _ => hlong hform
      have hread := readText_of_long (.inr rfl) hbody hliteral
      simpa [writeText, hform, TextForm.quotes] using hread

end IsolationGate.Toml
