import IsolationGate.Http.Field

/-!
# Items of structured fields

A browser reads some fields as an item with parameters: `item?` is that reading, for items and
parameters that are tokens or quoted texts. A text between quotes holds visible characters and
blanks of ASCII only, and a backslash stands before a quote and before a backslash in it. A parameter
without a value is set. Of a repeated parameter the last value counts. Numbers, bytes and written
truth values, which an item may have as well, are not read.

## Main results

* `readText_spec` — what is read between quotes, and how much of the input it is.
* `readText_plain` — a text without quotes and backslashes is read as it stands.
* `text_of_readParameters` — the texts of parameters come from the input.
-/

namespace IsolationGate.Http.Structured

/-! ## Reading -/

/-- A value without parameters. -/
inductive Bare where
  | token (text : String)
  | text (text : String)
  /-- What a parameter without a value has. -/
  | set
  deriving Repr, DecidableEq

/-- A value with its parameters. -/
structure Item where
  value : Bare
  parameters : List (String × Bare)
  deriving Repr, DecidableEq

/-- A visible character or a blank of ASCII. -/
def isPrintable (c : Char) : Bool := 0x20 ≤ c.toNat && c.toNat ≤ 0x7E

theorem isPrintable_iff {c : Char} :
    isPrintable c = true ↔ (0x20 ≤ c.toNat ∧ c.toNat ≠ 0x7F) ∧ c.toNat < 0x80 := by
  rw [isPrintable, Bool.and_eq_true, decide_eq_true_eq, decide_eq_true_eq]
  omega

/-- A character that a backslash stands before. -/
def isMarked (c : Char) : Bool := c = '\x22' || c = '\\'

/-- The rest of a text after its opening quote: its characters, and what follows it. -/
def readText : List Char → Option (List Char × List Char)
  | [] => none
  | '\x22' :: rest => some ([], rest)
  | ['\\'] => none
  | '\\' :: c :: rest =>
      if isMarked c then (readText rest).map fun p => (c :: p.1, p.2) else none
  | c :: rest =>
      if isPrintable c then (readText rest).map fun p => (c :: p.1, p.2) else none

/-- A small letter. -/
def isSmall (c : Char) : Bool := 'a' ≤ c && c ≤ 'z'

/-- A digit. -/
def isDigit (c : Char) : Bool := '0' ≤ c && c ≤ '9'

/-- The first character of a token. -/
def startsToken (c : Char) : Bool := isSmall c || ('A' ≤ c && c ≤ 'Z') || c = '*'

/-- A character of a token. -/
def isTokenChar (c : Char) : Bool :=
  startsToken c || isDigit c || "!#$%&'+-.^_\x60|~:/".toList.contains c

/-- The first character of the name of a parameter. -/
def startsKey (c : Char) : Bool := isSmall c || c = '*'

/-- A character of the name of a parameter. -/
def isKeyChar (c : Char) : Bool := startsKey c || isDigit c || "_-.".toList.contains c

/-- A token or a text. -/
def readBare : List Char → Option (Bare × List Char)
  | [] => none
  | c :: rest =>
      if c = '\x22' then (readText rest).map fun p => (.text (String.ofList p.1), p.2)
      else if startsToken c then
        some (.token (String.ofList (c :: rest.takeWhile isTokenChar)), rest.dropWhile isTokenChar)
      else none

/-- The name of a parameter. -/
def readKey : List Char → Option (String × List Char)
  | [] => none
  | c :: rest =>
      if startsKey c then
        some (String.ofList (c :: rest.takeWhile isKeyChar), rest.dropWhile isKeyChar)
      else none

/-- A parameter and its value, after its semicolon. -/
def readParameter (cs : List Char) : Option ((String × Bare) × List Char) :=
  match readKey (cs.dropWhile (· == ' ')) with
  | none => none
  | some (key, '=' :: rest) => (readBare rest).map fun p => ((key, p.1), p.2)
  | some (key, rest) => some ((key, .set), rest)

/-- The parameters with one more. A repeated one keeps its place and gets the new value. -/
def put (parameter : String × Bare) : List (String × Bare) → List (String × Bare)
  | [] => [parameter]
  | other :: rest =>
      if other.1 = parameter.1 then parameter :: rest else other :: put parameter rest

/-- Parameters as long as there are semicolons, added to those already read. -/
def readParameters : Nat → List (String × Bare) → List Char →
    Option (List (String × Bare) × List Char)
  | 0, _, _ => none
  | fuel + 1, seen, ';' :: rest =>
      (readParameter rest).bind fun p => readParameters fuel (put p.1 seen) p.2
  | _ + 1, seen, cs => some (seen, cs)

/-- An item with blanks around it. -/
def readItem (cs : List Char) : Option Item :=
  (readBare (cs.dropWhile (· == ' '))).bind fun p =>
    (readParameters (p.2.length + 1) [] p.2).bind fun q =>
      if q.2.all (· == ' ') then some ⟨p.1, q.1⟩ else none

/-- The item that a value is. -/
def item? (value : FieldValue) : Option Item := readItem (Text.ofAscii value.bytes).toList

/-! ## Texts -/

/-- What is read between quotes is printable, and every marked character took one more. -/
theorem readText_spec {cs text rest : List Char} (h : readText cs = some (text, rest)) :
    (∀ c ∈ text, isPrintable c = true) ∧
      cs.length = text.length + text.countP isMarked + 1 + rest.length := by
  fun_induction readText cs generalizing text with
  | case1 => cases h
  | case2 =>
      cases h
      simp
      omega
  | case3 => cases h
  | case4 c rest' hmarked ih =>
      obtain ⟨⟨more, after⟩, hmore, heq⟩ := Option.map_eq_some_iff.1 h
      cases heq
      obtain ⟨hprintable, hlength⟩ := ih hmore
      have hc : isPrintable c = true := by
        simp only [isMarked, Bool.or_eq_true, decide_eq_true_eq] at hmarked
        rcases hmarked with rfl | rfl <;> decide
      refine ⟨List.forall_mem_cons.2 ⟨hc, hprintable⟩, ?_⟩
      simp only [List.length_cons, List.countP_cons, hmarked, if_true] at hlength ⊢
      omega
  | case5 => cases h
  | case6 c rest' hquote hslash hslash' hprints ih =>
      obtain ⟨⟨more, after⟩, hmore, heq⟩ := Option.map_eq_some_iff.1 h
      cases heq
      obtain ⟨hprintable, hlength⟩ := ih hmore
      have hplain : isMarked c = false := by
        have hne : c ≠ '\\' := by
          rintro rfl
          cases rest' with
          | nil => exact hslash rfl rfl
          | cons d ds => exact hslash' d ds rfl rfl
        simp [isMarked, hne]
        exact hquote
      refine ⟨List.forall_mem_cons.2 ⟨hprints, hprintable⟩, ?_⟩
      simp only [List.length_cons, List.countP_cons, hplain] at hlength ⊢
      simp
      omega
  | case7 => cases h

/-- A text without marked characters is read as it stands. -/
theorem readText_plain {cs : List Char} (h : ∀ c ∈ cs, isPrintable c = true ∧ isMarked c = false)
    (rest : List Char) : readText (cs ++ '\x22' :: rest) = some (cs, rest) := by
  induction cs with
  | nil => rfl
  | cons c cs ih =>
      obtain ⟨hprintable, hmarked⟩ := h c List.mem_cons_self
      have hrest := ih fun d hd => h d (List.mem_cons_of_mem c hd)
      simp only [isMarked, Bool.or_eq_false_iff, decide_eq_false_iff_not] at hmarked
      simp [readText, hmarked, hprintable, hrest]

/-! ## Parameters -/

/-- A text among the parameters is printable, and shorter than what it was read from. -/
theorem text_of_readBare {cs rest : List Char} {value : Bare}
    (h : readBare cs = some (value, rest)) :
    rest.length ≤ cs.length ∧ ∀ text, value = .text text →
      (∀ c ∈ text.toList, isPrintable c = true) ∧ text.toList.length < cs.length := by
  cases cs with
  | nil => cases h
  | cons c cs =>
      rw [readBare] at h
      split at h
      · obtain ⟨⟨text, after⟩, htext, heq⟩ := Option.map_eq_some_iff.1 h
        cases heq
        obtain ⟨hprintable, hlength⟩ := readText_spec htext
        dsimp only at *
        rw [List.length_cons]
        refine ⟨by omega, fun other hother => ?_⟩
        cases hother
        rw [String.toList_ofList]
        exact ⟨hprintable, by omega⟩
      · split at h
        · cases h
          have hlength := (List.dropWhile_suffix isTokenChar (l := cs)).length_le
          rw [List.length_cons]
          exact ⟨by omega, nofun⟩
        · cases h

theorem length_of_readKey {cs rest : List Char} {key : String} (h : readKey cs = some (key, rest)) :
    rest.length ≤ cs.length := by
  cases cs with
  | nil => cases h
  | cons c cs =>
      rw [readKey] at h
      split at h
      · cases h
        have hlength := (List.dropWhile_suffix isKeyChar (l := cs)).length_le
        rw [List.length_cons]
        omega
      · cases h

theorem text_of_readParameter {cs rest : List Char} {parameter : String × Bare}
    (h : readParameter cs = some (parameter, rest)) :
    rest.length ≤ cs.length ∧ ∀ text, parameter.2 = .text text →
      (∀ c ∈ text.toList, isPrintable c = true) ∧ text.toList.length < cs.length := by
  have hblanks := (List.dropWhile_suffix (· == ' ') (l := cs)).length_le
  unfold readParameter at h
  split at h
  · cases h
  · next key more hkey =>
      have hlength := length_of_readKey hkey
      obtain ⟨⟨value, after⟩, hvalue, heq⟩ := Option.map_eq_some_iff.1 h
      cases heq
      obtain ⟨hshort, htext⟩ := text_of_readBare hvalue
      rw [List.length_cons] at hlength
      dsimp only at hshort ⊢
      refine ⟨by omega, fun text heq => ?_⟩
      obtain ⟨hprintable, hlt⟩ := htext text heq
      exact ⟨hprintable, by omega⟩
  · next key more hkey =>
      have hlength := length_of_readKey hkey
      cases h
      exact ⟨by omega, nofun⟩

theorem mem_put {parameter p : String × Bare} {seen : List (String × Bare)}
    (h : p ∈ put parameter seen) : p = parameter ∨ p ∈ seen := by
  induction seen with
  | nil => exact .inl (List.mem_singleton.1 h)
  | cons other rest ih =>
      rw [put] at h
      split at h
      · rcases List.mem_cons.1 h with hfirst | hrest
        · exact .inl hfirst
        · exact .inr (List.mem_cons_of_mem other hrest)
      · rcases List.mem_cons.1 h with hfirst | hrest
        · exact .inr (hfirst ▸ List.mem_cons_self)
        · exact (ih hrest).imp_right (List.mem_cons_of_mem other)

/-- **The texts of parameters** were seen before, or they were read between quotes. -/
theorem text_of_readParameters {fuel : Nat} {seen parameters : List (String × Bare)}
    {cs rest : List Char} (h : readParameters fuel seen cs = some (parameters, rest))
    {key text : String} (hmem : (key, .text text) ∈ parameters) :
    (key, .text text) ∈ seen ∨
      (∀ c ∈ text.toList, isPrintable c = true) ∧ text.toList.length < cs.length := by
  fun_induction readParameters fuel seen cs with
  | case1 => cases h
  | case2 fuel seen more ih =>
      obtain ⟨⟨parameter, after⟩, hparameter, hmore⟩ := Option.bind_eq_some_iff.1 h
      obtain ⟨hshort, htext⟩ := text_of_readParameter hparameter
      rw [List.length_cons]
      rcases ih _ hmore with hseen | ⟨hprintable, hlt⟩
      · rcases mem_put hseen with heq | hseen
        · obtain ⟨hprintable, hlt⟩ := htext text (congrArg Prod.snd heq).symm
          exact .inr ⟨hprintable, by omega⟩
        · exact .inl hseen
      · refine .inr ⟨hprintable, ?_⟩
        dsimp only at hlt
        omega
  | case3 =>
      cases h
      exact .inl hmem

end IsolationGate.Http.Structured
