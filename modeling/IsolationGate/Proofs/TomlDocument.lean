import IsolationGate.Proofs.TomlValue

/-!
# Configuration files are read back

A document that consists of sections is written as parts, one for each section and one for each
table in it: a header, and a line for each value. Reading goes the other way in two steps. The lines
are read part by part, whatever stands behind a part as long as it is the next one or nothing but
blank lines; then the parts are added to a growing document, each behind the ones before it, because
no name is given twice.

A `Section` says what a field of a document may be for this to work: names that need no quotes,
values that are no tables, and tables only behind the values.

## Main results

* `readKeyValue_writeLine`, `readHeader_writeHeader` — a line and a header are read back.
* `readBlocks_partsText` — so are all parts.
* `foldlM_sections` — the parts of sections make the document of these sections.
* `read?_render` — a document is read back.
-/

namespace IsolationGate.Toml

/-! ## Names and keys -/

/-- A name that can be written as it is. -/
def IsName (s : String) : Prop := s ≠ "" ∧ ∀ c ∈ s.toList, isBareChar c = true

instance (s : String) : Decidable (IsName s) := by
  unfold IsName
  exact decidable_of_iff (s ≠ "" ∧ s.toList.all isBareChar = true) (by rw [List.all_eq_true])

theorem isSolid_of_isBareChar {c : Char} (h : isBareChar c = true) :
    IsSolid c ∧ c ≠ '[' ∧ c ≠ '\x22' ∧ c ≠ '\x27' := by
  have hne : ∀ x, isBareChar x = false → c ≠ x := by
    rintro x hx rfl
    rw [hx] at h
    cases h
  refine ⟨⟨?_, hne _ (by decide), hne _ (by decide), hne _ (by decide)⟩, hne _ (by decide),
    hne _ (by decide), hne _ (by decide)⟩
  simp [isBlank, hne ' ' (by decide), hne '\t' (by decide)]

theorem IsName.exists_cons {s : String} (h : IsName s) :
    ∃ c cs, s.toList = c :: cs ∧ isBareChar c = true := by
  have hne : s.toList ≠ [] := fun hnil => h.1 (String.toList_eq_nil_iff.1 hnil)
  obtain ⟨c, cs, hcs⟩ := List.exists_cons_of_ne_nil hne
  exact ⟨c, cs, hcs, h.2 c (hcs ▸ List.mem_cons_self)⟩

theorem IsName.readPart_append {s : String} (h : IsName s) {t : Char} (ht : isBareChar t = false)
    (rest : List Char) : readPart (skipBlanks (s.toList ++ t :: rest)) = some (s, t :: rest) := by
  obtain ⟨c, cs, hcs, hbare⟩ := h.exists_cons
  obtain ⟨hsolid, -, hdouble, hsingle⟩ := isSolid_of_isBareChar hbare
  have hskip : skipBlanks (s.toList ++ t :: rest) = s.toList ++ t :: rest := by
    rw [hcs]
    exact skipBlanks_solid hsolid [] rfl _
  have htake : (s.toList ++ t :: rest).takeWhile isBareChar = s.toList := by
    rw [List.takeWhile_append_of_pos h.2, List.takeWhile_cons_of_neg (by simp [ht]),
      List.append_nil]
  have hdrop : (s.toList ++ t :: rest).dropWhile isBareChar = t :: rest := by
    rw [List.dropWhile_append_of_pos h.2, List.dropWhile_cons_of_neg (by simp [ht])]
  have hne : s.toList ≠ [] := hcs ▸ List.cons_ne_nil c cs
  rw [hskip]
  unfold readPart
  split
  · next heq =>
      rw [hcs] at heq
      exact absurd (List.cons.inj heq).1 hdouble
  · next heq =>
      rw [hcs] at heq
      exact absurd (List.cons.inj heq).1 hsingle
  · dsimp only
    rw [htake, hdrop, if_neg hne, String.ofList_toList]

/-- A key of one part, with a blank behind it or not. -/
theorem IsName.readParts_last {s : String} (h : IsName s) {t : Char}
    (ht : t = ']' ∨ t = '=') {blanks : List Char} (hblanks : blanks = [] ∨ blanks = [' '])
    (rest : List Char) (fuel : Nat) :
    readParts (fuel + 1) (s.toList ++ (blanks ++ t :: rest)) = some ([s], t :: rest) := by
  have hsolid : IsSolid t ∧ t ≠ '.' ∧ isBareChar t = false := by
    rcases ht with rfl | rfl <;> exact ⟨⟨by decide, by decide, by decide⟩, by decide, by decide⟩
  have hpart : readPart (skipBlanks (s.toList ++ (blanks ++ t :: rest))) =
      some (s, blanks ++ t :: rest) := by
    rcases hblanks with rfl | rfl
    · exact h.readPart_append hsolid.2.2 rest
    · exact h.readPart_append (by decide) (t :: rest)
  have hskip : skipBlanks (blanks ++ t :: rest) = t :: rest :=
    skipBlanks_solid hsolid.1 blanks (by rcases hblanks with rfl | rfl <;> decide) rest
  rw [readParts, hpart]
  simp only [Option.bind_eq_bind, Option.bind_some, hskip]
  split
  · next heq => exact absurd (List.cons.inj heq).1 hsolid.2.1
  · rfl

/-- A key of two parts. -/
theorem IsName.readParts_cons {s : String} (h : IsName s) {cs : List Char} {parts : List String}
    {rest : List Char} {fuel : Nat} (hmore : readParts fuel cs = some (parts, rest)) :
    readParts (fuel + 1) (s.toList ++ '.' :: cs) = some (s :: parts, rest) := by
  have hskip : skipBlanks ('.' :: cs) = '.' :: cs := rfl
  rw [readParts, h.readPart_append (by decide)]
  simp only [Option.bind_eq_bind, Option.bind_some, hskip, hmore]

/-! ## Lines -/

/-- The fields of a table without tables in it. -/
structure IsFlat (fields : List (String × Datum)) : Prop where
  named : ∀ field ∈ fields, IsName field.1
  plain : ∀ field ∈ fields, IsPlain field.2
  distinct : (fields.map Prod.fst).Nodup

theorem exists_cons_writeValue {d : Datum} (h : IsPlain d) :
    ∃ c cs, writeValue d = c :: cs ∧ IsSolid c := by
  cases d with
  | list items =>
      have hbracket : IsSolid '[' := ⟨by decide, by decide, by decide⟩
      unfold writeValue writeList
      dsimp only
      split
      · exact ⟨_, _, rfl, hbracket⟩
      · exact ⟨_, _, rfl, hbracket⟩
      · exact ⟨_, _, rfl, hbracket⟩
  | boolean b =>
      obtain ⟨c, cs, hcs, hsolid, -⟩ := exists_cons_writeScalar (d := .boolean b) h
      exact ⟨c, cs, hcs, hsolid⟩
  | text s =>
      obtain ⟨c, cs, hcs, hsolid, -⟩ := exists_cons_writeScalar (d := .text s) h
      exact ⟨c, cs, hcs, hsolid⟩
  | integer n =>
      obtain ⟨c, cs, hcs, hsolid, -⟩ := exists_cons_writeScalar (d := .integer n) h
      exact ⟨c, cs, hcs, hsolid⟩
  | null | real | moment | tables | record => exact h.elim

/-- A line is read back, up to its end. -/
theorem readKeyValue_writeLine {field : String × Datum} (hname : IsName field.1)
    (hplain : IsPlain field.2) (rest : List Char) :
    readKeyValue (writeLine field ++ rest) = some ([field.1], field.2, rest) := by
  have hline : writeLine field ++ rest =
      field.1.toList ++ ([' '] ++ '=' :: ' ' :: (writeValue field.2 ++ '\n' :: rest)) := by
    simp [writeLine]
  have hkey : readKey (writeLine field ++ rest) =
      some ([field.1], '=' :: ' ' :: (writeValue field.2 ++ '\n' :: rest)) := by
    rw [hline]
    exact hname.readParts_last (.inr rfl) (.inr rfl) _ _
  have hskip : skipBlanks (' ' :: (writeValue field.2 ++ '\n' :: rest)) =
      writeValue field.2 ++ '\n' :: rest := by
    obtain ⟨c, cs, hcs, hsolid⟩ := exists_cons_writeValue hplain
    rw [hcs]
    exact skipBlanks_solid hsolid [' '] (by decide) _
  have hlength : (writeValue field.2).length ≤ (writeLine field ++ rest).length + 1 := by
    rw [hline]
    simp only [List.length_append, List.length_cons]
    omega
  have hvalue := readValue_writeValue (t := '\n') (by decide) hplain rest hlength 78
  have hend : lineEnd? ('\n' :: rest) = some rest := rfl
  rw [readKeyValue, hkey]
  simp only [Option.bind_eq_bind, Option.bind_some, hskip, nestingBound, hvalue, hend]

/-! ## Blocks -/

/-- A header with the values under it, before they are written. -/
structure Part where
  path : List String
  fields : List (String × Datum)

/-- The path of a part, of one name or two. -/
inductive IsPath : List String → Prop where
  | one {name : String} (h : IsName name) : IsPath [name]
  | two {outer inner : String} (houter : IsName outer) (hinner : IsName inner) :
      IsPath [outer, inner]

/-- A part that can be written and read back. -/
structure Part.IsWritable (part : Part) : Prop where
  path : IsPath part.path
  fields : IsFlat part.fields

namespace Part

/-- A part as it is written. -/
def text (part : Part) : List Char := writeHeader part.path ++ part.fields.flatMap writeLine

/-- A part as it is read. -/
def toBlock (part : Part) : Block :=
  ⟨false, part.path, part.fields.map fun field => ([field.1], field.2)⟩

end Part

/-- Parts as they stand one behind the other, and what is behind the last of them. -/
def partsText (parts : List Part) (rest : List Char) : List Char :=
  match parts with
  | [] => []
  | part :: more => part.text ++ (more.flatMap (fun next => '\n' :: next.text) ++ rest)

/-- **A header is read back.** -/
theorem readHeader_writeHeader {path : List String} (h : IsPath path) (rest : List Char) :
    readHeader (writeHeader path ++ rest) = some (false, path, rest) := by
  have hend : lineEnd? ('\n' :: rest) = some rest := rfl
  -- a second bracket would make it a header of a list of tables
  have hread : ∀ cs, (∃ c more, cs = c :: more ∧ c ≠ '[') →
      readKey cs = some (path, ']' :: '\n' :: rest) →
        readHeader ('[' :: cs) = some (false, path, rest) := by
    rintro cs ⟨c, more, rfl, hc⟩ hkey
    unfold readHeader
    split
    · next heq => exact absurd (List.cons.inj (List.cons.inj heq).2).1 hc
    · next heq =>
        rw [← (List.cons.inj heq).2]
        simp only [hkey, Option.bind_eq_bind, Option.bind_some, hend, Option.map_some]
    · next hne => exact absurd rfl (hne _)
  have hstart : ∀ {name : String}, IsName name → ∀ more,
      ∃ c cs, name.toList ++ more = c :: cs ∧ c ≠ '[' := by
    intro name hname more
    obtain ⟨c, cs, hcs, hbare⟩ := hname.exists_cons
    exact ⟨c, cs ++ more, by rw [hcs]; rfl, (isSolid_of_isBareChar hbare).2.1⟩
  cases h with
  | @one name hname =>
      have hwrite : writeHeader [name] ++ rest =
          '[' :: (name.toList ++ ([] ++ ']' :: '\n' :: rest)) := by
        have hpath : String.intercalate "." [name] = name := rfl
        simp [writeHeader, hpath]
      rw [hwrite]
      exact hread _ (hstart hname _) (hname.readParts_last (.inl rfl) (.inl rfl) _ _)
  | @two outer inner houter hinner =>
      have hwrite : writeHeader [outer, inner] ++ rest =
          '[' :: (outer.toList ++ '.' :: (inner.toList ++ ([] ++ ']' :: '\n' :: rest))) := by
        have hpath : String.intercalate "." [outer, inner] = outer ++ "." ++ inner := rfl
        simp [writeHeader, hpath]
      rw [hwrite]
      exact hread _ (hstart houter _) (houter.readParts_cons
        (hinner.readParts_last (.inl rfl) (.inl rfl) _ _))

/-- Parts start with a header. -/
theorem partsText_cases (parts : List Part) (rest : List Char) :
    partsText parts rest = [] ∨ ∃ more, partsText parts rest = '[' :: more := by
  cases parts with
  | nil => exact .inl rfl
  | cons part more => exact .inr ⟨_, rfl⟩

theorem skipLines_partsText {part : Part} (more : List Part) (rest : List Char) :
    skipLines (partsText (part :: more) rest) = some (partsText (part :: more) rest) := by
  have hbracket : IsSolid '[' := ⟨by decide, by decide, by decide⟩
  exact skipLines_cons hbracket _

/-- What stands behind a part is skipped up to the next one. -/
theorem skipLines_next {rest : List Char} (hrest : skipLines rest = some []) (parts : List Part) :
    skipLines (parts.flatMap (fun next => '\n' :: next.text) ++ rest) =
        some (partsText parts rest) := by
  cases parts with
  | nil => exact hrest
  | cons part more =>
      have hline : (part :: more).flatMap (fun next => '\n' :: next.text) ++ rest =
          '\n' :: partsText (part :: more) rest := by
        simp [partsText]
      rw [hline, skipLines_line, skipLines_partsText]

/-- The lines of a part are read, and what is left are the parts behind it. -/
theorem readLines_writeLines {fields : List (String × Datum)}
    (hnamed : ∀ field ∈ fields, IsName field.1) (hplain : ∀ field ∈ fields, IsPlain field.2)
    {rest next : List Char} (hrest : skipLines rest = some next)
    (hnext : next = [] ∨ ∃ more, next = '[' :: more) {fuel : Nat} (hfuel : fields.length < fuel) :
    readLines fuel (fields.flatMap writeLine ++ rest) =
      some (fields.map fun field => ([field.1], field.2), next) := by
  induction fields generalizing fuel with
  | nil =>
      obtain ⟨fuel, rfl⟩ := Nat.exists_eq_add_of_lt hfuel
      rw [List.flatMap_nil, List.nil_append, List.length_nil, Nat.zero_add, readLines, hrest]
      rcases hnext with rfl | ⟨more, rfl⟩ <;> rfl
  | cons field fields ih =>
      have hname := hnamed field List.mem_cons_self
      have hfield := hplain field List.mem_cons_self
      rw [List.length_cons] at hfuel
      obtain ⟨fuel, rfl⟩ : ∃ more, fuel = more + 1 := ⟨fuel - 1, by omega⟩
      have hmore := ih (fun other hother => hnamed other (List.mem_cons_of_mem field hother))
        (fun other hother => hplain other (List.mem_cons_of_mem field hother))
        (Nat.lt_of_succ_lt_succ hfuel)
      have hread := readKeyValue_writeLine hname hfield (fields.flatMap writeLine ++ rest)
      obtain ⟨c, cs, hcs, hbare⟩ := hname.exists_cons
      obtain ⟨hsolid, hbracket, -⟩ := isSolid_of_isBareChar hbare
      have hstart : ∃ more, writeLine field ++ (fields.flatMap writeLine ++ rest) = c :: more := by
        rw [writeLine, hcs]
        exact ⟨_, rfl⟩
      obtain ⟨more, hstart⟩ := hstart
      rw [hstart] at hread
      have hskip : skipLines (c :: more) = some (c :: more) := by
        exact skipLines_cons hsolid _
      rw [List.flatMap_cons, List.append_assoc, hstart, readLines, hskip]
      simp only [Option.bind_eq_bind, Option.bind_some, hread, hmore]
      split
      · next heq => cases heq
      · next heq => exact absurd (List.cons.inj heq).1 hbracket
      · rfl

theorem length_writeLine (field : String × Datum) : 0 < (writeLine field).length := by
  simp only [writeLine, List.length_append, List.length_singleton]
  omega

theorem length_flatMap_ge {α : Type} (items : List α) {write : α → List Char}
    (h : ∀ item, 0 < (write item).length) : items.length ≤ (items.flatMap write).length := by
  induction items with
  | nil => exact Nat.zero_le _
  | cons item items ih =>
      have hitem := h item
      rw [List.flatMap_cons, List.length_append, List.length_cons]
      omega

/-- Every part takes at least one character. -/
theorem length_partsText (parts : List Part) (rest : List Char) :
    parts.length < (partsText parts rest).length + 1 := by
  cases parts with
  | nil => exact Nat.succ_pos _
  | cons part more =>
      have hpart : 0 < part.text.length := Nat.succ_pos _
      have hmore : more.length ≤ (more.flatMap fun next => '\n' :: next.text).length :=
        length_flatMap_ge more fun next => Nat.succ_pos next.text.length
      rw [partsText, List.length_append, List.length_append, List.length_cons]
      omega

/-- **Parts are read back**, by induction on them. -/
theorem readBlocks_partsText {parts : List Part} (h : ∀ part ∈ parts, part.IsWritable)
    {rest : List Char} (hrest : skipLines rest = some []) {fuel : Nat}
    (hfuel : parts.length < fuel) :
    readBlocks fuel (partsText parts rest) = some (parts.map Part.toBlock) := by
  induction parts generalizing fuel with
  | nil =>
      obtain ⟨fuel, rfl⟩ := Nat.exists_eq_add_of_lt hfuel
      rfl
  | cons part more ih =>
      obtain ⟨hpath, hfields⟩ := h part List.mem_cons_self
      have hmore := fun other hother => h other (List.mem_cons_of_mem part hother)
      rw [List.length_cons] at hfuel
      obtain ⟨fuel, rfl⟩ : ∃ more, fuel = more + 1 := ⟨fuel - 1, by omega⟩
      have hread := ih hmore (Nat.lt_of_succ_lt_succ hfuel)
      -- behind the header stand its lines, and then the parts of the induction hypothesis
      let behind := part.fields.flatMap writeLine ++
        (more.flatMap (fun next => '\n' :: next.text) ++ rest)
      have htext : partsText (part :: more) rest = writeHeader part.path ++ behind := by
        simp [partsText, Part.text, behind]
      have hheader := readHeader_writeHeader hpath behind
      have hlength : part.fields.length < behind.length + 1 := by
        have hlines := length_flatMap_ge part.fields length_writeLine
        rw [List.length_append]
        omega
      have hlines := readLines_writeLines hfields.named hfields.plain (skipLines_next hrest more)
        (partsText_cases more rest) hlength
      obtain ⟨first, others, hstart⟩ : ∃ first others, partsText (part :: more) rest =
          first :: others := ⟨'[', _, rfl⟩
      rw [← htext, hstart] at hheader
      rw [hstart, readBlocks]
      · simp only [hheader, Option.bind_eq_bind, Option.bind_some]
        rw [hlines]
        simp only [Option.bind_some, hread]
        rfl
      · exact List.cons_ne_nil first others

/-! ## Growing tables -/

/-- The values of a table as they are read. -/
def valueEntries (fields : List (String × Datum)) : Entries :=
  fields.map fun field => (field.1, .value field.2)

theorem notMem_of_nodup {α : Type} {a : α} {front back : List α}
    (h : (front ++ a :: back).Nodup) : a ∉ front :=
  fun hmem => (List.nodup_append.1 h).2.2 a hmem a List.mem_cons_self rfl

theorem alter_of_notMem {key : String} {entries : Entries} (h : key ∉ entries.map Prod.fst)
    (change : Option Node → Option Node) :
    alter change key entries = (change none).map fun node => entries ++ [(key, node)] := by
  induction entries with
  | nil => rfl
  | cons entry entries ih =>
      obtain ⟨other, node⟩ := entry
      rw [List.map_cons, List.mem_cons, not_or] at h
      rw [alter, if_neg fun heq => h.1 heq.symm, ih h.2]
      cases change none <;> rfl

theorem alter_of_last {key : String} {front : Entries} (h : key ∉ front.map Prod.fst)
    (change : Option Node → Option Node) (node : Node) :
    alter change key (front ++ [(key, node)]) =
      (change (some node)).map fun next => front ++ [(key, next)] := by
  induction front with
  | nil =>
      rw [List.nil_append, alter, if_pos rfl]
      cases change (some node) <;> rfl
  | cons entry front ih =>
      obtain ⟨other, old⟩ := entry
      rw [List.map_cons, List.mem_cons, not_or] at h
      rw [List.cons_append, alter, if_neg fun heq => h.1 heq.symm, ih h.2]
      cases change (some node) <;> rfl

/-- **Values with names of their own are all added**, by induction on them. -/
theorem insertAll_fields {fields : List (String × Datum)} {table : Entries}
    (h : (table.map Prod.fst ++ fields.map Prod.fst).Nodup) :
    insertAll (fields.map fun field => ([field.1], field.2)) table =
      some (table ++ valueEntries fields) := by
  induction fields generalizing table with
  | nil =>
      show some table = some (table ++ [])
      rw [List.append_nil]
  | cons field fields ih =>
      have hnew : field.1 ∉ table.map Prod.fst := notMem_of_nodup h
      have hinsert : insertValue field.2 [field.1] table =
          some (table ++ [(field.1, .value field.2)]) := by
        rw [insertValue, alter_of_notMem hnew]
        rfl
      have hrest : ((table ++ [(field.1, Node.value field.2)]).map Prod.fst ++
          fields.map Prod.fst).Nodup := by
        rw [List.map_append, List.append_assoc]
        exact h
      have hmore := ih hrest
      rw [insertAll] at hmore ⊢
      rw [List.map_cons, List.foldlM_cons, hinsert]
      rw [List.append_assoc] at hmore
      exact hmore

/-! ## Sections -/

/-- A section of a document: its values, and the tables in it behind them. -/
structure Section where
  name : String
  values : List (String × Datum)
  tables : List (String × List (String × Datum))

/-- A section that can be written and read back. -/
structure Section.IsWritable (s : Section) : Prop where
  name : IsName s.name
  values : IsFlat s.values
  tables : ∀ table ∈ s.tables, IsName table.1 ∧ IsFlat table.2
  distinct : (s.values.map Prod.fst ++ s.tables.map Prod.fst).Nodup

namespace Section

/-- The field of a document that a section is. -/
def toField (s : Section) : String × Datum :=
  (s.name, .record (s.values ++ s.tables.map fun table => (table.1, .record table.2)))

/-- The parts of a section. -/
def parts (s : Section) : List Part :=
  ⟨[s.name], s.values⟩ :: s.tables.map fun table => ⟨[s.name, table.1], table.2⟩

theorem IsWritable.parts {s : Section} (h : s.IsWritable) : ∀ part ∈ s.parts, part.IsWritable := by
  intro part hpart
  rcases List.mem_cons.1 hpart with rfl | hinner
  · exact ⟨.one h.name, h.values⟩
  · obtain ⟨table, htable, rfl⟩ := List.mem_map.1 hinner
    obtain ⟨hname, hflat⟩ := h.tables table htable
    exact ⟨.two h.name hname, hflat⟩

/-- The table that a section is in a growing document. -/
def node (s : Section) : Node :=
  .table .header (valueEntries s.values ++
    s.tables.map fun table => (table.1, .table .header (valueEntries table.2)))

end Section

theorem insertAll_isFlat {fields : List (String × Datum)} (h : IsFlat fields) :
    insertAll (fields.map fun field => ([field.1], field.2)) [] = some (valueEntries fields) :=
  insertAll_fields h.distinct

/-- A name that was not given yet has no entry to be taken out. -/
theorem takeOut_of_notMem {key : String} {entries : Entries} (h : key ∉ entries.map Prod.fst) :
    takeOut key entries = some ([], entries) := by
  have hlookup : entries.lookup key = none := by
    rw [List.lookup_eq_none_iff]
    intro entry hentry
    rw [bne_iff_ne]
    rintro rfl
    exact h (List.mem_map_of_mem hentry)
  rw [takeOut, hlookup]

/-- A header puts a new table behind the others. -/
theorem addBlock_one {name : String} {fields : List (String × Datum)} (h : IsFlat fields)
    {document : Entries} (hnew : name ∉ document.map Prod.fst) :
    addBlock document (Part.toBlock ⟨[name], fields⟩) =
      some (document ++ [(name, .table .header (valueEntries fields))]) := by
  have htaken := takeOut_of_notMem hnew
  have hinsert := insertAll_isFlat h
  rw [addBlock]
  simp only [Part.toBlock, List.getLast?_singleton, List.dropLast_singleton, descend,
    Bool.false_eq_true, if_false, Option.bind_eq_bind, htaken, Option.bind_some, hinsert, putTable]

/-- A header of two names puts a new table into the section that is read. -/
theorem addBlock_two {outer inner : String} {fields : List (String × Datum)} (h : IsFlat fields)
    {front entries : Entries} (hfront : outer ∉ front.map Prod.fst)
    (hnew : inner ∉ entries.map Prod.fst) :
    addBlock (front ++ [(outer, .table .header entries)])
        (Part.toBlock ⟨[outer, inner], fields⟩) =
      some (front ++ [(outer, .table .header
        (entries ++ [(inner, .table .header (valueEntries fields))]))]) := by
  have htaken := takeOut_of_notMem hnew
  have hinsert := insertAll_isFlat h
  have hlast : [outer, inner].getLast? = some inner := rfl
  have hpath : [outer, inner].dropLast = [outer] := rfl
  rw [addBlock]
  simp only [Part.toBlock, hlast, hpath, descend, alter_of_last hfront, Bool.false_eq_true,
    if_false, Option.bind_eq_bind, htaken, Option.bind_some, hinsert, putTable, Option.map_some]

/-- The tables of a section are added one after the other. -/
theorem foldlM_tables {outer : String} {tables : List (String × List (String × Datum))}
    (h : ∀ table ∈ tables, IsFlat table.2) {front entries : Entries}
    (hfront : outer ∉ front.map Prod.fst)
    (hdistinct : (entries.map Prod.fst ++ tables.map Prod.fst).Nodup) :
    (tables.map fun table => Part.toBlock ⟨[outer, table.1], table.2⟩).foldlM addBlock
        (front ++ [(outer, .table .header entries)]) =
      some (front ++ [(outer, .table .header (entries ++
        tables.map fun table => (table.1, .table .header (valueEntries table.2))))]) := by
  induction tables generalizing entries with
  | nil =>
      rw [List.map_nil, List.map_nil, List.append_nil]
      rfl
  | cons table tables ih =>
      have hnew : table.1 ∉ entries.map Prod.fst := notMem_of_nodup hdistinct
      have hrest : ((entries ++ [(table.1, Node.table .header (valueEntries table.2))]).map
          Prod.fst ++ tables.map Prod.fst).Nodup := by
        rw [List.map_append, List.append_assoc]
        exact hdistinct
      have hmore := ih (fun other hother => h other (List.mem_cons_of_mem table hother)) hrest
      rw [List.append_assoc] at hmore
      rw [List.map_cons, List.foldlM_cons, addBlock_two (h table List.mem_cons_self) hfront hnew]
      exact hmore

/-- **A section is added** behind the others. -/
theorem foldlM_section {s : Section} (h : s.IsWritable) {document : Entries}
    (hnew : s.name ∉ document.map Prod.fst) :
    (s.parts.map Part.toBlock).foldlM addBlock document =
      some (document ++ [(s.name, s.node)]) := by
  have hnames : ((valueEntries s.values).map Prod.fst ++ s.tables.map Prod.fst).Nodup := by
    have hvalues : (valueEntries s.values).map Prod.fst = s.values.map Prod.fst := by
      rw [valueEntries, List.map_map]
      rfl
    rw [hvalues]
    exact h.distinct
  rw [Section.parts, List.map_cons, List.foldlM_cons, addBlock_one h.values hnew, List.map_map]
  exact foldlM_tables (fun table htable => (h.tables table htable).2) hnew hnames

/-- **All sections are added**, by induction on them. -/
theorem foldlM_sections {sections : List Section} (h : ∀ s ∈ sections, s.IsWritable)
    {document : Entries}
    (hdistinct : (document.map Prod.fst ++ sections.map Section.name).Nodup) :
    ((sections.flatMap Section.parts).map Part.toBlock).foldlM addBlock document =
      some (document ++ sections.map fun s => (s.name, s.node)) := by
  induction sections generalizing document with
  | nil =>
      rw [List.map_nil, List.append_nil]
      rfl
  | cons s sections ih =>
      have hnew : s.name ∉ document.map Prod.fst := notMem_of_nodup hdistinct
      have hrest : ((document ++ [(s.name, s.node)]).map Prod.fst ++
          sections.map Section.name).Nodup := by
        rw [List.map_append, List.append_assoc]
        exact hdistinct
      have hmore := ih (fun other hother => h other (List.mem_cons_of_mem s hother)) hrest
      rw [List.append_assoc] at hmore
      rw [List.flatMap_cons, List.map_append, List.foldlM_append,
        foldlM_section (h s List.mem_cons_self) hnew]
      exact hmore

/-! ## Finished data -/

/-- The data of entries, one by one. -/
theorem fieldsOf_eq_map (entries : Entries) :
    fieldsOf entries = entries.map fun entry => (entry.1, entry.2.toDatum) := by
  induction entries with
  | nil => rfl
  | cons entry entries ih =>
      obtain ⟨key, node⟩ := entry
      rw [fieldsOf, ih, List.map_cons]

theorem fieldsOf_append (a b : Entries) : fieldsOf (a ++ b) = fieldsOf a ++ fieldsOf b := by
  rw [fieldsOf_eq_map, fieldsOf_eq_map, fieldsOf_eq_map, List.map_append]

theorem fieldsOf_valueEntries (fields : List (String × Datum)) :
    fieldsOf (valueEntries fields) = fields := by
  rw [fieldsOf_eq_map, valueEntries, List.map_map]
  have hsame : ∀ field : String × Datum,
      ((fun entry : String × Node => (entry.1, entry.2.toDatum)) ∘
        fun field : String × Datum => (field.1, Node.value field.2)) field = field := fun field => by
    rw [Function.comp_apply, Node.toDatum]
  rw [List.map_congr_left fun field _ => hsame field, List.map_id']

/-- The datum of a section. -/
theorem toDatum_node (s : Section) : (s.name, s.node.toDatum) = s.toField := by
  have htable : ∀ table : String × List (String × Datum),
      ((fun entry : String × Node => (entry.1, entry.2.toDatum)) ∘
        fun table => (table.1, Node.table .header (valueEntries table.2))) table =
          (table.1, .record table.2) := fun table => by
    rw [Function.comp_apply, Node.toDatum, fieldsOf_valueEntries]
  rw [Section.node, Node.toDatum, fieldsOf_append, fieldsOf_valueEntries, Section.toField,
    fieldsOf_eq_map, List.map_map, List.map_congr_left fun table _ => htable table]

/-! ## Whole documents -/

theorem isTable_of_isPlain {field : String × Datum} (h : IsPlain field.2) :
    isTable field = false := by
  obtain ⟨name, d⟩ := field
  cases d with
  | record => exact h.elim
  | _ => rfl

/-- What is done with the tables of a section only. -/
theorem filterMap_toField {β : Type} {s : Section} (h : s.IsWritable)
    {f : String × Datum → Option β} {g : String → List (String × Datum) → β}
    (hvalue : ∀ field, isTable field = false → f field = none)
    (htable : ∀ name fields, f (name, .record fields) = some (g name fields)) :
    (s.values ++ s.tables.map fun table => (table.1, Datum.record table.2)).filterMap f =
      s.tables.map fun table => g table.1 table.2 := by
  have hvalues : s.values.filterMap f = [] := by
    rw [List.filterMap_eq_nil_iff]
    exact fun field hfield => hvalue field (isTable_of_isPlain (h.values.plain field hfield))
  have htables : (f ∘ fun table : String × List (String × Datum) =>
      (table.1, Datum.record table.2)) = some ∘ fun table => g table.1 table.2 := by
    funext table
    exact htable table.1 table.2
  rw [List.filterMap_append, hvalues, List.nil_append, List.filterMap_map, htables,
    List.filterMap_eq_map]

/-- The values of a section without its tables. -/
theorem filter_toField {s : Section} (h : s.IsWritable) :
    (s.values ++ s.tables.map fun table => (table.1, Datum.record table.2)).filter
      (fun field => !isTable field) = s.values := by
  have hvalues : s.values.filter (fun field => !isTable field) = s.values := by
    refine List.filter_eq_self.2 fun field hfield => ?_
    rw [isTable_of_isPlain (h.values.plain field hfield)]
    rfl
  have htables : (s.tables.map fun table => (table.1, Datum.record table.2)).filter
      (fun field => !isTable field) = [] := by
    rw [List.filter_eq_nil_iff]
    intro field hfield
    obtain ⟨table, -, rfl⟩ := List.mem_map.1 hfield
    exact Bool.false_ne_true
  rw [List.filter_append, hvalues, htables, List.append_nil]

/-- A section is written as its parts. -/
theorem writeSection_toField {s : Section} (h : s.IsWritable) :
    writeSection s.toField = s.parts.map Part.text := by
  have hinner : ∀ table ∈ s.tables, writeTable [s.name, table.1] table.2 =
      Part.text ⟨[s.name, table.1], table.2⟩ := by
    intro table htable
    have hflat := (h.tables table htable).2
    have hall : table.2.filter (fun field => !isTable field) = table.2 := by
      refine List.filter_eq_self.2 fun field hfield => ?_
      rw [isTable_of_isPlain (hflat.plain field hfield)]
      rfl
    rw [writeTable, hall]
    rfl
  rw [Section.toField, writeSection]
  dsimp only
  rw [writeTable, filter_toField h, filterMap_toField h (g := fun name fields =>
    writeTable [s.name, name] fields), List.map_congr_left hinner, Section.parts, List.map_cons,
    List.map_map]
  · rfl
  · rintro ⟨name, d⟩ hvalue
    cases d with
    | record => cases hvalue
    | _ => rfl
  · exact fun _ _ => rfl

theorem intercalate_eq_flatMap {α : Type} (between : List α) (first : List α)
    (others : List (List α)) :
    List.intercalate between (first :: others) =
      first ++ others.flatMap fun next => between ++ next := by
  induction others generalizing first with
  | nil => simp [List.intercalate]
  | cons second others ih =>
      have hmore := ih second
      simp only [List.intercalate, List.intersperse, List.flatten_cons] at hmore ⊢
      rw [hmore, List.flatMap_cons, List.append_assoc]

/-- A document is written as the parts of its sections. -/
theorem toList_render {sections : List Section} (h : ∀ s ∈ sections, s.IsWritable)
    (hne : sections ≠ []) (rest : List Char) :
    (render (sections.map Section.toField)).toList ++ rest =
      partsText (sections.flatMap Section.parts) rest := by
  have hparts : (sections.map Section.toField).flatMap writeSection =
      (sections.flatMap Section.parts).map Part.text := by
    rw [List.flatMap_map, List.map_flatMap, List.flatMap_def, List.flatMap_def,
      List.map_congr_left fun s hs => writeSection_toField (h s hs)]
  obtain ⟨part, more, hcons⟩ : ∃ part more, sections.flatMap Section.parts = part :: more := by
    obtain ⟨s, others, rfl⟩ := List.exists_cons_of_ne_nil hne
    exact ⟨_, _, rfl⟩
  rw [render, String.toList_ofList, hparts, hcons, List.map_cons, intercalate_eq_flatMap,
    List.flatMap_map, partsText, List.append_assoc]
  rfl

/-- A field of a document that is a section that can be written and read back. -/
def IsSection (field : String × Datum) : Prop := ∃ s : Section, s.IsWritable ∧ s.toField = field

/-- A section may hold values only. -/
theorem isSection_of_isFlat {name : String} {fields : List (String × Datum)} (hname : IsName name)
    (h : IsFlat fields) : IsSection (name, .record fields) := by
  refine ⟨⟨name, fields, []⟩, ⟨hname, h, nofun, ?_⟩, ?_⟩
  · rw [List.map_nil, List.append_nil]
    exact h.distinct
  · rw [Section.toField, List.map_nil, List.append_nil]

theorem exists_sections {document : List (String × Datum)}
    (h : ∀ field ∈ document, IsSection field) :
    ∃ sections : List Section, (∀ s ∈ sections, s.IsWritable) ∧
      sections.map Section.toField = document := by
  induction document with
  | nil => exact ⟨[], nofun, rfl⟩
  | cons field document ih =>
      obtain ⟨s, hs, hfield⟩ := h field List.mem_cons_self
      obtain ⟨sections, hsections, hdocument⟩ :=
        ih fun other hother => h other (List.mem_cons_of_mem field hother)
      refine ⟨s :: sections, List.forall_mem_cons.2 ⟨hs, hsections⟩, ?_⟩
      rw [List.map_cons, hfield, hdocument]

/-- **A document is read back**, with blank lines behind it or without. -/
theorem read?_render {document : List (String × Datum)} (h : ∀ field ∈ document, IsSection field)
    (hdistinct : (document.map Prod.fst).Nodup) (hne : document ≠ []) {rest : String}
    (hrest : skipLines rest.toList = some []) :
    read? (render document ++ rest) = some document := by
  obtain ⟨sections, hsections, rfl⟩ := exists_sections h
  have hne' : sections ≠ [] := fun hnil => hne (List.map_eq_nil_iff.2 hnil)
  obtain ⟨part, more, hcons⟩ : ∃ part more, sections.flatMap Section.parts = part :: more := by
    obtain ⟨s, others, rfl⟩ := List.exists_cons_of_ne_nil hne'
    exact ⟨_, _, rfl⟩
  have htext : (render (sections.map Section.toField) ++ rest).toList =
      partsText (part :: more) rest.toList := by
    rw [String.toList_append, toList_render hsections hne', hcons]
  have hmark : dropMark (partsText (part :: more) rest.toList) =
      partsText (part :: more) rest.toList := rfl
  -- no value stands before the first header
  have hlines : readLines ((partsText (part :: more) rest.toList).length + 1)
      (partsText (part :: more) rest.toList) = some ([], partsText (part :: more) rest.toList) :=
    @readLines_writeLines [] nofun nofun _ _ (skipLines_partsText more rest.toList)
      (partsText_cases (part :: more) rest.toList) _ (Nat.succ_pos _)
  have hwritable : ∀ other ∈ part :: more, other.IsWritable := by
    intro other hother
    rw [← hcons] at hother
    obtain ⟨s, hs, hpart⟩ := List.mem_flatMap.1 hother
    exact (hsections s hs).parts other hpart
  have hblocks := readBlocks_partsText hwritable hrest
    (length_partsText (part :: more) rest.toList)
  have hroot : insertAll [] [] = some [] := rfl
  rw [List.map_map] at hdistinct
  have hdocument := @foldlM_sections sections hsections [] hdistinct
  rw [hcons] at hdocument
  rw [read?, htext, hmark, hlines]
  simp only [Option.bind_eq_bind, Option.bind_some, hblocks, hroot, hdocument, List.nil_append]
  rw [fieldsOf_eq_map, List.map_map]
  exact congrArg some (List.map_congr_left fun s _ => toDatum_node s)

end IsolationGate.Toml
