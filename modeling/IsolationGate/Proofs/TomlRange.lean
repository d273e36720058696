import IsolationGate.Proofs.TomlDocument

/-!
# The numbers of a configuration file

No whole number of a file that is read is above `2 ^ 63 - 1`, wherever it stands: a number is
refused when it is read, and the tables that grow from the lines only move what was read.

## Main results

* `isInRange_readValue` — no value has a number that is too large.
* `AreInRange.insertValue`, `AreInRange.addBlock` — the tables have none as long as the values have
  none.
* `isInRange_of_read?` — neither has the whole file.
-/

namespace IsolationGate.Toml

/-- No whole number in the datum is too large for a configuration file. -/
inductive IsInRange : Datum → Prop where
  | null : IsInRange .null
  | boolean (value : Bool) : IsInRange (.boolean value)
  | integer {value : Int} (h : value < (Nat.pow 2 63 : Nat)) : IsInRange (.integer value)
  | real (value : Number.Binary64) : IsInRange (.real value)
  | moment (text : String) : IsInRange (.moment text)
  | text (value : String) : IsInRange (.text value)
  | list {items : List Datum} (h : ∀ item ∈ items, IsInRange item) : IsInRange (.list items)
  | tables {items : List Datum} (h : ∀ item ∈ items, IsInRange item) : IsInRange (.tables items)
  | record {fields : List (String × Datum)} (h : ∀ field ∈ fields, IsInRange field.2) :
      IsInRange (.record fields)

variable {d : Datum} {cs rest : List Char}

/-! ## Numbers -/

theorem isInRange_of_integer? {n : Int} (h : integer? n = some d) : IsInRange d := by
  rw [integer?] at h
  split at h
  · next hn =>
      cases h
      exact .integer hn.2
  · cases h

theorem isInRange_of_real? {x : Number.Binary64} (h : real? x = some d) : IsInRange d := by
  rw [real?] at h
  split at h
  · cases h
  · cases h
    exact .real x

theorem isInRange_of_readMarked {base : Nat} (h : readMarked base cs = some (d, rest)) :
    IsInRange d := by
  rw [readMarked, Option.bind_eq_bind, Option.bind_eq_some_iff] at h
  obtain ⟨⟨digits, after⟩, -, h⟩ := h
  obtain ⟨value, hvalue, h⟩ := Option.bind_eq_some_iff.1 h
  cases h
  exact isInRange_of_integer? hvalue

theorem isInRange_of_readDecimal {negative : Bool} (h : readDecimal negative cs = some (d, rest)) :
    IsInRange d := by
  rw [readDecimal, Option.bind_eq_bind, Option.bind_eq_some_iff] at h
  obtain ⟨⟨whole, afterWhole⟩, -, h⟩ := h
  dsimp only at h
  split at h
  · cases h
  · obtain ⟨⟨fraction, afterFraction⟩, -, h⟩ := Option.bind_eq_some_iff.1 h
    obtain ⟨⟨exponent, afterExponent⟩, -, h⟩ := Option.bind_eq_some_iff.1 h
    dsimp only at h
    split at h
    · obtain ⟨value, hvalue, h⟩ := Option.bind_eq_some_iff.1 h
      cases h
      exact isInRange_of_real? hvalue
    · obtain ⟨value, hvalue, h⟩ := Option.bind_eq_some_iff.1 h
      cases h
      exact isInRange_of_integer? hvalue

theorem isInRange_of_readSigned {negative : Bool} (h : readSigned negative cs = some (d, rest)) :
    IsInRange d := by
  unfold readSigned at h
  split at h
  · cases h
    exact .real _
  · cases h
    exact .real _
  · exact isInRange_of_readDecimal h

/-- **A number is refused when it is too large.** -/
theorem isInRange_of_readNumber (h : readNumber cs = some (d, rest)) : IsInRange d := by
  unfold readNumber at h
  split at h
  · exact isInRange_of_readMarked h
  · exact isInRange_of_readMarked h
  · exact isInRange_of_readMarked h
  · exact isInRange_of_readSigned h

theorem isInRange_of_readScalar (h : readScalar cs = some (d, rest)) : IsInRange d := by
  unfold readScalar at h
  split at h
  · cases h
    exact .boolean true
  · cases h
    exact .boolean false
  · split at h
    · obtain ⟨⟨text, after⟩, -, h⟩ := Option.map_eq_some_iff.1 h
      cases h
      exact .text text
    · split at h
      · cases h
        exact .moment _
      · cases h
      · exact isInRange_of_readNumber h
  · cases h

/-! ## Growing tables -/

/-- No whole number under the entries is too large. -/
def AreInRange (entries : Entries) : Prop := ∀ entry ∈ entries, IsInRange entry.2.toDatum

theorem isInRange_record_iff {entries : Entries} :
    IsInRange (.record (fieldsOf entries)) ↔ AreInRange entries := by
  rw [fieldsOf_eq_map]
  constructor
  · rintro ⟨⟩
    next h => exact fun entry hentry => h _ (List.mem_map_of_mem hentry)
  · intro h
    refine .record fun field hfield => ?_
    obtain ⟨entry, hentry, rfl⟩ := List.mem_map.1 hfield
    exact h entry hentry

theorem isInRange_table_iff {origin : TableOrigin} {entries : Entries} :
    IsInRange (Node.table origin entries).toDatum ↔ AreInRange entries := by
  rw [Node.toDatum, isInRange_record_iff]

theorem itemsOf_eq_map (nodes : List Node) : itemsOf nodes = nodes.map Node.toDatum := by
  induction nodes with
  | nil => rfl
  | cons node nodes ih => rw [itemsOf, ih, List.map_cons]

theorem isInRange_tables_iff {finished : List Node} {last : Node} :
    IsInRange (Node.tables finished last).toDatum ↔
      (∀ node ∈ finished, IsInRange node.toDatum) ∧ IsInRange last.toDatum := by
  rw [Node.toDatum, itemsOf_eq_map]
  constructor
  · rintro ⟨⟩
    next h =>
      refine ⟨fun node hnode => h _ ?_, h _ ?_⟩
      · exact List.mem_append_left _ (List.mem_map_of_mem hnode)
      · exact List.mem_append_right _ List.mem_cons_self
  · rintro ⟨hfinished, hlast⟩
    refine .tables fun item hitem => ?_
    rcases List.mem_append.1 hitem with hitem | hitem
    · obtain ⟨node, hnode, rfl⟩ := List.mem_map.1 hitem
      exact hfinished node hnode
    · rw [List.mem_singleton.1 hitem]
      exact hlast

namespace AreInRange

variable {entries result : Entries}

theorem nil : AreInRange [] := List.forall_mem_nil _

theorem cons {entry : String × Node} (h : AreInRange entries) (hentry : IsInRange entry.2.toDatum) :
    AreInRange (entry :: entries) := List.forall_mem_cons.2 ⟨hentry, h⟩

theorem append {more : Entries} (h : AreInRange entries) (hmore : AreInRange more) :
    AreInRange (entries ++ more) := List.forall_mem_append.2 ⟨h, hmore⟩

/-- A change keeps the range if it does so at the one entry that it is about. -/
theorem alter {change : Option Node → Option Node} {key : String} (h : AreInRange entries)
    (hchange : ∀ known new, (∀ node ∈ known, IsInRange node.toDatum) → change known = some new →
      IsInRange new.toDatum)
    (halter : Toml.alter change key entries = some result) : AreInRange result := by
  induction entries generalizing result with
  | nil =>
      obtain ⟨new, hnew, rfl⟩ := Option.map_eq_some_iff.1 halter
      exact nil.cons (hchange none new nofun hnew)
  | cons entry entries ih =>
      obtain ⟨other, node⟩ := entry
      have hnode : IsInRange node.toDatum := (List.forall_mem_cons.1 h).1
      have hentries : AreInRange entries := (List.forall_mem_cons.1 h).2
      rw [Toml.alter] at halter
      split at halter
      · obtain ⟨new, hnew, rfl⟩ := Option.map_eq_some_iff.1 halter
        refine hentries.cons (hchange (some node) new ?_ hnew)
        rintro known ⟨⟩
        exact hnode
      · obtain ⟨more, hmore, rfl⟩ := Option.map_eq_some_iff.1 halter
        exact (ih hentries hmore).cons hnode

/-- **A dotted key brings in its value and nothing else**, by induction on the key. -/
theorem insertValue {d : Datum} (hd : IsInRange d) {key : List String} (h : AreInRange entries)
    (hinsert : Toml.insertValue d key entries = some result) : AreInRange result := by
  induction key generalizing entries result with
  | nil => cases hinsert
  | cons name path ih =>
      cases path with
      | nil =>
          refine h.alter (fun known new hknown hnew => ?_) hinsert
          cases known with
          | none =>
              cases hnew
              rw [Node.toDatum]
              exact hd
          | some node => cases hnew
      | cons next path =>
          -- the value goes into a new table, into one that is there, or into the last of a list
          refine h.alter (fun known new hknown hnew => ?_) hinsert
          split at hnew
          · obtain ⟨inner, hinner, rfl⟩ := Option.map_eq_some_iff.1 hnew
            exact isInRange_table_iff.2 (ih nil hinner)
          · split at hnew
            · cases hnew
            · obtain ⟨inner, hinner, rfl⟩ := Option.map_eq_some_iff.1 hnew
              exact isInRange_table_iff.2 (ih (isInRange_table_iff.1 (hknown _ rfl)) hinner)
          · split at hnew
            · cases hnew
            · obtain ⟨inner, hinner, rfl⟩ := Option.map_eq_some_iff.1 hnew
              obtain ⟨hfinished, hlast⟩ := isInRange_tables_iff.1 (hknown _ rfl)
              exact isInRange_tables_iff.2 ⟨hfinished, isInRange_table_iff.2
                (ih (isInRange_table_iff.1 hlast) hinner)⟩
          · cases hnew

/-- Headers lead to one table, and the others stay as they are. -/
theorem descend {change : Entries → Option Entries}
    (hchange : ∀ {inner changed}, AreInRange inner → change inner = some changed →
      AreInRange changed)
    {path : List String} (h : AreInRange entries)
    (hdescend : Toml.descend change path entries = some result) : AreInRange result := by
  induction path generalizing entries result with
  | nil => exact hchange h hdescend
  | cons name path ih =>
      refine h.alter (fun known new hknown hnew => ?_) hdescend
      split at hnew
      · obtain ⟨inner, hinner, rfl⟩ := Option.map_eq_some_iff.1 hnew
        exact isInRange_table_iff.2 (ih nil hinner)
      · obtain ⟨inner, hinner, rfl⟩ := Option.map_eq_some_iff.1 hnew
        exact isInRange_table_iff.2 (ih (isInRange_table_iff.1 (hknown _ rfl)) hinner)
      · obtain ⟨inner, hinner, rfl⟩ := Option.map_eq_some_iff.1 hnew
        obtain ⟨hfinished, hlast⟩ := isInRange_tables_iff.1 (hknown _ rfl)
        exact isInRange_tables_iff.2 ⟨hfinished, isInRange_table_iff.2
          (ih (isInRange_table_iff.1 hlast) hinner)⟩
      · cases hnew

theorem takeOut {name : String} (h : AreInRange entries) {known others : Entries}
    (htake : Toml.takeOut name entries = some (known, others)) :
    AreInRange known ∧ AreInRange others := by
  rw [Toml.takeOut] at htake
  split at htake
  · cases htake
    exact ⟨nil, h⟩
  · next inner hlookup =>
      cases htake
      obtain ⟨before, after, hentries, -⟩ := List.lookup_eq_some_iff.1 hlookup
      have hinner := h (name, .table .onTheWay known) (by simp [hentries])
      exact ⟨isInRange_table_iff.1 hinner, fun entry hentry => h entry (List.mem_filter.1 hentry).1⟩
  · cases htake

theorem pushTable {name : String} {table : Entries} (htable : AreInRange table)
    (h : AreInRange entries) (hpush : Toml.pushTable name table entries = some result) :
    AreInRange result := by
  refine h.alter (fun known new hknown hnew => ?_) hpush
  have hlast : IsInRange (Node.table .header table).toDatum := isInRange_table_iff.2 htable
  split at hnew
  · cases hnew
    exact isInRange_tables_iff.2 ⟨List.forall_mem_nil _, hlast⟩
  · next finished last =>
      cases hnew
      obtain ⟨hfinished, hbefore⟩ := isInRange_tables_iff.1 (hknown _ rfl)
      refine isInRange_tables_iff.2 ⟨?_, hlast⟩
      exact List.forall_mem_append.2 ⟨hfinished, List.forall_mem_singleton.2 hbefore⟩
  · cases hnew

theorem insertAll {pairs : Pairs} (hpairs : ∀ pair ∈ pairs, IsInRange pair.2)
    (h : AreInRange entries) (hinsert : Toml.insertAll pairs entries = some result) :
    AreInRange result := by
  induction pairs generalizing entries with
  | nil =>
      cases hinsert
      exact h
  | cons pair pairs ih =>
      rw [Toml.insertAll, List.foldlM_cons, Option.bind_eq_bind, Option.bind_eq_some_iff] at hinsert
      obtain ⟨next, hnext, hrest⟩ := hinsert
      obtain ⟨hpair, hothers⟩ := List.forall_mem_cons.1 hpairs
      exact ih hothers (insertValue hpair h hnext) hrest

/-- **A block brings in its values and nothing else.** -/
theorem addBlock {block : Block} (hpairs : ∀ pair ∈ block.pairs, IsInRange pair.2)
    (h : AreInRange entries) (hadd : Toml.addBlock entries block = some result) :
    AreInRange result := by
  rw [Toml.addBlock] at hadd
  split at hadd
  · cases hadd
  · refine descend (fun {inner changed} hinner hchanged => ?_) h hadd
    split at hchanged
    · obtain ⟨table, htable, hpush⟩ := Option.bind_eq_some_iff.1 hchanged
      exact pushTable (insertAll hpairs nil htable) hinner hpush
    · obtain ⟨⟨known, others⟩, htake, hchanged⟩ := Option.bind_eq_some_iff.1 hchanged
      obtain ⟨hknown, hothers⟩ := hinner.takeOut htake
      obtain ⟨table, htable, hput⟩ := Option.bind_eq_some_iff.1 hchanged
      cases hput
      exact hothers.append (nil.cons (isInRange_table_iff.2 (insertAll hpairs hknown htable)))

theorem foldlM_addBlock {blocks : List Block}
    (hblocks : ∀ block ∈ blocks, ∀ pair ∈ block.pairs, IsInRange pair.2) (h : AreInRange entries)
    (hadd : blocks.foldlM Toml.addBlock entries = some result) : AreInRange result := by
  induction blocks generalizing entries with
  | nil =>
      cases hadd
      exact h
  | cons block blocks ih =>
      rw [List.foldlM_cons, Option.bind_eq_bind, Option.bind_eq_some_iff] at hadd
      obtain ⟨next, hnext, hrest⟩ := hadd
      obtain ⟨hblock, hothers⟩ := List.forall_mem_cons.1 hblocks
      exact ih hothers (addBlock hblock h hnext) hrest

end AreInRange

/-! ## Values -/

/-- **No value has a number that is too large**, nor has an item or a pair: by induction on the
nesting that the three readers share. -/
theorem isInRange_read (fuel : Nat) :
    (∀ depth cs d rest, readValue fuel depth cs = some (d, rest) → IsInRange d) ∧
      (∀ depth cs items rest, readItems fuel depth cs = some (items, rest) →
        ∀ item ∈ items, IsInRange item) ∧
      ∀ depth cs entries result rest, AreInRange entries →
        readPairs fuel depth cs entries = some (result, rest) → AreInRange result := by
  induction fuel with
  | zero =>
      refine ⟨fun _ _ _ _ h => ?_, fun _ _ _ _ h => ?_, fun _ _ _ _ _ _ h => ?_⟩
      · cases h
      · cases h
      · cases h
  | succ fuel ih =>
      obtain ⟨hvalue, hitems, hpairs⟩ := ih
      refine ⟨fun depth cs d rest h => ?_, fun depth cs items rest h => ?_,
        fun depth cs entries result rest hentries h => ?_⟩
      · unfold readValue at h
        split at h
        · obtain ⟨start, -, h⟩ := Option.bind_eq_some_iff.1 h
          obtain ⟨⟨items, after⟩, hread, h⟩ := Option.bind_eq_some_iff.1 h
          cases h
          exact .list (hitems _ _ _ _ hread)
        · split at h
          · cases h
            exact .record (List.forall_mem_nil _)
          · obtain ⟨⟨entries, after⟩, hread, h⟩ := Option.map_eq_some_iff.1 h
            cases h
            exact isInRange_record_iff.2 (hpairs _ _ _ _ _ .nil hread)
        · cases h
        · cases h
        · exact isInRange_of_readScalar h
      · unfold readItems at h
        split at h
        · cases h
          exact List.forall_mem_nil _
        · obtain ⟨⟨item, afterItem⟩, hread, h⟩ := Option.bind_eq_some_iff.1 h
          obtain ⟨next, -, h⟩ := Option.bind_eq_some_iff.1 h
          have hitem := hvalue _ _ _ _ hread
          dsimp only at h
          split at h
          · obtain ⟨more, -, h⟩ := Option.bind_eq_some_iff.1 h
            obtain ⟨⟨others, after⟩, hothers, h⟩ := Option.bind_eq_some_iff.1 h
            cases h
            exact List.forall_mem_cons.2 ⟨hitem, hitems _ _ _ _ hothers⟩
          · cases h
            exact List.forall_mem_singleton.2 hitem
          · cases h
      · unfold readPairs at h
        obtain ⟨⟨key, afterKey⟩, -, h⟩ := Option.bind_eq_some_iff.1 h
        dsimp only at h
        split at h
        · obtain ⟨⟨value, afterValue⟩, hread, h⟩ := Option.bind_eq_some_iff.1 h
          obtain ⟨grown, hinsert, h⟩ := Option.bind_eq_some_iff.1 h
          have hgrown := hentries.insertValue (hvalue _ _ _ _ hread) hinsert
          dsimp only at h
          split at h
          · exact hpairs _ _ _ _ _ hgrown h
          · cases h
            exact hgrown
          · cases h
        · cases h

/-! ## Lines and files -/

theorem isInRange_of_readKeyValue {key : List String}
    (h : readKeyValue cs = some (key, d, rest)) : IsInRange d := by
  rw [readKeyValue, Option.bind_eq_bind, Option.bind_eq_some_iff] at h
  obtain ⟨⟨name, afterKey⟩, -, h⟩ := h
  dsimp only at h
  split at h
  · obtain ⟨⟨value, afterValue⟩, hread, h⟩ := Option.bind_eq_some_iff.1 h
    obtain ⟨after, -, h⟩ := Option.bind_eq_some_iff.1 h
    cases h
    exact (isInRange_read _).1 _ _ _ _ hread
  · cases h

theorem isInRange_of_readLines {fuel : Nat} {pairs : Pairs}
    (h : readLines fuel cs = some (pairs, rest)) : ∀ pair ∈ pairs, IsInRange pair.2 := by
  induction fuel generalizing cs pairs rest with
  | zero => cases h
  | succ fuel ih =>
      rw [readLines, Option.bind_eq_bind, Option.bind_eq_some_iff] at h
      obtain ⟨start, -, h⟩ := h
      dsimp only at h
      split at h
      · cases h
        exact List.forall_mem_nil _
      · cases h
        exact List.forall_mem_nil _
      · obtain ⟨⟨key, value, afterValue⟩, hvalue, h⟩ := Option.bind_eq_some_iff.1 h
        obtain ⟨⟨others, after⟩, hothers, h⟩ := Option.bind_eq_some_iff.1 h
        cases h
        exact List.forall_mem_cons.2 ⟨isInRange_of_readKeyValue hvalue, ih hothers⟩

theorem isInRange_of_readBlocks {fuel : Nat} {blocks : List Block}
    (h : readBlocks fuel cs = some blocks) :
    ∀ block ∈ blocks, ∀ pair ∈ block.pairs, IsInRange pair.2 := by
  induction fuel generalizing cs blocks with
  | zero => cases h
  | succ fuel ih =>
      cases cs with
      | nil =>
          cases h
          exact List.forall_mem_nil _
      | cons c cs =>
          rw [readBlocks, Option.bind_eq_bind, Option.bind_eq_some_iff] at h
          · obtain ⟨⟨ofList, key, afterHeader⟩, -, h⟩ := h
            obtain ⟨⟨pairs, afterLines⟩, hpairs, h⟩ := Option.bind_eq_some_iff.1 h
            obtain ⟨others, hothers, h⟩ := Option.bind_eq_some_iff.1 h
            cases h
            exact List.forall_mem_cons.2 ⟨isInRange_of_readLines hpairs, ih hothers⟩
          · exact List.cons_ne_nil c cs

/-- **No whole number of a file is too large.** -/
theorem isInRange_of_read? {s : String} {fields : List (String × Datum)}
    (h : read? s = some fields) : IsInRange (.record fields) := by
  rw [read?, Option.bind_eq_bind, Option.bind_eq_some_iff] at h
  obtain ⟨⟨pairs, afterPairs⟩, hpairs, h⟩ := h
  obtain ⟨blocks, hblocks, h⟩ := Option.bind_eq_some_iff.1 h
  obtain ⟨root, hroot, h⟩ := Option.bind_eq_some_iff.1 h
  obtain ⟨document, hdocument, h⟩ := Option.bind_eq_some_iff.1 h
  cases h
  have hentries : AreInRange root := .insertAll (isInRange_of_readLines hpairs) .nil hroot
  exact isInRange_record_iff.2
    (hentries.foldlM_addBlock (isInRange_of_readBlocks hblocks) hdocument)

end IsolationGate.Toml
