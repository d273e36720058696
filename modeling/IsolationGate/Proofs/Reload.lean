import IsolationGate.Proofs.Prediction
import IsolationGate.Proofs.PrintedConfig
import IsolationGate.Proofs.TomlRange

/-!
# Printed configurations can be loaded again

`check-config` prints the configuration that it has loaded. What it prints is a configuration file
for the same configuration, so it can be kept in place of the file that was checked, and checking it
prints it again.

Not every configuration can be printed: a configuration file has no whole number above `2 ^ 63 - 1`.
But a number that large never comes out of a configuration file, so no loaded configuration fails to
be printed.

## Main results

* `readSection_keeps` — a property that every setting of a section keeps holds of what is read.
* `fits_of_parse` — the numbers of a configuration that was read are small enough.
* `reloads_as_printed` — printing fails for large numbers only, and what is printed is loaded as the
  configuration that it shows, or refused for exactly the rules that this one breaks.
-/

namespace IsolationGate.Config

open Lifecycle (FileContent)
open Toml (IsInRange)

/-! ## Properties of sections -/

theorem exists_of_bind {ε α β : Type} {x : Except ε α} {f : α → Except ε β} {b : β}
    (h : x.bind f = .ok b) : ∃ a, x = .ok a ∧ f a = .ok b := by
  cases x with
  | error e => cases h
  | ok a => exact ⟨a, rfl, h⟩

theorem exists_of_map {ε α β : Type} {x : Except ε α} {f : α → β} {b : β}
    (h : x.map f = .ok b) : ∃ a, x = .ok a ∧ f a = b := by
  cases x with
  | error e => cases h
  | ok a => exact ⟨a, rfl, Except.ok.inj h⟩

namespace Slot

variable {σ α : Type} {P : σ → Prop}

/-- Whatever a setting reads, the section keeps the property. -/
def Keeps (P : σ → Prop) (slot : Slot σ) : Prop :=
  ∀ datum before after, IsInRange datum → P before → slot.read datum before = .ok after → P after

theorem keeps_of {name : String} {read : Datum → Except DataError α} {put : α → σ → σ}
    (h : ∀ datum value before, IsInRange datum → read datum = .ok value → P before →
      P (put value before)) : (of name read put).Keeps P := by
  intro datum before after hdatum hbefore hread
  obtain ⟨value, hvalue, rfl⟩ := exists_of_map hread
  exact h datum value before hdatum hvalue hbefore

/-- The fields of a record keep what every setting keeps, by induction on them. -/
theorem readFields_keeps {slots : List (Slot σ)} (hslots : ∀ slot ∈ slots, slot.Keeps P)
    {fields : List (String × Datum)} (hfields : ∀ field ∈ fields, IsInRange field.2)
    {before after : σ} (hbefore : P before) (h : readFields slots fields before = .ok after) :
    P after := by
  induction fields generalizing before with
  | nil =>
      cases h
      exact hbefore
  | cons field fields ih =>
      obtain ⟨name, datum⟩ := field
      obtain ⟨hdatum, hrest⟩ := List.forall_mem_cons.1 hfields
      rw [readFields] at h
      split at h
      · next slot hslot =>
          obtain ⟨next, hread, h⟩ := exists_of_bind h
          have hkeeps := hslots slot (List.mem_of_find?_eq_some hslot)
          exact ih hrest (hkeeps datum before next hdatum hbefore hread) h
      · exact ih hrest hbefore h

/-- So do the items of a list. -/
theorem readItems_keeps {slots : List (Slot σ)} (hslots : ∀ slot ∈ slots, slot.Keeps P)
    {items : List Datum} (hitems : ∀ item ∈ items, IsInRange item) {before after : σ}
    (hbefore : P before) (h : readItems slots items before = .ok after) : P after := by
  induction slots generalizing items before with
  | nil =>
      cases h
      exact hbefore
  | cons slot slots ih =>
      cases items with
      | nil =>
          cases h
          exact hbefore
      | cons item items =>
          obtain ⟨hitem, hrest⟩ := List.forall_mem_cons.1 hitems
          obtain ⟨hslot, hothers⟩ := List.forall_mem_cons.1 hslots
          obtain ⟨next, hread, h⟩ := exists_of_bind h
          exact ih hothers hrest (hslot item before next hitem hbefore hread) h

end Slot

/-- **A section has every property that it starts with and all its settings keep.** -/
theorem readSection_keeps {σ : Type} {P : σ → Prop} {dialect : Dialect} {expected : String}
    {slots : List (Slot σ)} (hslots : ∀ slot ∈ slots, slot.Keeps P) {start state : σ}
    (hstart : P start) {datum : Datum} (hdatum : IsInRange datum)
    (h : readSection dialect expected slots start datum = .ok state) : P state := by
  have hlist : ∀ {items : List Datum}, (∀ item ∈ items, IsInRange item) →
      (Slot.readItems slots items start).bind (fun read =>
        if dialect = .json ∧ slots.length < items.length then
          .error (.wrongLength items.length "fewer elements in array") else .ok read) = .ok state →
      P state := by
    intro items hitems h
    obtain ⟨read, hread, h⟩ := exists_of_bind h
    split at h
    · cases h
    · cases h
      exact Slot.readItems_keeps hslots hitems hstart hread
  cases hdatum with
  | record hfields => exact Slot.readFields_keeps hslots hfields hstart h
  | list hitems => exact hlist hitems h
  | tables hitems => exact hlist hitems h
  | moment =>
      cases h
      exact hstart
  | null | boolean | integer | real | text => cases h

/-! ## Numbers of configurations -/

theorem le_of_readCount {dialect : Dialect} {type : String} {datum : Datum} {n : Nat}
    (hdatum : IsInRange datum) (h : readCount dialect type datum = .ok n) :
    n ≤ greatestInteger := by
  cases hdatum with
  | @integer value hvalue =>
      cases value with
      | ofNat m =>
          cases h
          rw [greatestInteger]
          generalize Nat.pow 2 63 = bound at hvalue ⊢
          have hlt : (n : Int) < bound := hvalue
          omega
      | negSucc m => cases h
  | null | boolean | real | moment | text | list | tables | record => cases h

theorem requestSecs_of_readTimeouts {dialect : Dialect} {datum : Datum} {s : Timeouts}
    (hdatum : IsInRange datum) (h : readTimeouts dialect datum = .ok s) :
    s.requestSecs ≤ greatestInteger := by
  refine readSection_keeps (P := fun s => s.requestSecs ≤ greatestInteger) ?_ (by decide) hdatum h
  refine List.forall_mem_singleton.2 (Slot.keeps_of fun datum value before hdatum hread _ => ?_)
  exact le_of_readCount hdatum hread

theorem maxBodyBytes_of_readLimits {dialect : Dialect} {datum : Datum} {s : Limits}
    (hdatum : IsInRange datum) (h : readLimits dialect datum = .ok s) :
    s.maxBodyBytes ≤ greatestInteger := by
  refine readSection_keeps (P := fun s => s.maxBodyBytes ≤ greatestInteger) ?_ (by decide) hdatum h
  refine List.forall_mem_singleton.2 (Slot.keeps_of fun datum value before hdatum hread _ => ?_)
  exact le_of_readCount hdatum hread

/-- The two sections with numbers are checked, the others have none. -/
theorem fits_of_ofDatum {dialect : Dialect} {datum : Datum} {c : Config} (hdatum : IsInRange datum)
    (h : ofDatum dialect datum = .ok c) : c.fits = true := by
  refine readSection_keeps (P := fun c => c.fits = true) ?_ (by decide) hdatum h
  have hsame : ∀ {α : Type} {name : String} {read : Datum → Except DataError α}
      {put : α → Config → Config}, (∀ value before, (put value before).fits = before.fits) →
      (Slot.of name read put).Keeps fun c => c.fits = true := by
    intro α name read put hput
    refine Slot.keeps_of fun datum value before hdatum hread hbefore => ?_
    rw [hput]
    exact hbefore
  have htimeouts : (Slot.of "timeouts" (readTimeouts dialect) fun value (state : Config) =>
      { state with timeouts := value }).Keeps fun c => c.fits = true :=
    Slot.keeps_of fun datum value before hdatum hread hbefore =>
      fits_iff.2 ⟨requestSecs_of_readTimeouts hdatum hread, (fits_iff.1 hbefore).2⟩
  have hlimits : (Slot.of "limits" (readLimits dialect) fun value (state : Config) =>
      { state with limits := value }).Keeps fun c => c.fits = true :=
    Slot.keeps_of fun datum value before hdatum hread hbefore =>
      fits_iff.2 ⟨(fits_iff.1 hbefore).1, maxBodyBytes_of_readLimits hdatum hread⟩
  simp only [List.forall_mem_cons]
  exact ⟨hsame fun _ _ => rfl, hsame fun _ _ => rfl, htimeouts, hlimits, hsame fun _ _ => rfl,
    hsame fun _ _ => rfl, hsame fun _ _ => rfl, hsame fun _ _ => rfl, hsame fun _ _ => rfl, nofun⟩

/-- **What is read from a text can be printed.** -/
theorem fits_of_parse {text : String} {c : Config} (h : parse text = .ok c) : c.fits = true := by
  rw [parse] at h
  split at h
  · cases h
  · next fields hread =>
      split at h
      · next read hdecode =>
          cases h
          exact fits_of_ofDatum (Toml.isInRange_of_read? hread) hdecode
      · cases h

theorem fits_of_load {text : String} {c : Config} (h : load text = .ok c) : c.fits = true := by
  obtain ⟨parsed, hparse, hvalid⟩ := exists_of_bind h
  rw [validated] at hvalid
  split at hvalid
  · cases hvalid
    exact fits_of_parse hparse
  · cases hvalid

theorem fits_of_loadConfig {file : Option FileContent} {c : Config}
    (h : Command.loadConfig file = .ok c) : c.fits = true := by
  cases file with
  | none =>
      cases h
      decide
  | some content =>
      obtain ⟨text, -, hload⟩ := exists_of_bind h
      exact fits_of_load hload

/-! ## Printing and loading -/

theorem render?_eq_none_iff {c : Config} :
    c.render? = none ↔
      greatestInteger < c.timeouts.requestSecs ∨ greatestInteger < c.limits.maxBodyBytes := by
  have hnone : c.render? = none ↔ ¬ c.fits = true := by
    rw [render?, document?]
    split
    · next hfits => simp [hfits]
    · next hfits => simp [hfits]
  rw [hnone, fits_iff, Decidable.not_and_iff_not_or_not, Nat.not_le, Nat.not_le]

theorem render?_of_fits {c : Config} (h : c.fits = true) :
    c.render? = some (Toml.render c.document) := render?_eq_some_iff.2 ⟨h, rfl⟩

/-- What `check-config` prints for a configuration that fits. -/
theorem checkConfig_of_loadConfig {file : Option FileContent} {c : Config}
    (h : Command.loadConfig file = .ok c) :
    Command.checkConfig file =
      .ok ⟨Toml.render c.document ++ "\n", "configuration OK\n"⟩ := by
  rw [Command.checkConfig, h]
  dsimp only
  rw [render?_of_fits (fits_of_loadConfig h)]

/-- **Configurations reload as they are printed.** A configuration cannot be printed exactly when
one of its numbers is too large. Otherwise its text is loaded as the same configuration if that
breaks no rule, and is refused for the rules that it breaks if it does. So every configuration that
was loaded can be printed and loaded again, and what `check-config` prints is loaded as what it
loaded, and is printed by it unchanged. -/
theorem reloads_as_printed (c : Config) :
    (c.render? = none ↔
      Nat.pow 2 63 - 1 < c.timeouts.requestSecs ∨ Nat.pow 2 63 - 1 < c.limits.maxBodyBytes) ∧
    (∀ text, c.render? = some text →
      load text = if c.violations = [] then .ok c else .error (.invalid c.violations)) ∧
    (∀ source, load source = .ok c → ∃ text, c.render? = some text ∧ load text = .ok c) ∧
    ∀ file, Command.loadConfig file = .ok c →
      ∃ output, Command.checkConfig file = .ok output ∧ load output.stdout = .ok c ∧
        Command.checkConfig (some (some (Text.bytesOf output.stdout))) = .ok output := by
  have hempty : Toml.skipLines "".toList = some [] := rfl
  have hline : Toml.skipLines "\n".toList = some [] := rfl
  have hvalid : c.violations = [] → validated c = .ok c := fun h => if_pos h
  refine ⟨render?_eq_none_iff, fun text htext => ?_, fun source hsource => ?_,
    fun file hfile => ?_⟩
  · have hload := load_of_render? htext hempty
    rw [String.append_empty] at hload
    exact hload
  · have htext := render?_of_fits (fits_of_load hsource)
    have hload := load_of_render? htext hempty
    rw [String.append_empty, hvalid (violations_of_load hsource)] at hload
    exact ⟨_, htext, hload⟩
  · have hload := load_of_render? (render?_of_fits (fits_of_loadConfig hfile)) hline
    rw [hvalid (Command.violations_of_loadConfig hfile)] at hload
    have hagain : Command.loadConfig
        (some (some (Text.bytesOf (Toml.render c.document ++ "\n")))) = .ok c := by
      rw [Command.loadConfig, loadFile, readFile, Text.decode?_bytesOf]
      dsimp only [Except.bind]
      exact hload
    exact ⟨_, checkConfig_of_loadConfig hfile, hload, checkConfig_of_loadConfig hagain⟩

/-- A configuration with texts that need every kind of quotes, and with options that are set and
options that are not. -/
def awkward : Config where
  listener := { tls := some ⟨"/tls/a\tb\n\"c\"", "/tls/it's \\ \"here\""⟩ }
  fetchMetadata := { exemptedPaths := .ofList ["/b,c", "/a\nb", " /a'''b ", "/a\x7fb"] }
  content := { reportUri := some "/a'b" }
  observability := { logFormat := .json, logLevel := "info,\"x\"" }

/-- It is valid, so it is printed and loaded again as it is. -/
theorem awkward_reloaded :
    awkward.violations = [] ∧ ∃ text, awkward.render? = some text ∧ load text = .ok awkward := by
  have hvalid : awkward.violations = [] := by decide +kernel
  obtain ⟨hnone, hload, -, -⟩ := reloads_as_printed awkward
  refine ⟨hvalid, ?_⟩
  cases htext : awkward.render? with
  | none =>
      have hlarge := hnone.1 htext
      revert hlarge
      decide
  | some text =>
      have hloaded := hload text htext
      rw [if_pos hvalid] at hloaded
      exact ⟨text, rfl, hloaded⟩

end IsolationGate.Config
