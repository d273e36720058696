import IsolationGate.Config.Load
import IsolationGate.Proofs.TomlDocument

/-!
# Printed configurations are read back

The text of a configuration is the text of a document whose fields are the sections. Both halves of
reading meet at that document: `Toml.read?_render` gives it back from the text when its fields are
sections that can be written, and `ofDatum` gives the configuration back from its fields. An option
that is not set has no field, and gets its default, which is that it is not set.

## Main results

* `ofDatum_document` — from the data of a configuration the configuration is read, whatever its
  settings are.
* `isSection_document` — the data can be written unless a number is too large.
* `parse_of_render?`, `load_of_render?` — the text is read as the configuration, and is loaded
  exactly when the configuration is valid.
-/

namespace IsolationGate.Config

open Policy (ExemptedPaths)
open Toml (IsFlat IsName IsPlain IsSection)

/-! ## Sections from their data -/

/-- Exempted paths are read back from their list, each as it is. -/
theorem readPaths_pathsDatum (e : ExemptedPaths) : readPaths (pathsDatum e) = .ok e :=
  readPaths_eq_ok_iff.2 (.inr ⟨e.paths, rfl, e.ofList_paths⟩)

/-- The exempted paths are the last setting of their sections. -/
theorem readLast_paths {σ : Type} (put : ExemptedPaths → σ) (e : ExemptedPaths) :
    ((readPaths (pathsDatum e)).map put).bind .ok = .ok (put e) := by
  rw [readPaths_pathsDatum]
  rfl

@[simp] theorem readListener_toDatum (s : Listener) :
    readListener .toml (dropUnset s.toDatum) = .ok s := by
  obtain ⟨bindAddress, tls⟩ := s
  cases tls <;> rfl

@[simp] theorem readOrigin_toDatum (s : Origin) :
    readOrigin .toml (dropUnset s.toDatum) = .ok s := by
  obtain ⟨address⟩ := s
  cases address <;> rfl

@[simp] theorem readTimeouts_toDatum (s : Timeouts) :
    readTimeouts .toml (dropUnset s.toDatum) = .ok s := rfl

@[simp] theorem readLimits_toDatum (s : Limits) :
    readLimits .toml (dropUnset s.toDatum) = .ok s := rfl

@[simp] theorem readFetchMetadata_toDatum (s : FetchMetadata) :
    readFetchMetadata .toml (dropUnset s.toDatum) = .ok s :=
  readLast_paths (fun paths : ExemptedPaths => ({ s with exemptedPaths := paths } : FetchMetadata))
    s.exemptedPaths

@[simp] theorem readOpener_toDatum (s : Opener) :
    readOpener .toml (dropUnset s.toDatum) = .ok s :=
  readLast_paths (fun paths : ExemptedPaths => ({ s with exemptedPaths := paths } : Opener))
    s.exemptedPaths

@[simp] theorem readEmbedder_toDatum (s : Embedder) :
    readEmbedder .toml (dropUnset s.toDatum) = .ok s :=
  readLast_paths (fun paths : ExemptedPaths => ({ s with exemptedPaths := paths } : Embedder))
    s.exemptedPaths

@[simp] theorem readContent_toDatum (s : Content) :
    readContent .toml (dropUnset s.toDatum) = .ok s := by
  obtain ⟨enabled, reportOnly, reportUri⟩ := s
  cases reportUri <;> rfl

@[simp] theorem readObservability_toDatum (s : Observability) :
    readObservability .toml (dropUnset s.toDatum) = .ok s := by
  obtain ⟨logLevel, logFormat, metricsEnabled, metricsAddress⟩ := s
  cases logFormat <;> rfl

/-- The fields of the configuration file for a configuration. -/
def document (c : Config) : List (String × Datum) :=
  c.sections.map fun (name, datum) => (name, dropUnset datum)

/-- **A configuration is read back from its data.** -/
theorem ofDatum_document (c : Config) : ofDatum .toml (.record c.document) = .ok c := by
  simp only [ofDatum, readSection, document, sections, List.map_cons, List.map_nil]
  -- every field finds its setting by name, and its section is read back
  simp [Slot.readFields, Slot.of, Except.map, bind, Except.bind]

/-! ## Sections as text -/

/-- Fields that can be written, by their names. -/
theorem isFlat_of_names {fields : List (String × Datum)} (names : List String)
    (hnames : fields.map Prod.fst = names) (hnamed : (∀ n ∈ names, IsName n) ∧ names.Nodup)
    (hplain : ∀ field ∈ fields, IsPlain field.2) : IsFlat fields := by
  subst hnames
  exact ⟨fun field hfield => hnamed.1 _ (List.mem_map_of_mem hfield), hplain, hnamed.2⟩

/-- Fields of a section of which those that are set can be written. -/
theorem isFlat_filter {fields : List (String × Datum)} (names : List String)
    (hnames : fields.map Prod.fst = names) (hnamed : (∀ n ∈ names, IsName n) ∧ names.Nodup)
    (hplain : ∀ field ∈ fields, isSet field.2 = true → IsPlain field.2) :
    IsFlat (fields.filter fun field => isSet field.2) := by
  subst hnames
  refine ⟨fun field hfield => ?_, fun field hfield => ?_, ?_⟩
  · exact hnamed.1 _ (List.mem_map_of_mem (List.mem_filter.1 hfield).1)
  · exact hplain field (List.mem_filter.1 hfield).1 (List.mem_filter.1 hfield).2
  · exact hnamed.2.sublist (List.filter_sublist.map Prod.fst)

/-- A section of which those settings that are set are values, and can be written. -/
theorem isSection_dropUnset {name : String} {fields : List (String × Datum)} (names : List String)
    (hnames : fields.map Prod.fst = names)
    (hnamed : (∀ n ∈ name :: names, IsName n) ∧ names.Nodup)
    (hplain : ∀ field ∈ fields, isSet field.2 = true → IsPlain field.2) :
    IsSection (name, dropUnset (.record fields)) := by
  obtain ⟨hname, hfields⟩ := List.forall_mem_cons.1 hnamed.1
  exact Toml.isSection_of_isFlat hname (isFlat_filter names hnames ⟨hfields, hnamed.2⟩ hplain)

theorem isPlain_pathsDatum (e : ExemptedPaths) : IsPlain (pathsDatum e) := by
  intro item hitem
  obtain ⟨path, -, rfl⟩ := List.mem_map.1 hitem
  trivial

theorem isPlain_optionalText {o : Option String} (h : isSet (optionalText o) = true) :
    IsPlain (optionalText o) := by
  cases o with
  | none => cases h
  | some s => trivial

theorem isPlain_integer {n : Nat} (h : n ≤ greatestInteger) : IsPlain (.integer n) := by
  refine ⟨n, rfl, ?_⟩
  have hpositive : 0 < Nat.pow 2 63 := Nat.pow_pos (by decide)
  rw [greatestInteger] at h
  omega

theorem isFlat_certificate (s : Certificate) :
    IsFlat [("cert_path", .text s.certPath), ("key_path", .text s.keyPath)] := by
  refine isFlat_of_names ["cert_path", "key_path"] rfl (by decide) ?_
  simp only [List.forall_mem_cons]
  exact ⟨trivial, trivial, nofun⟩

/-- The address stands before the table of the certificate. -/
theorem isSection_listener (s : Listener) : IsSection ("listener", dropUnset s.toDatum) := by
  obtain ⟨bindAddress, tls⟩ := s
  have hname : IsName "listener" := by decide
  have hvalues : IsFlat [("bind_address", .text bindAddress)] := by
    refine isFlat_of_names ["bind_address"] rfl (by decide) ?_
    simp only [List.forall_mem_cons]
    exact ⟨trivial, nofun⟩
  cases tls with
  | none => exact Toml.isSection_of_isFlat hname hvalues
  | some certificate =>
      have htls : IsName "tls" := by decide
      have hdistinct : ["bind_address", "tls"].Nodup := by decide
      refine ⟨⟨"listener", [("bind_address", .text bindAddress)],
        [("tls", [("cert_path", .text certificate.certPath),
          ("key_path", .text certificate.keyPath)])]⟩, ⟨hname, hvalues, ?_, hdistinct⟩, rfl⟩
      simp only [List.forall_mem_cons]
      exact ⟨⟨htls, isFlat_certificate certificate⟩, nofun⟩

theorem isSection_origin (s : Origin) : IsSection ("upstream", dropUnset s.toDatum) := by
  refine isSection_dropUnset ["address"] rfl (by decide) ?_
  simp only [List.forall_mem_cons]
  exact ⟨isPlain_optionalText, nofun⟩

theorem isSection_timeouts {s : Timeouts} (h : s.requestSecs ≤ greatestInteger) :
    IsSection ("timeouts", dropUnset s.toDatum) := by
  refine isSection_dropUnset ["request_secs"] rfl (by decide) ?_
  simp only [List.forall_mem_cons]
  exact ⟨fun _ => isPlain_integer h, nofun⟩

theorem isSection_limits {s : Limits} (h : s.maxBodyBytes ≤ greatestInteger) :
    IsSection ("limits", dropUnset s.toDatum) := by
  refine isSection_dropUnset ["max_body_bytes"] rfl (by decide) ?_
  simp only [List.forall_mem_cons]
  exact ⟨fun _ => isPlain_integer h, nofun⟩

theorem isSection_fetchMetadata (s : FetchMetadata) :
    IsSection ("fetch_metadata", dropUnset s.toDatum) := by
  refine isSection_dropUnset ["enabled", "exempted_paths"] rfl (by decide) ?_
  simp only [List.forall_mem_cons]
  exact ⟨fun _ => trivial, fun _ => isPlain_pathsDatum s.exemptedPaths, nofun⟩

theorem isSection_opener (s : Opener) : IsSection ("coop", dropUnset s.toDatum) := by
  refine isSection_dropUnset ["enabled", "mode", "exempted_paths"] rfl (by decide) ?_
  simp only [List.forall_mem_cons]
  exact ⟨fun _ => trivial, fun _ => trivial, fun _ => isPlain_pathsDatum s.exemptedPaths, nofun⟩

theorem isSection_embedder (s : Embedder) : IsSection ("coep", dropUnset s.toDatum) := by
  refine isSection_dropUnset ["disabled", "enforcing_mode", "report_uri", "exempted_paths"] rfl
    (by decide) ?_
  simp only [List.forall_mem_cons]
  exact ⟨fun _ => trivial, fun _ => trivial, fun _ => trivial,
    fun _ => isPlain_pathsDatum s.exemptedPaths, nofun⟩

theorem isSection_content (s : Content) : IsSection ("csp", dropUnset s.toDatum) := by
  refine isSection_dropUnset ["enabled", "report_only", "report_uri"] rfl (by decide) ?_
  simp only [List.forall_mem_cons]
  exact ⟨fun _ => trivial, fun _ => trivial, isPlain_optionalText, nofun⟩

theorem isSection_observability (s : Observability) :
    IsSection ("observability", dropUnset s.toDatum) := by
  refine isSection_dropUnset ["log_level", "log_format", "metrics_enabled", "metrics_address"] rfl
    (by decide) ?_
  simp only [List.forall_mem_cons]
  exact ⟨fun _ => trivial, fun _ => trivial, fun _ => trivial, fun _ => trivial, nofun⟩

theorem fits_iff {c : Config} :
    c.fits = true ↔
      c.timeouts.requestSecs ≤ greatestInteger ∧ c.limits.maxBodyBytes ≤ greatestInteger := by
  simp [fits]

/-- **The fields of a configuration file are sections** when the numbers fit. -/
theorem isSection_document {c : Config} (h : c.fits = true) :
    ∀ field ∈ c.document, IsSection field := by
  obtain ⟨htimeouts, hlimits⟩ := fits_iff.1 h
  simp only [document, sections, List.map_cons, List.map_nil, List.forall_mem_cons]
  exact ⟨isSection_listener c.listener, isSection_origin c.origin, isSection_timeouts htimeouts,
    isSection_limits hlimits, isSection_fetchMetadata c.fetchMetadata, isSection_opener c.opener,
    isSection_embedder c.embedder, isSection_content c.content,
    isSection_observability c.observability, nofun⟩

/-! ## Configurations as text -/

theorem render?_eq_some_iff {c : Config} {text : String} :
    c.render? = some text ↔ c.fits = true ∧ text = Toml.render c.document := by
  rw [render?, document?]
  split
  · next hfits => simp [hfits, document, eq_comm]
  · next hfits => simp [hfits]

/-- **The text of a configuration is read as that configuration**, valid or not, with blank lines
behind it or without. -/
theorem parse_of_render? {c : Config} {text : String} (h : c.render? = some text) {rest : String}
    (hrest : Toml.skipLines rest.toList = some []) : parse (text ++ rest) = .ok c := by
  obtain ⟨hfits, rfl⟩ := render?_eq_some_iff.1 h
  have hdistinct : (c.document.map Prod.fst).Nodup := by
    have hnames : c.document.map Prod.fst = ["listener", "upstream", "timeouts", "limits",
      "fetch_metadata", "coop", "coep", "csp", "observability"] := rfl
    rw [hnames]
    decide
  have hread := Toml.read?_render (isSection_document hfits) hdistinct nofun hrest
  rw [parse, hread]
  dsimp only
  rw [ofDatum_document]

/-- **It is loaded exactly as it is checked.** -/
theorem load_of_render? {c : Config} {text : String} (h : c.render? = some text) {rest : String}
    (hrest : Toml.skipLines rest.toList = some []) : load (text ++ rest) = validated c := by
  rw [load, parse_of_render? h hrest, Except.bind]

end IsolationGate.Config
