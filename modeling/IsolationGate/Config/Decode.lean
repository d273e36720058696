import IsolationGate.Config.DataError
import IsolationGate.Config.Schema

/-!
# Configurations from data

`ofDatum` reads a configuration from a tree of plain data. A section is a record, or a list of its
settings in their order. What is not given keeps its default, unknown names are passed over, and the
first setting of the wrong shape, in the order of the data, ends the reading.
-/

namespace IsolationGate.Config

open Policy (ExemptedPaths)

/-! ## Scalars -/

/-- The datum has the wrong kind. -/
def wrongKind {α : Type} (dialect : Dialect) (datum : Datum) (expected : String) :
    Except DataError α :=
  .error (.wrongKind (describe dialect datum) expected)

/-- A text. -/
def readText (dialect : Dialect) : Datum → Except DataError String
  | .text s => .ok s
  | other => wrongKind dialect other "a string"

/-- A truth value. -/
def readBoolean (dialect : Dialect) : Datum → Except DataError Bool
  | .boolean b => .ok b
  | other => wrongKind dialect other "a boolean"

/-- A whole number from zero; `type` names its range in messages. -/
def readCount (dialect : Dialect) (type : String) : Datum → Except DataError Nat
  | .integer (.ofNat n) => .ok n
  | .integer (.negSucc n) =>
      .error (.wrongValue (describe dialect (.integer (.negSucc n))) type)
  | other => wrongKind dialect other type

/-- A setting that may be unset. -/
def readOptional {α : Type} (read : Datum → Except DataError α) :
    Datum → Except DataError (Option α)
  | .null => .ok none
  | other => (read other).map some

/-- The texts of a list, if it holds texts only. -/
def textsOf? : List Datum → Option (List String)
  | [] => some []
  | .text s :: rest => (textsOf? rest).map (s :: ·)
  | _ :: _ => none

/-- Exempted paths: a list of texts, or one text with commas. -/
def readPaths : Datum → Except DataError ExemptedPaths
  | .text s => .ok (.ofDelimited s)
  | .list items =>
      match textsOf? items with
      | some entries => .ok (.ofList entries)
      | none => .error .noPathList
  | _ => .error .noPathList

theorem textsOf?_eq_some_iff {items : List Datum} {entries : List String} :
    textsOf? items = some entries ↔ items = entries.map .text := by
  induction items generalizing entries with
  | nil => cases entries <;> simp [textsOf?]
  | cons item items ih =>
      cases entries with
      | nil => cases item <;> simp [textsOf?]
      | cons entry entries =>
          cases item with
          | text text =>
              rw [textsOf?, Option.map_eq_some_iff, List.map_cons, List.cons.injEq,
                Datum.text.injEq]
              simp only [ih, List.cons.injEq]
              constructor
              · rintro ⟨_, hitems, rfl, rfl⟩
                exact ⟨rfl, hitems⟩
              · rintro ⟨rfl, hitems⟩
                exact ⟨entries, hitems, rfl, rfl⟩
          | _ => simp [textsOf?]

/-- Exempted paths are read from a list of texts and from one text, and from nothing else. -/
theorem readPaths_eq_ok_iff {datum : Datum} {e : ExemptedPaths} :
    readPaths datum = .ok e ↔
      (∃ text, datum = .text text ∧ .ofDelimited text = e) ∨
        ∃ entries, datum = .list (entries.map .text) ∧ .ofList entries = e := by
  cases datum with
  | text text => simp [readPaths]
  | list items =>
      cases hentries : textsOf? items with
      | some entries =>
          have hitems := textsOf?_eq_some_iff.1 hentries
          have hsame : ∀ other : List String, entries = other ↔
              items = other.map .text := by
            intro other
            rw [← textsOf?_eq_some_iff, hentries, Option.some.injEq]
          simp [readPaths, hentries, ← hsame]
      | none =>
          have hnone : ∀ other : List String, items ≠ other.map .text := by
            intro other hother
            rw [textsOf?_eq_some_iff.2 hother] at hentries
            cases hentries
          simp [readPaths, hentries, hnone]
  | _ => simp [readPaths]

/-- The log format of a word. -/
def readFormatWord (word : String) : Except DataError LogFormat :=
  match LogFormat.ofWord? word with
  | some format => .ok format
  | none => .error (.unknownFormat word)

/-- The entry of a log format written as a table holds nothing. -/
def checkEntry (dialect : Dialect) (entry : Datum) : Except DataError Unit :=
  match dialect, entry with
  | .toml, .list [] | .toml, .record [] | .json, .null => .ok ()
  | .toml, .list _ | .toml, .record _ => .error .entryNotEmpty
  | .toml, .tables _ => .error .entryRepeated
  | .toml, other => .error (.entryNotTable (kindWord other))
  | .json, other => wrongKind .json other "unit"

/-- A log format: its word, or a table with the word as its one name. -/
def readFormat (dialect : Dialect) : Datum → Except DataError LogFormat
  | .text word => readFormatWord word
  | .record [(word, entry)] => do
      let format ← readFormatWord word
      checkEntry dialect entry
      .ok format
  | .record fields =>
      match dialect with
      | .toml => .error (.notOneEntry fields.length)
      | .json => .error (.wrongValue "map" "map with a single key")
  | other =>
      match dialect with
      | .toml => .error .neitherWordNorTable
      | .json => wrongKind .json other "string or map"

/-! ## Sections -/

/-- A setting of a section: its name, and the section after a datum has been read for it. -/
structure Slot (σ : Type) where
  name : String
  read : Datum → σ → Except DataError σ

namespace Slot

variable {σ α : Type}

/-- A setting that is read by `read` and stored by `put`. -/
def of (name : String) (read : Datum → Except DataError α) (put : α → σ → σ) : Slot σ :=
  ⟨name, fun datum state => (read datum).map fun value => put value state⟩

/-- The fields of a record, one after the other. -/
def readFields (slots : List (Slot σ)) : List (String × Datum) → σ → Except DataError σ
  | [], state => .ok state
  | (name, datum) :: rest, state =>
      match slots.find? fun slot => slot.name == name with
      | some slot => do
          let state ← slot.read datum state
          readFields slots rest state
      | none => readFields slots rest state

/-- The items of a list, each for the setting at its place. -/
def readItems : List (Slot σ) → List Datum → σ → Except DataError σ
  | slot :: slots, item :: items, state => do
      let state ← slot.read item state
      readItems slots items state
  | _, _, state => .ok state

end Slot

/-- A section all of whose settings have defaults. -/
def readSection {σ : Type} (dialect : Dialect) (expected : String) (slots : List (Slot σ))
    (start : σ) : Datum → Except DataError σ
  | .record fields => Slot.readFields slots fields start
  | .list items | .tables items => do
      let state ← Slot.readItems slots items start
      if dialect = .json ∧ slots.length < items.length then
        .error (.wrongLength items.length "fewer elements in array")
      else .ok state
  | .moment _ => .ok start
  | other => wrongKind dialect other expected

/-! ## The sections of a configuration -/

/-- A certificate while it is read. -/
structure PartialCertificate where
  certPath : Option String := none
  keyPath : Option String := none

/-- The settings of a certificate. -/
def certificateSlots (dialect : Dialect) : List (Slot PartialCertificate) :=
  [.of "cert_path" (readText dialect) fun value state => { state with certPath := some value },
    .of "key_path" (readText dialect) fun value state => { state with keyPath := some value }]

/-- A certificate with both files. -/
def PartialCertificate.complete (state : PartialCertificate) : Except DataError Certificate :=
  match state.certPath, state.keyPath with
  | none, _ => .error (.missing "cert_path")
  | some _, none => .error (.missing "key_path")
  | some certPath, some keyPath => .ok ⟨certPath, keyPath⟩

/-- A certificate. Its settings have no defaults. -/
def readCertificate (dialect : Dialect) : Datum → Except DataError Certificate
  | .record fields => do
      let state ← Slot.readFields (certificateSlots dialect) fields {}
      state.complete
  | .list items | .tables items => do
      let state ← Slot.readItems (certificateSlots dialect) items {}
      if items.length < 2 then
        .error (.wrongLength items.length "struct TlsConfig with 2 elements")
      else if dialect = .json ∧ 2 < items.length then
        .error (.wrongLength items.length "fewer elements in array")
      else state.complete
  | .moment _ => PartialCertificate.complete {}
  | other => wrongKind dialect other "struct TlsConfig"

/-- The section `listener`. -/
def readListener (dialect : Dialect) : Datum → Except DataError Listener :=
  readSection dialect "struct ListenerConfig"
    [.of "bind_address" (readText dialect) fun value state => { state with bindAddress := value },
      .of "tls" (readOptional (readCertificate dialect)) fun value state =>
        { state with tls := value }] {}

/-- The section about the server behind the gateway. -/
def readOrigin (dialect : Dialect) : Datum → Except DataError Origin :=
  readSection dialect "struct UpstreamConfig"
    [.of "address" (readOptional (readText dialect)) fun value state =>
      { state with address := value }] {}

/-- The section `timeouts`. -/
def readTimeouts (dialect : Dialect) : Datum → Except DataError Timeouts :=
  readSection dialect "struct TimeoutConfig"
    [.of "request_secs" (readCount dialect "u64") fun value state =>
      { state with requestSecs := value }] {}

/-- The section `limits`. -/
def readLimits (dialect : Dialect) : Datum → Except DataError Limits :=
  readSection dialect "struct LimitsConfig"
    [.of "max_body_bytes" (readCount dialect "usize") fun value state =>
      { state with maxBodyBytes := value }] {}

/-- The section `fetch_metadata`. -/
def readFetchMetadata (dialect : Dialect) : Datum → Except DataError FetchMetadata :=
  readSection dialect "struct FetchMetadataConfig"
    [.of "enabled" (readBoolean dialect) fun value state => { state with enabled := value },
      .of "exempted_paths" readPaths fun value state => { state with exemptedPaths := value }] {}

/-- The section `coop`. -/
def readOpener (dialect : Dialect) : Datum → Except DataError Opener :=
  readSection dialect "struct CoopConfig"
    [.of "enabled" (readBoolean dialect) fun value state => { state with enabled := value },
      .of "mode" (readText dialect) fun value state => { state with mode := value },
      .of "exempted_paths" readPaths fun value state => { state with exemptedPaths := value }] {}

/-- The section `coep`. -/
def readEmbedder (dialect : Dialect) : Datum → Except DataError Embedder :=
  readSection dialect "struct CoepConfig"
    [.of "disabled" (readBoolean dialect) fun value state => { state with disabled := value },
      .of "enforcing_mode" (readBoolean dialect) fun value state =>
        { state with enforcing := value },
      .of "report_uri" (readText dialect) fun value state => { state with reportUri := value },
      .of "exempted_paths" readPaths fun value state => { state with exemptedPaths := value }] {}

/-- The section `csp`. -/
def readContent (dialect : Dialect) : Datum → Except DataError Content :=
  readSection dialect "struct CspConfig"
    [.of "enabled" (readBoolean dialect) fun value state => { state with enabled := value },
      .of "report_only" (readBoolean dialect) fun value state => { state with reportOnly := value },
      .of "report_uri" (readOptional (readText dialect)) fun value state =>
        { state with reportUri := value }] {}

/-- The section `observability`. -/
def readObservability (dialect : Dialect) : Datum → Except DataError Observability :=
  readSection dialect "struct ObservabilityConfig"
    [.of "log_level" (readText dialect) fun value state => { state with logLevel := value },
      .of "log_format" (readFormat dialect) fun value state => { state with logFormat := value },
      .of "metrics_enabled" (readBoolean dialect) fun value state =>
        { state with metricsEnabled := value },
      .of "metrics_address" (readText dialect) fun value state =>
        { state with metricsAddress := value }] {}

/-- The configuration that a tree of plain data describes. -/
def ofDatum (dialect : Dialect) : Datum → Except DataError Config :=
  readSection dialect "struct GatewayConfig"
    [.of "listener" (readListener dialect) fun value state => { state with listener := value },
      .of "upstream" (readOrigin dialect) fun value state => { state with origin := value },
      .of "timeouts" (readTimeouts dialect) fun value state => { state with timeouts := value },
      .of "limits" (readLimits dialect) fun value state => { state with limits := value },
      .of "fetch_metadata" (readFetchMetadata dialect) fun value state =>
        { state with fetchMetadata := value },
      .of "coop" (readOpener dialect) fun value state => { state with opener := value },
      .of "coep" (readEmbedder dialect) fun value state => { state with embedder := value },
      .of "csp" (readContent dialect) fun value state => { state with content := value },
      .of "observability" (readObservability dialect) fun value state =>
        { state with observability := value }] {}

end IsolationGate.Config
