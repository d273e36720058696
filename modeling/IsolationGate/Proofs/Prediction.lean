import IsolationGate.Command.Run
import IsolationGate.Proofs.OneSnapshot
import IsolationGate.Proofs.ValidStart

/-!
# Whether `evaluate` predicts the gateway

The command tells the decision on a hypothetical request, and the gateway takes one on a request
that it receives. The same rules are applied to what each of them knows: the command has the texts
it was given, the gateway the bytes of three fields. A text beyond ASCII makes a difference here.
The gateway takes a value that is not plain text for none at all, the command takes the text as it
is; so the command rejects a request from such a site, and the gateway lets it through.

`IsMisjudged` is this case, in terms of the configuration and the query. `evaluate_predicts_iff`
says that it is the only one, and that the remark about an exempted path is always right.

## Main results

* `read_arguments` — every query can be asked.
* `evaluate_metadata_eq_reject_iff`, `decide_eq_reject_iff_of_carries` — the two decisions, in the
  same terms.
* `letsAllThrough_iff` — for which paths the gateway lets everything through.
* `evaluate_predicts_iff` — when the command says what the gateway does.
-/

namespace IsolationGate.Command

open Gateway (Fresh IsForeign OriginServer Server Snapshot Spells answer decide fetchMetadataOf)
open Http (FieldName FieldValue Fields)
open Lifecycle (FileContent)
open Policy (Decision FetchMetadata FetchMetadataFilter)

/-! ## From the arguments to the query -/

/-- An option with its value in one argument. -/
def OptionName.written (name : OptionName) (value : String) : String :=
  "--" ++ name.word ++ "=" ++ value

/-- The arguments that ask about a query, with the configuration file that is named. -/
def Query.arguments (q : Query) (file : Option String) : List String :=
  "evaluate" :: ((file.map OptionName.config.written).toList ++
    ((q.site.map OptionName.site.written).toList ++
      ((q.mode.map OptionName.mode.written).toList ++
        ((q.dest.map OptionName.dest.written).toList ++
          [OptionName.method.written q.method, OptionName.path.written q.path]))))

theorem ofText_written (name : OptionName) (top : Bool) (value : String) :
    Argument.ofText evaluateOptions top (name.written value) = .optionWith name value := by
  have hlist : (name.written value).toList =
      '-' :: '-' :: (name.word.toList ++ '=' :: value.toList) := by
    simp [OptionName.written, String.toList_append]
  have hword : name.word.toList.all (fun c => c ≠ '=') = true := by
    cases name <;> decide
  have hword := List.all_eq_true.1 hword
  have hcut : cutAtEquals (name.word.toList ++ '=' :: value.toList) =
      (name.word.toList, some value.toList) := by
    rw [cutAtEquals, List.takeWhile_append_of_pos hword, List.dropWhile_append_of_pos hword]
    simp
  have hfind : evaluateOptions.find? (fun o => o.word = name.word) = some name := by
    cases name <;> decide
  have hlong : ofLong evaluateOptions top (name.word.toList ++ '=' :: value.toList) =
      .optionWith name value := by
    rw [ofLong, hcut]
    simp [hfind]
  have hne : name.word.toList ++ '=' :: value.toList ≠ [] := by simp
  obtain ⟨c, rest, hcons⟩ := List.exists_cons_of_ne_nil hne
  rw [hcons] at hlong hlist
  unfold Argument.ofText
  rw [hlist]
  exact hlong

/-- One more option behind the subcommand, which has not been given. A configuration file has a
name. -/
theorem readFrom_written {name : OptionName} {value : String} (hvalue : name = .config → value ≠ "")
    {values : Values} (hvalues : values.lookup name = none) (before : Values)
    (rest : List String) :
    readFrom (some .evaluate) before values (name.written value :: rest) =
      readFrom (some .evaluate) before (values ++ [(name, value)]) rest := by
  have hargument : Argument.ofText (((some Subcommand.evaluate).map Subcommand.options).getD
      programOptions) (some Subcommand.evaluate).isNone (name.written value) =
        .optionWith name value := ofText_written name false value
  have hrefused : ¬ ((values.lookup name).isSome = true ∨ name = .config ∧ value = "") := by
    rintro (hgiven | ⟨hconfig, hempty⟩)
    · rw [hvalues] at hgiven
      cases hgiven
    · exact hvalue hconfig hempty
  have hadd : addValue name value values = some (values ++ [(name, value)]) := if_neg hrefused
  rw [readFrom]
  dsimp only
  rw [hargument]
  dsimp only
  rw [hadd]

/-- An option that may be left out. -/
theorem readFrom_optional {name : OptionName} {value : Option String}
    (hvalue : name = .config → value ≠ some "") {values : Values}
    (hvalues : values.lookup name = none) (before : Values) (rest : List String) :
    readFrom (some .evaluate) before values ((value.map name.written).toList ++ rest) =
      readFrom (some .evaluate) before (values ++ (value.map (Prod.mk name)).toList) rest := by
  cases value with
  | none => simp
  | some value =>
      exact readFrom_written (fun hname hempty => hvalue hname (congrArg some hempty)) hvalues
        before rest

/-- **Every query can be asked**, with every configuration file. -/
theorem read_arguments (q : Query) {file : Option String} (h : file ≠ some "") :
    read (q.arguments file) = .run ⟨file, .evaluate q⟩ := by
  have hword : Argument.ofText programOptions true "evaluate" = .word "evaluate" := by decide
  have hsub : read (q.arguments file) =
      readFrom (some .evaluate) [] [] (q.arguments file).tail := by
    rw [read, Query.arguments, readFrom]
    dsimp only [Option.map_none, Option.getD_none, Option.isNone_none]
    rw [hword]
    simp [Subcommand.ofWord?]
  obtain ⟨site, mode, dest, method, path⟩ := q
  let first : Values := (file.map (Prod.mk .config)).toList
  let second : Values := first ++ (site.map (Prod.mk .site)).toList
  let third : Values := second ++ (mode.map (Prod.mk .mode)).toList
  let fourth : Values := third ++ (dest.map (Prod.mk .dest)).toList
  have hsite : first.lookup .site = none := by
    cases file <;> rfl
  have hmode : second.lookup .mode = none := by
    cases file <;> cases site <;> rfl
  have hdest : third.lookup .dest = none := by
    cases file <;> cases site <;> cases mode <;> rfl
  have hmethod : fourth.lookup .method = none := by
    cases file <;> cases site <;> cases mode <;> cases dest <;> rfl
  have hpath : (fourth ++ [(OptionName.method, method)]).lookup .path = none := by
    cases file <;> cases site <;> cases mode <;> cases dest <;> rfl
  rw [hsub, Query.arguments, List.tail_cons, readFrom_optional (fun _ => h) rfl, List.nil_append,
    readFrom_optional (by simp) hsite, readFrom_optional (by simp) hmode,
    readFrom_optional (by simp) hdest, readFrom_written (by simp) hmethod,
    readFrom_written (by simp) hpath, readFrom]
  cases file <;> cases site <;> cases mode <;> cases dest <;> rfl

/-! ## Queries and requests -/

/-- The one value of a name is this text, or the name has none. -/
def Holds (fields : Fields) (name : FieldName) (text : Option String) : Prop :=
  (fields.values name).map (fun value => value.bytes) = (text.map Text.bytesOf).toList

/-- The request is the one that is asked about. -/
structure Carries (q : Query) (request : Http.Request) : Prop where
  method : request.method.text = q.method
  path : request.target.path = q.path
  site : Holds request.fields FetchMetadata.siteName q.site
  mode : Holds request.fields FetchMetadata.modeName q.mode
  dest : Holds request.fields FetchMetadata.destName q.dest

/-- The query is about a navigation of the whole page. -/
def Query.OpensPage (q : Query) : Prop :=
  q.method = "GET" ∧ q.mode = some "navigate" ∧ ∀ word ∈ ["object", "embed"], q.dest ≠ some word

/-- The query is judged by its site, which is given in a text beyond ASCII. -/
structure IsMisjudged (config : Config) (q : Query) : Prop where
  on : config.fetchMetadata.enabled = true
  judged : q.path ∉ config.fetchMetadata.exemptedPaths.paths
  beyondAscii : ∃ site, q.site = some site ∧ ∃ c ∈ site.toList, 0x80 ≤ c.toNat
  opensNoPage : ¬ q.OpensPage

/-! ## What is printed and what is done -/

/-- The output starts with the word for the decision. -/
def Says (output : Output) (d : Decision) : Prop := d.word.toList <+: output.stdout.toList

/-- The output ends with the remark about an exempted path. -/
def NotesExemption (output : Output) : Prop :=
  " (exempted path)\n".toList <:+ output.stdout.toList

/-- What the gateway does with a request: without the filter it lets it through. -/
def decisionOn (server : Server) (behind : OriginServer) (fresh : Fresh) (request : Http.Request) :
    Decision :=
  (answer server.setup server.live behind fresh request).decision.getD .allow

/-- The filter is on and lets every request for the path through, whatever it says about itself. -/
def LetsAllThrough (server : Server) (path : String) : Prop :=
  ∀ behind fresh request, request.target.path = path →
    (answer server.setup server.live behind fresh request).decision = some .allow

/-- What is printed about a query, next to what is done with a request that carries it. -/
structure IsPrediction (config : Config) (q : Query) (request : Http.Request) (server : Server)
    (output : Output) : Prop where
  /-- One decision is told. -/
  tells : ∃ told, ∀ d, Says output d ↔ d = told
  right : ∀ behind fresh,
    Says output (decisionOn server behind fresh request) ↔ ¬ IsMisjudged config q
  wrong : IsMisjudged config q →
    Says output .reject ∧ ∀ behind fresh, decisionOn server behind fresh request = .allow
  remarks : NotesExemption output ↔ LetsAllThrough server q.path

/-! ## Texts and values -/

theorem Holds.first {fields : Fields} {name : FieldName} {text : Option String}
    (h : Holds fields name text) :
    (fields.values name).head?.map (fun value => value.bytes) = text.map Text.bytesOf := by
  have hhead := congrArg List.head? h
  rw [List.head?_map] at hhead
  rw [hhead]
  cases text <;> rfl

theorem Holds.spells_iff {fields : Fields} {name : FieldName} {text : Option String}
    (h : Holds fields name text) {word : String} : Spells fields name word ↔ text = some word := by
  have hspells : Spells fields name word ↔
      (fields.values name).head?.map (fun value => value.bytes) = some (Text.bytesOf word) :=
    Option.map_eq_some_iff.symm
  rw [hspells, h.first, Option.map_eq_some_iff]
  simp only [Text.bytesOf_inj, exists_eq_right]

/-- A value is plain when its text is ASCII. -/
theorem isPlain_iff {value : FieldValue} {s : String} (h : value.bytes = Text.bytesOf s) :
    (∀ b ∈ value.bytes, b = 9 ∨ (0x20 ≤ b ∧ b ≤ 0x7E)) ↔ ∀ c ∈ s.toList, c.toNat < 0x80 := by
  constructor
  · intro hplain c hc
    by_contra hbeyond
    have hlength : 0 < (String.utf8EncodeChar c).length := by
      rw [String.length_utf8EncodeChar]
      exact c.utf8Size_pos
    obtain ⟨b, hb⟩ := List.exists_mem_of_length_pos hlength
    have hmem : b ∈ value.bytes := by
      rw [h]
      exact List.mem_flatMap.2 ⟨c, hc, hb⟩
    have hhigh := Text.le_of_mem_utf8EncodeChar (Nat.le_of_not_lt hbeyond) hb
    rw [UInt8.le_iff_toNat_le] at hhigh
    have hhigh : 128 ≤ b.toNat := hhigh
    rcases hplain b hmem with rfl | ⟨-, hlow⟩
    · exact absurd hhigh (by decide)
    · rw [UInt8.le_iff_toNat_le] at hlow
      have hlow : b.toNat ≤ 126 := hlow
      omega
  · intro hascii b hb
    have hfield := List.all_eq_true.1 value.valid b hb
    rw [h] at hb
    obtain ⟨c, hc, hbc⟩ := List.mem_flatMap.1 hb
    obtain ⟨hnat, hsingle⟩ := Text.utf8EncodeChar_of_lt (hascii c hc)
    rw [hsingle, List.mem_singleton] at hbc
    have hlt : b < 128 := by
      rw [hbc, UInt8.lt_iff_toNat_lt, hnat]
      exact hascii c hc
    exact Http.isPlainByte_iff.1 (Http.isPlainByte_of_lt hfield hlt)

theorem isForeign_iff_of_holds {fields : Fields} {site : Option String}
    (h : Holds fields FetchMetadata.siteName site) :
    IsForeign fields ↔ ∃ text, site = some text ∧ (∀ c ∈ text.toList, c.toNat < 0x80) ∧
      text ∉ FetchMetadata.trustedSites := by
  have hfirst := h.first
  constructor
  · rintro ⟨value, hvalue, hplain, huntrusted⟩
    rw [hvalue, Option.map_some] at hfirst
    obtain ⟨text, htext, hbytes⟩ := Option.map_eq_some_iff.1 hfirst.symm
    refine ⟨text, htext, (isPlain_iff hbytes.symm).1 hplain, fun htrusted => ?_⟩
    exact huntrusted text htrusted hbytes.symm
  · rintro ⟨text, rfl, hascii, huntrusted⟩
    rw [Option.map_some] at hfirst
    obtain ⟨value, hvalue, hbytes⟩ := Option.map_eq_some_iff.1 hfirst
    refine ⟨value, hvalue, (isPlain_iff hbytes).2 hascii, fun word htrusted hword => ?_⟩
    have hsame : text = word := Text.bytesOf_inj.1 (hbytes.symm.trans hword)
    exact huntrusted (hsame ▸ htrusted)

/-! ## The two decisions -/

theorem opensPage_iff_of_carries {q : Query} {request : Http.Request} (h : Carries q request) :
    Gateway.OpensPage request ↔ q.OpensPage := by
  rw [Gateway.OpensPage, Query.OpensPage, h.method, h.mode.spells_iff]
  simp only [h.dest.spells_iff, ne_eq]

theorem isNavigation_metadata_iff {q : Query} :
    q.metadata.isNavigation = true ↔ q.OpensPage := by
  have hdest : (q.dest.any fun dest => FetchMetadata.refusedDestinations.contains dest) = false ↔
      ∀ word ∈ ["object", "embed"], q.dest ≠ some word := by
    cases q.dest with
    | none => simp
    | some dest => simp [FetchMetadata.refusedDestinations]
  simp only [FetchMetadata.isNavigation, Query.metadata, Bool.and_eq_true, beq_iff_eq,
    Bool.not_eq_true', hdest]
  rw [Query.OpensPage]
  constructor
  · rintro ⟨⟨hmode, hmethod⟩, hword⟩
    exact ⟨hmethod, hmode, hword⟩
  · rintro ⟨hmethod, hmode, hword⟩
    exact ⟨⟨hmode, hmethod⟩, hword⟩

/-- The command rejects a query by the text of its site. -/
theorem evaluate_metadata_eq_reject_iff (q : Query) :
    q.metadata.evaluate = .reject ↔
      (∃ site, q.site = some site ∧ site ∉ FetchMetadata.trustedSites) ∧ ¬ q.OpensPage := by
  rw [FetchMetadata.evaluate_eq_reject_iff, ← isNavigation_metadata_iff, Bool.not_eq_true]
  exact Iff.rfl

/-- The gateway rejects a request by the text of its site, if it is ASCII. -/
theorem decide_eq_reject_iff_of_carries {q : Query} {request : Http.Request} (h : Carries q request)
    (filter : FetchMetadataFilter) :
    decide filter request = .reject ↔ q.path ∉ filter.exempted.paths ∧
      (∃ site, q.site = some site ∧ (∀ c ∈ site.toList, c.toNat < 0x80) ∧
        site ∉ FetchMetadata.trustedSites) ∧ ¬ q.OpensPage := by
  rw [Gateway.decide_eq_reject_iff, h.path, isForeign_iff_of_holds h.site,
    opensPage_iff_of_carries h]

/-- A site beyond ASCII is no trusted one. -/
theorem notMem_trustedSites {site : String} (h : ∃ c ∈ site.toList, 0x80 ≤ c.toNat) :
    site ∉ FetchMetadata.trustedSites := by
  obtain ⟨c, hc, hbeyond⟩ := h
  have hascii : FetchMetadata.trustedSites.all
      (fun word => word.toList.all fun c => c.toNat < 0x80) = true := by decide
  intro htrusted
  have hbelow := List.all_eq_true.1 (List.all_eq_true.1 hascii site htrusted) c hc
  exact absurd (of_decide_eq_true hbelow) (Nat.not_lt.2 hbeyond)

/-- The filter is on and does not exempt the path: then the two decisions are the same unless the
query is misjudged, and then the command rejects what the gateway lets through. -/
theorem decide_of_carries {config : Config} {q : Query} {request : Http.Request}
    (h : Carries q request) (hon : config.fetchMetadata.enabled = true)
    (hpath : q.path ∉ config.fetchMetadata.exemptedPaths.paths) :
    (IsMisjudged config q → q.metadata.evaluate = .reject ∧
        decide ⟨config.fetchMetadata.exemptedPaths⟩ request = .allow) ∧
      (¬ IsMisjudged config q →
        decide ⟨config.fetchMetadata.exemptedPaths⟩ request = q.metadata.evaluate) := by
  have hcommand := evaluate_metadata_eq_reject_iff q
  have hgateway := decide_eq_reject_iff_of_carries h ⟨config.fetchMetadata.exemptedPaths⟩
  constructor
  · rintro ⟨-, -, hbeyond, hpage⟩
    obtain ⟨site, hsite, hchars⟩ := hbeyond
    constructor
    · exact hcommand.2 ⟨⟨site, hsite, notMem_trustedSites hchars⟩, hpage⟩
    · cases hdecide : decide ⟨config.fetchMetadata.exemptedPaths⟩ request with
      | allow => rfl
      | reject =>
          obtain ⟨-, ⟨text, htext, hascii, -⟩, -⟩ := hgateway.1 hdecide
          cases hsite.symm.trans htext
          obtain ⟨c, hc, hbeyond⟩ := hchars
          exact absurd (hascii c hc) (Nat.not_lt.2 hbeyond)
  · intro hright
    have hsame : decide ⟨config.fetchMetadata.exemptedPaths⟩ request = .reject ↔
        q.metadata.evaluate = .reject := by
      rw [hgateway, hcommand]
      constructor
      · rintro ⟨-, ⟨site, hsite, -, huntrusted⟩, hpage⟩
        exact ⟨⟨site, hsite, huntrusted⟩, hpage⟩
      · rintro ⟨⟨site, hsite, huntrusted⟩, hpage⟩
        refine ⟨hpath, ⟨site, hsite, fun c hc => ?_, huntrusted⟩, hpage⟩
        by_contra hbeyond
        exact hright ⟨hon, hpath, ⟨site, hsite, c, hc, Nat.le_of_not_lt hbeyond⟩, hpage⟩
    cases hdecide : decide ⟨config.fetchMetadata.exemptedPaths⟩ request with
    | reject => rw [hsame.1 hdecide]
    | allow =>
        cases hevaluate : q.metadata.evaluate with
        | allow => rfl
        | reject =>
            rw [hsame.2 hevaluate] at hdecide
            cases hdecide

/-! ## Exempted paths -/

/-- The gateway lets everything through for the paths that its filter exempts, and for no others. -/
theorem letsAllThrough_iff {server : Server} {path : String} :
    LetsAllThrough server path ↔
      ∃ filter, server.live.fetchMetadata = some filter ∧ path ∈ filter.exempted.paths := by
  constructor
  · intro hall
    let request : Http.Request :=
      { Gateway.Traffic.crossSiteRequest with target := ⟨none, none, path, none⟩ }
    have hallowed := hall (fun _ => .silent) ⟨default, .ofAscii ""⟩ request rfl
    rw [Gateway.decision_answer] at hallowed
    obtain ⟨filter, hfilter, hdecide⟩ := Option.map_eq_some_iff.1 hallowed
    refine ⟨filter, hfilter, ?_⟩
    by_contra hpath
    have hplain : (Text.bytesOf "cross-site").all Http.isPlainByte = true := by decide
    have hforeign : IsForeign request.fields :=
      ⟨⟨Text.bytesOf "cross-site", by decide⟩, rfl,
        fun b hb => Http.isPlainByte_iff.1 (List.all_eq_true.1 hplain b hb), by decide⟩
    have hpage : ¬ Gateway.OpensPage request := by
      rintro ⟨-, ⟨value, hvalue, -⟩, -⟩
      cases hvalue
    rw [Gateway.decide_eq_reject_iff.2 ⟨hpath, hforeign, hpage⟩] at hdecide
    cases hdecide
  · rintro ⟨filter, hfilter, hpath⟩ behind fresh request rfl
    rw [Gateway.decision_answer, hfilter, Option.map_some]
    cases hdecide : decide filter request with
    | allow => rfl
    | reject => exact absurd hpath (Gateway.decide_eq_reject_iff.1 hdecide).1

/-! ## What is printed -/

theorem violations_of_loadConfig {file : Option FileContent} {config : Config}
    (h : loadConfig file = .ok config) : config.violations = [] := by
  cases file with
  | none =>
      rw [loadConfig, Except.ok.injEq] at h
      rw [← h]
      exact Config.violations_default
  | some content =>
      rw [loadConfig, Config.loadFile] at h
      cases hread : Config.readFile content with
      | error error =>
          rw [hread] at h
          cases h
      | ok text =>
          rw [hread] at h
          exact Config.violations_of_load h

/-- A decision with nothing behind it, or with a remark. -/
def printed (d : Decision) (remark : String) : Output := { stdout := d.word ++ remark ++ "\n" }

/-- The remarks that there are. -/
def remarks : List String := ["", " (exempted path)", " (fetch_metadata filter disabled)"]

theorem says_printed (told : Decision) {remark : String} (h : remark ∈ remarks) (d : Decision) :
    Says (printed told remark) d ↔ d = told := by
  unfold Says printed
  revert remark
  cases told <;> cases d <;> decide

theorem notesExemption_printed {told : Decision} {remark : String} (h : remark ∈ remarks) :
    NotesExemption (printed told remark) ↔ remark = " (exempted path)" := by
  unfold NotesExemption printed
  revert remark
  cases told <;> decide

/-- The output of `evaluate`, by what the filter does with the path. -/
theorem evaluate_cases {file : Option FileContent} {config : Config}
    (h : loadConfig file = .ok config) (q : Query) :
    (config.fetchMetadata.enabled = false ∧
        evaluate file q = .ok (printed .allow " (fetch_metadata filter disabled)")) ∨
      (config.fetchMetadata.enabled = true ∧ q.path ∈ config.fetchMetadata.exemptedPaths.paths ∧
        evaluate file q = .ok (printed .allow " (exempted path)")) ∨
      (config.fetchMetadata.enabled = true ∧ q.path ∉ config.fetchMetadata.exemptedPaths.paths ∧
        evaluate file q = .ok (printed q.metadata.evaluate "")) := by
  have hevaluate : evaluate file q = .ok { stdout := verdict config q ++ "\n" } := by
    rw [evaluate, h]
  rw [hevaluate]
  cases hon : config.fetchMetadata.enabled with
  | false =>
      have hfilter : fetchMetadataOf config.fetchMetadata = none :=
        if_neg (hon.symm ▸ Bool.false_ne_true)
      rw [verdict, hfilter]
      exact .inl ⟨rfl, rfl⟩
  | true =>
      have hfilter : fetchMetadataOf config.fetchMetadata =
          some ⟨config.fetchMetadata.exemptedPaths⟩ := if_pos hon
      rw [verdict, hfilter]
      dsimp only
      refine .inr ?_
      cases hcontains : config.fetchMetadata.exemptedPaths.contains q.path with
      | true =>
          refine .inl ⟨rfl, Policy.ExemptedPaths.contains_iff.1 hcontains, ?_⟩
          rw [FetchMetadataFilter.judge, hcontains]
          rfl
      | false =>
          have hpath : q.path ∉ config.fetchMetadata.exemptedPaths.paths := by
            rw [← Policy.ExemptedPaths.contains_iff, hcontains]
            exact Bool.false_ne_true
          refine .inr ⟨rfl, hpath, ?_⟩
          rw [FetchMetadataFilter.judge, hcontains]
          simp [printed]

/-! ## The running gateway -/

theorem fetchMetadata_of_start {config : Config} {server : Server}
    (h : Server.start config = .ok server) :
    server.live.fetchMetadata = fetchMetadataOf config.fetchMetadata :=
  (Gateway.Snapshot.ofConfig_eq_ok_iff.1 (Server.ofConfig_of_start h).1).1

theorem decisionOn_of_start {config : Config} {server : Server}
    (h : Server.start config = .ok server) (behind : OriginServer) (fresh : Fresh)
    (request : Http.Request) :
    decisionOn server behind fresh request =
      if config.fetchMetadata.enabled = true then
        decide ⟨config.fetchMetadata.exemptedPaths⟩ request
      else .allow := by
  rw [decisionOn, Gateway.decision_answer, fetchMetadata_of_start h, fetchMetadataOf]
  split <;> rfl

theorem letsAllThrough_iff_of_start {config : Config} {server : Server}
    (h : Server.start config = .ok server) (path : String) :
    LetsAllThrough server path ↔
      config.fetchMetadata.enabled = true ∧ path ∈ config.fetchMetadata.exemptedPaths.paths := by
  rw [letsAllThrough_iff, fetchMetadata_of_start h, fetchMetadataOf]
  cases config.fetchMetadata.enabled with
  | false => simp
  | true => simp

/-- What is printed is right when the gateway takes the decision that is told. -/
theorem isPrediction_of_right {config : Config} {q : Query} {request : Http.Request}
    {server : Server} {told : Decision} {remark : String} (hremark : remark ∈ remarks)
    (hright : ¬ IsMisjudged config q)
    (hdecision : ∀ behind fresh, decisionOn server behind fresh request = told)
    (hexempted : remark = " (exempted path)" ↔ LetsAllThrough server q.path) :
    IsPrediction config q request server (printed told remark) where
  tells := ⟨told, says_printed told hremark⟩
  right := by
    intro behind fresh
    rw [hdecision, says_printed told hremark]
    exact iff_of_true rfl hright
  wrong := fun hwrong => absurd hwrong hright
  remarks := (notesExemption_printed hremark).trans hexempted

/-- What is printed about a query that is misjudged is wrong. -/
theorem isPrediction_of_wrong {config : Config} {q : Query} {request : Http.Request}
    {server : Server} (hwrong : IsMisjudged config q)
    (hdecision : ∀ behind fresh, decisionOn server behind fresh request = .allow)
    (hpath : ¬ LetsAllThrough server q.path) :
    IsPrediction config q request server (printed .reject "") where
  tells := ⟨.reject, says_printed .reject (by decide)⟩
  right := by
    intro behind fresh
    rw [hdecision, says_printed .reject (by decide)]
    exact iff_of_false nofun (not_not_intro hwrong)
  wrong := fun _ => ⟨(says_printed .reject (by decide) _).2 rfl, hdecision⟩
  remarks := by
    rw [notesExemption_printed (by decide)]
    exact iff_of_false (by decide) hpath

/-- **Whether the command predicts the gateway.** Every query can be asked, with every configuration
file, and one decision is told for every configuration that is loaded. For a request that carries
the query this is the decision of the gateway, unless the query is judged by a site beyond ASCII;
then it is wrong, and always on the same side. The remark about an exempted path stands where the
gateway lets everything through, and nowhere else. -/
theorem evaluate_predicts_iff {file : Option FileContent} {config : Config}
    (hload : loadConfig file = .ok config) {q : Query} {request : Http.Request}
    (hcarries : Carries q request) :
    (∀ path, path ≠ some "" → read (q.arguments path) = .run ⟨path, .evaluate q⟩) ∧
      ∃ server output, Server.start config = .ok server ∧ evaluate file q = .ok output ∧
        IsPrediction config q request server output := by
  refine ⟨fun path hpath => read_arguments q hpath, ?_⟩
  obtain ⟨server, hserver⟩ := (Config.builds_of_violations (violations_of_loadConfig hload)).server
  have hdecision := fun behind fresh => decisionOn_of_start hserver behind fresh request
  have hall := letsAllThrough_iff_of_start hserver q.path
  rcases evaluate_cases hload q with ⟨hoff, hprinted⟩ | ⟨hon, hpath, hprinted⟩ |
    ⟨hon, hpath, hprinted⟩
  · have hright : ¬ IsMisjudged config q := fun hwrong => by
      rw [hwrong.on] at hoff
      cases hoff
    refine ⟨server, _, hserver, hprinted, isPrediction_of_right (by decide) hright ?_ ?_⟩
    · intro behind fresh
      rw [hdecision, hoff]
      rfl
    · rw [hall, hoff]
      exact iff_of_false (by decide) fun hboth => Bool.false_ne_true hboth.1
  · have hright : ¬ IsMisjudged config q := fun hwrong => hwrong.judged hpath
    refine ⟨server, _, hserver, hprinted, isPrediction_of_right (by decide) hright ?_ ?_⟩
    · intro behind fresh
      rw [hdecision, if_pos hon]
      cases hdecide : decide ⟨config.fetchMetadata.exemptedPaths⟩ request with
      | allow => rfl
      | reject => exact absurd hpath ((decide_eq_reject_iff_of_carries hcarries _).1 hdecide).1
    · exact iff_of_true rfl (hall.2 ⟨hon, hpath⟩)
  · obtain ⟨hwrong, hright⟩ := decide_of_carries hcarries hon hpath
    have hnotAll : ¬ LetsAllThrough server q.path := fun hthrough => hpath (hall.1 hthrough).2
    refine ⟨server, _, hserver, hprinted, ?_⟩
    by_cases hmisjudged : IsMisjudged config q
    · obtain ⟨hrejects, hallows⟩ := hwrong hmisjudged
      rw [hrejects]
      refine isPrediction_of_wrong hmisjudged (fun behind fresh => ?_) hnotAll
      rw [hdecision, if_pos hon, hallows]
    · refine isPrediction_of_right (by decide) hmisjudged (fun behind fresh => ?_)
        (iff_of_false (by decide) hnotAll)
      rw [hdecision, if_pos hon, hright hmisjudged]

/-! ## One query that is judged right and one that is not -/

/-- A configuration file with an exempted path. -/
def hookFile : FileContent := some (Text.bytesOf "[fetch_metadata]\nexempted_paths = '/hook'\n")

/-- A message from another site to this path. -/
def hookQuery : Query := { site := some "cross-site", method := "POST", path := "/hook" }

/-- The request that carries it. -/
def hookRequest : Http.Request :=
  { Gateway.Traffic.crossSiteRequest with
    method := ⟨"POST"⟩
    target := ⟨none, none, "/hook", none⟩ }

theorem carries_hookRequest : Carries hookQuery hookRequest where
  method := rfl
  path := rfl
  site := rfl
  mode := rfl
  dest := rfl

/-- The command says what the gateway does, and why. -/
theorem hookQuery_predicted :
    ∃ config server output, loadConfig (some hookFile) = .ok config ∧
      Server.start config = .ok server ∧ evaluate (some hookFile) hookQuery = .ok output ∧
      NotesExemption output ∧
      ∀ behind fresh, Says output (decisionOn server behind fresh hookRequest) := by
  have hfile : (loadConfig (some hookFile)).toOption.map (fun c =>
      (c.fetchMetadata.enabled, c.fetchMetadata.exemptedPaths.paths)) =
        some (true, ["/hook"]) := by decide +kernel
  obtain ⟨config, hload⟩ : ∃ config, loadConfig (some hookFile) = .ok config := by
    cases hload : loadConfig (some hookFile) with
    | ok config => exact ⟨config, rfl⟩
    | error error =>
        rw [hload] at hfile
        cases hfile
  obtain ⟨hon, hpaths⟩ : config.fetchMetadata.enabled = true ∧
      config.fetchMetadata.exemptedPaths.paths = ["/hook"] := by
    rw [hload] at hfile
    simpa [Except.toOption] using hfile
  have hpath : hookQuery.path ∈ config.fetchMetadata.exemptedPaths.paths := by
    rw [hpaths]
    decide
  obtain ⟨-, server, output, hserver, hprinted, hprediction⟩ :=
    evaluate_predicts_iff hload carries_hookRequest
  refine ⟨config, server, output, hload, hserver, hprinted, ?_, fun behind fresh => ?_⟩
  · exact hprediction.remarks.2 ((letsAllThrough_iff_of_start hserver _).2 ⟨hon, hpath⟩)
  · exact (hprediction.right behind fresh).2 fun hwrong => hwrong.judged hpath

/-- A site beyond ASCII. -/
def accentedQuery : Query := { site := some "é" }

/-- The request that carries it. -/
def accentedRequest : Http.Request where
  method := .get
  target := ⟨none, none, "/", none⟩
  fields := Fields.empty.append FetchMetadata.siteName ⟨Text.bytesOf "é", by decide⟩
  body := .empty

theorem carries_accentedRequest : Carries accentedQuery accentedRequest where
  method := rfl
  path := rfl
  site := rfl
  mode := rfl
  dest := rfl

/-- Without a configuration file the command rejects it, and the gateway lets it through. -/
theorem accentedQuery_mispredicted :
    ∃ server output, Server.start {} = .ok server ∧ evaluate none accentedQuery = .ok output ∧
      output.stdout = "reject\n" ∧ Carries accentedQuery accentedRequest ∧
      ∀ behind fresh, decisionOn server behind fresh accentedRequest = .allow := by
  obtain ⟨server, hserver⟩ := (Config.builds_of_violations Config.violations_default).server
  refine ⟨server, _, hserver, rfl, by decide, carries_accentedRequest, fun behind fresh => ?_⟩
  rw [decisionOn_of_start hserver]
  decide

end IsolationGate.Command
