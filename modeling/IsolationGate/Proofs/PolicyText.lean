import IsolationGate.Policy.ContentPolicy
import IsolationGate.Proofs.ValidConfig

/-!
# The content policy as a browser reads it

A browser cuts the value of a content policy at its commas into policies, each policy at its
semicolons into directives, and each directive at its blanks into words. The first word is the name
of the directive in any case of its letters; of two directives of one name the first one counts. An
element is let through when every policy does so.

The text of the gateway's policy is read here in that way. The report URI is its last word, so
whatever the URI holds, the directives that the gateway itself writes stand in front of it.

## Main results

* `ContentPolicy.exists_value` — with a report URI that is one the text is a field value.
* `ContentPolicy.exists_policiesOf_text` — the first policy starts with the gateway's directives.
* `ContentPolicy.trustOnly_text` — scripts and styles are trusted by the nonce of the request only.
-/

namespace IsolationGate.Policy

open Http (FieldName FieldValue Fields IsFieldChar)

/-! ## Reading a policy -/

/-- The characters that separate the words of a directive. -/
def separatesWords (c : Char) : Bool := [' ', '\t', '\n', '\x0c', '\r'].contains c

/-- The words of a text. -/
def words (cs : List Char) : List (List Char) :=
  (Text.segments ' ' (cs.map fun c => if separatesWords c then ' ' else c)).filter (· ≠ [])

/-- A directive of a policy. -/
structure Directive where
  name : String
  values : List String
  deriving DecidableEq

/-- The directive of a text; a text without words has none. -/
def Directive.ofText? (cs : List Char) : Option Directive :=
  match words cs with
  | [] => none
  | name :: values => some ⟨String.ofList (name.map Char.toLower), values.map String.ofList⟩

/-- The directives of a policy, in their order. -/
def directivesOf (policy : List Char) : List Directive :=
  (Text.segments ';' policy).filterMap Directive.ofText?

/-- The policies of a field value, each by its directives. -/
def policiesOf (text : String) : List (List Directive) :=
  (Text.segments ',' text.toList).map directivesOf

/-- The nonce that a value of a directive trusts. -/
def nonce? (value : String) : Option String :=
  let cs := value.toList
  if "'nonce-".toList.isPrefixOf (cs.map Char.toLower) ∧ cs.getLast? = some '\x27' then
    some (String.ofList ((cs.drop 7).dropLast))
  else none

/-- The nonces that the directive of a name trusts; nothing when the policy has no such directive. -/
def nonces? (name : String) (policy : List Directive) : Option (List String) :=
  (policy.find? fun directive => directive.name = name).map fun directive =>
    directive.values.filterMap nonce?

/-! ## Words -/

/-- A word: it is not empty, and no character of it ends a word, a directive or a policy. -/
def IsWord (cs : List Char) : Prop :=
  cs ≠ [] ∧ ∀ c ∈ cs, separatesWords c = false ∧ c ≠ ';' ∧ c ≠ ','

/-- Character by character: there are too many characters to try them all. -/
instance (cs : List Char) : Decidable (IsWord cs) :=
  decidable_of_iff
    (cs ≠ [] ∧ (cs.all fun c => decide (separatesWords c = false ∧ c ≠ ';' ∧ c ≠ ',')) = true)
    (by simp only [IsWord, List.all_eq_true, decide_eq_true_eq])

theorem words_cons_blank (cs : List Char) : words (' ' :: cs) = words cs := by
  have hblank : (if separatesWords ' ' then ' ' else ' ') = ' ' := by decide
  have hsegments := Text.segments_append ' ' [] (cs.map fun c => if separatesWords c then ' ' else c)
  rw [words, List.map_cons, hblank]
  rw [List.nil_append] at hsegments
  rw [hsegments, List.filter_append]
  rfl

/-- Words with one blank between neighbours are read back. -/
theorem words_joinWith {items : List (List Char)} (h : ∀ item ∈ items, IsWord item) :
    words (Text.joinWith [' '] items) = items := by
  have hkept : (Text.joinWith [' '] items).map (fun c => if separatesWords c then ' ' else c) =
      Text.joinWith [' '] items := by
    refine (List.map_congr_left fun c hc => ?_).trans (List.map_id _)
    rcases Text.mem_joinWith hc with hblank | ⟨item, hitem, hmem⟩
    · rw [List.mem_singleton.1 hblank]
      rfl
    · rw [((h item hitem).2 c hmem).1]
      rfl
  have hblank : ∀ item ∈ items, ' ' ∉ item := fun item hitem hmem =>
    absurd ((h item hitem).2 ' ' hmem).1 (by decide)
  by_cases hnone : items = []
  · rw [hnone]
    rfl
  · rw [words, hkept, Text.segments_joinWith hnone hblank, List.filter_eq_self]
    exact fun item hitem => decide_eq_true (h item hitem).1

/-! ## Nonces -/

/-- What holds of every symbol holds of every character of a nonce. -/
theorem Nonce.forall_of_symbols {p : Char → Bool}
    (h : ('=' :: Text.Base64.alphabet).all p = true) (nonce : Nonce) :
    ∀ c ∈ nonce.text.toList, p c = true := by
  intro c hc
  have hsymbol := List.all_eq_true.1 nonce.symbols c hc
  refine List.all_eq_true.1 h c ?_
  simp only [Text.Base64.isSymbol, Bool.or_eq_true, List.contains_eq_mem, decide_eq_true_eq]
    at hsymbol
  rcases hsymbol with halphabet | hfill
  · exact List.mem_cons_of_mem '=' halphabet
  · exact hfill ▸ List.mem_cons_self

/-- The value that trusts a nonce. -/
def nonceSource (nonce : Nonce) : String := "'nonce-" ++ nonce.text ++ "'"

theorem toList_nonceSource (nonce : Nonce) :
    (nonceSource nonce).toList = "'nonce-".toList ++ nonce.text.toList ++ ['\x27'] := by
  rw [nonceSource, String.toList_append, String.toList_append]
  rfl

theorem nonce?_nonceSource (nonce : Nonce) : nonce? (nonceSource nonce) = some nonce.text := by
  have hcond : "'nonce-".toList.isPrefixOf ((nonceSource nonce).toList.map Char.toLower) ∧
      (nonceSource nonce).toList.getLast? = some '\x27' := by
    rw [toList_nonceSource]
    constructor
    · rw [List.isPrefixOf_iff_prefix, List.map_append, List.map_append, List.append_assoc]
      exact List.prefix_append _ _
    · exact List.getLast?_concat
  have hinner : ((nonceSource nonce).toList.drop 7).dropLast = nonce.text.toList := by
    rw [toList_nonceSource, List.append_assoc, List.drop_append_of_le_length (by decide)]
    exact List.dropLast_concat
  rw [nonce?, if_pos hcond, hinner, String.ofList_toList]

/-! ## The directives of the gateway -/

/-- The directives that the gateway writes for a nonce. -/
def ownDirectives (nonce : Nonce) : List Directive :=
  [⟨"object-src", ["'none'"]⟩,
    ⟨"script-src", [nonceSource nonce, "'strict-dynamic'", "http:", "https:"]⟩,
    ⟨"style-src", ["'self'", nonceSource nonce]⟩,
    ⟨"base-uri", ["'none'"]⟩]

/-- A directive as the gateway writes it. -/
def Directive.written (directive : Directive) : List Char :=
  Text.joinWith [' '] (directive.name.toList :: directive.values.map String.toList)

/-- A directive that is read as it was written: its parts are words, and its name is small. -/
structure Directive.IsWritable (directive : Directive) : Prop where
  small : directive.name.toList.map Char.toLower = directive.name.toList
  words : ∀ word ∈ directive.name :: directive.values, IsWord word.toList

theorem Directive.ofText?_written {directive : Directive} (h : directive.IsWritable) :
    ofText? directive.written = some directive := by
  have hwords : ∀ item ∈ directive.name.toList :: directive.values.map String.toList,
      IsWord item := by
    intro item hitem
    rw [← List.map_cons] at hitem
    obtain ⟨word, hword, rfl⟩ := List.mem_map.1 hitem
    exact h.words word hword
  have hvalues : (directive.values.map String.toList).map String.ofList = directive.values := by
    rw [List.map_map]
    exact (List.map_congr_left fun value _ => String.ofList_toList).trans (List.map_id _)
  rw [ofText?, written, words_joinWith hwords]
  simp only [h.small, String.ofList_toList, hvalues]

/-- Nothing in a written directive ends it. -/
theorem Directive.ne_of_mem_written {directive : Directive} (h : directive.IsWritable) {c : Char}
    (hc : c ∈ directive.written) : c ≠ ';' ∧ c ≠ ',' := by
  rcases Text.mem_joinWith hc with hblank | ⟨item, hitem, hmem⟩
  · rw [List.mem_singleton.1 hblank]
    decide
  · rw [← List.map_cons] at hitem
    obtain ⟨word, hword, rfl⟩ := List.mem_map.1 hitem
    exact ((h.words word hword).2 c hmem).2

theorem isWord_nonceSource (nonce : Nonce) : IsWord (nonceSource nonce).toList := by
  have hnonce := Nonce.forall_of_symbols
    (p := fun c => decide (separatesWords c = false ∧ c ≠ ';' ∧ c ≠ ',')) (by decide +kernel) nonce
  have hfixed : IsWord "'nonce-".toList := by decide
  rw [toList_nonceSource]
  refine ⟨by simp, fun c hc => ?_⟩
  simp only [List.mem_append] at hc
  rcases hc with (hopening | hsymbol) | hquote
  · exact hfixed.2 c hopening
  · exact of_decide_eq_true (hnonce c hsymbol)
  · rw [List.mem_singleton.1 hquote]
    decide

theorem isWritable_of_mem_ownDirectives {nonce : Nonce} {directive : Directive}
    (h : directive ∈ ownDirectives nonce) : directive.IsWritable := by
  have hnonce := isWord_nonceSource nonce
  simp only [ownDirectives, List.mem_cons, List.not_mem_nil, or_false] at h
  rcases h with rfl | rfl | rfl | rfl
  · exact ⟨by decide, by decide⟩
  · have hsmall : "script-src".toList.map Char.toLower = "script-src".toList := by decide
    refine ⟨hsmall, ?_⟩
    simp only [List.forall_mem_cons, List.not_mem_nil, false_implies, implies_true, and_true]
    exact ⟨by decide, hnonce, by decide, by decide, by decide⟩
  · have hsmall : "style-src".toList.map Char.toLower = "style-src".toList := by decide
    refine ⟨hsmall, ?_⟩
    simp only [List.forall_mem_cons, List.not_mem_nil, false_implies, implies_true, and_true]
    exact ⟨by decide, by decide, hnonce⟩
  · exact ⟨by decide, by decide⟩

/-! ## Reading the directives of the gateway -/

theorem directivesOf_append (a b : List Char) :
    directivesOf (a ++ ';' :: b) = directivesOf a ++ directivesOf b := by
  rw [directivesOf, Text.segments_append, List.filterMap_append]
  rfl

theorem directivesOf_cons_blank (cs : List Char) : directivesOf (' ' :: cs) = directivesOf cs := by
  obtain ⟨first, rest, hsegments⟩ := List.exists_cons_of_ne_nil (Text.segments_ne_nil ';' cs)
  have hcons := Text.segments_append_of_not_mem (a := [' ']) (by decide) hsegments
  have hfirst : Directive.ofText? (' ' :: first) = Directive.ofText? first := by
    rw [Directive.ofText?, words_cons_blank]
    rfl
  rw [List.singleton_append, List.singleton_append] at hcons
  rw [directivesOf, directivesOf, hcons, hsegments, List.filterMap_cons, List.filterMap_cons,
    hfirst]

theorem directivesOf_written {directive : Directive} (h : directive.IsWritable) :
    directivesOf directive.written = [directive] := by
  have hsemicolon : ';' ∉ directive.written := fun hmem =>
    (Directive.ne_of_mem_written h hmem).1 rfl
  rw [directivesOf, Text.segments_eq_singleton hsemicolon]
  simp [Directive.ofText?_written h]

/-- Directives with a semicolon and a blank between neighbours are read back. -/
theorem directivesOf_joinWith {directives : List Directive} (h : ∀ d ∈ directives, d.IsWritable) :
    directivesOf (Text.joinWith [';', ' '] (directives.map Directive.written)) = directives := by
  induction directives with
  | nil => rfl
  | cons directive rest ih =>
      have hdirective := directivesOf_written (h directive List.mem_cons_self)
      have hrest := ih fun d hd => h d (List.mem_cons_of_mem directive hd)
      cases rest with
      | nil => exact hdirective
      | cons next more =>
          have hjoin : Text.joinWith [';', ' '] ((directive :: next :: more).map Directive.written) =
              directive.written ++
                ';' :: ' ' :: Text.joinWith [';', ' '] ((next :: more).map Directive.written) := by
            simp [Text.joinWith]
          rw [hjoin, directivesOf_append, directivesOf_cons_blank, hdirective, hrest]
          rfl

/-- The text of the directives around the two places of the nonce. -/
theorem toList_directives (nonce : Nonce) :
    (ContentPolicy.directives nonce).toList =
      "object-src 'none'; script-src 'nonce-".toList ++ nonce.text.toList ++
        "' 'strict-dynamic' http: https:; style-src 'self' 'nonce-".toList ++
          nonce.text.toList ++ "'; base-uri 'none'".toList := by
  unfold ContentPolicy.directives
  simp only [String.toList_append]

theorem toList_directives_eq_joinWith (nonce : Nonce) :
    (ContentPolicy.directives nonce).toList =
      Text.joinWith [';', ' '] ((ownDirectives nonce).map Directive.written) := by
  rw [toList_directives]
  simp [ownDirectives, Directive.written, Text.joinWith, toList_nonceSource]

theorem directivesOf_directives (nonce : Nonce) :
    directivesOf (ContentPolicy.directives nonce).toList = ownDirectives nonce := by
  rw [toList_directives_eq_joinWith]
  exact directivesOf_joinWith fun _ hd => isWritable_of_mem_ownDirectives hd

theorem comma_notMem_directives (nonce : Nonce) : ',' ∉ (ContentPolicy.directives nonce).toList := by
  intro hcomma
  rw [toList_directives_eq_joinWith] at hcomma
  rcases Text.mem_joinWith hcomma with hmark | ⟨item, hitem, hmem⟩
  · revert hmark
    decide
  · obtain ⟨directive, hdirective, rfl⟩ := List.mem_map.1 hitem
    exact (Directive.ne_of_mem_written (isWritable_of_mem_ownDirectives hdirective) hmem).2 rfl

/-- Scripts and styles are trusted by this nonce and by no other: the first policy says so, and an
element has to be let through by every policy. -/
structure TrustOnly (policies : List (List Directive)) (nonce : Nonce) : Prop where
  script : policies.head?.bind (nonces? "script-src") = some [nonce.text]
  style : policies.head?.bind (nonces? "style-src") = some [nonce.text]

/-- Directives behind those of the gateway take nothing back. -/
theorem trustOnly_ownDirectives (nonce : Nonce) (more : List Directive)
    (others : List (List Directive)) : TrustOnly ((ownDirectives nonce ++ more) :: others) nonce := by
  have hplain : ["'strict-dynamic'", "http:", "https:"].filterMap nonce? = [] := by decide
  have hself : nonce? "'self'" = none := by decide
  have hscript : [nonceSource nonce, "'strict-dynamic'", "http:", "https:"].filterMap nonce? =
      [nonce.text] := by
    rw [List.filterMap_cons, nonce?_nonceSource, hplain]
  have hstyle : ["'self'", nonceSource nonce].filterMap nonce? = [nonce.text] := by
    rw [List.filterMap_cons, hself, List.filterMap_cons, nonce?_nonceSource]
    rfl
  exact ⟨congrArg some hscript, congrArg some hstyle⟩

namespace ContentPolicy

theorem toList_text_of_some {policy : ContentPolicy} {uri : String}
    (h : policy.reportUri = some uri) (nonce : Nonce) :
    (policy.text nonce).toList =
      (directives nonce).toList ++ ';' :: ' ' :: ("report-uri ".toList ++ uri.toList) := by
  have htext : policy.text nonce = directives nonce ++ "; report-uri " ++ uri := by
    rw [text, h]
  rw [htext, String.toList_append, String.toList_append, List.append_assoc]
  rfl

theorem policiesOf_text_of_none {policy : ContentPolicy} (h : policy.reportUri = none)
    (nonce : Nonce) : policiesOf (policy.text nonce) = [ownDirectives nonce] := by
  have htext : policy.text nonce = directives nonce := by rw [text, h]
  rw [policiesOf, htext, Text.segments_eq_singleton (comma_notMem_directives nonce),
    List.map_singleton, directivesOf_directives]

/-- The report URI up to its first comma ends the first policy, and each stretch behind a comma is a
policy of its own. -/
theorem policiesOf_text_of_some {policy : ContentPolicy} {uri : String} {first : List Char}
    {rest : List (List Char)} (h : policy.reportUri = some uri)
    (hsegments : Text.segments ',' uri.toList = first :: rest) (nonce : Nonce) :
    policiesOf (policy.text nonce) =
      (ownDirectives nonce ++ directivesOf ("report-uri ".toList ++ first)) ::
        rest.map directivesOf := by
  have hreport := Text.segments_append_of_not_mem (a := ";".toList ++ " report-uri ".toList)
    (by decide) hsegments
  have htext := Text.segments_append_of_not_mem (comma_notMem_directives nonce) hreport
  have hjoined : (policy.text nonce).toList = (directives nonce).toList ++
      (";".toList ++ " report-uri ".toList ++ uri.toList) := toList_text_of_some h nonce
  have hfirst : directivesOf ((directives nonce).toList ++
      (";".toList ++ " report-uri ".toList ++ first)) =
        ownDirectives nonce ++ directivesOf ("report-uri ".toList ++ first) := by
    rw [← directivesOf_directives, ← directivesOf_cons_blank ("report-uri ".toList ++ first),
      ← directivesOf_append]
    rfl
  rw [policiesOf, hjoined, htext, List.map_cons, hfirst]

/-- The directives of the gateway stand at the start of the first policy, which is the only one when
no comma is in the report URI. -/
theorem exists_policiesOf_text (policy : ContentPolicy) (nonce : Nonce) :
    ∃ more others, policiesOf (policy.text nonce) = (ownDirectives nonce ++ more) :: others ∧
      ((∀ uri ∈ policy.reportUri, ',' ∉ uri.toList) → others = []) := by
  cases huri : policy.reportUri with
  | none =>
      refine ⟨[], [], ?_, fun _ => rfl⟩
      rw [policiesOf_text_of_none huri, List.append_nil]
  | some uri =>
      obtain ⟨first, rest, hsegments⟩ :=
        List.exists_cons_of_ne_nil (Text.segments_ne_nil ',' uri.toList)
      refine ⟨_, _, policiesOf_text_of_some huri hsegments nonce, ?_⟩
      intro hcomma
      rw [Text.segments_eq_singleton (hcomma uri rfl)] at hsegments
      rw [← (List.cons.inj hsegments).2]
      rfl

/-- **The policy of a request trusts its nonce only.** -/
theorem trustOnly_text (policy : ContentPolicy) (nonce : Nonce) :
    TrustOnly (policiesOf (policy.text nonce)) nonce := by
  obtain ⟨more, others, hpolicies, -⟩ := policy.exists_policiesOf_text nonce
  rw [hpolicies]
  exact trustOnly_ownDirectives nonce more others

theorem isFieldChar_directives (nonce : Nonce) :
    ∀ c ∈ (directives nonce).toList, IsFieldChar c := by
  have hnonce : ∀ c ∈ nonce.text.toList, IsFieldChar c := fun c hc =>
    of_decide_eq_true (Nonce.forall_of_symbols (p := fun d => decide (IsFieldChar d))
      (by decide +kernel) nonce c hc)
  intro c hc
  rw [toList_directives] at hc
  simp only [List.mem_append] at hc
  rcases hc with (((hfixed | hsymbol) | hfixed) | hsymbol) | hfixed
  · exact isFieldChar_of_all (by decide +kernel) c hfixed
  · exact hnonce c hsymbol
  · exact isFieldChar_of_all (by decide +kernel) c hfixed
  · exact hnonce c hsymbol
  · exact isFieldChar_of_all (by decide +kernel) c hfixed

/-- A report URI that is one leaves the text of the policy a field value. -/
theorem exists_value {policy : ContentPolicy}
    (h : ∀ uri ∈ policy.reportUri, ReportUri.check uri = .ok ()) (nonce : Nonce) :
    ∃ value, FieldValue.ofText? (policy.text nonce) = some value := by
  refine FieldValue.exists_ofText? ?_
  cases huri : policy.reportUri with
  | none =>
      rw [show policy.text nonce = directives nonce by rw [text, huri]]
      exact isFieldChar_directives nonce
  | some uri =>
      rw [toList_text_of_some huri]
      intro c hc
      rcases List.mem_append.1 hc with hown | hreport
      · exact isFieldChar_directives nonce c hown
      · rw [← List.cons_append, ← List.cons_append, List.mem_append] at hreport
        rcases hreport with hfixed | hmem
        · exact isFieldChar_of_all (by decide) c hfixed
        · exact ReportUri.isFieldChar_of_check (h uri huri) c hmem

end ContentPolicy

end IsolationGate.Policy
