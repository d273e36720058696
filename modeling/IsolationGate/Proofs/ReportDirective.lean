import IsolationGate.Proofs.PolicyText
import IsolationGate.Proofs.UriAcceptance

/-!
# The report URI in the content policy

The content policy ends with the report URI as it was configured. What is read from the policy is
made of words, and no word holds a blank, a semicolon or a comma; so the URI comes out as the one
value of its directive exactly when it is a word. The rule on report URIs keeps blanks away, but
neither semicolons nor commas: with a semicolon the URI brings directives of its own into the
policy, with a comma whole policies. The directives that the gateway writes stay in front in every
case.

## Main results

* `isWord_of_mem_policiesOf` — every value that is read is a word.
* `ContentPolicy.isReadAsMeant_iff_isWord` — which report URIs are read as they are meant.
* `ContentPolicy.isReadAsMeant_iff` — the same for the report URIs that a configuration may have.
-/

namespace IsolationGate.Policy

/-! ## Words -/

theorem of_mem_words {cs word : List Char} (h : word ∈ words cs) :
    word ≠ [] ∧ ∀ c ∈ word, separatesWords c = false ∧ c ∈ cs := by
  rw [words, List.mem_filter, decide_eq_true_eq] at h
  obtain ⟨hsegment, hne⟩ := h
  refine ⟨hne, ?_⟩
  intro c hc
  obtain ⟨hblank, hmem⟩ := Text.of_mem_segments hsegment hc
  obtain ⟨d, hd, hdc⟩ := List.mem_map.1 hmem
  by_cases hseparates : separatesWords d = true
  · rw [if_pos hseparates] at hdc
    exact absurd hdc.symm hblank
  · rw [if_neg hseparates] at hdc
    subst hdc
    exact ⟨Bool.not_eq_true _ ▸ hseparates, hd⟩

/-- The values of a directive are words of the text that it was read from. -/
theorem Directive.mem_words_of_ofText? {cs : List Char} {directive : Directive}
    (h : ofText? cs = some directive) {value : String} (hvalue : value ∈ directive.values) :
    value.toList ∈ Policy.words cs := by
  rw [ofText?] at h
  split at h
  · cases h
  · next name values hwords =>
      cases h
      obtain ⟨word, hword, rfl⟩ := List.mem_map.1 hvalue
      rw [hwords, String.toList_ofList]
      exact List.mem_cons_of_mem name hword

/-- **Every value that is read is a word.** -/
theorem isWord_of_mem_policiesOf {text value : String} {policy : List Directive}
    {directive : Directive} (hpolicy : policy ∈ policiesOf text) (hdirective : directive ∈ policy)
    (hvalue : value ∈ directive.values) : IsWord value.toList := by
  obtain ⟨part, hpart, rfl⟩ := List.mem_map.1 hpolicy
  obtain ⟨piece, hpiece, hread⟩ := List.mem_filterMap.1 hdirective
  obtain ⟨hne, hchars⟩ := of_mem_words (Directive.mem_words_of_ofText? hread hvalue)
  refine ⟨hne, ?_⟩
  intro c hc
  obtain ⟨hseparates, hcpiece⟩ := hchars c hc
  obtain ⟨hsemicolon, hcpart⟩ := Text.of_mem_segments hpiece hcpiece
  obtain ⟨hcomma, -⟩ := Text.of_mem_segments hpart hcpart
  exact ⟨hseparates, hsemicolon, hcomma⟩

/-- What separates words is a blank. -/
theorem isBlank_of_separatesWords {c : Char} (h : separatesWords c = true) :
    Text.isBlank c = true := by
  simp only [separatesWords, List.contains_eq_mem, List.mem_cons, List.not_mem_nil, or_false,
    decide_eq_true_eq] at h
  rcases h with rfl | rfl | rfl | rfl | rfl <;> decide

/-- A text without blanks is a word unless it holds a semicolon or a comma. -/
theorem isWord_iff_of_isUnbroken {uri : String} (h : ReportUri.IsUnbroken uri) :
    IsWord uri.toList ↔ ';' ∉ uri.toList ∧ ',' ∉ uri.toList := by
  obtain ⟨hne, hchars⟩ := h
  constructor
  · intro hword
    exact ⟨fun hc => (hword.2 _ hc).2.1 rfl, fun hc => (hword.2 _ hc).2.2 rfl⟩
  · rintro ⟨hsemicolon, hcomma⟩
    refine ⟨fun hnil => hne (String.toList_eq_nil_iff.1 hnil), ?_⟩
    intro c hc
    refine ⟨?_, fun heq => hsemicolon (heq ▸ hc), fun heq => hcomma (heq ▸ hc)⟩
    by_contra hseparates
    have hblank := isBlank_of_separatesWords (Bool.not_eq_false _ ▸ hseparates)
    rw [(hchars c hc).1] at hblank
    cases hblank

/-! ## The directive of a report URI -/

/-- The directive that is meant by a report URI. -/
def reportDirective (uri : String) : Directive := ⟨"report-uri", [uri]⟩

theorem isWritable_reportDirective {uri : String} (h : IsWord uri.toList) :
    (reportDirective uri).IsWritable := by
  have hsmall : "report-uri".toList.map Char.toLower = "report-uri".toList := by decide
  refine ⟨hsmall, ?_⟩
  simp only [reportDirective, List.forall_mem_cons, List.not_mem_nil, false_implies, implies_true,
    and_true]
  exact ⟨by decide, h⟩

theorem written_reportDirective (uri : String) :
    (reportDirective uri).written = "report-uri ".toList ++ uri.toList := by
  simp [reportDirective, Directive.written, Text.joinWith]

namespace ContentPolicy

/-- The directives that are meant: those of the gateway, then the one of the report URI. -/
def meant (policy : ContentPolicy) (nonce : Nonce) : List Directive :=
  ownDirectives nonce ++ policy.reportUri.toList.map reportDirective

/-- What is read is one policy, with the directives that are meant and no others. -/
def IsReadAsMeant (policy : ContentPolicy) (nonce : Nonce) : Prop :=
  policiesOf (policy.text nonce) = [policy.meant nonce]

/-- **Which report URIs are read as they are meant**: words, and no other text. -/
theorem isReadAsMeant_iff_isWord (policy : ContentPolicy) (nonce : Nonce) :
    policy.IsReadAsMeant nonce ↔ ∀ uri ∈ policy.reportUri, IsWord uri.toList := by
  unfold IsReadAsMeant meant
  cases huri : policy.reportUri with
  | none => simp [policiesOf_text_of_none huri]
  | some uri =>
      simp only [Option.mem_some_iff, forall_eq', Option.toList_some, List.map_singleton]
      constructor
      · intro hread
        have hpolicy :
            ownDirectives nonce ++ [reportDirective uri] ∈ policiesOf (policy.text nonce) :=
          hread ▸ List.mem_singleton.2 rfl
        have hdirective : reportDirective uri ∈ ownDirectives nonce ++ [reportDirective uri] :=
          List.mem_append_right _ (List.mem_singleton.2 rfl)
        exact isWord_of_mem_policiesOf hpolicy hdirective (List.mem_singleton.2 rfl)
      · intro hword
        have hcomma : ',' ∉ uri.toList := fun hc => (hword.2 _ hc).2.2 rfl
        have hreport :
            directivesOf ("report-uri ".toList ++ uri.toList) = [reportDirective uri] := by
          rw [← written_reportDirective]
          exact directivesOf_written (isWritable_reportDirective hword)
        rw [policiesOf_text_of_some huri (Text.segments_eq_singleton hcomma), hreport, List.map_nil]

/-- **The report URIs of configurations.** The directives of the gateway are read in front of all
others, whatever the report URI is. The policy is read as it is meant exactly when the report URI
holds no semicolon and no comma; a configuration may have one that does. -/
theorem isReadAsMeant_iff {policy : ContentPolicy}
    (h : ∀ uri ∈ policy.reportUri, Config.reportUriViolations .contentReportUri uri = [])
    (nonce : Nonce) :
    (∃ more others, policiesOf (policy.text nonce) = (ownDirectives nonce ++ more) :: others) ∧
      (policy.IsReadAsMeant nonce ↔
        ∀ uri ∈ policy.reportUri, ';' ∉ uri.toList ∧ ',' ∉ uri.toList) := by
  constructor
  · obtain ⟨more, others, hpolicies, -⟩ := policy.exists_policiesOf_text nonce
    exact ⟨more, others, hpolicies⟩
  · rw [isReadAsMeant_iff_isWord]
    refine forall₂_congr fun uri huri => ?_
    have hcheck := Config.check_of_violations (h uri huri)
    exact isWord_iff_of_isUnbroken (ReportUri.isUnbroken_of_check hcheck)

/-- A path is read as it is meant. -/
theorem pathReports_meant :
    Config.reportUriViolations .contentReportUri "/csp-reports" = [] ∧
      IsReadAsMeant ⟨false, some "/csp-reports"⟩ default := by
  have hvalid : Config.reportUriViolations .contentReportUri "/csp-reports" = [] := by rfl
  have huri :
      ∀ uri ∈ some "/csp-reports", Config.reportUriViolations .contentReportUri uri = [] := by
    rintro uri ⟨⟩
    exact hvalid
  obtain ⟨-, hmeant⟩ := @isReadAsMeant_iff ⟨false, some "/csp-reports"⟩ huri default
  refine ⟨hvalid, hmeant.2 ?_⟩
  rintro uri ⟨⟩
  decide

/-- A semicolon in a report URI ends its directive, and what stands behind it is one more directive
of the policy: here a sandbox without any permission. -/
theorem sandboxReports_misread :
    Config.reportUriViolations .contentReportUri "/reports;sandbox" = [] ∧
      policiesOf (text ⟨false, some "/reports;sandbox"⟩ default) =
        [ownDirectives default ++ [⟨"report-uri", ["/reports"]⟩, ⟨"sandbox", []⟩]] ∧
      ¬ IsReadAsMeant ⟨false, some "/reports;sandbox"⟩ default := by
  have hsegments : Text.segments ',' "/reports;sandbox".toList = ["/reports;sandbox".toList] := by
    decide
  have hread : directivesOf ("report-uri ".toList ++ "/reports;sandbox".toList) =
      [⟨"report-uri", ["/reports"]⟩, ⟨"sandbox", []⟩] := by decide
  refine ⟨by rfl, ?_, ?_⟩
  · rw [policiesOf_text_of_some rfl hsegments, hread, List.map_nil]
  · rw [isReadAsMeant_iff_isWord]
    intro hword
    exact ((hword _ rfl).2 ';' (by decide)).2.1 rfl

end ContentPolicy

end IsolationGate.Policy
