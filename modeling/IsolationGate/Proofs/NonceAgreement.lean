import IsolationGate.Proofs.HotReload
import IsolationGate.Proofs.Layers
import IsolationGate.Proofs.PolicyText

/-!
# One nonce for each request

The nonce of a request is used in three places: the server behind the gateway is told it, the style
of the gateway's own page carries it, and the content policy of the answer trusts it. They agree
because the nonce belongs to the request and not to the filters, which may be replaced in between;
only whether there is a content policy at all is read from them, and that once.

A handler is only reached by a request that the outer layers have let through. That is an invariant
of every run: such a request has read the filters more than once.

## Main results

* `bytes_nonceValue` — what is sent on as the nonce of a request is its text.
* `Page.demoPage_eq_pageWith` — the nonce stands in the page as it is.
* `values_isolated_content` — which content policy an answer gets.
* `Traffic.isAdmitted_run` — what holds of every request that has read the content policy.
* `agreesOnNonce_of_not_isStopped` — the agreement for one request that has reached a handler.
* `Traffic.agreesOnNonce_run` — the agreement for every run.
-/

namespace IsolationGate

open Http (FieldName FieldValue Fields Request Response)
open Policy (ContentPolicy Nonce)

/-! ## The nonce as it is written -/

namespace Page

/-- The page with a nonce that is written as it is. -/
def pageWith (nonce path : String) : String :=
  "<!DOCTYPE html>\n<html>\n<head>\n<title>isolation-gate</title>\n" ++
    ("<style nonce=\"" ++ nonce ++ "\" type=\"text/css\">" ++ demoStyle.body ++ "</style>") ++
    "\n</head>\n<body>\n<h1>isolation-gate</h1>\n<p>Requested path: <code>" ++ escape path ++
    "</code></p>\n</body>\n</html>\n"

/-- No character of a nonce has to be escaped. -/
theorem escape_nonce (nonce : Nonce) : escape nonce.text = nonce.text := by
  have hsymbols : ∀ c ∈ nonce.text.toList, escapeChar c = [c] := fun c hc =>
    eq_of_beq (Nonce.forall_of_symbols (p := fun d => escapeChar d == [d]) (by decide +kernel)
      nonce c hc)
  have hsame : nonce.text.toList.flatMap escapeChar = nonce.text.toList := by
    rw [List.flatMap_def, List.map_congr_left hsymbols, ← List.flatMap_def, List.flatMap_singleton']
  rw [escape, hsame, String.ofList_toList]

theorem render_demoStyle (nonce : Option String) :
    demoStyle.render nonce =
      "<style nonce=\"" ++ escape (nonce.getD "") ++ "\" type=\"text/css\">" ++ demoStyle.body ++
        "</style>" := by
  have htype : escape "text/css" = "text/css" := by decide
  have hattributes : demoStyle.allAttributes nonce =
      [("nonce", nonce.getD ""), ("type", "text/css")] := rfl
  rw [StyleTag.render, hattributes, ← String.toList_inj]
  simp [StyleTag.attributeText, String.join, htype]

/-- Nor has a nonce that is missing. -/
theorem escape_nonceText (nonce : Option Nonce) :
    escape ((nonce.map fun n => n.text).getD "") = (nonce.map fun n => n.text).getD "" := by
  cases nonce with
  | none => rfl
  | some n => exact escape_nonce n

/-- The page carries the nonce as it is, and an empty one without a content policy. -/
theorem demoPage_eq_pageWith (nonce : Option Nonce) (path : String) :
    demoPage nonce path = pageWith ((nonce.map fun n => n.text).getD "") path := by
  unfold demoPage pageWith
  rw [render_demoStyle, escape_nonceText]

end Page

namespace Gateway

/-- The value of a nonce is its text. -/
theorem bytes_nonceValue (nonce : Nonce) : (nonceValue nonce).bytes = Text.bytesOf nonce.text := by
  refine List.filter_eq_self.2 fun b hb => ?_
  obtain ⟨c, hc, hbc⟩ := List.mem_flatMap.1 hb
  have hplain := Nonce.forall_of_symbols
    (p := fun d => (String.utf8EncodeChar d).all Http.isPlainByte) (by decide +kernel) nonce c hc
  exact List.all_eq_true.1 hplain b hbc

/-- What a handler sends on is made from the request and its nonce. -/
theorem sent_handle {setup : Setup} {server : OriginServer} {nonce : Option Nonce}
    {request : Request} {message : Outgoing}
    (h : (handle setup server nonce request).sent = some message) :
    ∃ authority, message = outgoing setup.maxBodyBytes authority nonce request := by
  unfold handle at h
  split at h
  · cases h
  · split at h
    · next authority _ =>
        refine ⟨authority, ?_⟩
        unfold forward at h
        dsimp only at h
        split at h
        · cases h
        · exact (Option.some.inj h).symm
        · exact (Option.some.inj h).symm
        · exact (Option.some.inj h).symm
    · cases h

/-! ## The content policy of an answer -/

theorem changed_append (a b : List Change) (response : Response) :
    changed (a ++ b) response = changed b (changed a response) := List.foldl_append

/-- The names under which a content policy is sent. -/
def contentNames : List FieldName := [ContentPolicy.enforcingName, ContentPolicy.reportingName]

/-- The policies add the content policy to an answer that has none, and touch no other. -/
theorem values_isolated_content {name : FieldName} (h : name ∈ contentNames) (snapshot : Snapshot)
    (nonce : Nonce) (path : String) (response : Response) :
    (isolated snapshot nonce path response).fields.values name =
      match snapshot.content with
      | some policy =>
          if name = policy.fieldName ∧ response.fields.values name = [] then
            (FieldValue.ofText? (policy.text nonce)).toList
          else response.fields.values name
      | none => response.fields.values name := by
  let others : Snapshot := { snapshot with content := none }
  have hnames : name ≠ Policy.OpenerPolicy.fieldName ∧
      name ≠ Policy.EmbedderPolicy.enforcingName ∧ name ≠ Policy.EmbedderPolicy.reportingName ∧
        name ≠ Policy.EmbedderPolicy.reportToName := by
    revert name
    decide
  obtain ⟨hopener, henforcing, hreporting, hgroup⟩ := hnames
  have hnone : ∀ policy, policy ∉ others.content := fun _ => Option.not_mem_none _
  have hothers : (changed (policyChanges others nonce path) response).fields.values name =
      response.fields.values name :=
    changed_eq (fun r => r.fields.values name) (forall_policyChanges
      (values_embed_of_ne henforcing hreporting hgroup _ path)
      (fun policy => values_openWith_of_ne hopener policy path)
      fun policy hpolicy => absurd hpolicy (hnone policy)) response
  have hchanges : policyChanges snapshot nonce path = policyChanges others nonce path ++
      (snapshot.content.map fun policy => restrict policy nonce).toList := by
    simp [policyChanges, others]
  rw [isolated, hchanges, changed_append]
  cases snapshot.content with
  | none => exact hothers
  | some policy =>
      rw [← hothers]
      exact values_restrict policy nonce _ name

/-- The content policy of an answer next to what the handler has given. -/
structure Restricts (policy : ContentPolicy) (nonce : Nonce) (given final : Fields) : Prop where
  /-- An answer with a policy of its own keeps it. -/
  kept : given.values policy.fieldName ≠ [] →
    final.values policy.fieldName = given.values policy.fieldName
  /-- Any other answer gets one value, the text of the policy. -/
  added : given.values policy.fieldName = [] →
    ∀ value, FieldValue.ofText? (policy.text nonce) = some value →
      final.values policy.fieldName = [value] ∧ value.bytes = Text.bytesOf (policy.text nonce)
  /-- A text that is no field value is not sent. -/
  dropped : given.values policy.fieldName = [] →
    FieldValue.ofText? (policy.text nonce) = none → final.values policy.fieldName = []
  /-- There is such a value for every report URI that is one. -/
  legal : (∀ uri ∈ policy.reportUri, Policy.ReportUri.check uri = .ok ()) →
    ∃ value, FieldValue.ofText? (policy.text nonce) = some value
  trusts : Policy.TrustOnly (Policy.policiesOf (policy.text nonce)) nonce
  /-- A policy under the other name stays as it is. -/
  others : ∀ name ∈ contentNames, name ≠ policy.fieldName → final.values name = given.values name

theorem fieldName_mem_contentNames (policy : ContentPolicy) : policy.fieldName ∈ contentNames := by
  unfold ContentPolicy.fieldName
  split <;> decide

theorem restricts_isolated {snapshot : Snapshot} {policy : ContentPolicy}
    (hpolicy : snapshot.content = some policy) (nonce : Nonce) (path : String)
    (response : Response) :
    Restricts policy nonce response.fields (isolated snapshot nonce path response).fields := by
  have hvalues : ∀ name ∈ contentNames,
      (isolated snapshot nonce path response).fields.values name =
        if name = policy.fieldName ∧ response.fields.values name = [] then
          (FieldValue.ofText? (policy.text nonce)).toList
        else response.fields.values name := by
    intro name hname
    rw [values_isolated_content hname, hpolicy]
  have hown := hvalues policy.fieldName (fieldName_mem_contentNames policy)
  refine ⟨?_, ?_, ?_, fun huri => ContentPolicy.exists_value huri nonce,
    ContentPolicy.trustOnly_text policy nonce, ?_⟩
  · intro hsome
    rw [hown, if_neg fun hboth => hsome hboth.2]
  · intro hnone value hvalue
    rw [hown, if_pos ⟨rfl, hnone⟩, hvalue]
    exact ⟨rfl, FieldValue.ofBytes?_eq_some_iff.1 hvalue⟩
  · intro hnone htext
    rw [hown, if_pos ⟨rfl, hnone⟩, htext]
    rfl
  · intro name hname hne
    rw [hvalues name hname, if_neg fun hboth => hne hboth.1]

/-! ## Requests that reach a handler -/

theorem InFlight.request_readNext (r : InFlight) (setup : Setup) (live : Snapshot) :
    (r.readNext setup live).request = r.request := by
  unfold readNext
  split <;> rfl

/-- A second reading is only made by a request that the outer layers let through. -/
theorem InFlight.readNext_cases {r : InFlight} {setup : Setup} {live guarding next : Snapshot}
    {rest : List Snapshot} (h : (r.readNext setup live).read = guarding :: next :: rest) :
    (∃ next' rest', r.read = guarding :: next' :: rest') ∨
      isStopped setup guarding r.request = false := by
  unfold readNext at h
  split at h
  · next hreading =>
      rcases hread : r.read with _ | ⟨first, _ | ⟨second, more⟩⟩
      · rw [hread] at h
        cases h
      · rw [hread] at h
        have hfirst : first = guarding := (List.cons.inj h).1
        rw [isReading, hread, hfirst, Bool.not_eq_true'] at hreading
        exact .inr hreading
      · rw [hread] at h
        have hfirst : first = guarding := (List.cons.inj h).1
        exact .inl ⟨second, more, hfirst ▸ rfl⟩
  · exact .inl ⟨next, rest, h⟩

/-- What comes of a request at the handler, which is told the nonce if there is a content policy. -/
def handled (setup : Setup) (restricting : Snapshot) (behind : OriginServer) (r : InFlight) :
    Outcome :=
  handle setup behind (restricting.content.map fun _ => r.fresh.nonce)
    (identified r.fresh.requestId r.request)

/-- The outcome of a request next to what has come of it at the handler: the content policy is the
one of a snapshot, and the nonce is that of the request wherever it stands. -/
structure AgreesOnNonce (setup : Setup) (restricting : Snapshot) (behind : OriginServer)
    (r : InFlight) (outcome : Outcome) (final : Response) : Prop where
  /-- The server behind the gateway is told the nonce and no other. -/
  told : restricting.content.isSome = true → ∀ message, outcome.sent = some message →
    message.fields.values nonceName = [nonceValue r.fresh.nonce] ∧
      (nonceValue r.fresh.nonce).bytes = Text.bytesOf r.fresh.nonce.text
  restricts : ∀ policy, restricting.content = some policy →
    ∀ given, (handled setup restricting behind r).response = some given →
      Restricts policy r.fresh.nonce given.fields final.fields
  /-- Without a content policy none is added. -/
  off : restricting.content = none →
    ∀ given, (handled setup restricting behind r).response = some given →
      ∀ name ∈ contentNames, final.fields.values name = given.fields.values name
  /-- The gateway's own page has the nonce, or an empty one without a content policy. -/
  page : setup.origin = none → r.request.target.path ≠ healthPath →
    r.request.method ≠ .head → r.request.method ≠ .connect →
      final.body = Text.bytesOf (Page.pageWith
        ((restricting.content.map fun _ => r.fresh.nonce.text).getD "") r.request.target.path)

/-- The handler shows its page when there is nothing behind the gateway. -/
theorem response_handled_of_page {setup : Setup} (horigin : setup.origin = none)
    (restricting : Snapshot) (behind : OriginServer) {r : InFlight}
    (hpath : r.request.target.path ≠ healthPath) :
    (handled setup restricting behind r).response =
      some (.html 200 (Page.pageWith
        ((restricting.content.map fun _ => r.fresh.nonce.text).getD "")
        r.request.target.path)) := by
  have hpage : handled setup restricting behind r =
      .ofResponse (.html 200 (Page.demoPage (restricting.content.map fun _ => r.fresh.nonce)
        r.request.target.path)) := by
    rw [handled, handle, horigin]
    exact if_neg hpath
  rw [hpage, Page.demoPage_eq_pageWith, Option.map_map]
  rfl

/-- The answer that is made of the one that the handler gives. -/
theorem final_eq_of_handled {setup : Setup} {snapshot : Snapshot} {behind : OriginServer}
    {r : InFlight} {given final : Response} (h : isStopped setup snapshot r.request = false)
    (hgiven : (handled setup snapshot behind r).response = some given)
    (hfinal : (answer setup snapshot behind r.fresh r.request).response = some final) :
    final = finish r.request (correlated (identified r.fresh.requestId r.request)
      (marked snapshot (isolated snapshot r.fresh.nonce r.request.target.path given))) := by
  rw [handled] at hgiven
  rw [(answer_of_not_isStopped h behind r.fresh).1, hgiven] at hfinal
  exact (Option.some.inj hfinal).symm

/-- Outside the policies no layer touches a content policy. -/
theorem values_content_of_handled {setup : Setup} {snapshot : Snapshot} {behind : OriginServer}
    {r : InFlight} {given final : Response} (h : isStopped setup snapshot r.request = false)
    (hgiven : (handled setup snapshot behind r).response = some given)
    (hfinal : (answer setup snapshot behind r.fresh r.request).response = some final)
    {name : FieldName} (hname : name ∈ contentNames) :
    final.fields.values name =
      (isolated snapshot r.fresh.nonce r.request.target.path given).fields.values name := by
  have hmem : ∀ other ∈ contentNames, other ∈ isolationNames := by decide
  rw [final_eq_of_handled h hgiven hfinal, values_outside (hmem name hname)]

/-- **The agreement for one request** that the outer layers let through. -/
theorem agreesOnNonce_of_not_isStopped {setup : Setup} {snapshot : Snapshot}
    {behind : OriginServer} {r : InFlight} {final : Response}
    (h : isStopped setup snapshot r.request = false)
    (hfinal : (answer setup snapshot behind r.fresh r.request).response = some final) :
    AgreesOnNonce setup snapshot behind r (answer setup snapshot behind r.fresh r.request)
      final where
  told := by
    intro hon message hmessage
    obtain ⟨policy, hpolicy⟩ := Option.isSome_iff_exists.1 hon
    rw [(answer_of_not_isStopped h behind r.fresh).2, hpolicy] at hmessage
    obtain ⟨authority, rfl⟩ := sent_handle hmessage
    exact ⟨values_nonce_outgoing setup.maxBodyBytes authority r.fresh.nonce _,
      bytes_nonceValue r.fresh.nonce⟩
  restricts := by
    intro policy hpolicy given hgiven
    have hrestricts := restricts_isolated hpolicy r.fresh.nonce r.request.target.path given
    have hvalues := fun name (hname : name ∈ contentNames) =>
      values_content_of_handled h hgiven hfinal hname
    have hown := hvalues policy.fieldName (fieldName_mem_contentNames policy)
    refine ⟨?_, ?_, ?_, hrestricts.legal, hrestricts.trusts, ?_⟩
    · rw [hown]
      exact hrestricts.kept
    · rw [hown]
      exact hrestricts.added
    · rw [hown]
      exact hrestricts.dropped
    · intro name hname hne
      rw [hvalues name hname]
      exact hrestricts.others name hname hne
  off := by
    intro hoff given hgiven name hname
    rw [values_content_of_handled h hgiven hfinal hname, values_isolated_content hname, hoff]
  page := by
    intro horigin hpath hhead hconnect
    have hgiven := response_handled_of_page horigin snapshot behind hpath
    rw [final_eq_of_handled h hgiven hfinal, body_finish hhead hconnect, body_correlated,
      body_marked, body_isolated, Response.body_html]

namespace Traffic

theorem setup_run (server : Server) (actions : List Action) :
    ((start server).run actions).server.setup = server.setup := by
  induction actions using List.reverseRecOn with
  | nil => rfl
  | append_singleton actions a ih =>
      rw [run_concat, ← ih]
      cases a with
      | arrive request fresh => rfl
      | read place => rfl
      | reload c =>
          show (((start server).run actions).server.reload c).1.setup = _
          unfold Server.reload
          split <;> rfl

/-- **Which requests have read the content policy**: those that the outer layers let through, by
induction on the last action of a run. -/
theorem isAdmitted_run (server : Server) (actions : List Action) (place : Nat) (r : InFlight)
    (hr : ((start server).run actions).requests[place]? = some r) {guarding next : Snapshot}
    {rest : List Snapshot} (hread : r.read = guarding :: next :: rest) :
    isStopped server.setup guarding r.request = false := by
  induction actions using List.reverseRecOn generalizing r next rest with
  | nil => cases hr
  | append_singleton actions a ih =>
      rw [run_concat] at hr
      rcases act_cases hr with hbefore | hnone | ⟨before, hbefore, rfl⟩
      · exact ih r hbefore hread
      · rw [hnone] at hread
        cases hread
      · rw [setup_run] at hread
        rw [InFlight.request_readNext]
        rcases InFlight.readNext_cases hread with ⟨next', rest', hread'⟩ | hadmitted
        · exact ih before hbefore hread'
        · exact hadmitted

/-- **One nonce for each request.** The filters may be replaced at any moment of a run. A request
that has read all of them has reached the handler, and whether there is a content policy is what its
second reading says.

If there is one, a message that is sent on has the nonce of the request, whatever the client has sent
under its name. An answer that has a content policy of its own keeps it; any other gets one value,
the policy of the gateway, by which scripts and styles are trusted with this nonce only. It gets none
when the text of the policy is no field value, and no report URI that is one leads to that. If there
is no content policy, none is added. The gateway's own page carries the same nonce, or an empty
one. -/
theorem agreesOnNonce_run (server : Server) (actions : List Action) (place : Nat) (r : InFlight)
    (hr : ((start server).run actions).requests[place]? = some r)
    {guarding restricting opening embedding : Snapshot}
    (hread : r.read = [guarding, restricting, opening, embedding]) (behind : OriginServer) :
    ∃ outcome final, r.outcome? server.setup behind = some outcome ∧
      outcome.response = some final ∧
      AgreesOnNonce server.setup restricting behind r outcome final := by
  have hadmitted : isStopped server.setup guarding r.request = false :=
    isAdmitted_run server actions place r hr hread
  have hmixed : isStopped server.setup
      (.mixed guarding restricting opening embedding) r.request = false := hadmitted
  have hfinal := response_answer server.setup (.mixed guarding restricting opening embedding)
    behind r.fresh r.request
  have hagrees := agreesOnNonce_of_not_isStopped hmixed hfinal
  -- The content policy of the mixture is that of the second reading, by definition.
  refine ⟨_, _, ?_, hfinal, hagrees.told, hagrees.restricts, hagrees.off, hagrees.page⟩
  rw [InFlight.outcome?, InFlight.filters?, hread]
  rfl

/-- A gateway that starts with nothing behind it. -/
theorem exists_started {c : Config} (hstart : (Server.start c).toOption.isSome = true)
    (horigin : originOf c.origin = .ok none) :
    ∃ server, Server.start c = .ok server ∧ Snapshot.ofConfig c = .ok server.live ∧
      server.live.content = contentOf c.content ∧ server.setup.origin = none := by
  obtain ⟨server, hserver⟩ := exists_of_isSome hstart
  obtain ⟨hlive, hsetup, -, -⟩ := Server.start_eq_ok_iff.1 hserver
  rw [Setup.ofConfig, horigin] at hsetup
  exact ⟨server, hserver, hlive, (Snapshot.ofConfig_eq_ok_iff.1 hlive).2.2.2,
    (congrArg Setup.origin (Except.ok.inj hsetup)).symm⟩

/-- The content policy is switched off behind the second reading of the request; its answer has the
policy all the same. -/
theorem restricted_halfway :
    ∃ server next, Server.start {} = .ok server ∧ Snapshot.ofConfig unrestricted = .ok next ∧
      ∀ behind, ∃ outcome final value,
        (halfway server next 2).outcome? server.setup behind = some outcome ∧
          outcome.response = some final ∧
          final.fields.values ContentPolicy.enforcingName = [value] := by
  obtain ⟨server, hserver, -, hcontent, horigin⟩ :=
    exists_started (c := {}) (by decide +kernel) rfl
  obtain ⟨next, hnext⟩ := exists_ofConfig_unrestricted
  refine ⟨server, next, hserver, hnext, fun behind => ?_⟩
  have hrun := requests_straddling hnext (halfway server next 2).fresh
    (isStopped_plainRequest server.setup server.live) (.inr (.inl rfl))
  have hr : ((start server).run (straddling plainRequest (halfway server next 2).fresh
      unrestricted 2)).requests[0]? = some (halfway server next 2) := by
    rw [hrun]
    rfl
  obtain ⟨outcome, final, houtcome, hfinal, hagrees⟩ :=
    agreesOnNonce_run server _ 0 (halfway server next 2) hr rfl behind
  have hpath : plainRequest.target.path ≠ healthPath := by decide
  have hgiven := response_handled_of_page horigin server.live behind (r := halfway server next 2)
    hpath
  have hrestricts := hagrees.restricts ⟨false, none⟩ hcontent _ hgiven
  obtain ⟨value, hvalue⟩ := hrestricts.legal nofun
  exact ⟨outcome, final, value, houtcome, hfinal, (hrestricts.added rfl value hvalue).1⟩

/-- A configuration whose report URI is none: it breaks a line. -/
def unsendable : Config := { content := { reportUri := some "/a\nb" } }

/-- A gateway that is built from such a configuration has a content policy, and its answers have
none. -/
theorem unrestricted_by_unsendable :
    ∃ server r outcome given final policy, Server.start unsendable = .ok server ∧
      ((start server).run (straddling plainRequest ⟨default, ⟨[], rfl⟩⟩ unsendable 2)).requests[0]? =
        some r ∧
      r.read = [server.live, server.live, server.live, server.live] ∧
      server.live.content = some policy ∧
      r.outcome? server.setup (fun _ => .silent) = some outcome ∧
      (handled server.setup server.live (fun _ => .silent) r).response = some given ∧
      given.fields.values policy.fieldName = [] ∧
      outcome.response = some final ∧ final.fields.values policy.fieldName = [] := by
  obtain ⟨server, hserver, hlive, hcontent, horigin⟩ :=
    exists_started (c := unsendable) (by decide +kernel) rfl
  have hpath : plainRequest.target.path ≠ healthPath := by decide
  have htext : FieldValue.ofText? (ContentPolicy.text ⟨false, some "/a\nb"⟩ default) = none := by
    decide +kernel
  have hadmitted := isStopped_plainRequest server.setup server.live
  have hrun := requests_straddling hlive ⟨default, ⟨[], rfl⟩⟩ hadmitted (.inr (.inl rfl))
  let r := halfway server server.live 2
  have hgiven := response_handled_of_page horigin server.live (fun _ => .silent) (r := r) hpath
  have hfinal := response_answer server.setup server.live (fun _ => .silent) r.fresh r.request
  have hagrees := agreesOnNonce_of_not_isStopped hadmitted hfinal
  have hrestricts := hagrees.restricts ⟨false, some "/a\nb"⟩ hcontent _ hgiven
  exact ⟨server, r, _, _, _, _, hserver, by rw [hrun]; rfl, rfl, hcontent, rfl, hgiven, rfl, hfinal,
    hrestricts.dropped rfl htext⟩

end Traffic

end Gateway

end IsolationGate
