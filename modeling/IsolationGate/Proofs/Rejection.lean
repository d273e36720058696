import IsolationGate.Gateway.Answer

/-!
# Which requests are rejected

The filter by Fetch Metadata is said here a second time, in the bytes of the first values of three
fields and without a decision: `IsRefused` holds of the requests that plainly come from a foreign
site, do not open a page, and have a path that is not exempted. The gateway answers these with its
own rejection and no others, and it does so before any other layer has looked at the request.

## Main results

* `decide_eq_reject_iff` — the decision of the filter is the one that `IsRefused` describes.
* `decide_congr` — only the method, the path and the three first values matter.
* `isUnjudged_inside` — nothing inside the filter decides, or answers with 403 of its own.
* `answer_rejects_exactly_refused` — the whole gateway, from the request to the answer.
-/

namespace IsolationGate.Gateway

open Http (FieldName FieldValue Fields Method Request Response)
open Policy (ContentPolicy EmbedderPolicy FetchMetadata FetchMetadataFilter Nonce OpenerPolicy)

/-! ## What is refused, byte for byte -/

/-- The first value of a name is this word, byte for byte. -/
def Spells (fields : Fields) (name : FieldName) (word : String) : Prop :=
  ∃ value, (fields.values name).head? = some value ∧ value.bytes = Text.bytesOf word

/-- The request says in plain bytes that it comes from a site, and not from a trusted one. -/
def IsForeign (fields : Fields) : Prop :=
  ∃ value, (fields.values FetchMetadata.siteName).head? = some value ∧
    (∀ b ∈ value.bytes, b = 9 ∨ (0x20 ≤ b ∧ b ≤ 0x7E)) ∧
    ∀ word ∈ ["same-origin", "same-site", "none"], value.bytes ≠ Text.bytesOf word

/-- The request is a navigation of the whole page. -/
def OpensPage (request : Request) : Prop :=
  request.method.text = "GET" ∧ Spells request.fields FetchMetadata.modeName "navigate" ∧
    ∀ word ∈ ["object", "embed"], ¬ Spells request.fields FetchMetadata.destName word

/-- The filter is on and refuses the request. -/
structure IsRefused (snapshot : Snapshot) (request : Request) : Prop where
  judged : ∃ filter, snapshot.fetchMetadata = some filter ∧
    request.target.path ∉ filter.exempted.paths
  foreign : IsForeign request.fields
  opensNoPage : ¬ OpensPage request

/-- Two requests are the same to the filter. -/
structure SameToFilter (a b : Request) : Prop where
  method : a.method = b.method
  path : a.target.path = b.target.path
  firstValues : ∀ name ∈ [FetchMetadata.siteName, FetchMetadata.modeName, FetchMetadata.destName],
    (a.fields.values name).head? = (b.fields.values name).head?

/-! ## The decision of the filter -/

/-- A plain word is the text of a value exactly when the value spells it. -/
theorem plainValue_eq_word_iff {fields : Fields} {name : FieldName} {word : String}
    (hplain : (Text.bytesOf word).all Http.isPlainByte = true) :
    FetchMetadata.plainValue fields name = some word ↔ Spells fields name word := by
  rw [FetchMetadata.plainValue_eq_some_iff]
  constructor
  · rintro ⟨value, hfirst, _, hbytes⟩
    exact ⟨value, hfirst, hbytes⟩
  · rintro ⟨value, hfirst, hbytes⟩
    refine ⟨value, hfirst, ?_, hbytes⟩
    rw [hbytes]
    exact List.all_eq_true.1 hplain

theorem isForeign_iff {fields : Fields} :
    IsForeign fields ↔
      ∃ site, FetchMetadata.plainValue fields FetchMetadata.siteName = some site ∧
        site ∉ FetchMetadata.trustedSites := by
  simp only [FetchMetadata.plainValue_eq_some_iff]
  constructor
  · rintro ⟨value, hfirst, hplain, huntrusted⟩
    have hplain : ∀ b ∈ value.bytes, Http.isPlainByte b = true := fun b hb =>
      Http.isPlainByte_iff.2 (hplain b hb)
    obtain ⟨site, hsite⟩ := FieldValue.exists_text?_of_plain hplain
    have hbytes := (FieldValue.text?_eq_some_iff.1 hsite).2
    refine ⟨site, ⟨value, hfirst, hplain, hbytes⟩, fun htrusted => ?_⟩
    exact huntrusted site htrusted hbytes
  · rintro ⟨site, ⟨value, hfirst, hplain, hbytes⟩, huntrusted⟩
    refine ⟨value, hfirst, fun b hb => Http.isPlainByte_iff.1 (hplain b hb), ?_⟩
    intro word htrusted hword
    have hsame : site = word := Text.bytesOf_inj.1 (hbytes.symm.trans hword)
    exact huntrusted (hsame ▸ htrusted)

theorem isNavigation_iff {request : Request} :
    (FetchMetadata.ofRequest request.fields request.method).isNavigation = true ↔
      OpensPage request := by
  have hmode : FetchMetadata.plainValue request.fields FetchMetadata.modeName = some "navigate" ↔
      Spells request.fields FetchMetadata.modeName "navigate" := plainValue_eq_word_iff (by decide)
  have hdest : ∀ word ∈ FetchMetadata.refusedDestinations,
      (FetchMetadata.plainValue request.fields FetchMetadata.destName = some word ↔
        Spells request.fields FetchMetadata.destName word) := by
    intro word hword
    refine plainValue_eq_word_iff ?_
    revert word
    decide
  have hany : ∀ dest : Option String,
      (dest.any fun word => FetchMetadata.refusedDestinations.contains word) = false ↔
        ∀ word ∈ FetchMetadata.refusedDestinations, dest ≠ some word := by
    intro dest
    cases dest with
    | none => simp
    | some word =>
        simp only [Option.any_some, List.contains_eq_mem, decide_eq_false_iff_not, ne_eq,
          Option.some.injEq]
        exact ⟨fun h other hother he => h (he ▸ hother), fun h hword => h word hword rfl⟩
  simp only [FetchMetadata.isNavigation, FetchMetadata.ofRequest, Bool.and_eq_true, beq_iff_eq,
    Bool.not_eq_true', hany, hmode]
  constructor
  · rintro ⟨⟨hnavigate, hget⟩, hnot⟩
    exact ⟨hget, hnavigate,
      fun word hword hspells => hnot word hword ((hdest word hword).2 hspells)⟩
  · rintro ⟨hget, hnavigate, hnot⟩
    exact ⟨⟨hnavigate, hget⟩, fun word hword htext => hnot word hword ((hdest word hword).1 htext)⟩

/-- The decision of the filter is the one that the bytes of the request ask for. -/
theorem decide_eq_reject_iff {filter : FetchMetadataFilter} {request : Request} :
    decide filter request = .reject ↔
      request.target.path ∉ filter.exempted.paths ∧ IsForeign request.fields ∧
        ¬ OpensPage request := by
  rw [decide, FetchMetadataFilter.judge_eq_reject_iff, FetchMetadata.evaluate_eq_reject_iff,
    isForeign_iff, ← isNavigation_iff, Bool.not_eq_true]
  exact Iff.rfl

theorem isRefused_iff {snapshot : Snapshot} {request : Request} :
    IsRefused snapshot request ↔
      ∃ filter, snapshot.fetchMetadata = some filter ∧ decide filter request = .reject := by
  constructor
  · rintro ⟨⟨filter, hfilter, hpath⟩, hforeign, hpage⟩
    exact ⟨filter, hfilter, decide_eq_reject_iff.2 ⟨hpath, hforeign, hpage⟩⟩
  · rintro ⟨filter, hfilter, hdecide⟩
    obtain ⟨hpath, hforeign, hpage⟩ := decide_eq_reject_iff.1 hdecide
    exact ⟨⟨filter, hfilter, hpath⟩, hforeign, hpage⟩

/-! ## What the decision does not depend on -/

/-- Only the method, the path and the first values of three fields matter. -/
theorem decide_congr {a b : Request} (h : SameToFilter a b) (filter : FetchMetadataFilter) :
    decide filter a = decide filter b := by
  have hvalue : ∀ name ∈ [FetchMetadata.siteName, FetchMetadata.modeName, FetchMetadata.destName],
      FetchMetadata.plainValue a.fields name = FetchMetadata.plainValue b.fields name := by
    intro name hname
    rw [FetchMetadata.plainValue, FetchMetadata.plainValue, Fields.get?, Fields.get?,
      h.firstValues name hname]
  have hsays : FetchMetadata.ofRequest a.fields a.method =
      FetchMetadata.ofRequest b.fields b.method := by
    rw [FetchMetadata.ofRequest, FetchMetadata.ofRequest, hvalue _ (by simp), hvalue _ (by simp),
      hvalue _ (by simp), h.method]
  rw [decide, decide, h.path, hsays]

/-- The id that a request gets says nothing to the filter. -/
theorem sameToFilter_identified (id : FieldValue) (request : Request) :
    SameToFilter (identified id request) request where
  method := rfl
  path := rfl
  firstValues := by
    intro name hname
    have hne : name ≠ .requestId := by
      intro he
      subst he
      revert hname
      decide
    rw [identified, Fields.values_setIfAbsent_of_ne hne]

theorem isRefused_identified {snapshot : Snapshot} {id : FieldValue} {request : Request} :
    IsRefused snapshot (identified id request) ↔ IsRefused snapshot request := by
  simp only [isRefused_iff, decide_congr (sameToFilter_identified id request)]

/-! ## Inside the filter -/

/-- The layers inside the filter: the time-out, the limit on bodies, the policies, the handler. -/
def inside (setup : Setup) (snapshot : Snapshot) (server : OriginServer) (nonce : Nonce) :
    Handler :=
  limitTime (limitBody setup (isolate snapshot nonce (handle setup server)))

/-- The outcome of a layer carries no decision, and when nothing was sent on its response is none
of the filter's. -/
structure IsUnjudged (outcome : Outcome) : Prop where
  decision : outcome.decision = none
  status : outcome.sent = none → ∀ r, outcome.response = some r → r.status ≠ 403

theorem isUnjudged_ofResponse {response : Response} (h : response.status ≠ 403) :
    IsUnjudged (.ofResponse response) where
  decision := rfl
  status := by
    rintro - r hr
    cases hr
    exact h

/-- A change that keeps the status keeps an outcome unjudged. -/
theorem IsUnjudged.andThen {outcome : Outcome} (h : IsUnjudged outcome)
    {change : Response → Response × List Log.Event}
    (hchange : ∀ r, (change r).1.status = r.status) : IsUnjudged (outcome.andThen change) where
  decision := by rw [Outcome.decision_andThen, h.decision]
  status := by
    intro hsent r hr
    rw [Outcome.sent_andThen] at hsent
    rw [Outcome.response_andThen, Option.map_eq_some_iff] at hr
    obtain ⟨before, hbefore, rfl⟩ := hr
    rw [hchange]
    exact h.status hsent before hbefore

theorem isUnjudged_forward (setup : Setup) (authority : Http.Authority) (server : OriginServer)
    (nonce : Option Nonce) (request : Request) :
    IsUnjudged (forward setup authority server nonce request) := by
  unfold forward
  -- Only a connection that fails leaves nothing sent, and its answer is a 502.
  constructor
  · dsimp only
    split <;> rfl
  · dsimp only
    split
    · rintro - r hr
      cases hr
      decide
    all_goals
      intro hsent
      cases hsent

theorem isUnjudged_handle (setup : Setup) (server : OriginServer) (nonce : Option Nonce)
    (request : Request) : IsUnjudged (handle setup server nonce request) := by
  unfold handle
  split
  · refine isUnjudged_ofResponse ?_
    unfold healthResponse
    split <;> decide
  · split
    · next authority _ => exact isUnjudged_forward setup authority server nonce request
    · exact isUnjudged_ofResponse (show (200 : Nat) ≠ 403 by decide)

theorem isUnjudged_isolate (setup : Setup) (snapshot : Snapshot) (server : OriginServer)
    (nonce : Nonce) (request : Request) :
    IsUnjudged (isolate snapshot nonce (handle setup server) request) := by
  have hhandle := isUnjudged_handle setup server (snapshot.content.map fun _ => nonce) request
  have hembed : IsUnjudged ((handle setup server (snapshot.content.map fun _ => nonce)
      request).andThen (embed snapshot.embedder request.target.path)) :=
    hhandle.andThen fun _ => rfl
  have hrestrict : ∀ (policy : ContentPolicy) (r : Response),
      (restrict policy nonce r).1.status = r.status := by
    intro policy r
    unfold restrict
    split <;> rfl
  unfold isolate
  dsimp only
  split
  · refine IsUnjudged.andThen ?_ (hrestrict _)
    split
    · exact hembed.andThen fun _ => rfl
    · exact hembed
  · split
    · exact hembed.andThen fun _ => rfl
    · exact hembed

/-- Nothing inside the filter decides anything, or answers with 403 of its own. -/
theorem isUnjudged_inside (setup : Setup) (snapshot : Snapshot) (server : OriginServer)
    (nonce : Nonce) (request : Request) :
    IsUnjudged (inside setup snapshot server nonce request) := by
  have hlimit : IsUnjudged (limitBody setup (isolate snapshot nonce (handle setup server))
      request) := by
    unfold limitBody
    split
    · exact isUnjudged_ofResponse (by decide)
    · exact isUnjudged_isolate setup snapshot server nonce request
  refine ⟨hlimit.decision, fun hsent r hr => ?_⟩
  have hr : _ = r := Option.some.inj hr
  cases hbefore : (limitBody setup (isolate snapshot nonce (handle setup server)) request).response
  with
  | none =>
      rw [hbefore, Option.getD_none] at hr
      rw [← hr]
      decide
  | some before =>
      rw [hbefore, Option.getD_some] at hr
      rw [← hr]
      exact hlimit.status hsent before hbefore

/-! ## The whole gateway -/

/-- The names of the fields that isolate a page. -/
def isolationNames : List FieldName :=
  [OpenerPolicy.fieldName, EmbedderPolicy.enforcingName, EmbedderPolicy.reportingName,
    EmbedderPolicy.reportToName, ContentPolicy.enforcingName, ContentPolicy.reportingName]

/-- The gateway has rejected a request: it has answered with its own text, sent nothing on, and
not isolated the answer. -/
structure IsRejection (request : Request) (outcome : Outcome) : Prop where
  sent : outcome.sent = none
  response : ∃ r, outcome.response = some r ∧ r.status = 403 ∧
    r.body = (if request.method = .head then [] else Text.bytesOf "Cross-site request rejected") ∧
    ∀ name ∈ isolationNames, r.fields.values name = []

/-- The answer is a 403 although nothing was sent on. -/
def RefusesItself (outcome : Outcome) : Prop :=
  outcome.sent = none ∧ ∃ r, outcome.response = some r ∧ r.status = 403

theorem decision_layers (setup : Setup) (snapshot : Snapshot) (server : OriginServer)
    (nonce : Nonce) (request : Request) :
    (layers setup snapshot server nonce request).decision =
      snapshot.fetchMetadata.map fun filter => decide filter request := by
  show (guardIfOn snapshot (inside setup snapshot server nonce) request).decision = _
  rw [guardIfOn]
  cases snapshot.fetchMetadata with
  | none => exact (isUnjudged_inside setup snapshot server nonce request).decision
  | some filter => rfl

theorem decision_answer (setup : Setup) (snapshot : Snapshot) (server : OriginServer)
    (fresh : Fresh) (request : Request) :
    (answer setup snapshot server fresh request).decision =
      snapshot.fetchMetadata.map fun filter => decide filter request := by
  have hsame := sameToFilter_identified fresh.requestId request
  rw [answer, Outcome.decision_map, identify, Outcome.decision_map, decision_layers]
  cases snapshot.fetchMetadata with
  | none => rfl
  | some filter => rw [Option.map_some, Option.map_some, decide_congr hsame]

/-- What becomes of a refused request: nothing inside the filter is asked. -/
theorem layers_of_isRefused {snapshot : Snapshot} {request : Request}
    (h : IsRefused snapshot request) (setup : Setup) (server : OriginServer) (nonce : Nonce) :
    layers setup snapshot server nonce request =
      { response := some { rejectedResponse with
          fields := Policy.addVary rejectedResponse.fields }
        events := [rejectionEvent request.target.path
          (.ofRequest request.fields request.method)]
        decision := some .reject } := by
  obtain ⟨filter, hfilter, hdecide⟩ := isRefused_iff.1 h
  rw [layers, guardIfOn, hfilter]
  show guardWith filter (inside setup snapshot server nonce) request = _
  rw [guardWith, hdecide]
  rfl

/-- The answer as the filter leaves it. -/
def marked (snapshot : Snapshot) (response : Response) : Response :=
  if snapshot.fetchMetadata.isSome then
    { response with fields := Policy.addVary response.fields }
  else response

theorem status_marked (snapshot : Snapshot) (response : Response) :
    (marked snapshot response).status = response.status := by
  unfold marked
  split <;> rfl

/-- What becomes of any other request: it is left to the layers inside the filter. -/
theorem layers_of_not_isRefused {snapshot : Snapshot} {request : Request}
    (h : ¬ IsRefused snapshot request) (setup : Setup) (server : OriginServer) (nonce : Nonce) :
    (layers setup snapshot server nonce request).response =
        (inside setup snapshot server nonce request).response.map (marked snapshot) ∧
      (layers setup snapshot server nonce request).sent =
        (inside setup snapshot server nonce request).sent := by
  have hlayers : layers setup snapshot server nonce request =
      guardIfOn snapshot (inside setup snapshot server nonce) request := rfl
  rw [hlayers, guardIfOn]
  cases hfilter : snapshot.fetchMetadata with
  | none =>
      have hmarked : marked snapshot = id := by
        funext response
        rw [marked, hfilter]
        rfl
      rw [hmarked, Option.map_id]
      exact ⟨rfl, rfl⟩
  | some filter =>
      have hmarked : marked snapshot = fun response =>
          { response with fields := Policy.addVary response.fields } := by
        funext response
        rw [marked, hfilter]
        rfl
      have hdecide : decide filter request = .allow := by
        cases hd : decide filter request with
        | allow => rfl
        | reject => exact absurd (isRefused_iff.2 ⟨filter, hfilter, hd⟩) h
      dsimp only
      rw [hmarked, guardWith, hdecide]
      exact ⟨rfl, rfl⟩

/-- The answer to any other request is the one that the layers inside the filter give, with some
fields set. -/
theorem answer_of_not_isRefused {snapshot : Snapshot} {request : Request}
    (h : ¬ IsRefused snapshot request) (setup : Setup) (server : OriginServer) (fresh : Fresh) :
    ∃ change : Response → Response, (∀ r, (change r).status = r.status) ∧
      (answer setup snapshot server fresh request).response =
        (inside setup snapshot server fresh.nonce (identified fresh.requestId request)).response.map
          change ∧
      (answer setup snapshot server fresh request).sent =
        (inside setup snapshot server fresh.nonce (identified fresh.requestId request)).sent := by
  have hidentified : ¬ IsRefused snapshot (identified fresh.requestId request) := fun hr =>
    h (isRefused_identified.1 hr)
  obtain ⟨hresponse, hsent⟩ := layers_of_not_isRefused hidentified setup server fresh.nonce
  refine ⟨fun r => finish request
    (correlated (identified fresh.requestId request) (marked snapshot r)), ?_, ?_, hsent⟩
  · intro r
    rw [status_finish, status_correlated, status_marked]
  · rw [answer, Outcome.response_map, identify, Outcome.response_map, hresponse, Option.map_map,
      Option.map_map]
    rfl

theorem isRejection_answer {snapshot : Snapshot} {request : Request}
    (h : IsRefused snapshot request) (setup : Setup) (server : OriginServer) (fresh : Fresh) :
    IsRejection request (answer setup snapshot server fresh request) := by
  have hidentified : IsRefused snapshot (identified fresh.requestId request) :=
    isRefused_identified.2 h
  have hlayers := layers_of_isRefused hidentified setup server fresh.nonce
  refine ⟨?_, ?_⟩
  · rw [answer, Outcome.sent_map, identify, Outcome.sent_map, hlayers]
  · rw [answer, Outcome.response_map, identify, Outcome.response_map, hlayers]
    refine ⟨_, rfl, ?_, ?_, ?_⟩
    · rw [status_finish, status_correlated]
      rfl
    · -- A rejection is no success, so even the answer to `CONNECT` is sent whole.
      have hsuccess : ∀ r : Response, r.status = 403 → r.isSuccess = false := by
        intro r hr
        simp [Response.isSuccess, hr]
      rw [finish, hsuccess _ (status_correlated _ _), if_neg (by simp)]
      dsimp only
      rw [body_correlated]
      rfl
    · intro name hname
      have hother : name ≠ .allow ∧ name ≠ .contentLength ∧ name ≠ .requestId ∧ name ≠ .vary ∧
          name ≠ .contentType := by
        revert name
        decide
      obtain ⟨hallow, hlength, hid, hvary, htype⟩ := hother
      rw [values_finish_of_ne hallow hlength, values_correlated_of_ne hid,
        Policy.values_addVary_of_ne hvary]
      exact Fields.values_append_of_ne htype _ _

/-- The only 403 that an answer has although nothing was sent on is that of a rejection. -/
theorem refusesItself_answer_iff (setup : Setup) (snapshot : Snapshot) (server : OriginServer)
    (fresh : Fresh) (request : Request) :
    RefusesItself (answer setup snapshot server fresh request) ↔ IsRefused snapshot request := by
  constructor
  · rintro ⟨hsent, r, hr, hstatus⟩
    by_cases h : IsRefused snapshot request
    · exact h
    · obtain ⟨change, hchange, hresponse, hinside⟩ := answer_of_not_isRefused h setup server fresh
      rw [hresponse, Option.map_eq_some_iff] at hr
      obtain ⟨before, hbefore, rfl⟩ := hr
      have hunjudged := isUnjudged_inside setup snapshot server fresh.nonce
        (identified fresh.requestId request)
      exact absurd ((hchange before).symm.trans hstatus)
        (hunjudged.status (hinside.symm.trans hsent) before hbefore)
  · intro h
    have hrejection := isRejection_answer h setup server fresh
    obtain ⟨r, hr, hstatus, _⟩ := hrejection.response
    exact ⟨hrejection.sent, r, hr, hstatus⟩

/-- **The isolation gate.** The gateway rejects exactly the refused requests. Its 403 of its own
shows the same, since every other 403 comes from the server behind it. A rejection has the fixed
text, reaches nobody, and is not isolated, whatever the settings and whatever the server would do;
and two requests that are the same to the filter get the same decision. -/
theorem answer_rejects_exactly_refused (setup : Setup) (snapshot : Snapshot)
    (server : OriginServer) (fresh : Fresh) (request : Request) :
    ((answer setup snapshot server fresh request).decision = some .reject ↔
        IsRefused snapshot request) ∧
      (RefusesItself (answer setup snapshot server fresh request) ↔
        IsRefused snapshot request) ∧
      (IsRefused snapshot request →
        IsRejection request (answer setup snapshot server fresh request)) ∧
      ∀ (setup' : Setup) (server' : OriginServer) (fresh' : Fresh) (other : Request),
        SameToFilter other request →
          (answer setup' snapshot server' fresh' other).decision =
            (answer setup snapshot server fresh request).decision := by
  refine ⟨?_, refusesItself_answer_iff setup snapshot server fresh request,
    fun h => isRejection_answer h setup server fresh, ?_⟩
  · rw [decision_answer, isRefused_iff, Option.map_eq_some_iff]
  · intro setup' server' fresh' other hsame
    rw [decision_answer, decision_answer]
    simp only [decide_congr hsame]

end IsolationGate.Gateway
