import IsolationGate.Proofs.PageIsolation
import IsolationGate.Proofs.Vary

/-!
# What an answer shows of what was drawn for it

A nonce and an id are drawn for every request. `SameButDrawn` relates two answers to one request
that had different draws: they differ in the id and in the nonce, where the gateway has written them, and
nowhere else. In particular they state the same length, since all nonces have one.

The two answers go through the layers side by side, from the handler outwards, and one lemma for
each layer says that it keeps them related. The server behind the gateway is told what was drawn, so it
has to give both times the same reply.

## Main results

* `response_handle_constant` — what the handler makes of two draws.
* `SameButDrawn.isolated`, `.marked`, `.correlated`, `.finish` — one lemma for each layer.
* `SameButDrawn.exists_answer` — the whole gateway.
-/

namespace IsolationGate.Gateway

open Http (FieldName FieldValue Fields Request Response)
open Policy (ContentPolicy EmbedderPolicy Nonce OpenerPolicy)

/-- The nonce comes from the source of random bytes. -/
def Fresh.IsDrawn (fresh : Fresh) : Prop :=
  ∃ bytes, bytes.length = Nonce.byteCount ∧ fresh.nonce = .ofBytes bytes

/-- Two answers that differ in what was drawn for them at most. -/
structure SameButDrawn (fresh other : Fresh) (a b : Response) : Prop where
  status : a.status = b.status
  values : ∀ name, name ≠ .requestId → name ∉ contentNames →
    a.fields.values name = b.fields.values name
  /-- The id is the one of the request or of the reply, or it was drawn. -/
  id : a.fields.values .requestId = b.fields.values .requestId ∨
    a.fields.values .requestId = [fresh.requestId] ∧
      b.fields.values .requestId = [other.requestId]
  /-- A content policy is the one of the reply, or it has the nonce that was drawn. -/
  content : ∀ name ∈ contentNames, a.fields.values name = b.fields.values name ∨
    ∃ policy : ContentPolicy, policy.fieldName = name ∧
      a.fields.values name = (FieldValue.ofText? (policy.text fresh.nonce)).toList ∧
      b.fields.values name = (FieldValue.ofText? (policy.text other.nonce)).toList
  /-- A body is the one of the reply, or the page of the gateway with the nonce that was drawn. -/
  body : a.body = b.body ∨
    ∃ path, a.body = Text.bytesOf (Page.pageWith fresh.nonce.text path) ∧
      b.body = Text.bytesOf (Page.pageWith other.nonce.text path)
  sized : a.sized = b.sized

variable {fresh other : Fresh} {a b : Response}

theorem SameButDrawn.refl (fresh other : Fresh) (a : Response) : SameButDrawn fresh other a a :=
  ⟨rfl, fun _ _ _ => rfl, .inl rfl, fun _ _ => .inl rfl, .inl rfl, rfl⟩

/-! ## Lengths -/

/-- All nonces that are drawn have the same length in a page. -/
theorem Fresh.IsDrawn.length_bytes (h : fresh.IsDrawn) :
    (Text.bytesOf fresh.nonce.text).length = 24 := by
  obtain ⟨bytes, hlength, hnonce⟩ := h
  have hone : ∀ c ∈ fresh.nonce.text.toList, (String.utf8EncodeChar c).length = 1 := fun c hc =>
    eq_of_beq (Nonce.forall_of_symbols
      (p := fun d => (String.utf8EncodeChar d).length == 1) (by decide +kernel) fresh.nonce c hc)
  rw [Text.bytesOf, Text.encode, List.length_flatMap, List.map_congr_left hone, List.map_const',
    List.sum_replicate_nat, Nat.mul_one, String.length_toList, hnonce]
  exact Nonce.length_ofBytes hlength

/-- A page is the text before its nonce, the nonce, and the text behind it. -/
theorem exists_pageWith_eq (path : String) :
    ∃ front back : String, ∀ nonce, Page.pageWith nonce path = front ++ nonce ++ back := by
  have hassoc : ∀ a b n c d e f g h : String,
      a ++ (b ++ n ++ c ++ d ++ e) ++ f ++ g ++ h =
        a ++ b ++ n ++ (c ++ d ++ e ++ f ++ g ++ h) := by
    intros
    simp only [String.append_assoc]
  exact ⟨_, _, fun nonce => hassoc _ _ nonce _ _ _ _ _ _⟩

theorem length_pageWith {m n : String}
    (h : (Text.bytesOf m).length = (Text.bytesOf n).length) (path : String) :
    (Text.bytesOf (Page.pageWith m path)).length =
      (Text.bytesOf (Page.pageWith n path)).length := by
  obtain ⟨front, back, hpage⟩ := exists_pageWith_eq path
  rw [hpage, hpage]
  simp only [Text.bytesOf_append, List.length_append, h]

theorem SameButDrawn.length_body (h : SameButDrawn fresh other a b) (hfresh : fresh.IsDrawn)
    (hother : other.IsDrawn) : a.body.length = b.body.length := by
  rcases h.body with hbody | ⟨path, ha, hb⟩
  · rw [hbody]
  · rw [ha, hb]
    exact length_pageWith (hfresh.length_bytes.trans hother.length_bytes.symm) path

/-! ## The handler -/

/-- A reply that comes anyhow makes the same of all messages with the same body. -/
theorem response_forward_constant (setup : Setup) (authority : Http.Authority) (reply : Reply)
    (m n : Option Nonce) {r s : Request} (hmethod : r.method = s.method)
    (hlength : r.fields.values .contentLength = s.fields.values .contentLength)
    (hbody : r.body = s.body) :
    (forward setup authority (fun _ => reply) m r).response =
      (forward setup authority (fun _ => reply) n s).response := by
  have hwhole : (outgoing setup.maxBodyBytes authority m r).whole =
      (outgoing setup.maxBodyBytes authority n s).whole :=
    congrArg Prod.snd (sentBody_congr hmethod hlength hbody setup.maxBodyBytes)
  unfold forward
  dsimp only
  rw [hwhole]
  split <;> rfl

theorem response_demoPage (nonce : Nonce) (path : String) :
    Response.html 200 (Page.demoPage (some nonce) path) =
      .html 200 (Page.pageWith nonce.text path) := by
  rw [Page.demoPage_eq_pageWith]
  rfl

/-- **What the handler makes of two draws**: the same, or its page with either nonce. -/
theorem response_handle_constant (setup : Setup) (reply : Reply) (content : Option ContentPolicy)
    {r s : Request} (hmethod : r.method = s.method) (htarget : r.target = s.target)
    (hlength : r.fields.values .contentLength = s.fields.values .contentLength)
    (hbody : r.body = s.body) :
    (handle setup (fun _ => reply) (content.map fun _ => fresh.nonce) r).response =
        (handle setup (fun _ => reply) (content.map fun _ => other.nonce) s).response ∨
      (handle setup (fun _ => reply) (content.map fun _ => fresh.nonce) r).response =
          some (.html 200 (Page.pageWith fresh.nonce.text r.target.path)) ∧
        (handle setup (fun _ => reply) (content.map fun _ => other.nonce) s).response =
          some (.html 200 (Page.pageWith other.nonce.text r.target.path)) := by
  unfold handle
  rw [← htarget, ← hmethod]
  by_cases hhealth : r.target.path = healthPath
  · rw [if_pos hhealth, if_pos hhealth]
    exact .inl rfl
  · rw [if_neg hhealth, if_neg hhealth]
    cases setup.origin with
    | some authority =>
        exact .inl (response_forward_constant setup authority reply _ _ hmethod hlength hbody)
    | none =>
        cases content with
        | none => exact .inl rfl
        | some policy =>
            exact .inr ⟨congrArg some (response_demoPage fresh.nonce r.target.path),
              congrArg some (response_demoPage other.nonce r.target.path)⟩

/-! ## The layers -/

theorem values_html (p q : String) (name : FieldName) :
    (Response.html 200 p).fields.values name = (Response.html 200 q).fields.values name := rfl

namespace SameButDrawn

theorem page (fresh other : Fresh) (path : String) :
    SameButDrawn fresh other (.html 200 (Page.pageWith fresh.nonce.text path))
      (.html 200 (Page.pageWith other.nonce.text path)) :=
  ⟨rfl, fun name _ _ => values_html _ _ name, .inl (values_html _ _ _),
    fun name _ => .inl (values_html _ _ name),
    .inr ⟨path, Response.body_html _ _, Response.body_html _ _⟩, rfl⟩

/-- The policies keep responses related whose content policies are the same so far. -/
theorem isolated (h : SameButDrawn fresh other a b)
    (hcontent : ∀ name ∈ contentNames, a.fields.values name = b.fields.values name)
    (snapshot : Snapshot) (path : String) :
    SameButDrawn fresh other (Gateway.isolated snapshot fresh.nonce path a)
      (Gateway.isolated snapshot other.nonce path b) where
  status := by rw [status_isolated, status_isolated, h.status]
  values := by
    intro name hid hname
    have hsame := h.values name hid hname
    by_cases hopener : name = OpenerPolicy.fieldName
    · rw [hopener] at hsame ⊢
      rw [values_isolated_opener, values_isolated_opener, hsame]
    · by_cases hembedder : name ∈ embedderNames
      · rw [values_isolated_embedder hembedder, values_isolated_embedder hembedder, values_embed,
          values_embed, hsame]
      · have hother : name ∉ isolationNames := by
          simp only [isolationNames, embedderNames, contentNames, List.mem_cons, List.not_mem_nil,
            or_false] at hname hembedder ⊢
          tauto
        rw [values_isolated hother, values_isolated hother, hsame]
  id := by
    have hid : FieldName.requestId ∉ isolationNames := by decide
    rw [values_isolated hid, values_isolated hid]
    exact h.id
  content := by
    intro name hname
    rw [values_isolated_content hname, values_isolated_content hname, hcontent name hname]
    cases snapshot.content with
    | none => exact .inl rfl
    | some policy =>
        by_cases hadds : name = policy.fieldName ∧ b.fields.values name = []
        · refine .inr ⟨policy, hadds.1.symm, ?_, ?_⟩
          · exact if_pos hadds
          · exact if_pos hadds
        · refine .inl ?_
          dsimp only
          rw [if_neg hadds, if_neg hadds]
  body := by
    rw [body_isolated, body_isolated]
    exact h.body
  sized := by rw [sized_isolated, sized_isolated, h.sized]

theorem marked (h : SameButDrawn fresh other a b) (snapshot : Snapshot) :
    SameButDrawn fresh other (Gateway.marked snapshot a) (Gateway.marked snapshot b) where
  status := by rw [status_marked, status_marked, h.status]
  values := by
    intro name hid hname
    by_cases hvary : name = .vary
    · have hsame := h.values name hid hname
      rw [hvary] at hsame ⊢
      unfold Gateway.marked
      cases snapshot.fetchMetadata with
      | none => exact hsame
      | some filter =>
          show (Policy.addVary a.fields).values .vary = (Policy.addVary b.fields).values .vary
          rw [values_addVary_self, values_addVary_self, hsame]
    · rw [values_marked_of_ne hvary, values_marked_of_ne hvary]
      exact h.values name hid hname
  id := by
    rw [values_marked_of_ne (by decide), values_marked_of_ne (by decide)]
    exact h.id
  content := by
    intro name hname
    have hvary : name ≠ .vary := by
      revert name
      decide
    rw [values_marked_of_ne hvary, values_marked_of_ne hvary]
    exact h.content name hname
  body := by
    rw [body_marked, body_marked]
    exact h.body
  sized := by rw [sized_marked, sized_marked, h.sized]

/-- With one id on both sides the id is no difference. -/
theorem values_requestId {m n : Nonce} {id : FieldValue} (h : SameButDrawn ⟨m, id⟩ ⟨n, id⟩ a b) :
    a.fields.values .requestId = b.fields.values .requestId := by
  rcases h.id with hsame | ⟨ha, hb⟩
  · exact hsame
  · rw [ha, hb]

/-- From here on the ids may differ, too. -/
theorem correlated {id : FieldValue} (h : SameButDrawn ⟨fresh.nonce, id⟩ ⟨other.nonce, id⟩ a b)
    (request : Request) :
    SameButDrawn fresh other (Gateway.correlated (identified fresh.requestId request) a)
      (Gateway.correlated (identified other.requestId request) b) where
  status := by rw [status_correlated, status_correlated, h.status]
  values := by
    intro name hne hname
    rw [values_correlated_of_ne hne, values_correlated_of_ne hne]
    exact h.values name hne hname
  id := by
    rw [values_correlated_identified, values_correlated_identified, h.values_requestId]
    cases hown : request.fields.values .requestId with
    | cons own rest => exact .inl rfl
    | nil =>
        by_cases hnone : b.fields.values .requestId = []
        · exact .inr ⟨if_pos hnone, if_pos hnone⟩
        · refine .inl ?_
          rw [if_neg hnone, if_neg hnone]
  content := by
    intro name hname
    have hne : name ≠ .requestId := by
      revert name
      decide
    rw [values_correlated_of_ne hne, values_correlated_of_ne hne]
    exact h.content name hname
  body := by
    rw [body_correlated, body_correlated]
    exact h.body
  sized := by rw [sized_correlated, sized_correlated, h.sized]

theorem values_describeBody (h : SameButDrawn fresh other a b)
    (hlength : a.body.length = b.body.length) {name : FieldName} (hid : name ≠ .requestId)
    (hname : name ∉ contentNames) (request : Request) :
    (describeBody request a).values name = (describeBody request b).values name := by
  have hset : ∀ {value : FieldValue} {x y : Fields} (set : FieldName),
      x.values name = y.values name →
        (x.setIfAbsent set value).values name = (y.setIfAbsent set value).values name := by
    intro value x y set hsame
    by_cases hset : name = set
    · rw [← hset, Fields.values_setIfAbsent_self, Fields.values_setIfAbsent_self, hsame]
    · rw [Fields.values_setIfAbsent_of_ne hset, Fields.values_setIfAbsent_of_ne hset, hsame]
  have hsame := h.values name hid hname
  have hallowed : (if request.target.path = healthPath ∧ ¬ isHealthMethod request.method then
        a.fields.setIfAbsent .allow allowedMethods else a.fields).values name =
      (if request.target.path = healthPath ∧ ¬ isHealthMethod request.method then
        b.fields.setIfAbsent .allow allowedMethods else b.fields).values name := by
    split
    · exact hset .allow hsame
    · exact hsame
  unfold describeBody
  rw [hlength, h.sized]
  dsimp only
  split
  · exact hset .contentLength hallowed
  · exact hallowed

theorem isSuccess_eq (h : SameButDrawn fresh other a b) : a.isSuccess = b.isSuccess := by
  rw [Response.isSuccess, Response.isSuccess, h.status]

theorem finish (h : SameButDrawn fresh other a b) (hlength : a.body.length = b.body.length)
    (request : Request) :
    SameButDrawn fresh other (Gateway.finish request a) (Gateway.finish request b) where
  status := by rw [status_finish, status_finish, h.status]
  values := by
    intro name hid hname
    unfold Gateway.finish
    rw [h.isSuccess_eq]
    split
    · exact h.values name hid hname
    · exact values_describeBody h hlength hid hname request
  id := by
    rw [values_finish_of_ne (by decide) (by decide), values_finish_of_ne (by decide) (by decide)]
    exact h.id
  content := by
    intro name hname
    have hne : name ≠ .allow ∧ name ≠ .contentLength := by
      revert name
      decide
    rw [values_finish_of_ne hne.1 hne.2, values_finish_of_ne hne.1 hne.2]
    exact h.content name hname
  body := by
    unfold Gateway.finish
    rw [h.isSuccess_eq]
    split
    · exact .inl rfl
    · dsimp only
      split
      · exact .inl rfl
      · exact h.body
  sized := by
    unfold Gateway.finish
    rw [h.isSuccess_eq]
    split
    · exact h.sized
    · exact congrArg (request.method == .head || ·) h.sized

/-! ## The whole gateway -/

/-- The answers that the filter by Fetch Metadata gets. No id has been given yet, so there is only
one to speak of. -/
theorem of_unmarked (fresh other : Fresh) (id : FieldValue) (setup : Setup)
    (snapshot : Snapshot) (reply : Reply) (request : Request) :
    SameButDrawn ⟨fresh.nonce, id⟩ ⟨other.nonce, id⟩
      (unmarked setup snapshot (fun _ => reply) fresh.nonce (identified fresh.requestId request))
      (unmarked setup snapshot (fun _ => reply) other.nonce
        (identified other.requestId request)) := by
  have hdecide : ∀ (filter : Policy.FetchMetadataFilter) (id : FieldValue),
      decide filter (identified id request) = decide filter request := fun filter id =>
    decide_congr (sameToFilter_identified id request) filter
  simp only [unmarked, hdecide, insideResponse_eq, isTooLong_identified]
  split
  · exact .refl _ _ rejectedResponse
  · split
    · exact .refl _ _ tooLongResponse
    · have hlength := (values_contentLength_identified fresh.requestId request).trans
        (values_contentLength_identified other.requestId request).symm
      rcases response_handle_constant setup reply
        snapshot.content (r := identified fresh.requestId request)
        (s := identified other.requestId request) rfl rfl hlength rfl with
          hsame | ⟨hfresh, hother⟩
      · rw [hsame]
        cases (handle setup (fun _ => reply) (snapshot.content.map fun _ => other.nonce)
          (identified other.requestId request)).response with
        | none => exact .refl _ _ lateResponse
        | some given => exact (refl _ _ given).isolated (fun _ _ => rfl) snapshot _
      · rw [hfresh, hother]
        exact (page _ _ _).isolated (fun name _ => values_html _ _ name) snapshot _

/-- **What an answer shows of its draws.** Both requests are answered, and the answers differ in
the id and in the nonce only. -/
theorem exists_answer (hfresh : fresh.IsDrawn) (hother : other.IsDrawn)
    (setup : Setup) (snapshot : Snapshot) (reply : Reply) (request : Request) :
    ∃ a b, (answer setup snapshot (fun _ => reply) fresh request).response = some a ∧
      (answer setup snapshot (fun _ => reply) other request).response = some b ∧
        SameButDrawn fresh other a b := by
  have hunmarked := of_unmarked fresh other fresh.requestId setup snapshot reply request
  have hcorrelated := (hunmarked.marked snapshot).correlated request
  exact ⟨_, _, response_answer setup snapshot _ fresh request,
    response_answer setup snapshot _ other request,
    hcorrelated.finish (hcorrelated.length_body hfresh hother) request⟩

end SameButDrawn

end IsolationGate.Gateway
