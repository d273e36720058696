import IsolationGate.Proofs.Layers
import IsolationGate.Proofs.OneSnapshot

/-!
# What answers vary on

While the filter by Fetch Metadata is on, a cache must know that every answer depends on the three
fields that the filter looks at. `IsMarked` says what the filter does to the fields of an answer for
this: the values of `vary` stay as they are, at most one is put behind them, and afterwards the value
of the filter is among them, once if it was not there before.

Which layer has given the answer does not matter. The filter stands outside all of them, and no layer
outside the filter touches `vary`; so an answer of the gateway's own varies on exactly this value, and
one that is passed back on whatever its server said besides.

## Main results

* `isMarked_addVary` — what marking does to any fields.
* `variesFrom_answer` — the values of `vary` on every answer, from whichever layer it comes.
* `InFlight.variesFrom_of_filters` — the same while the filters are replaced.
-/

namespace IsolationGate.Gateway

open Http (FieldName FieldValue Fields Request Response)
open Policy (addVary varyValue)

/-! ## Marking -/

/-- The value says, in any case of its letters, what the filter looks at. -/
def isMark (value : FieldValue) : Bool :=
  value.bytes.map Http.smallByte == Text.bytesOf "sec-fetch-dest, sec-fetch-site, sec-fetch-mode"

/-- Fields before and after an answer is marked. -/
structure IsMarked (before after : Fields) : Prop where
  kept : ∃ more, after.values .vary = before.values .vary ++ more ∧ more.length ≤ 1
  counted : (after.values .vary).countP isMark = max 1 ((before.values .vary).countP isMark)
  others : ∀ name ≠ .vary, after.values name = before.values name
  /-- Marking them again changes nothing. -/
  settled : addVary after = after

theorem isVaryValue_eq_isMark : Policy.isVaryValue = isMark := by
  have hbytes : varyValue.bytes.map Http.smallByte =
      Text.bytesOf "sec-fetch-dest, sec-fetch-site, sec-fetch-mode" := by decide +kernel
  funext value
  rw [Policy.isVaryValue, isMark, hbytes]

theorem isMark_varyValue : isMark varyValue = true := by decide +kernel

theorem values_addVary_self (fields : Fields) :
    (addVary fields).values .vary =
      if (fields.values .vary).any isMark then fields.values .vary
      else fields.values .vary ++ [varyValue] := by
  rw [addVary, isVaryValue_eq_isMark]
  split
  · rfl
  · exact Fields.values_append_self fields .vary varyValue

theorem any_isMark_addVary (fields : Fields) :
    ((addVary fields).values .vary).any isMark = true := by
  rw [values_addVary_self]
  split
  · assumption
  · rw [List.any_append, List.any_cons, isMark_varyValue, Bool.true_or, Bool.or_true]

theorem addVary_addVary (fields : Fields) : addVary (addVary fields) = addVary fields := by
  have hany := any_isMark_addVary fields
  rw [← isVaryValue_eq_isMark] at hany
  exact if_pos hany

theorem countP_addVary (fields : Fields) :
    ((addVary fields).values .vary).countP isMark =
      max 1 ((fields.values .vary).countP isMark) := by
  rw [values_addVary_self]
  by_cases hany : (fields.values .vary).any isMark = true
  · have hpos : 0 < (fields.values .vary).countP isMark := by
      rw [List.countP_pos_iff]
      exact List.any_eq_true.1 hany
    rw [if_pos hany]
    omega
  · have hzero : (fields.values .vary).countP isMark = 0 := by
      rw [List.countP_eq_zero]
      exact fun value hvalue hmark => hany (List.any_eq_true.2 ⟨value, hvalue, hmark⟩)
    rw [if_neg hany, List.countP_append, hzero, List.countP_singleton, isMark_varyValue]
    rfl

/-- **What marking does.** -/
theorem isMarked_addVary (fields : Fields) : IsMarked fields (addVary fields) where
  kept := by
    rw [values_addVary_self]
    split
    · exact ⟨[], (List.append_nil _).symm, Nat.zero_le 1⟩
    · exact ⟨[varyValue], rfl, Nat.le_refl 1⟩
  counted := countP_addVary fields
  others := fun _ hname => Policy.values_addVary_of_ne hname fields
  settled := addVary_addVary fields

/-! ## Every answer -/

/-- The values of `vary` from the answer `inner` that the filter gets to the one that is sent, where
`passed` is the answer of the server behind the gateway if it is passed back. -/
structure VariesFrom (entry : Snapshot) (passed : Option Response) (inner final : Response) :
    Prop where
  /-- Inside the filter only the server behind the gateway says what its answer varies on. -/
  inside : inner.fields.values .vary = passed.elim [] fun response => response.fields.values .vary
  on : entry.fetchMetadata.isSome = true → IsMarked inner.fields (marked entry inner).fields
  off : entry.fetchMetadata = none → marked entry inner = inner
  /-- Outside the filter nothing touches the field. -/
  outside : final.fields.values .vary = (marked entry inner).fields.values .vary
  /-- An answer of the gateway's own has one value. -/
  own : passed = none → entry.fetchMetadata.isSome = true →
    final.fields.values .vary = [varyValue]

theorem marked_of_isSome {snapshot : Snapshot} (h : snapshot.fetchMetadata.isSome = true)
    (response : Response) :
    marked snapshot response = { response with fields := addVary response.fields } := if_pos h

theorem marked_of_eq_none {snapshot : Snapshot} (h : snapshot.fetchMetadata = none)
    (response : Response) : marked snapshot response = response := by
  rw [marked, h]
  rfl

/-- The answer to a request, whichever layer it comes from. -/
theorem variesFrom_answer (setup : Setup) (snapshot : Snapshot) (server : OriginServer)
    (fresh : Fresh) (request : Request) :
    ∃ final, (answer setup snapshot server fresh request).response = some final ∧
      VariesFrom snapshot
        (passedBack? setup server (answer setup snapshot server fresh request).sent)
        (unmarked setup snapshot server fresh.nonce (identified fresh.requestId request))
        final := by
  refine ⟨_, response_answer setup snapshot server fresh request, ?_⟩
  have hsent : (answer setup snapshot server fresh request).sent =
      (layers setup snapshot server fresh.nonce (identified fresh.requestId request)).sent := rfl
  have hinside := values_unmarked .vary (by decide) (by decide) (by decide) setup snapshot server
    fresh.nonce (identified fresh.requestId request)
  rw [hsent]
  generalize passedBack? setup server (layers setup snapshot server fresh.nonce
    (identified fresh.requestId request)).sent = passed at hinside ⊢
  generalize unmarked setup snapshot server fresh.nonce (identified fresh.requestId request) =
    inner at hinside ⊢
  have houtside : (finish request (correlated (identified fresh.requestId request)
      (marked snapshot inner))).fields.values .vary = (marked snapshot inner).fields.values .vary :=
    values_finish_correlated (by decide) (by decide) (by decide) _ _ _
  refine ⟨hinside, ?_, fun hoff => marked_of_eq_none hoff inner, houtside, ?_⟩
  · intro hon
    rw [marked_of_isSome hon]
    exact isMarked_addVary inner.fields
  · rintro rfl hon
    have hnone : inner.fields.values .vary = [] := hinside
    rw [houtside, marked_of_isSome hon, values_addVary_self, hnone]
    rfl

/-! ## Filters that are replaced -/

/-- The layer of the filter reads first, so what it has read is the filter of the request. -/
theorem InFlight.fetchMetadata_of_filters {r : InFlight} {setup : Setup} {entry filters : Snapshot}
    (hentry : r.read.head? = some entry) (hfilters : r.filters? setup = some filters) :
    filters.fetchMetadata = entry.fetchMetadata := by
  unfold filters? at hfilters
  split at hfilters
  · next guarding hread =>
      split at hfilters
      · rw [hread] at hentry
        rw [← Option.some.inj hentry, ← Option.some.inj hfilters]
      · cases hfilters
  · next guarding restricting opening embedding hread =>
      rw [hread] at hentry
      rw [← Option.some.inj hentry, ← Option.some.inj hfilters]
      rfl
  · cases hfilters

/-- What answers vary on depends on one filter only. -/
theorem VariesFrom.of_fetchMetadata_eq {a b : Snapshot} (h : a.fetchMetadata = b.fetchMetadata)
    {passed : Option Response} {inner final : Response} (ha : VariesFrom a passed inner final) :
    VariesFrom b passed inner final := by
  have hmarked : marked a inner = marked b inner := by rw [marked, marked, h]
  exact ⟨ha.inside, by rw [← h, ← hmarked]; exact ha.on, by rw [← h, ← hmarked]; exact ha.off,
    by rw [← hmarked]; exact ha.outside, by rw [← h]; exact ha.own⟩

/-- **Every filtered answer varies on what the filter looked at.** The layers of a request have read
any snapshots, since the filters may be replaced at any moment; the one that counts is the snapshot
that the layer of the filter has read, the first. Every request is answered, and its answer varies as
it should, whether the filter has rejected it, a layer inside has stopped it, it took too long, or it
has reached a handler. -/
theorem InFlight.variesFrom_of_filters {r : InFlight} {setup : Setup} {entry filters : Snapshot}
    (hentry : r.read.head? = some entry) (hfilters : r.filters? setup = some filters)
    (behind : OriginServer) :
    ∃ outcome final, r.outcome? setup behind = some outcome ∧ outcome.response = some final ∧
      VariesFrom entry (passedBack? setup behind outcome.sent)
        (unmarked setup filters behind r.fresh.nonce (identified r.fresh.requestId r.request))
        final := by
  obtain ⟨final, hfinal, hvaries⟩ :=
    variesFrom_answer setup filters behind r.fresh r.request
  refine ⟨answer setup filters behind r.fresh r.request, final, ?_, hfinal,
    hvaries.of_fetchMetadata_eq (fetchMetadata_of_filters hentry hfilters)⟩
  rw [outcome?, hfilters]
  rfl

/-- The filter is switched off while a request is on its way; its answer is marked all the same. -/
theorem variesFrom_halfway :
    ∃ server next, Server.start {} = .ok server ∧
      Snapshot.ofConfig Traffic.unguarded = .ok next ∧
      ∀ behind, ∃ outcome final,
        (Traffic.halfway server next 1).outcome? server.setup behind = some outcome ∧
          outcome.response = some final ∧ 0 < (final.fields.values .vary).countP isMark := by
  obtain ⟨server, hserver⟩ : ∃ server, Server.start {} = .ok server :=
    Traffic.exists_of_isSome (by decide +kernel)
  obtain ⟨next, hnext⟩ : ∃ next, Snapshot.ofConfig Traffic.unguarded = .ok next :=
    Traffic.exists_of_isSome (by decide +kernel)
  have hguard := (Snapshot.ofConfig_eq_ok_iff.1 (Server.start_eq_ok_iff.1 hserver).1).1
  have hon : server.live.fetchMetadata.isSome = true := by
    rw [hguard]
    rfl
  refine ⟨server, next, hserver, hnext, fun behind => ?_⟩
  have hentry : (Traffic.halfway server next 1).read.head? = some server.live := rfl
  have hfilters : (Traffic.halfway server next 1).filters? server.setup =
      some (.mixed server.live next next next) := rfl
  obtain ⟨outcome, final, houtcome, hfinal, hvaries⟩ :=
    InFlight.variesFrom_of_filters hentry hfilters behind
  refine ⟨outcome, final, houtcome, hfinal, ?_⟩
  rw [hvaries.outside, (hvaries.on hon).counted]
  omega

end IsolationGate.Gateway
