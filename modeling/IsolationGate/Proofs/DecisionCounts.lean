import IsolationGate.Proofs.FreshDraws
import IsolationGate.Proofs.HotReload
import Mathlib.Data.List.Forall2

/-!
# The counters of decisions add up

Every visit is counted once, when the filter by Fetch Metadata decides on it, and not at all while
the filter is off. What is counted can be checked from outside: a rejection is a 403 although
nothing was sent on, and every other visit that was judged counts as allowed, whatever it is answered with
in the end. `Tallies` says so of the counters before and after a list of visits; one visit keeps it
going, and so does every run.

The counters therefore only depend on how many visits of each kind there are. Between two reloads
visits meet the same filters, so their order matters to nothing but the order of their answers, and
to what is drawn for them.

## Main results

* `Server.tallies_request` — how one visit is counted.
* `Server.tallies_run` — how a run is counted, by induction on its inputs.
* `Server.run_eq_of_rearranges` — what the order of visits between two reloads changes.
* `Server.countsDecisions_run` — both for a gateway from its start.
-/

namespace IsolationGate.Gateway

open Http (Request Response)
open Policy (Decision)

/-! ## What a visit says of itself -/

namespace Visited

/-- The filter by Fetch Metadata was on. -/
def isJudged (v : Visited) : Bool := v.live.fetchMetadata.isSome

/-- The visit was answered with 403, although nothing was sent on. -/
def isRejected (v : Visited) : Bool :=
  v.outcome.sent.isNone && v.outcome.response.any fun r => r.status == 403

/-- The visit was judged and not rejected. -/
def isAdmitted (v : Visited) : Bool := v.isJudged && !v.isRejected

/-- The outcome is the one that the setup of a gateway and the live filters give. -/
def IsOf (setup : Setup) (v : Visited) : Prop :=
  v.outcome = answer setup v.live v.visit.behind v.visit.fresh v.visit.request

theorem isRejected_iff {setup : Setup} {v : Visited} (h : v.IsOf setup) :
    v.isRejected = true ↔ IsRefused v.live v.visit.request := by
  have hself : v.isRejected = true ↔ RefusesItself v.outcome := by
    rw [isRejected, RefusesItself, Bool.and_eq_true, Option.isNone_iff_eq_none, Option.any_eq_true]
    simp only [beq_iff_eq]
  rw [hself, h, refusesItself_answer_iff]

/-- Only what was judged is rejected. -/
theorem isJudged_of_isRejected {setup : Setup} {v : Visited} (h : v.IsOf setup)
    (hrejected : v.isRejected = true) : v.isJudged = true := by
  obtain ⟨filter, hfilter, -⟩ := ((isRejected_iff h).1 hrejected).judged
  rw [isJudged, hfilter]
  rfl

end Visited

/-! ## One input -/

/-- The counters before and after visits. -/
structure Tallies (before after : Counters) (visits : List Visited) : Prop where
  allowed : after.allowed = before.allowed + visits.countP Visited.isAdmitted
  rejected : after.rejected = before.rejected + visits.countP Visited.isRejected
  rejections : after.rejections = before.rejections + visits.countP Visited.isRejected

theorem Tallies.refl (counters : Counters) : Tallies counters counters [] := ⟨rfl, rfl, rfl⟩

theorem Tallies.append {a b c : Counters} {visits more : List Visited} (h : Tallies a b visits)
    (h' : Tallies b c more) : Tallies a c (visits ++ more) where
  allowed := by rw [h'.allowed, h.allowed, List.countP_append, Nat.add_assoc]
  rejected := by rw [h'.rejected, h.rejected, List.countP_append, Nat.add_assoc]
  rejections := by rw [h'.rejections, h.rejections, List.countP_append, Nat.add_assoc]

/-- The counts of visits determine the counters. -/
theorem Tallies.unique {before after after' : Counters} {visits others : List Visited}
    (h : Tallies before after visits) (h' : Tallies before after' others)
    (hadmitted : visits.countP Visited.isAdmitted = others.countP Visited.isAdmitted)
    (hrejected : visits.countP Visited.isRejected = others.countP Visited.isRejected) :
    after = after' := by
  obtain ⟨allowed, rejected, rejections⟩ := after
  obtain ⟨allowed', rejected', rejections'⟩ := after'
  obtain ⟨ha, hr, hn⟩ := h
  obtain ⟨ha', hr', hn'⟩ := h'
  simp only [Counters.mk.injEq]
  simp only at ha hr hn ha' hr' hn'
  omega

namespace Server

/-- Two states of one gateway that differ in their counters at most. -/
structure SameButCounters (a b : Server) : Prop where
  config : a.config = b.config
  setup : a.setup = b.setup
  live : a.live = b.live

theorem SameButCounters.eq {a b : Server} (h : SameButCounters a b)
    (hcounters : a.counters = b.counters) : a = b := by
  obtain ⟨config, setup, live⟩ := h
  cases a
  cases b
  simp_all

/-- A visit to the gateway when it is over. -/
def visited (server : Server) (v : Visit) : Visited :=
  ⟨v, server.live, answer server.setup server.live v.behind v.fresh v.request⟩

theorem isOf_visited (server : Server) (v : Visit) : (server.visited v).IsOf server.setup := rfl

theorem SameButCounters.visited_eq {a b : Server} (h : SameButCounters a b) :
    a.visited = b.visited := by
  funext v
  rw [Server.visited, Server.visited, h.setup, h.live]

theorem request_eq (server : Server) (behind : OriginServer) (fresh : Fresh) (request : Request) :
    server.request behind fresh request =
      ({ server with
          counters := (server.live.fetchMetadata.map fun filter => decide filter request).elim
            server.counters server.counters.record },
        answer server.setup server.live behind fresh request) := by
  unfold Server.request
  dsimp only
  rw [decision_answer]
  cases server.live.fetchMetadata <;> rfl

/-- **How a visit is counted**: not at all, as a rejection, or as allowed. -/
theorem tallies_request (server : Server) (v : Visit) :
    Tallies server.counters (server.request v.behind v.fresh v.request).1.counters
      [server.visited v] := by
  have hof := isOf_visited server v
  have hrejected := Visited.isRejected_iff hof
  rw [request_eq]
  cases hfilter : server.live.fetchMetadata with
  | none =>
      have hjudged : (server.visited v).isJudged = false := by
        rw [Visited.isJudged, visited, hfilter]
        rfl
      have hnot : (server.visited v).isRejected = false := by
        rw [Bool.eq_false_iff]
        intro h
        have hj := Visited.isJudged_of_isRejected hof h
        rw [hjudged] at hj
        cases hj
      have hadmitted : (server.visited v).isAdmitted = false := by
        rw [Visited.isAdmitted, hjudged]
        rfl
      constructor <;> simp [hnot, hadmitted]
  | some filter =>
      have hjudged : (server.visited v).isJudged = true := by
        rw [Visited.isJudged, visited, hfilter]
        rfl
      have hdecide : (server.visited v).isRejected = true ↔
          decide filter v.request = .reject := by
        rw [hrejected, isRefused_iff, visited, hfilter]
        simp
      cases hd : decide filter v.request with
      | allow =>
          have hnot : (server.visited v).isRejected = false := by
            rw [Bool.eq_false_iff]
            intro h
            rw [hd] at hdecide
            cases hdecide.1 h
          constructor <;> simp [hd, Visited.isAdmitted, hjudged, hnot, Counters.record]
      | reject =>
          have hyes : (server.visited v).isRejected = true := hdecide.2 hd
          constructor <;> simp [hd, Visited.isAdmitted, hjudged, hyes, Counters.record]

/-- A visit changes the counters only. -/
theorem take_visit (server : Server) (v : Visit) :
    SameButCounters (server.take (.visit v)).1 server ∧
      Tallies server.counters (server.take (.visit v)).1.counters [server.visited v] ∧
      (server.take (.visit v)).2 = some (server.visited v) := by
  have htallies := tallies_request server v
  rw [take]
  dsimp only
  rw [request_eq] at htallies ⊢
  exact ⟨⟨rfl, rfl, rfl⟩, htallies, rfl⟩

/-! ## Runs -/

/-- An input keeps the setup, and is counted if it is a visit. -/
theorem take_spec (server : Server) (input : Input) :
    (server.take input).1.setup = server.setup ∧
      Tallies server.counters (server.take input).1.counters (server.take input).2.toList ∧
      ∀ v ∈ (server.take input).2.toList, v.IsOf server.setup := by
  cases input with
  | visit v =>
      obtain ⟨hsame, htallies, hvisited⟩ := take_visit server v
      rw [hvisited]
      refine ⟨hsame.setup, htallies, fun w hw => ?_⟩
      rw [Option.toList_some, List.mem_singleton] at hw
      rw [hw]
      exact isOf_visited server v
  | reload c =>
      have hkept : (server.reload c).1.setup = server.setup ∧
          (server.reload c).1.counters = server.counters := by
        unfold reload
        split <;> exact ⟨rfl, rfl⟩
      refine ⟨hkept.1, ?_, fun v hv => absurd hv List.not_mem_nil⟩
      show Tallies server.counters (server.reload c).1.counters []
      rw [hkept.2]
      exact .refl _

/-- **How a run is counted**, by induction on its inputs. -/
theorem tallies_run (server : Server) (inputs : List Input) :
    (server.run inputs).1.setup = server.setup ∧
      Tallies server.counters (server.run inputs).1.counters (server.run inputs).2 ∧
      ∀ v ∈ (server.run inputs).2, v.IsOf server.setup := by
  induction inputs generalizing server with
  | nil => exact ⟨rfl, .refl _, fun v hv => absurd hv List.not_mem_nil⟩
  | cons input rest ih =>
      obtain ⟨hsetup, htallies, hof⟩ := take_spec server input
      obtain ⟨hsetup', htallies', hof'⟩ := ih (server.take input).1
      rw [hsetup] at hsetup' hof'
      rw [run_cons]
      refine ⟨hsetup', htallies.append htallies', fun v hv => ?_⟩
      rcases List.mem_append.1 hv with hfirst | hlater
      · exact hof v hfirst
      · exact hof' v hlater

/-- Visits without a reload between them meet the same filters. -/
theorem run_visits (server : Server) (visits : List Visit) :
    SameButCounters (server.run (visits.map .visit)).1 server ∧
      (server.run (visits.map .visit)).2 = visits.map server.visited := by
  induction visits generalizing server with
  | nil => exact ⟨⟨rfl, rfl, rfl⟩, rfl⟩
  | cons v rest ih =>
      obtain ⟨hsame, -, hvisited⟩ := take_visit server v
      obtain ⟨hrest, hmore⟩ := ih (server.take (.visit v)).1
      rw [List.map_cons, run_cons, hmore, hvisited, hsame.visited_eq]
      exact ⟨⟨hrest.config.trans hsame.config, hrest.setup.trans hsame.setup,
        hrest.live.trans hsame.live⟩, rfl⟩

/-! ## The order of visits -/

end Server

/-- One list is the other in another order, with related entries. -/
def Rearranges {α : Type} (related : α → α → Prop) (xs ys : List α) : Prop :=
  ∃ middle : List α, xs.Perm middle ∧ List.Forall₂ related middle ys

/-- Two visits by one request, to a server that replies the same to both. The draws are the
gateway's own, so they may differ. -/
structure Visit.Alike (v w : Visit) : Prop where
  request : v.request = w.request
  behind : ∃ reply, v.behind = (fun _ => reply) ∧ w.behind = fun _ => reply
  drawn : v.fresh.IsDrawn ∧ w.fresh.IsDrawn

/-- Alike visits that met the same filters, and were answered the same up to their draws. -/
structure Visited.Alike (v w : Visited) : Prop where
  visit : v.visit.Alike w.visit
  live : v.live = w.live
  response : ∃ a b, v.outcome.response = some a ∧ w.outcome.response = some b ∧
    SameButDrawn v.visit.fresh w.visit.fresh a b

namespace Server

theorem alike_visited (server : Server) {v w : Visit} (h : v.Alike w) :
    (server.visited v).Alike (server.visited w) := by
  refine ⟨h, rfl, ?_⟩
  obtain ⟨hrequest, ⟨reply, hv, hw⟩, hdrawn, hdrawn'⟩ := h
  obtain ⟨a, b, ha, hb, hsame⟩ := SameButDrawn.exists_answer hdrawn hdrawn' server.setup
    server.live reply v.request
  refine ⟨a, b, ?_, ?_, hsame⟩
  · rw [visited, hv]
    exact ha
  · rw [visited, hw, ← hrequest]
    exact hb

/-- Alike visits are counted alike. -/
theorem counted_of_alike (server : Server) {v w : Visit} (h : v.Alike w) :
    (server.visited v).isRejected = (server.visited w).isRejected ∧
      (server.visited v).isAdmitted = (server.visited w).isAdmitted := by
  have hrejected : (server.visited v).isRejected = (server.visited w).isRejected := by
    rw [Bool.eq_iff_iff, Visited.isRejected_iff (isOf_visited server v),
      Visited.isRejected_iff (isOf_visited server w)]
    show IsRefused server.live v.request ↔ IsRefused server.live w.request
    rw [h.request]
  refine ⟨hrejected, ?_⟩
  rw [Visited.isAdmitted, Visited.isAdmitted, hrejected]
  rfl

/-- Rearranged visits are answered alike, in the same new order. -/
theorem rearranges_visited (server : Server) {block other : List Visit}
    (h : Rearranges Visit.Alike block other) :
    Rearranges Visited.Alike (block.map server.visited) (other.map server.visited) := by
  obtain ⟨middle, hperm, halike⟩ := h
  refine ⟨middle.map server.visited, hperm.map _, ?_⟩
  rw [List.forall₂_map_left_iff, List.forall₂_map_right_iff]
  exact halike.imp fun v w => alike_visited server

/-- What alike visits agree on is counted the same in any order. -/
theorem countP_of_rearranges (server : Server) {p : Visited → Bool}
    (hp : ∀ v w : Visit, v.Alike w → p (server.visited v) = p (server.visited w))
    {block other : List Visit} (h : Rearranges Visit.Alike block other) :
    (block.map server.visited).countP p = (other.map server.visited).countP p := by
  obtain ⟨middle, hperm, halike⟩ := h
  rw [(hperm.map server.visited).countP_eq]
  clear hperm
  induction halike with
  | nil => rfl
  | cons hfirst _ ih =>
      rw [List.map_cons, List.map_cons, List.countP_cons, List.countP_cons, hp _ _ hfirst, ih]

/-- **The order of visits between two reloads** changes nothing but the order of their answers: the
gateway is the same after them. -/
theorem run_eq_of_rearranges (server : Server) {block other : List Visit}
    (h : Rearranges Visit.Alike block other) :
    (server.run (block.map .visit)).1 = (server.run (other.map .visit)).1 := by
  obtain ⟨hsame, hvisited⟩ := run_visits server block
  obtain ⟨hsame', hvisited'⟩ := run_visits server other
  have htallies := (tallies_run server (block.map .visit)).2.1
  have htallies' := (tallies_run server (other.map .visit)).2.1
  rw [hvisited] at htallies
  rw [hvisited'] at htallies'
  have hcounters := htallies.unique htallies'
    (countP_of_rearranges server (fun v w hvw => (counted_of_alike server hvw).2) h)
    (countP_of_rearranges server (fun v w hvw => (counted_of_alike server hvw).1) h)
  refine SameButCounters.eq ⟨?_, ?_, ?_⟩ hcounters
  · rw [hsame.config, hsame'.config]
  · rw [hsame.setup, hsame'.setup]
  · rw [hsame.live, hsame'.live]

/-! ## From the start -/

end Server

/-- The counters that are shown after visits, by kinds of visits. -/
structure AddsUp (counters : Counters) (visits : List Visited) : Prop where
  judged : counters.shown (Counters.decisionSeries .allow) +
    counters.shown (Counters.decisionSeries .reject) = visits.countP Visited.isJudged
  allowed : counters.shown (Counters.decisionSeries .allow) = visits.countP Visited.isAdmitted
  rejected : counters.shown (Counters.decisionSeries .reject) = visits.countP Visited.isRejected
  rejections : counters.shown Counters.rejectionSeries = visits.countP Visited.isRejected
  /-- A 403 although nothing was sent on is the gateway's own rejection, text and all. -/
  own : ∀ v ∈ visits, v.isRejected = true → IsRejection v.visit.request v.outcome
  /-- What is judged and fails in the end counts as allowed. -/
  failed : ∀ v ∈ visits, v.isJudged = true → ∀ r, v.outcome.response = some r →
    r.status ∈ [405, 408, 413, 502] → v.isAdmitted = true
  /-- Without the filter nothing is counted. -/
  unjudged : ∀ v ∈ visits, v.live.fetchMetadata = none →
    v.isAdmitted = false ∧ v.isRejected = false

theorem countP_isJudged {setup : Setup} {visits : List Visited}
    (h : ∀ v ∈ visits, v.IsOf setup) :
    visits.countP Visited.isJudged =
      visits.countP Visited.isAdmitted + visits.countP Visited.isRejected := by
  induction visits with
  | nil => rfl
  | cons v rest ih =>
      have hrest := ih fun w hw => h w (List.mem_cons_of_mem v hw)
      have hjudged := Visited.isJudged_of_isRejected (h v List.mem_cons_self)
      simp only [List.countP_cons, Visited.isAdmitted] at hrest ⊢
      by_cases hr : v.isRejected = true
      · simp [hr, hjudged hr]
        omega
      · by_cases hj : v.isJudged = true
        · simp [hr, hj]
          omega
        · simp [hr, hj]
          omega

/-- The counters of a gateway that has counted from zero. -/
theorem addsUp_of_tallies {setup : Setup} {counters : Counters} {visits : List Visited}
    (h : Tallies {} counters visits) (hof : ∀ v ∈ visits, v.IsOf setup) :
    AddsUp counters visits := by
  obtain ⟨hallow, hreject, htotal⟩ := counters.shown_eq
  have hallowed : counters.shown (Counters.decisionSeries .allow) =
      visits.countP Visited.isAdmitted := by rw [hallow, h.allowed, Nat.zero_add]
  have hrejected : counters.shown (Counters.decisionSeries .reject) =
      visits.countP Visited.isRejected := by rw [hreject, h.rejected, Nat.zero_add]
  refine ⟨?_, hallowed, hrejected, ?_, ?_, ?_, ?_⟩
  · rw [hallowed, hrejected, countP_isJudged hof]
  · rw [htotal, h.rejections, Nat.zero_add]
  · intro v hv hr
    have hrefused := (Visited.isRejected_iff (hof v hv)).1 hr
    rw [hof v hv]
    exact isRejection_answer hrefused _ _ _
  · intro v hv hjudged r hr hstatus
    have hnot : v.isRejected = false := by
      rw [Visited.isRejected, hr, Option.any_some]
      have hne : (r.status == 403) = false := by
        rw [beq_eq_false_iff_ne]
        rintro he
        rw [he] at hstatus
        revert hstatus
        simp
      rw [hne, Bool.and_false]
    rw [Visited.isAdmitted, hjudged, hnot]
    rfl
  · intro v hv hoff
    have hjudged : v.isJudged = false := by
      rw [Visited.isJudged, hoff]
      rfl
    refine ⟨?_, ?_⟩
    · rw [Visited.isAdmitted, hjudged]
      rfl
    · rw [Bool.eq_false_iff]
      intro hr
      rw [Visited.isJudged_of_isRejected (hof v hv) hr] at hjudged
      cases hjudged

namespace Server

/-- **Decisions are counted once each.** After any run of a gateway from its start, with reloads
anywhere, the counters add up to its visits. Visits between which there is no reload may be
rearranged, and their draws be others: the gateway is the same afterwards, and they get the same
answers up to their draws, in their new order. -/
theorem countsDecisions_run {c : Config} {server : Server} (h : start c = .ok server) :
    (∀ inputs, AddsUp (server.run inputs).1.counters (server.run inputs).2) ∧
      ∀ (before after : List Input) (block other : List Visit),
        Rearranges Visit.Alike block other →
          (server.run (before ++ block.map .visit ++ after)).1 =
              (server.run (before ++ other.map .visit ++ after)).1 ∧
            ∃ first answers answers' last,
              (server.run (before ++ block.map .visit ++ after)).2 = first ++ answers ++ last ∧
              (server.run (before ++ other.map .visit ++ after)).2 = first ++ answers' ++ last ∧
              answers.map Visited.visit = block ∧ answers'.map Visited.visit = other ∧
              Rearranges Visited.Alike answers answers' := by
  constructor
  · intro inputs
    obtain ⟨-, htallies, hof⟩ := tallies_run server inputs
    rw [(start_eq_ok_iff.1 h).2.2.2] at htallies
    exact addsUp_of_tallies htallies hof
  · intro before after block other hblock
    have hvisits : ∀ (here : Server) (visits : List Visit),
        (visits.map here.visited).map Visited.visit = visits := by
      intro here visits
      rw [List.map_map]
      exact List.map_id visits
    simp only [run_append]
    have hsame := run_eq_of_rearranges (server.run before).1 hblock
    rw [hsame, (run_visits (server.run before).1 block).2,
      (run_visits (server.run before).1 other).2]
    exact ⟨rfl, _, _, _, _, rfl, rfl, hvisits _ block, hvisits _ other,
      rearranges_visited (server.run before).1 hblock⟩

/-- A visit by a request, with a nonce of this byte, to a server that never replies. -/
def silentVisit (request : Request) (byte : UInt8) : Visit :=
  ⟨request, fun _ => .silent, ⟨.ofBytes (List.replicate Policy.Nonce.byteCount byte), .ofAscii ""⟩⟩

theorem alike_silentVisit (request : Request) (m n : UInt8) :
    (silentVisit request m).Alike (silentVisit request n) :=
  ⟨rfl, ⟨.silent, rfl, rfl⟩, ⟨List.replicate _ m, List.length_replicate, rfl⟩,
    ⟨List.replicate _ n, List.length_replicate, rfl⟩⟩

/-- A request from another site and a plain one, in either order and with other draws: one rejection
is counted and one decision that allows. -/
theorem crossSite_counted :
    ∃ server, start {} = .ok server ∧
      AddsUp (server.run [.visit (silentVisit Traffic.crossSiteRequest 1),
          .visit (silentVisit Traffic.plainRequest 2)]).1.counters
        (server.run [.visit (silentVisit Traffic.crossSiteRequest 1),
          .visit (silentVisit Traffic.plainRequest 2)]).2 ∧
      (server.run [.visit (silentVisit Traffic.crossSiteRequest 1),
          .visit (silentVisit Traffic.plainRequest 2)]).1.counters = ⟨1, 1, 1⟩ ∧
      (server.run [.visit (silentVisit Traffic.plainRequest 3),
          .visit (silentVisit Traffic.crossSiteRequest 4)]).1.counters = ⟨1, 1, 1⟩ := by
  obtain ⟨server, hserver⟩ : ∃ server, start {} = .ok server :=
    Traffic.exists_of_isSome (by decide +kernel)
  obtain ⟨hcounts, horder⟩ := countsDecisions_run hserver
  obtain ⟨hlive, -, -, hcounters⟩ := start_eq_ok_iff.1 hserver
  have hguard : server.live.fetchMetadata = fetchMetadataOf {} :=
    (Snapshot.ofConfig_eq_ok_iff.1 hlive).1
  have hrun : (server.run [.visit (silentVisit Traffic.crossSiteRequest 1),
      .visit (silentVisit Traffic.plainRequest 2)]).1.counters = ⟨1, 1, 1⟩ := by
    have hreject : (fetchMetadataOf {}).map (fun filter =>
        decide filter Traffic.crossSiteRequest) = some .reject := by decide +kernel
    have hallow : (fetchMetadataOf {}).map (fun filter =>
        decide filter Traffic.plainRequest) = some .allow := by decide +kernel
    simp only [run, take, silentVisit, request_eq, hguard, hcounters, hreject, hallow]
    rfl
  have hswapped := (horder [] [] [silentVisit Traffic.crossSiteRequest 1,
    silentVisit Traffic.plainRequest 2] [silentVisit Traffic.plainRequest 3,
    silentVisit Traffic.crossSiteRequest 4]
    ⟨_, .swap _ _ [], .cons (alike_silentVisit _ 2 3) (.cons (alike_silentVisit _ 1 4) .nil)⟩).1
  refine ⟨server, hserver, hcounts _, hrun, ?_⟩
  rw [← hrun]
  exact congrArg Server.counters hswapped.symm

end Server

end IsolationGate.Gateway
