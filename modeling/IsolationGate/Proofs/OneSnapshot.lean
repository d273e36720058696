import IsolationGate.Gateway.InFlight
import IsolationGate.Proofs.Rejection
import Mathlib.Data.List.Induction

/-!
# The filters of one request

Each request is meant to see one snapshot of the filters. Its layers read the live filters one after
the other, though, so a configuration that arrives in between reaches some of them only. What a run
does guarantee is that each layer has read a snapshot that was live at a moment of the request, and
that these moments come in the order of the layers. So the filters of a request are those of one
snapshot exactly when some moment of the request agrees with each reading in what that layer reads.

## Main results

* `Traffic.readAt_run` — the readings of a request are the live snapshots of its moments, in order.
* `Traffic.isOfOneSnapshot_iff_of_run` — when the filters of a request are those of one snapshot.
* `Traffic.isHarmless_iff` — which configurations do no harm, however and whenever they arrive.
* `Traffic.unguarded_between_configurations` — a request that meets neither of two filters,
  although one of them was on at every moment.
-/

namespace IsolationGate.Gateway

open Http (Request)

/-! ## What the layers read -/

/-- A layer that reads the live filters. -/
inductive Layer where
  | guarding
  | restricting
  | opening
  | embedding
  deriving DecidableEq

/-- Two snapshots are the same to a layer. -/
def Snapshot.Agree (layer : Layer) (a b : Snapshot) : Prop :=
  match layer with
  | .guarding => a.fetchMetadata = b.fetchMetadata
  | .restricting => a.content = b.content
  | .opening => a.opener = b.opener
  | .embedding => a.embedder = b.embedder

theorem Snapshot.eq_of_agree {a b : Snapshot} (h : ∀ layer, a.Agree layer b) : a = b := by
  have hguarding : a.fetchMetadata = b.fetchMetadata := h .guarding
  have hrestricting : a.content = b.content := h .restricting
  have hopening : a.opener = b.opener := h .opening
  have hembedding : a.embedder = b.embedder := h .embedding
  cases a
  cases b
  simp_all only

theorem Snapshot.Agree.symm {layer : Layer} {a b : Snapshot} (h : a.Agree layer b) :
    b.Agree layer a := by
  cases layer <;> exact Eq.symm h

theorem Snapshot.Agree.trans {layer : Layer} {a b c : Snapshot} (hab : a.Agree layer b)
    (hbc : b.Agree layer c) : a.Agree layer c := by
  cases layer <;> exact Eq.trans hab hbc

theorem Snapshot.Agree.refl (layer : Layer) (a : Snapshot) : a.Agree layer a := by
  cases layer <;> rfl

theorem Snapshot.agree_of_eq {a b : Snapshot} (h : a = b) (layer : Layer) : a.Agree layer b :=
  h ▸ .refl layer a

/-- Two snapshots of which no mixture is new differ in one layer at most. -/
theorem Snapshot.exists_agree_of_mixed {a b : Snapshot}
    (hfirst : a = mixed a b b b ∨ b = mixed a b b b)
    (hsecond : a = mixed a a b b ∨ b = mixed a a b b)
    (hthird : a = mixed a a a b ∨ b = mixed a a a b) :
    ∃ replaced : Layer, ∀ layer ≠ replaced, a.Agree layer b := by
  rcases hfirst with hfirst | hfirst
  · refine ⟨.guarding, fun layer hlayer => ?_⟩
    cases layer with
    | guarding => exact absurd rfl hlayer
    | restricting => exact Snapshot.agree_of_eq hfirst .restricting
    | opening => exact Snapshot.agree_of_eq hfirst .opening
    | embedding => exact Snapshot.agree_of_eq hfirst .embedding
  · have hguarding : a.Agree .guarding b := (Snapshot.agree_of_eq hfirst .guarding).symm
    rcases hthird with hthird | hthird
    · have hembedding : a.Agree .embedding b := Snapshot.agree_of_eq hthird .embedding
      rcases hsecond with hsecond | hsecond
      · refine ⟨.restricting, fun layer hlayer => ?_⟩
        cases layer with
        | guarding => exact hguarding
        | restricting => exact absurd rfl hlayer
        | opening => exact Snapshot.agree_of_eq hsecond .opening
        | embedding => exact hembedding
      · refine ⟨.opening, fun layer hlayer => ?_⟩
        cases layer with
        | guarding => exact hguarding
        | restricting => exact (Snapshot.agree_of_eq hsecond .restricting).symm
        | opening => exact absurd rfl hlayer
        | embedding => exact hembedding
    · refine ⟨.embedding, fun layer hlayer => ?_⟩
      cases layer with
      | guarding => exact hguarding
      | restricting => exact (Snapshot.agree_of_eq hthird .restricting).symm
      | opening => exact (Snapshot.agree_of_eq hthird .opening).symm
      | embedding => exact absurd rfl hlayer

namespace Traffic

/-! ## The moments of a request -/

/-- A moment of the request at a place: a part of the run after which it has arrived. -/
structure IsMoment (t : Traffic) (actions : List Action) (place : Nat) (past : List Action) :
    Prop where
  within : past <+: actions
  arrived : place < (t.run past).requests.length

/-- The filters of a request are those that were live at one of its moments. -/
def IsOfOneSnapshot (t : Traffic) (actions : List Action) (place : Nat) (filters : Snapshot) :
    Prop :=
  ∃ past, IsMoment t actions place past ∧ (t.run past).server.live = filters

/-- A request has read what was live at these moments, in this order. -/
structure ReadAt (t : Traffic) (actions : List Action) (place : Nat) (r : InFlight)
    (moments : List (List Action)) : Prop where
  read : r.read = moments.map fun past => (t.run past).server.live
  ordered : moments.Pairwise (· <+: ·)
  moment : ∀ past ∈ moments, IsMoment t actions place past

theorem run_concat (t : Traffic) (actions : List Action) (a : Action) :
    t.run (actions ++ [a]) = (t.run actions).act a := by
  rw [run, run, List.foldl_append, List.foldl_cons, List.foldl_nil]

theorem IsMoment.concat {t : Traffic} {actions past : List Action} {place : Nat}
    (h : IsMoment t actions place past) (a : Action) : IsMoment t (actions ++ [a]) place past :=
  ⟨h.within.trans (List.prefix_append actions [a]), h.arrived⟩

theorem ReadAt.concat {t : Traffic} {actions : List Action} {place : Nat} {r : InFlight}
    {moments : List (List Action)} (h : ReadAt t actions place r moments) (a : Action) :
    ReadAt t (actions ++ [a]) place r moments :=
  ⟨h.read, h.ordered, fun past hpast => (h.moment past hpast).concat a⟩

/-- A request that reads at the end of a run. -/
theorem ReadAt.readNext {t : Traffic} {actions : List Action} {place : Nat} {r : InFlight}
    {moments : List (List Action)} (h : ReadAt t actions place r moments)
    (harrived : place < (t.run actions).requests.length) (setup : Setup) :
    ∃ moments', ReadAt t actions place (r.readNext setup (t.run actions).server.live) moments' := by
  by_cases hreading : r.isReading setup = true
  · rw [InFlight.readNext, if_pos hreading]
    have hnow : IsMoment t actions place actions := ⟨List.prefix_refl actions, harrived⟩
    refine ⟨moments ++ [actions], ?_, ?_, ?_⟩
    · rw [List.map_append, ← h.read]
      rfl
    · rw [List.pairwise_append]
      refine ⟨h.ordered, List.pairwise_singleton _ _, fun past hpast last hlast => ?_⟩
      rw [List.mem_singleton.1 hlast]
      exact (h.moment past hpast).within
    · intro past hpast
      rcases List.mem_append.1 hpast with hbefore | hlast
      · exact h.moment past hbefore
      · rw [List.mem_singleton.1 hlast]
        exact hnow
  · rw [InFlight.readNext, if_neg hreading]
    exact ⟨moments, h⟩

/-- One action lets at most one request read, and at most one arrive. -/
theorem act_cases {t : Traffic} {a : Action} {place : Nat} {r : InFlight}
    (h : (t.act a).requests[place]? = some r) :
    t.requests[place]? = some r ∨ r.read = [] ∨
      ∃ before, t.requests[place]? = some before ∧
        r = before.readNext t.server.setup t.server.live := by
  cases a with
  | arrive request fresh =>
      have happend : (t.requests ++ [{ request := request, fresh := fresh }])[place]? = some r := h
      by_cases hplace : place < t.requests.length
      · rw [List.getElem?_append_left hplace] at happend
        exact .inl happend
      · rw [List.getElem?_append_right (Nat.le_of_not_lt hplace)] at happend
        have hmem := List.mem_of_getElem? happend
        rw [List.mem_singleton.1 hmem]
        exact .inr (.inl rfl)
  | read other =>
      have hmodify : (t.requests.modify other fun r => r.readNext t.server.setup
          t.server.live)[place]? = some r := h
      rw [List.getElem?_modify] at hmodify
      obtain ⟨before, hbefore, hr⟩ := Option.map_eq_some_iff.1 hmodify
      by_cases hplace : other = place
      · rw [if_pos hplace] at hr
        exact .inr (.inr ⟨before, hbefore, hr.symm⟩)
      · rw [if_neg hplace] at hr
        exact .inl (hr ▸ hbefore)
  | reload config => exact .inl h

/-- The readings of a request are the live snapshots of moments of the request, in order. -/
theorem readAt_run (server : Server) (actions : List Action) (place : Nat) (r : InFlight)
    (h : ((start server).run actions).requests[place]? = some r) :
    ∃ moments, ReadAt (start server) actions place r moments := by
  induction actions using List.reverseRecOn generalizing r with
  | nil => cases h
  | append_singleton actions a ih =>
      rw [run_concat] at h
      rcases act_cases h with hbefore | hread | ⟨before, hbefore, rfl⟩
      · obtain ⟨moments, hmoments⟩ := ih r hbefore
        exact ⟨moments, hmoments.concat a⟩
      · exact ⟨[], hread, List.Pairwise.nil, nofun⟩
      · obtain ⟨moments, hmoments⟩ := ih before hbefore
        have harrived := (List.getElem?_eq_some_iff.1 hbefore).1
        obtain ⟨moments', hmoments'⟩ :=
          hmoments.readNext harrived ((start server).run actions).server.setup
        exact ⟨moments', hmoments'.concat a⟩

/-! ## One snapshot, or several -/

/-- The moments at which the layers of a request have read their filters. -/
structure Readings (t : Traffic) (actions : List Action) (place : Nat) (filters : Snapshot)
    (reading : Layer → List Action) : Prop where
  moment : ∀ layer, IsMoment t actions place (reading layer)
  restricting : reading .guarding <+: reading .restricting
  opening : reading .restricting <+: reading .opening
  embedding : reading .opening <+: reading .embedding
  agree : ∀ layer, filters.Agree layer (t.run (reading layer)).server.live

/-- The filters of a request that has read them all come from its readings. -/
theorem ReadAt.exists_readings {t : Traffic} {actions : List Action} {place : Nat} {r : InFlight}
    {moments : List (List Action)} (h : ReadAt t actions place r moments) {setup : Setup}
    {filters : Snapshot} (hfilters : r.filters? setup = some filters) :
    ∃ reading, Readings t actions place filters reading := by
  rw [InFlight.filters?, h.read] at hfilters
  rcases moments with _ | ⟨a, _ | ⟨b, _ | ⟨c, _ | ⟨d, _ | ⟨e, more⟩⟩⟩⟩⟩
  · cases hfilters
  · -- A request that the outer layers answer has read once; that moment stands for all four.
    simp only [List.map_cons, List.map_nil] at hfilters
    split at hfilters
    · cases hfilters
      have ha := h.moment a (by simp)
      exact ⟨fun _ => a, fun _ => ha, List.prefix_refl a, List.prefix_refl a, List.prefix_refl a,
        fun layer => .refl layer _⟩
    · cases hfilters
  · cases hfilters
  · cases hfilters
  · cases hfilters
    have hordered := h.ordered
    simp only [List.pairwise_cons, List.mem_cons, forall_eq_or_imp] at hordered
    obtain ⟨⟨hab, _⟩, ⟨hbc, _⟩, ⟨hcd, _⟩, _⟩ := hordered
    let reading : Layer → List Action
      | .guarding => a
      | .restricting => b
      | .opening => c
      | .embedding => d
    refine ⟨reading, fun layer => ?_, hab, hbc, hcd, fun layer => ?_⟩
    · cases layer <;> exact h.moment _ (by simp [reading])
    · cases layer <;> rfl
  · cases hfilters

/-- The filters are those of one snapshot exactly when a moment agrees with all readings. -/
theorem Readings.isOfOneSnapshot_iff {t : Traffic} {actions : List Action} {place : Nat}
    {filters : Snapshot} {reading : Layer → List Action}
    (h : Readings t actions place filters reading) :
    IsOfOneSnapshot t actions place filters ↔
      ∃ past, IsMoment t actions place past ∧
        ∀ layer, (t.run past).server.live.Agree layer (t.run (reading layer)).server.live := by
  constructor
  · rintro ⟨past, hpast, rfl⟩
    exact ⟨past, hpast, h.agree⟩
  · rintro ⟨past, hpast, hagree⟩
    refine ⟨past, hpast, Snapshot.eq_of_agree fun layer => ?_⟩
    exact (hagree layer).trans (h.agree layer).symm

/-- Replacing a single filter during a request does no harm: that filter is read once. -/
theorem Readings.isOfOneSnapshot {t : Traffic} {actions : List Action} {place : Nat}
    {filters : Snapshot} {reading : Layer → List Action}
    (h : Readings t actions place filters reading) (replaced : Layer)
    (hkept : ∀ a b, IsMoment t actions place a → IsMoment t actions place b →
      ∀ layer ≠ replaced, (t.run a).server.live.Agree layer (t.run b).server.live) :
    IsOfOneSnapshot t actions place filters := by
  refine h.isOfOneSnapshot_iff.2 ⟨reading replaced, h.moment replaced, fun layer => ?_⟩
  by_cases hlayer : layer = replaced
  · rw [hlayer]
    exact .refl replaced _
  · exact hkept _ _ (h.moment replaced) (h.moment layer) layer hlayer

/-! ## Every run -/

/-- The filters of a request, for every run. Each layer has read a snapshot that was live at a
moment of the request, the layers one after the other, and what was read decides the outcome. All of
it is one live snapshot exactly when some moment of the request agrees with every reading; it is if
no more than one filter is replaced while the request is on its way. -/
theorem isOfOneSnapshot_iff_of_run (server : Server) (actions : List Action) (place : Nat)
    (r : InFlight) (filters : Snapshot)
    (hr : ((start server).run actions).requests[place]? = some r)
    (hfilters : r.filters? server.setup = some filters) :
    (∀ behind, r.outcome? server.setup behind =
        some (answer server.setup filters behind r.fresh r.request)) ∧
      (∃ reading, Readings (start server) actions place filters reading ∧
        (IsOfOneSnapshot (start server) actions place filters ↔
          ∃ past, IsMoment (start server) actions place past ∧
            ∀ layer, ((start server).run past).server.live.Agree layer
              ((start server).run (reading layer)).server.live)) ∧
      ∀ replaced : Layer,
        (∀ a b, IsMoment (start server) actions place a →
          IsMoment (start server) actions place b → ∀ layer ≠ replaced,
            ((start server).run a).server.live.Agree layer
              ((start server).run b).server.live) →
        IsOfOneSnapshot (start server) actions place filters := by
  obtain ⟨moments, hmoments⟩ := readAt_run server actions place r hr
  obtain ⟨reading, hreading⟩ := hmoments.exists_readings hfilters
  refine ⟨fun behind => ?_, ⟨reading, hreading, hreading.isOfOneSnapshot_iff⟩,
    fun replaced hkept => hreading.isOfOneSnapshot replaced hkept⟩
  rw [InFlight.outcome?, hfilters]
  rfl

/-! ## Which configurations do no harm -/

/-- However these configurations arrive, and however often, every request has the filters of one
snapshot. -/
def IsHarmless (server : Server) (configs : List Config) : Prop :=
  ∀ actions place r filters, (∀ c, Action.reload c ∈ actions → c ∈ configs) →
    ((start server).run actions).requests[place]? = some r →
    r.filters? server.setup = some filters → IsOfOneSnapshot (start server) actions place filters

/-- What is live is the first snapshot or the one of a configuration that has arrived. -/
theorem live_run_cases {server : Server} {configs : List Config} (actions : List Action)
    (honly : ∀ c, Action.reload c ∈ actions → c ∈ configs) :
    ((start server).run actions).server.live = server.live ∨
      ∃ c ∈ configs, Snapshot.ofConfig c = .ok ((start server).run actions).server.live := by
  induction actions using List.reverseRecOn with
  | nil => exact .inl rfl
  | append_singleton actions a ih =>
      have hbefore := ih fun c hc => honly c (List.mem_append_left _ hc)
      rw [run_concat]
      cases a with
      | arrive request fresh => exact hbefore
      | read place => exact hbefore
      | reload c =>
          have hc : c ∈ configs := honly c (by simp)
          show (((start server).run actions).server.reload c).1.live = server.live ∨
            ∃ c' ∈ configs, Snapshot.ofConfig c' =
              .ok (((start server).run actions).server.reload c).1.live
          rw [Server.reload]
          cases hnext : Snapshot.ofConfig c with
          | ok next => exact .inr ⟨c, hc, hnext⟩
          | error violation => exact hbefore

/-- A request reads a few times, a configuration arrives, and the request reads the rest. -/
def straddling (request : Request) (fresh : Fresh) (config : Config) (k : Nat) : List Action :=
  .arrive request fresh ::
    (List.replicate k (.read 0) ++ .reload config :: List.replicate (4 - k) (.read 0))

/-- What a request has read that the outer layers let through. -/
theorem requests_straddling {server : Server} {config : Config} {next : Snapshot}
    (hnext : Snapshot.ofConfig config = .ok next) {request : Request} (fresh : Fresh)
    (hstopped : isStopped server.setup server.live request = false) {k : Nat}
    (hk : k = 1 ∨ k = 2 ∨ k = 3) :
    ((start server).run (straddling request fresh config k)).requests =
      [{ request := request
         fresh := fresh
         read := List.replicate k server.live ++ List.replicate (4 - k) next }] := by
  obtain ⟨report, hreload⟩ :
      ∃ report, server.reload config = ({ server with live := next }, report) := by
    rw [Server.reload, hnext]
    exact ⟨_, rfl⟩
  rcases hk with rfl | rfl | rfl
  all_goals
    simp [straddling, run, act, start, List.replicate, InFlight.readNext, InFlight.isReading,
      hstopped, hreload]

theorem mem_straddling {request : Request} {fresh : Fresh} {config c : Config} {k : Nat}
    (h : Action.reload c ∈ straddling request fresh config k) : c = config := by
  simp only [straddling, List.mem_cons, List.mem_append, List.mem_replicate, reduceCtorEq,
    and_false, false_or, or_false, Action.reload.injEq] at h
  exact h

/-- While a request straddles a configuration, what is live is what was, or is new. -/
theorem live_of_isMoment_straddling {server : Server} {config : Config} {next : Snapshot}
    (hnext : Snapshot.ofConfig config = .ok next) {request : Request} {fresh : Fresh} {k : Nat}
    {past : List Action}
    (hpast : IsMoment (start server) (straddling request fresh config k) 0 past) :
    ((start server).run past).server.live = server.live ∨
      ((start server).run past).server.live = next := by
  have honly : ∀ c, Action.reload c ∈ past → c ∈ [config] := fun c hc =>
    List.mem_singleton.2 (mem_straddling (hpast.within.subset hc))
  rcases live_run_cases past honly with hfirst | ⟨c, hc, hlive⟩
  · exact .inl hfirst
  · rw [List.mem_singleton.1 hc, hnext] at hlive
    exact .inr (Except.ok.inj hlive).symm

/-- A request without fields. -/
def plainRequest : Request where
  method := .get
  target := ⟨none, none, "/", none⟩
  fields := .empty
  body := .empty

/-- The outer layers let a request through that says neither where it comes from nor how long it
is. -/
theorem isStopped_of_values_eq_nil {request : Request}
    (hsite : request.fields.values Policy.FetchMetadata.siteName = [])
    (hlength : request.fields.values .contentLength = []) (setup : Setup) (guarding : Snapshot) :
    isStopped setup guarding request = false := by
  have hshort : isTooLong setup request = false := by
    rw [isTooLong, statedLength?, Http.Fields.get?, hlength]
    rfl
  have hallowed : ∀ filter, decide filter request ≠ .reject := by
    intro filter hreject
    obtain ⟨-, ⟨value, hvalue, -⟩, -⟩ := decide_eq_reject_iff.1 hreject
    rw [hsite] at hvalue
    cases hvalue
  rw [isStopped, hshort, Bool.false_or]
  cases guarding.fetchMetadata with
  | none => rfl
  | some filter => rw [Option.any_some, beq_eq_false_iff_ne.2 (hallowed filter)]

theorem isStopped_plainRequest (setup : Setup) (guarding : Snapshot) :
    isStopped setup guarding plainRequest = false :=
  isStopped_of_values_eq_nil rfl rfl setup guarding

/-- The plain request when a configuration has arrived behind its `k`-th reading. -/
def halfway (server : Server) (next : Snapshot) (k : Nat) : InFlight where
  request := plainRequest
  fresh := ⟨default, ⟨[], rfl⟩⟩
  read := List.replicate k server.live ++ List.replicate (4 - k) next

/-- A configuration that does no harm differs from the live one in one filter at most: behind the
first reading, the second and the third, one of the two snapshots has to be the mixture. -/
theorem IsHarmless.exists_agree {server : Server} {configs : List Config}
    (h : IsHarmless server configs) {config : Config} (hconfig : config ∈ configs)
    {next : Snapshot} (hnext : Snapshot.ofConfig config = .ok next) :
    ∃ replaced : Layer, ∀ layer ≠ replaced, server.live.Agree layer next := by
  have hmixed : ∀ k, k = 1 ∨ k = 2 ∨ k = 3 → ∀ filters,
      InFlight.filters? (halfway server next k) server.setup = some filters →
        server.live = filters ∨ next = filters := by
    intro k hk filters hfilters
    have hrun := requests_straddling hnext ⟨default, ⟨[], rfl⟩⟩
      (isStopped_plainRequest server.setup server.live) hk
    have hr : ((start server).run
        (straddling plainRequest ⟨default, ⟨[], rfl⟩⟩ config k)).requests[0]? =
          some (halfway server next k) := by
      rw [hrun]
      rfl
    obtain ⟨past, hpast, hlive⟩ :=
      h _ 0 _ filters (fun c hc => mem_straddling hc ▸ hconfig) hr hfilters
    rcases live_of_isMoment_straddling hnext hpast with hfirst | hsecond
    · exact .inl (hfirst.symm.trans hlive)
    · exact .inr (hsecond.symm.trans hlive)
  exact Snapshot.exists_agree_of_mixed (hmixed 1 (.inl rfl) _ rfl)
    (hmixed 2 (.inr (.inl rfl)) _ rfl) (hmixed 3 (.inr (.inr rfl)) _ rfl)

/-- Configurations that do no harm do none behind one of them either. -/
theorem IsHarmless.reload {server : Server} {configs : List Config}
    (h : IsHarmless server configs) {config : Config} (hconfig : config ∈ configs)
    {next : Snapshot} (hnext : Snapshot.ofConfig config = .ok next) :
    IsHarmless { server with live := next } configs := by
  have hreload : ∀ actions, (start server).run (.reload config :: actions) =
      (start { server with live := next }).run actions := by
    intro actions
    have hserver : (server.reload config).1 = { server with live := next } := by
      rw [Server.reload, hnext]
    show Traffic.run { start server with server := (server.reload config).1 } actions = _
    rw [hserver]
    rfl
  intro actions place r filters honly hr hfilters
  have hwithin : ∀ c, Action.reload c ∈ Action.reload config :: actions → c ∈ configs := by
    intro c hc
    rcases List.mem_cons.1 hc with hfirst | hrest
    · exact Action.reload.inj hfirst ▸ hconfig
    · exact honly c hrest
  obtain ⟨past, hpast, hlive⟩ :=
    h (.reload config :: actions) place r filters hwithin (by rw [hreload]; exact hr) hfilters
  -- Before anything has happened no request is there, so the moment is behind the configuration.
  cases past with
  | nil => exact absurd hpast.arrived (Nat.not_lt_zero place)
  | cons first rest =>
      obtain ⟨rfl, hrest⟩ := List.cons_prefix_cons.1 hpast.within
      have harrived := hpast.arrived
      rw [hreload] at hlive harrived
      exact ⟨rest, ⟨hrest, harrived⟩, hlive⟩

/-- **Which configurations do no harm.** In every run in which these configurations arrive, at any
time, any number of times and among any requests, every request has the filters of one snapshot that
was live while it was on its way, exactly when all of them, and the first one, differ in no more than
one filter. -/
theorem isHarmless_iff (server : Server) (configs : List Config) :
    IsHarmless server configs ↔
      ∃ replaced : Layer, ∀ c ∈ configs, ∀ next, Snapshot.ofConfig c = .ok next →
        ∀ layer ≠ replaced, server.live.Agree layer next := by
  constructor
  · intro h
    by_cases hsame : ∀ c ∈ configs, ∀ next, Snapshot.ofConfig c = .ok next →
        ∀ layer, server.live.Agree layer next
    · exact ⟨.guarding, fun c hc next hnext layer _ => hsame c hc next hnext layer⟩
    · -- Some configuration replaces a filter; no other one may replace a different filter.
      simp only [not_forall] at hsame
      obtain ⟨c, hc, next, hnext, replaced, hreplaced⟩ := hsame
      refine ⟨replaced, fun other hother next' hnext' layer hlayer => ?_⟩
      obtain ⟨first, hfirst⟩ := h.exists_agree hc hnext
      obtain ⟨second, hsecond⟩ := h.exists_agree hother hnext'
      obtain ⟨third, hthird⟩ := (h.reload hc hnext).exists_agree hother hnext'
      have hfirst' : first = replaced := by
        by_cases heq : replaced = first
        · exact heq.symm
        · exact absurd (hfirst replaced heq) hreplaced
      by_cases hagree : server.live.Agree layer next'
      · exact hagree
      · have hsecond' : layer = second := by
          by_cases heq : layer = second
          · exact heq
          · exact absurd (hsecond layer heq) hagree
        have hkept : server.live.Agree replaced next' :=
          hsecond replaced fun heq => hlayer (hsecond'.trans heq.symm)
        have hthird' : third = replaced := by
          by_cases heq : replaced = third
          · exact heq.symm
          · exact absurd (hkept.trans (hthird replaced heq).symm) hreplaced
        have hlayerKept : server.live.Agree layer next := hfirst layer (hfirst' ▸ hlayer)
        exact hlayerKept.trans (hthird layer (hthird' ▸ hlayer))
  · rintro ⟨replaced, hkept⟩ actions place r filters honly hr hfilters
    obtain ⟨moments, hmoments⟩ := readAt_run server actions place r hr
    obtain ⟨reading, hreading⟩ := hmoments.exists_readings hfilters
    have hagree : ∀ past, IsMoment (start server) actions place past →
        ∀ layer ≠ replaced, server.live.Agree layer ((start server).run past).server.live := by
      intro past hpast layer hlayer
      rcases live_run_cases past fun c hc => honly c (hpast.within.subset hc) with
        hfirst | ⟨c, hc, hnext⟩
      · rw [hfirst]
        exact .refl layer _
      · exact hkept c hc _ hnext layer hlayer
    refine hreading.isOfOneSnapshot replaced fun a b ha hb layer hlayer => ?_
    exact (hagree a ha layer hlayer).symm.trans (hagree b hb layer hlayer)

/-- A configuration without the filter by Fetch Metadata. -/
def unguarded : Config := { fetchMetadata := { enabled := false } }

/-- A configuration without the content policy. -/
def unrestricted : Config := { content := { enabled := false } }

/-- A request that says it comes from another site. -/
def crossSiteRequest : Request :=
  { plainRequest with
    fields := Http.Fields.empty.append Policy.FetchMetadata.siteName
      ⟨Text.bytesOf "cross-site", by decide⟩ }

/-- The request reads once, and then the other configuration arrives. -/
def gap : List Action := straddling crossSiteRequest ⟨default, ⟨[], rfl⟩⟩ unrestricted 1

theorem exists_of_isSome {ε α : Type} {x : Except ε α} (h : x.toOption.isSome = true) :
    ∃ a, x = .ok a := by
  cases x with
  | error e => cases h
  | ok a => exact ⟨a, rfl⟩

theorem exists_ofConfig_unrestricted : ∃ next, Snapshot.ofConfig unrestricted = .ok next :=
  exists_of_isSome (by decide +kernel)

/-- A request from another site gets through a gap: it is neither judged nor restricted, although at
every moment one of the two was on. -/
theorem unguarded_between_configurations :
    ∃ server r filters, Server.start unguarded = .ok server ∧
      ((start server).run gap).requests[0]? = some r ∧ r.filters? server.setup = some filters ∧
      filters.fetchMetadata = none ∧ filters.content = none ∧
      (∀ past, IsMoment (start server) gap 0 past →
        ((start server).run past).server.live.fetchMetadata ≠ none ∨
          ((start server).run past).server.live.content ≠ none) ∧
      ¬ IsOfOneSnapshot (start server) gap 0 filters := by
  obtain ⟨server, hserver⟩ : ∃ server, Server.start unguarded = .ok server :=
    exists_of_isSome (by decide +kernel)
  obtain ⟨next, hnext⟩ := exists_ofConfig_unrestricted
  obtain ⟨hguard, -, -, hcontent⟩ :=
    Snapshot.ofConfig_eq_ok_iff.1 (Server.ofConfig_of_start hserver).1
  obtain ⟨hguard', -, -, hcontent'⟩ := Snapshot.ofConfig_eq_ok_iff.1 hnext
  have hstopped : isStopped server.setup server.live crossSiteRequest = false := by
    rw [isStopped, hguard]
    rfl
  have hrun := requests_straddling hnext ⟨default, ⟨[], rfl⟩⟩ hstopped (.inl rfl)
  have hlive : ∀ past, IsMoment (start server) gap 0 past →
      ((start server).run past).server.live.fetchMetadata ≠ none ∨
        ((start server).run past).server.live.content ≠ none := by
    intro past hpast
    rcases live_of_isMoment_straddling hnext hpast with hfirst | hsecond
    · rw [hfirst, hcontent]
      exact .inr nofun
    · rw [hsecond, hguard']
      exact .inl nofun
  refine ⟨server, _, .mixed server.live next next next, hserver, by rw [gap, hrun]; rfl, rfl,
    hguard, hcontent', hlive, ?_⟩
  rintro ⟨past, hpast, hfilters⟩
  rcases hlive past hpast with hon | hon
  · rw [hfilters] at hon
    exact hon hguard
  · rw [hfilters] at hon
    exact hon hcontent'

end Traffic

end IsolationGate.Gateway
