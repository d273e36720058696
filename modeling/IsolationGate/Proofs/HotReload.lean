import IsolationGate.Proofs.OneSnapshot

/-!
# Reloading a gateway that serves

While a gateway answers requests it is handed configurations, good ones and bad ones in any order.
Only one of them counts for its filters: the last one that filters can be built from, or the one that
it started from while there is none. `lastAccepted` picks it from the list of all that were handed
over, and `Follows` says of one state that it has the filters of that configuration and everything
else of the first one. Requests keep this, and so does each configuration, accepted or refused.

## Main results

* `Follows.reload`, `Follows.request` — what one configuration and one request preserve.
* `Traffic.follows_run` — every run of requests and configurations follows the last accepted one.
* `Traffic.answers_from_last_accepted` — what the answers of a gateway depend on.
-/

namespace IsolationGate.Gateway

open Http (Request)

/-! ## The configuration that counts -/

/-- Filters can be built from a configuration. -/
def hasFilters (c : Config) : Bool := (Snapshot.ofConfig c).toOption.isSome

/-- The last of the later configurations that filters can be built from; the first configuration
when there is none. -/
def lastAccepted (first : Config) (later : List Config) : Config :=
  (later.reverse.find? hasFilters).getD first

theorem hasFilters_of_ok {c : Config} {s : Snapshot} (h : Snapshot.ofConfig c = .ok s) :
    hasFilters c = true := by
  rw [hasFilters, h]
  rfl

theorem hasFilters_of_error {c : Config} {violation : Config.Violation}
    (h : Snapshot.ofConfig c = .error violation) : hasFilters c = false := by
  rw [hasFilters, h]
  rfl

theorem lastAccepted_concat (first : Config) (later : List Config) (c : Config) :
    lastAccepted first (later ++ [c]) = if hasFilters c then c else lastAccepted first later := by
  rw [lastAccepted, lastAccepted, List.reverse_concat, List.find?_cons]
  cases hasFilters c with
  | true => rfl
  | false => rfl

/-! ## What a configuration decides -/

/-- Two configurations agree in the sections that are fixed when the gateway starts. -/
structure SameStart (a b : Config) : Prop where
  origin : a.origin = b.origin
  timeouts : a.timeouts = b.timeouts
  limits : a.limits = b.limits

/-- Two configurations agree in the sections that filters are built from. -/
structure SameFilters (a b : Config) : Prop where
  fetchMetadata : a.fetchMetadata = b.fetchMetadata
  opener : a.opener = b.opener
  embedder : a.embedder = b.embedder
  content : a.content = b.content

theorem SameStart.ofConfig_eq {a b : Config} (h : SameStart a b) :
    Setup.ofConfig a = Setup.ofConfig b := by
  rw [Setup.ofConfig, Setup.ofConfig, h.origin, h.timeouts, h.limits]

theorem SameFilters.ofConfig_eq {a b : Config} (h : SameFilters a b) :
    Snapshot.ofConfig a = Snapshot.ofConfig b := by
  rw [Snapshot.ofConfig, Snapshot.ofConfig, h.fetchMetadata, h.opener, h.embedder, h.content]

/-! ## One step -/

/-- A gateway that started from one configuration and was handed others has the filters of the one
that was accepted last, and everything else of the first one. -/
structure Follows (first : Config) (later : List Config) (server : Server) : Prop where
  live : Snapshot.ofConfig (lastAccepted first later) = .ok server.live
  setup : Setup.ofConfig first = .ok server.setup
  config : server.config = first

theorem follows_start {c : Config} {server : Server} (h : Server.start c = .ok server) :
    Follows c [] server := by
  obtain ⟨hlive, hsetup, hconfig, -⟩ := Server.start_eq_ok_iff.1 h
  exact ⟨hlive, hsetup, hconfig⟩

/-- One more configuration, accepted or refused. -/
theorem Follows.reload {first : Config} {later : List Config} {server : Server}
    (h : Follows first later server) (c : Config) :
    Follows first (later ++ [c]) (server.reload c).1 := by
  cases hnext : Snapshot.ofConfig c with
  | ok next =>
      rw [(Server.reload_of_ok hnext server).1]
      refine ⟨?_, h.setup, h.config⟩
      rw [lastAccepted_concat, if_pos (hasFilters_of_ok hnext)]
      exact hnext
  | error violation =>
      rw [(Server.reload_of_error hnext server).1]
      refine ⟨?_, h.setup, h.config⟩
      rw [lastAccepted_concat, hasFilters_of_error hnext]
      exact h.live

/-- A request counts its decision and leaves all settings alone. -/
theorem Follows.request {first : Config} {later : List Config} {server : Server}
    (h : Follows first later server) (behind : OriginServer) (fresh : Fresh) (request : Request) :
    Follows first later (server.request behind fresh request).1 := by
  unfold Server.request
  dsimp only
  split
  · exact ⟨h.live, h.setup, h.config⟩
  · exact h

theorem outcome_request (server : Server) (behind : OriginServer) (fresh : Fresh)
    (request : Request) :
    (server.request behind fresh request).2 =
      answer server.setup server.live behind fresh request := by
  unfold Server.request
  dsimp only
  split <;> rfl

/-- Gateways that follow configurations with the same settings answer alike. -/
theorem Follows.outcome_eq {first first' : Config} {later later' : List Config}
    {server server' : Server} (h : Follows first later server) (h' : Follows first' later' server')
    (hstart : SameStart first first')
    (hfilters : SameFilters (lastAccepted first later) (lastAccepted first' later'))
    (behind : OriginServer) (fresh : Fresh) (request : Request) :
    (server.request behind fresh request).2 = (server'.request behind fresh request).2 := by
  have hsetup : server.setup = server'.setup :=
    Except.ok.inj ((h.setup.symm.trans hstart.ofConfig_eq).trans h'.setup)
  have hlive : server.live = server'.live :=
    Except.ok.inj ((h.live.symm.trans hfilters.ofConfig_eq).trans h'.live)
  rw [outcome_request, outcome_request, hsetup, hlive]

namespace Traffic

/-! ## Runs -/

/-- The configuration that an action hands over. -/
def Action.config? : Action → Option Config
  | .reload c => some c
  | _ => none

/-- The configurations that a run hands over, in their order. -/
def delivered (actions : List Action) : List Config := actions.filterMap Action.config?

theorem delivered_concat (actions : List Action) (a : Action) :
    delivered (actions ++ [a]) = delivered actions ++ a.config?.toList := by
  rw [delivered, delivered, List.filterMap_append]
  cases a <;> rfl

theorem follows_act {first : Config} {later : List Config} {t : Traffic}
    (h : Follows first later t.server) (a : Action) :
    Follows first (later ++ a.config?.toList) (t.act a).server := by
  cases a with
  | arrive request fresh =>
      show Follows first (later ++ []) t.server
      rw [List.append_nil]
      exact h
  | read place =>
      show Follows first (later ++ []) t.server
      rw [List.append_nil]
      exact h
  | reload c => exact h.reload c

/-- Every run follows the configuration that was accepted last, by induction on its last action. -/
theorem follows_run {c : Config} {server : Server} (h : Server.start c = .ok server)
    (actions : List Action) :
    Follows c (delivered actions) ((start server).run actions).server := by
  induction actions using List.reverseRecOn with
  | nil => exact follows_start h
  | append_singleton actions a ih =>
      rw [run_concat, delivered_concat]
      exact follows_act ih a

/-- A configuration that is refused changes nothing. -/
theorem act_reload_of_error {c : Config} {violation : Config.Violation}
    (h : Snapshot.ofConfig c = .error violation) (t : Traffic) :
    t.act (.reload c) = t ∧ (t.server.reload c).2.applied = false := by
  obtain ⟨hserver, happlied⟩ := Server.reload_of_error h t.server
  refine ⟨?_, happlied⟩
  show { t with server := (t.server.reload c).1 } = t
  rw [hserver]

/-! ## Requests on their way -/

/-- What the request at a place is answered with: the setup of the gateway, and filters that each
layer has read from the configuration that was accepted last at that moment. -/
structure AnsweredFrom (c : Config) (server : Server) (actions : List Action) (place : Nat)
    (r : InFlight) (filters : Snapshot) : Prop where
  outcome : ∀ behind, r.outcome? ((start server).run actions).server.setup behind =
    some (answer server.setup filters behind r.fresh r.request)
  read : ∃ reading, Readings (start server) actions place filters reading ∧
    ∀ layer, Snapshot.ofConfig (lastAccepted c (delivered (reading layer))) =
      .ok ((start server).run (reading layer)).server.live
  /-- While the last accepted configuration stays the same, all filters are its own. -/
  whole : (∀ past, IsMoment (start server) actions place past →
      lastAccepted c (delivered past) = lastAccepted c (delivered actions)) →
    Snapshot.ofConfig (lastAccepted c (delivered actions)) = .ok filters

theorem ofConfig_of_readings {c : Config} {server : Server} (h : Server.start c = .ok server)
    {actions : List Action} {place : Nat} {filters : Snapshot} {reading : Layer → List Action}
    (hreading : Readings (start server) actions place filters reading)
    (hsame : ∀ past, IsMoment (start server) actions place past →
      lastAccepted c (delivered past) = lastAccepted c (delivered actions)) :
    Snapshot.ofConfig (lastAccepted c (delivered actions)) = .ok filters := by
  have hnow := (follows_run h actions).live
  have hread : ∀ layer, ((start server).run (reading layer)).server.live =
      ((start server).run actions).server.live := by
    intro layer
    have hpast := (follows_run h (reading layer)).live
    rw [hsame _ (hreading.moment layer), hnow] at hpast
    exact (Except.ok.inj hpast).symm
  have hfilters : filters = ((start server).run actions).server.live := by
    refine Snapshot.eq_of_agree fun layer => ?_
    rw [← hread layer]
    exact hreading.agree layer
  rw [hfilters]
  exact hnow

theorem answeredFrom_run {c : Config} {server : Server} (h : Server.start c = .ok server)
    {actions : List Action} {place : Nat} {r : InFlight} {filters : Snapshot}
    (hr : ((start server).run actions).requests[place]? = some r)
    (hfilters : r.filters? server.setup = some filters) :
    AnsweredFrom c server actions place r filters := by
  have hsetup : ((start server).run actions).server.setup = server.setup :=
    Except.ok.inj ((follows_run h actions).setup.symm.trans (follows_start h).setup)
  obtain ⟨moments, hmoments⟩ := readAt_run server actions place r hr
  obtain ⟨reading, hreading⟩ := hmoments.exists_readings hfilters
  refine ⟨fun behind => ?_,
    ⟨reading, hreading, fun layer => (follows_run h (reading layer)).live⟩,
    ofConfig_of_readings h hreading⟩
  rw [hsetup, InFlight.outcome?, hfilters]
  rfl

/-! ## Every run -/

/-- **Hot reload.** A gateway that has started is handed any configurations among any requests.

It always has the filters of the configuration that was accepted last, all of them, and everything
else of the one that it started from; a refused configuration changes nothing, and neither does a
request. A request on its way is answered with the setup of the start and with filters that were
the last accepted ones when its layers read them. So two gateways whose first configurations agree in
what is fixed at the start, and whose last accepted ones agree in their filters, answer alike. -/
theorem answers_from_last_accepted {c : Config} {server : Server}
    (h : Server.start c = .ok server) (actions : List Action) :
    Follows c (delivered actions) ((start server).run actions).server ∧
      (∀ d violation, Snapshot.ofConfig d = .error violation →
        ((start server).run actions).act (.reload d) = (start server).run actions ∧
          (((start server).run actions).server.reload d).2.applied = false) ∧
      (∀ behind fresh request, Follows c (delivered actions)
        (((start server).run actions).server.request behind fresh request).1) ∧
      (∀ place r filters, ((start server).run actions).requests[place]? = some r →
        r.filters? server.setup = some filters →
          AnsweredFrom c server actions place r filters) ∧
      ∀ c' server' actions', Server.start c' = .ok server' → SameStart c c' →
        SameFilters (lastAccepted c (delivered actions)) (lastAccepted c' (delivered actions')) →
          ∀ behind fresh request,
            (((start server).run actions).server.request behind fresh request).2 =
              (((start server').run actions').server.request behind fresh request).2 := by
  have hfollows := follows_run h actions
  refine ⟨hfollows, fun d violation hd => act_reload_of_error hd _,
    fun behind fresh request => hfollows.request behind fresh request,
    fun place r filters hr hfilters => answeredFrom_run h hr hfilters, ?_⟩
  intro c' server' actions' h' hstart hfilters behind fresh request
  exact hfollows.outcome_eq (follows_run h' actions') hstart hfilters behind fresh request

/-- A configuration that no filters can be built from. -/
def misspelt : Config := { opener := { mode := "sometimes" }, content := { enabled := false } }

/-- A refused configuration behind an accepted one leaves the filters of the accepted one. -/
theorem live_after_refusal :
    ∃ server, Server.start unguarded = .ok server ∧
      Snapshot.ofConfig unrestricted =
        .ok ((start server).run [.reload unrestricted, .reload misspelt]).server.live := by
  obtain ⟨server, hserver⟩ : ∃ server, Server.start unguarded = .ok server :=
    exists_of_isSome (by decide +kernel)
  have hlast : lastAccepted unguarded (delivered [.reload unrestricted, .reload misspelt]) =
      unrestricted := by decide +kernel
  have hfollows :=
    (answers_from_last_accepted hserver [.reload unrestricted, .reload misspelt]).1
  exact ⟨server, hserver, hlast ▸ hfollows.live⟩

end Traffic

end IsolationGate.Gateway
