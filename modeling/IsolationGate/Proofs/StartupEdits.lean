import IsolationGate.Lifecycle.Program
import IsolationGate.Proofs.ValidConfig
import IsolationGate.Proofs.WatchLoop

/-!
# Edits while the program starts

The program reads its configuration file twice: the first text is the configuration that it runs
with, the second is the one that the loop tells changes from. Edits behind the second reading are
never lost. An edit between the two readings is: the loop takes it for the running configuration,
and no event brings it back, until the file holds some third valid text.

So every later edit is followed exactly when the second text, if it is a valid configuration, has
the filters of the first one.

## Main results

* `Program.Tracks.act` — whatever happens, the live filters keep following the remembered text.
* `Program.upToDate_forall_iff` — when no edit is lost, in terms of the two readings.
* `Program.stale_after_start` — a run in which the gateway does not follow its file.
-/

namespace IsolationGate.Lifecycle.Program

open Config (Violation)
open Gateway (Server Snapshot)

/-! ## Quiet states -/

/-- The program serves, the loop that watches has nothing to do and no update waits. -/
structure IsQuiet (p : Program) : Prop where
  serving : p.stage = .serving
  applied : p.updates = []
  settled : ∃ w, p.watch = some w ∧ w.isSettled = true

/-- If the file holds a valid configuration, its filters are the live ones. -/
def IsUpToDate (p : Program) : Prop :=
  ∀ text config, Watch.readable p.content = some text → Config.load text = .ok config →
    ∃ server, p.server = some server ∧ Snapshot.ofConfig config = .ok server.live

/-- The last edit of a run has an event: it is made while the file is watched. -/
def IsTold (around : Surroundings) (p : Program) (actions : List Action) : Prop :=
  ∃ past bytes rest, actions = past ++ .write bytes :: rest ∧
    (∀ other, Action.write other ∉ rest) ∧ (p.run around past).watch.isSome = true

/-! ## What changes nothing else -/

/-- Two states differ in their stage and their events at most. -/
structure SameState (p q : Program) : Prop where
  path : q.path = p.path
  content : q.content = p.content
  config : q.config = p.config
  watch : q.watch = p.watch
  server : q.server = p.server
  updates : q.updates = p.updates

theorem sameState_fail (p : Program) (error : StartError) : SameState p (p.fail error) :=
  ⟨rfl, rfl, rfl, rfl, rfl, rfl⟩

theorem sameState_announce (around : Surroundings) (p : Program) :
    SameState p (p.announce around) := by
  unfold announce
  dsimp only
  split
  · split <;> exact ⟨rfl, rfl, rfl, rfl, rfl, rfl⟩
  · exact ⟨rfl, rfl, rfl, rfl, rfl, rfl⟩

theorem stage_announce (around : Surroundings) (p : Program) :
    (p.announce around).stage = p.stage ∨ (p.announce around).stage = .ended := by
  unfold announce
  dsimp only
  split
  · split
    · exact .inl rfl
    · exact .inr rfl
  · exact .inl rfl

theorem sameState_spawn (p : Program) : SameState p p.spawn := ⟨rfl, rfl, rfl, rfl, rfl, rfl⟩

theorem sameState_listen (around : Surroundings) (p : Program) :
    SameState p (p.listen around) := by
  unfold listen
  dsimp only
  split
  · split <;> exact ⟨rfl, rfl, rfl, rfl, rfl, rfl⟩
  · split
    · exact ⟨rfl, rfl, rfl, rfl, rfl, rfl⟩
    · exact ⟨rfl, rfl, rfl, rfl, rfl, rfl⟩
    · split <;> exact ⟨rfl, rfl, rfl, rfl, rfl, rfl⟩

/-- Listening ends in serving or in an error. -/
theorem stage_listen (around : Surroundings) (p : Program) :
    (p.listen around).stage = .serving ∨ (p.listen around).stage = .ended := by
  unfold listen
  dsimp only
  split
  · split
    · exact .inl rfl
    · exact .inr rfl
  · split
    · exact .inr rfl
    · exact .inr rfl
    · split
      · exact .inl rfl
      · exact .inr rfl

/-- A gateway that is built has the filters of the configuration. -/
theorem build_cases (p : Program) :
    (∃ server, Snapshot.ofConfig p.config = .ok server.live ∧
        p.build = { p with stage := .built, server := some server }) ∨
      ∃ error, p.build = p.fail error := by
  unfold build
  cases hstart : Server.start p.config with
  | ok server => exact .inl ⟨server, (Server.ofConfig_of_start hstart).1, rfl⟩
  | error violation => exact .inr ⟨_, rfl⟩

/-! ## The live filters follow the remembered text -/

/-- The filters that are live once all updates have been applied. -/
def awaited (p : Program) : Except Violation Snapshot :=
  match p.updates.getLast?, p.server with
  | some update, _ => Snapshot.ofConfig update.config
  | none, some server => .ok server.live
  | none, none => Snapshot.ofConfig p.config

theorem awaited_congr {p q : Program} (hupdates : q.updates = p.updates)
    (hserver : q.server = p.server) (hconfig : q.config = p.config) : q.awaited = p.awaited := by
  rw [awaited, awaited, hupdates, hserver, hconfig]

theorem awaited_of_getLast? {p : Program} {update : Update}
    (h : p.updates.getLast? = some update) : p.awaited = Snapshot.ofConfig update.config := by
  rw [awaited, h]

theorem awaited_of_server {p : Program} {server : Server} (hupdates : p.updates = [])
    (hserver : p.server = some server) : p.awaited = .ok server.live := by
  rw [awaited, hupdates, hserver]
  rfl

/-- The text of the file is remembered, and nothing is lost from here on. -/
structure Tracks (p : Program) : Prop where
  started : p.stage ≠ .starting ∧ p.stage ≠ .loaded ∧ p.stage ≠ .registered
  unbuilt : p.stage = .remembering ∨ p.stage = .watching → p.server = none
  built : p.stage = .built ∨ p.stage = .serving → p.server.isSome = true
  covers : ∀ w, p.watch = some w → w.Covers p.content
  valid : ∀ update ∈ p.updates, Config.load update.text = .ok update.config
  follows : ∀ w text config, p.watch = some w → w.remembered = some text →
    Config.load text = .ok config → Snapshot.ofConfig config = p.awaited

/-- A quiet state in which nothing was lost is up to date. -/
theorem Tracks.isUpToDate {p : Program} (h : Tracks p) (hquiet : IsQuiet p) : IsUpToDate p := by
  intro text config hreadable hload
  obtain ⟨w, hw, hsettled⟩ := hquiet.settled
  have hremembered : w.remembered = some text :=
    (h.covers w hw).current hsettled text config hreadable hload
  obtain ⟨server, hserver⟩ := Option.isSome_iff_exists.1 (h.built (.inr hquiet.serving))
  refine ⟨server, hserver, ?_⟩
  rw [h.follows w text config hw hremembered hload, awaited_of_server hquiet.applied hserver]

/-- A change of the stage alone keeps the rest of the invariant. -/
theorem Tracks.of_sameState {p q : Program} (h : Tracks p) (hsame : SameState p q)
    (hstarted : q.stage ≠ .starting ∧ q.stage ≠ .loaded ∧ q.stage ≠ .registered)
    (hunbuilt : q.stage = .remembering ∨ q.stage = .watching → p.server = none)
    (hbuilt : q.stage = .built ∨ q.stage = .serving → p.server.isSome = true) : Tracks q where
  started := hstarted
  unbuilt := by
    rw [hsame.server]
    exact hunbuilt
  built := by
    rw [hsame.server]
    exact hbuilt
  covers := by
    rw [hsame.watch, hsame.content]
    exact h.covers
  valid := by
    rw [hsame.updates]
    exact h.valid
  follows := by
    rw [hsame.watch, awaited_congr hsame.updates hsame.server hsame.config]
    exact h.follows

/-- The next step of the start reads the file no more. -/
theorem Tracks.advance {p : Program} (h : Tracks p) (around : Surroundings) :
    Tracks (p.advance around) := by
  unfold Program.advance
  cases hstage : p.stage with
  | starting => exact absurd hstage h.started.1
  | loaded => exact absurd hstage h.started.2.1
  | registered => exact absurd hstage h.started.2.2
  | remembering =>
      exact h.of_sameState (sameState_spawn p) ⟨nofun, nofun, nofun⟩
        (fun _ => h.unbuilt (.inl hstage)) nofun
  | watching =>
      rcases p.build_cases with ⟨server, hserver, hbuild⟩ | ⟨error, hbuild⟩
      · dsimp only
        rw [hbuild]
        have hnone : p.server = none := h.unbuilt (.inr hstage)
        refine ⟨⟨nofun, nofun, nofun⟩, nofun, fun _ => rfl, h.covers, h.valid, ?_⟩
        intro w text config hw hremembered hload
        rw [h.follows w text config hw hremembered hload]
        cases hlast : p.updates.getLast? with
        | none =>
            have hempty : p.updates = [] := List.getLast?_eq_none_iff.1 hlast
            have hbefore : p.awaited = .ok server.live := by
              rw [awaited, hempty, hnone]
              exact hserver
            rw [hbefore]
            symm
            exact awaited_of_server hempty rfl
        | some update =>
            rw [awaited_of_getLast? hlast]
            symm
            exact awaited_of_getLast? hlast
      · dsimp only
        rw [hbuild]
        exact h.of_sameState (sameState_fail p error) ⟨nofun, nofun, nofun⟩ nofun nofun
  | built =>
      have hsome := h.built (.inl hstage)
      rcases stage_listen around p with hlisten | hlisten
      · refine h.of_sameState (sameState_listen around p) ?_ ?_ fun _ => hsome
        · dsimp only
          rw [hlisten]
          exact ⟨nofun, nofun, nofun⟩
        · dsimp only
          rw [hlisten]
          exact nofun
      · refine h.of_sameState (sameState_listen around p) ?_ ?_ fun _ => hsome
        · dsimp only
          rw [hlisten]
          exact ⟨nofun, nofun, nofun⟩
        · dsimp only
          rw [hlisten]
          exact nofun
  | serving => exact h
  | ended => exact h

/-- What the loop sends is awaited from then on, and its text is remembered. -/
theorem Tracks.watchStep {p : Program} (h : Tracks p) : Tracks p.watchStep := by
  unfold Program.watchStep
  cases hwatch : p.watch with
  | none => exact h
  | some w =>
      dsimp only
      split
      · have hcovers : (w.advance p.content).watch.Covers p.content := (h.covers w hwatch).advance
        rcases w.advance_cases p.content with
          ⟨hnone, hsame⟩ | ⟨held, update, -, hnews, hsome, htext⟩
        · rw [hnone]
          refine ⟨h.started, h.unbuilt, h.built, ?_, ?_, ?_⟩
          · intro w' hw'
            rw [← Option.some.inj hw']
            exact hcovers
          · show ∀ update ∈ p.updates ++ [], _
            rw [List.append_nil]
            exact h.valid
          · intro w' text config hw' hremembered hload
            rw [← Option.some.inj hw', hsame] at hremembered
            rw [h.follows w text config hwatch hremembered hload]
            symm
            exact awaited_congr (List.append_nil p.updates) rfl rfl
        · rw [hsome]
          refine ⟨h.started, h.unbuilt, h.built, ?_, ?_, ?_⟩
          · intro w' hw'
            rw [← Option.some.inj hw']
            exact hcovers
          · intro other hother
            rcases List.mem_append.1 hother with hbefore | hlast
            · exact h.valid other hbefore
            · rw [List.mem_singleton.1 hlast]
              exact hnews.accepted
          · intro w' text config hw' hremembered hload
            rw [← Option.some.inj hw', htext] at hremembered
            rw [← Option.some.inj hremembered, hnews.accepted] at hload
            rw [← Except.ok.inj hload]
            symm
            exact awaited_of_getLast? List.getLast?_concat
      · exact h

/-- Applying an update makes live what was awaited: the filters of a valid configuration. -/
theorem Tracks.applyUpdate {p : Program} (h : Tracks p) : Tracks p.applyUpdate := by
  unfold Program.applyUpdate
  cases hserver : p.server with
  | none => exact h
  | some server =>
      cases hupdates : p.updates with
      | nil => exact h
      | cons update rest =>
          dsimp only
          split
          · next hserving =>
              have hvalid : Config.load update.text = .ok update.config :=
                h.valid update (by rw [hupdates]; exact List.mem_cons_self)
              obtain ⟨snapshot, hsnapshot⟩ := Config.exists_ofConfig_of_load hvalid
              have hlive : (server.reload update.config).1.live = snapshot := by
                rw [Server.reload, hsnapshot]
              refine ⟨h.started, ?_, fun _ => rfl, h.covers, ?_, ?_⟩
              · rintro (hstage | hstage)
                · cases hserving.symm.trans hstage
                · cases hserving.symm.trans hstage
              · intro other hother
                exact h.valid other (by rw [hupdates]; exact List.mem_cons_of_mem update hother)
              · intro w text config hw hremembered hload
                rw [h.follows w text config hw hremembered hload]
                cases rest with
                | nil =>
                    have hlast : p.updates.getLast? = some update := by rw [hupdates]; rfl
                    rw [awaited_of_getLast? hlast, awaited_of_server rfl rfl, hlive]
                    exact hsnapshot
                | cons next more =>
                    obtain ⟨last, hlast⟩ : ∃ last, (next :: more).getLast? = some last :=
                      ⟨_, List.getLast?_cons⟩
                    have hbefore : p.updates.getLast? = some last := by
                      rw [hupdates, List.getLast?_cons_cons]
                      exact hlast
                    rw [awaited_of_getLast? hbefore, awaited_of_getLast? hlast]
          · exact h

/-- **Whatever happens behind the second reading, nothing is lost.** -/
theorem Tracks.act {p : Program} (h : Tracks p) (around : Surroundings) (a : Action) :
    Tracks (p.act around a) := by
  cases a with
  | write bytes =>
      refine ⟨h.started, h.unbuilt, h.built, ?_, h.valid, ?_⟩
      · intro w hw
        obtain ⟨before, -, rfl⟩ := Option.map_eq_some_iff.1 hw
        exact Watch.covers_noteChange before (some bytes)
      · intro w text config hw hremembered hload
        obtain ⟨before, hbefore, rfl⟩ := Option.map_eq_some_iff.1 hw
        exact h.follows before text config hbefore hremembered hload
  | remove =>
      exact ⟨h.started, h.unbuilt, h.built, fun w hw => (h.covers w hw).remove, h.valid, h.follows⟩
  | deliver =>
      refine ⟨h.started, h.unbuilt, h.built, ?_, h.valid, ?_⟩
      · intro w hw
        obtain ⟨before, hbefore, rfl⟩ := Option.map_eq_some_iff.1 hw
        exact (h.covers before hbefore).deliver
      · intro w text config hw hremembered hload
        obtain ⟨before, hbefore, rfl⟩ := Option.map_eq_some_iff.1 hw
        rw [Watch.remembered_deliver] at hremembered
        exact h.follows before text config hbefore hremembered hload
  | start => exact h.advance around
  | watch => exact h.watchStep
  | update => exact h.applyUpdate
  | signal =>
      show Tracks p.stop
      unfold stop
      split
      · exact h.of_sameState ⟨rfl, rfl, rfl, rfl, rfl, rfl⟩ ⟨nofun, nofun, nofun⟩ nofun nofun
      · exact h

theorem Tracks.run {p : Program} (h : Tracks p) (around : Surroundings) (actions : List Action) :
    Tracks (p.run around actions) := by
  induction actions generalizing p with
  | nil => exact h
  | cons a rest ih => exact ih (h.act around a)

/-! ## The two readings of the file -/

/-- The configuration is the one that the file held at a moment of the run. -/
structure IsLoaded (around : Surroundings) (origin : Program) (actions loading : List Action)
    (config : Config) : Prop where
  within : loading <+: actions
  loads : Config.loadFile (origin.run around loading).content = .ok config

/-- The text that the loop remembers is the one that the file held at a later moment. -/
structure IsRemembered (around : Surroundings) (origin : Program)
    (actions loading remembering : List Action) (w : Watch) : Prop where
  within : remembering <+: actions
  later : loading <+: remembering
  remembers : w.remembered = Watch.readable (origin.run around remembering).content

/-- There is no gateway yet, and no update. -/
def IsFresh (p : Program) : Prop := p.server = none ∧ p.updates = []

/-- What the program has read so far, until the loop that watches starts. -/
def HasRead (around : Surroundings) (origin : Program) (actions : List Action) (p : Program) :
    Prop :=
  match p.stage with
  | .starting => IsFresh p ∧ p.watch = none
  | .loaded => IsFresh p ∧ p.watch = none ∧
      (p.path.isSome = true → ∃ loading, IsLoaded around origin actions loading p.config)
  | .registered => IsFresh p ∧ (∃ w, p.watch = some w ∧ w.phase = .waiting) ∧
      ∃ loading, IsLoaded around origin actions loading p.config
  | .remembering => IsFresh p ∧ ∃ w, p.watch = some w ∧ w.phase = .waiting ∧
      w.Covers p.content ∧ ∃ loading remembering,
        IsLoaded around origin actions loading p.config ∧
        IsRemembered around origin actions loading remembering w
  | _ => True

theorem run_concat (around : Surroundings) (p : Program) (actions : List Action) (a : Action) :
    p.run around (actions ++ [a]) = (p.run around actions).act around a := by
  rw [run, run, List.foldl_append, List.foldl_cons, List.foldl_nil]

theorem IsLoaded.concat {around : Surroundings} {origin : Program} {actions loading : List Action}
    {config : Config} (h : IsLoaded around origin actions loading config) (a : Action) :
    IsLoaded around origin (actions ++ [a]) loading config :=
  ⟨h.within.trans (List.prefix_append actions [a]), h.loads⟩

theorem IsRemembered.concat {around : Surroundings} {origin : Program}
    {actions loading remembering : List Action} {w w' : Watch}
    (h : IsRemembered around origin actions loading remembering w) (a : Action)
    (hsame : w'.remembered = w.remembered) :
    IsRemembered around origin (actions ++ [a]) loading remembering w' :=
  ⟨h.within.trans (List.prefix_append actions [a]), h.later, hsame.trans h.remembers⟩

theorem HasRead.of_stage {around : Surroundings} {origin p : Program} {actions : List Action}
    (h : p.stage = .watching ∨ p.stage = .built ∨ p.stage = .serving ∨ p.stage = .ended) :
    HasRead around origin actions p := by
  unfold HasRead
  rcases h with h | h | h | h <;> rw [h] <;> trivial

/-- What happens to the file and to its events leaves what has been read. -/
theorem HasRead.happen {around : Surroundings} {origin p : Program} {actions : List Action}
    (h : HasRead around origin actions p) (a : Action) (content : FileContent)
    (change : Watch → Watch) (hphase : ∀ w, (change w).phase = w.phase)
    (hremembered : ∀ w, (change w).remembered = w.remembered)
    (hcovers : ∀ w, w.Covers p.content → (change w).Covers content) :
    HasRead around origin (actions ++ [a])
      { p with content := content, watch := p.watch.map change } := by
  unfold HasRead at h ⊢
  dsimp only
  cases hstage : p.stage with
  | starting =>
      rw [hstage] at h
      obtain ⟨hfresh, hwatch⟩ := h
      exact ⟨hfresh, by rw [hwatch]; rfl⟩
  | loaded =>
      rw [hstage] at h
      obtain ⟨hfresh, hwatch, hloaded⟩ := h
      refine ⟨hfresh, by rw [hwatch]; rfl, fun hpath => ?_⟩
      obtain ⟨loading, hloading⟩ := hloaded hpath
      exact ⟨loading, hloading.concat a⟩
  | registered =>
      rw [hstage] at h
      obtain ⟨hfresh, ⟨w, hwatch, hwaiting⟩, loading, hloading⟩ := h
      refine ⟨hfresh, ⟨change w, by rw [hwatch]; rfl, ?_⟩, loading, hloading.concat a⟩
      rw [hphase, hwaiting]
  | remembering =>
      rw [hstage] at h
      obtain ⟨hfresh, w, hwatch, hwaiting, hcovered, loading, remembering, hloading, hrem⟩ := h
      refine ⟨hfresh, change w, by rw [hwatch]; rfl, ?_, hcovers w hcovered, loading, remembering,
        hloading.concat a, hrem.concat a (hremembered w)⟩
      rw [hphase, hwaiting]
  | watching => trivial
  | built => trivial
  | serving => trivial
  | ended => trivial

theorem HasRead.keep {around : Surroundings} {origin p : Program} {actions : List Action}
    (h : HasRead around origin actions p) (a : Action) :
    HasRead around origin (actions ++ [a]) p := by
  have hkept := h.happen a p.content id (fun _ => rfl) (fun _ => rfl) fun _ hw => hw
  rw [Option.map_id, id] at hkept
  exact hkept

/-- Each step of the start reads what it should. -/
theorem HasRead.advance {around : Surroundings} {origin : Program} {actions : List Action}
    (h : HasRead around origin actions (origin.run around actions)) :
    HasRead around origin (actions ++ [.start])
      ((origin.run around actions).advance around) := by
  have hnow : ∀ {config}, Config.loadFile (origin.run around actions).content = .ok config →
      IsLoaded around origin (actions ++ [.start]) actions config := fun hload =>
    ⟨List.prefix_append actions [.start], hload⟩
  generalize hp : origin.run around actions = p at h hnow ⊢
  unfold Program.advance
  cases hstage : p.stage with
  | starting =>
      unfold HasRead at h
      rw [hstage] at h
      obtain ⟨hfresh, hwatch⟩ := h
      dsimp only
      cases hload : (if p.path.isSome then Config.loadFile p.content else .ok {}) with
      | error error =>
          rw [load, hload]
          exact HasRead.of_stage (.inr (.inr (.inr rfl)))
      | ok config =>
          rw [load, hload]
          dsimp only
          rw [if_pos rfl]
          have hsame := sameState_announce around { p with stage := .loaded, config := config }
          rcases stage_announce around { p with stage := .loaded, config := config } with
            hkept | hended
          · unfold HasRead
            rw [hkept, hsame.watch, hsame.path, hsame.config, IsFresh, hsame.server, hsame.updates]
            refine ⟨hfresh, hwatch, fun hpath => ⟨actions, hnow ?_⟩⟩
            dsimp only at hpath
            rw [if_pos hpath] at hload
            exact hload
          · exact HasRead.of_stage (.inr (.inr (.inr hended)))
  | loaded =>
      unfold HasRead at h
      rw [hstage] at h
      obtain ⟨hfresh, -, hloaded⟩ := h
      dsimp only
      cases hpath : p.path with
      | none =>
          rw [register, hpath]
          exact HasRead.of_stage (.inl rfl)
      | some path =>
          rw [register, hpath]
          dsimp only
          split
          · obtain ⟨loading, hloading⟩ := hloaded (by rw [hpath]; rfl)
            exact ⟨hfresh, ⟨_, rfl, rfl⟩, loading, hloading.concat .start⟩
          · exact HasRead.of_stage (.inl rfl)
  | registered =>
      unfold HasRead at h
      rw [hstage] at h
      obtain ⟨hfresh, ⟨w, hwatch, hwaiting⟩, loading, hloading⟩ := h
      have hremember : p.remember =
          { p with
            stage := .remembering
            watch := some { w with remembered := Watch.readable p.content } } := by
        rw [remember, hwatch]
        rfl
      dsimp only
      rw [hremember]
      refine ⟨hfresh, _, rfl, hwaiting, Watch.covers_of_remembered hwaiting rfl, loading, actions,
        hloading.concat .start, List.prefix_append actions [.start], hloading.within, ?_⟩
      rw [hp]
  | remembering => exact HasRead.of_stage (.inl rfl)
  | watching =>
      dsimp only
      rcases p.build_cases with ⟨server, -, hbuild⟩ | ⟨error, hbuild⟩
      · rw [hbuild]
        exact HasRead.of_stage (.inr (.inl rfl))
      · rw [hbuild]
        exact HasRead.of_stage (.inr (.inr (.inr rfl)))
  | built =>
      rcases stage_listen around p with hserving | hended
      · exact HasRead.of_stage (.inr (.inr (.inl hserving)))
      · exact HasRead.of_stage (.inr (.inr (.inr hended)))
  | serving => exact HasRead.of_stage (.inr (.inr (.inl hstage)))
  | ended => exact HasRead.of_stage (.inr (.inr (.inr hstage)))

theorem HasRead.act {around : Surroundings} {origin : Program} {actions : List Action}
    (h : HasRead around origin actions (origin.run around actions)) (a : Action) :
    HasRead around origin (actions ++ [a]) ((origin.run around actions).act around a) := by
  cases a with
  | write bytes =>
      exact h.happen (.write bytes) (some bytes) Watch.noteChange (fun _ => rfl) (fun _ => rfl)
        fun w _ => Watch.covers_noteChange w (some bytes)
  | remove =>
      have hremoved := h.happen .remove none id (fun _ => rfl) (fun _ => rfl) fun _ hw => hw.remove
      rw [Option.map_id, id] at hremoved
      exact hremoved
  | deliver =>
      exact h.happen .deliver _ Watch.deliver Watch.phase_deliver Watch.remembered_deliver
        fun _ hw => hw.deliver
  | start => exact h.advance
  | watch =>
      generalize origin.run around actions = p at h
      show HasRead around origin (actions ++ [.watch]) p.watchStep
      unfold Program.watchStep
      split
      · split
        · next hwatching =>
            simp only [isWatching, Bool.or_eq_true, beq_iff_eq] at hwatching
            rcases hwatching with (hstage | hstage) | hstage
            · exact HasRead.of_stage (.inl hstage)
            · exact HasRead.of_stage (.inr (.inl hstage))
            · exact HasRead.of_stage (.inr (.inr (.inl hstage)))
        · exact h.keep .watch
      · exact h.keep .watch
  | update =>
      generalize origin.run around actions = p at h
      show HasRead around origin (actions ++ [.update]) p.applyUpdate
      unfold Program.applyUpdate
      split
      · split
        · next hserving => exact HasRead.of_stage (.inr (.inr (.inl hserving)))
        · exact h.keep .update
      · exact h.keep .update
  | signal =>
      generalize origin.run around actions = p at h
      show HasRead around origin (actions ++ [.signal]) p.stop
      unfold stop
      split
      · exact HasRead.of_stage (.inr (.inr (.inr rfl)))
      · exact h.keep .signal

/-- What has been read after every run, by induction on its last action. -/
theorem hasRead_run (around : Surroundings) (path : Option String) (content : FileContent)
    (actions : List Action) :
    HasRead around (start path content) actions ((start path content).run around actions) := by
  induction actions using List.reverseRecOn with
  | nil => exact ⟨⟨rfl, rfl⟩, rfl⟩
  | append_singleton actions a ih =>
      rw [run_concat]
      exact ih.act a

/-! ## Which edits are lost -/

/-- From the second reading on nothing is lost, if both texts have the same filters. -/
theorem tracks_of_hasRead {around : Surroundings} {origin p : Program} {actions : List Action}
    (h : HasRead around origin actions p) (hstage : p.stage = .remembering)
    (hagree : ∀ w text config, p.watch = some w → w.remembered = some text →
      Config.load text = .ok config → Snapshot.ofConfig config = Snapshot.ofConfig p.config) :
    Tracks p := by
  unfold HasRead at h
  rw [hstage] at h
  obtain ⟨⟨hserver, hupdates⟩, w, hwatch, -, hcovers, -⟩ := h
  refine ⟨?_, fun _ => hserver, ?_, ?_, ?_, ?_⟩
  · rw [hstage]
    exact ⟨nofun, nofun, nofun⟩
  · rw [hstage]
    exact nofun
  · intro w' hw'
    rw [hwatch] at hw'
    rw [← Option.some.inj hw']
    exact hcovers
  · rw [hupdates]
    intro update hupdate
    exact absurd hupdate List.not_mem_nil
  · intro w' text config hw' hremembered hload
    rw [hagree w' text config hw' hremembered hload, awaited, hupdates, hserver]
    rfl

/-- The rest of the start, if it succeeds, touches neither the loop nor the updates. -/
theorem served {around : Surroundings} {p : Program} (hstage : p.stage = .remembering)
    (hserves : (p.run around [.start, .start, .start]).stage = .serving) :
    (p.run around [.start, .start, .start]).watch = p.watch ∧
      (p.run around [.start, .start, .start]).updates = p.updates ∧
      ∃ server, (p.run around [.start, .start, .start]).server = some server ∧
        Snapshot.ofConfig p.config = .ok server.live := by
  have hspawn : p.advance around = p.spawn := by
    unfold Program.advance
    rw [hstage]
  have hrun : p.run around [.start, .start, .start] =
      ((p.spawn).build.advance around) := by
    show ((p.advance around).advance around).advance around = _
    rw [hspawn]
    rfl
  rw [hrun] at hserves ⊢
  rcases p.spawn.build_cases with ⟨server, hserver, hbuild⟩ | ⟨error, hbuild⟩
  · rw [hbuild]
    have hsame := sameState_listen around { p.spawn with stage := .built, server := some server }
    exact ⟨hsame.watch, hsame.updates, server, hsame.server, hserver⟩
  · rw [hbuild] at hserves
    exact nomatch (show Stage.ended = .serving from hserves)

/-- Every event of a change that was on its way is queued. -/
theorem run_deliver (around : Surroundings) (k : Nat) {p : Program} {w : Watch}
    (hwatch : p.watch = some w) (hcount : w.undelivered = k) :
    p.run around (List.replicate k .deliver) =
      { p with watch := some { w with undelivered := 0, queued := w.queued + k } } := by
  induction k generalizing p w with
  | zero =>
      have hsame : ({ w with undelivered := 0, queued := w.queued + 0 } : Watch) = w := by
        rw [Nat.add_zero, ← hcount]
      rw [hsame, ← hwatch]
      rfl
  | succ k ih =>
      have hdeliver : w.deliver = { w with undelivered := k, queued := w.queued + 1 } := by
        rw [Watch.deliver, if_neg (by omega), hcount]
        rfl
      have hact : p.act around .deliver =
          { p with watch := some { w with undelivered := k, queued := w.queued + 1 } } := by
        show { p with watch := p.watch.map Watch.deliver } = _
        rw [hwatch, Option.map_some, hdeliver]
      show (p.act around .deliver).run around (List.replicate k .deliver) = _
      rw [hact, ih rfl rfl, Nat.add_assoc, Nat.add_comm 1 k]

/-- A step of the loop that sends nothing. -/
theorem watchStep_of_update_eq_none {p : Program} {w : Watch} (hwatch : p.watch = some w)
    (hwatching : p.isWatching = true) (hnone : (w.advance p.content).update = none) :
    ∃ events, p.watchStep =
      { p with watch := some (w.advance p.content).watch, events := events } := by
  refine ⟨p.events ++ (w.advance p.content).events, ?_⟩
  unfold Program.watchStep
  rw [hwatch]
  dsimp only
  rw [if_pos hwatching, hnone, Option.toList_none, List.append_nil]
  rfl

/-- The loop deals with events of a file that holds what the loop remembers. -/
theorem run_watch_of_remembered (around : Surroundings) {p : Program} {w : Watch} {text : String}
    (hwatching : p.isWatching = true) (hwatch : p.watch = some w) (hwaiting : w.phase = .waiting)
    (hqueued : 0 < w.queued) (hremembered : w.remembered = some text)
    (hreadable : Watch.readable p.content = some text) :
    ∃ events, p.run around (List.replicate 4 .watch) =
      { p with watch := some { w with queued := 0, phase := .waiting }, events := events } := by
  have htake : w.advance p.content =
      { watch := { w with queued := w.queued - 1, phase := .woken } } := by
    rw [Watch.advance, hwaiting]
    dsimp only
    rw [if_neg (by omega)]
  obtain ⟨taken, hfirst⟩ := watchStep_of_update_eq_none hwatch hwatching (by rw [htake])
  rw [htake] at hfirst
  obtain ⟨drained, hsecond⟩ := watchStep_of_update_eq_none
    (p := { p with
      watch := some { w with queued := w.queued - 1, phase := .woken }, events := taken })
    rfl hwatching rfl
  obtain ⟨read, hthird⟩ := watchStep_of_update_eq_none
    (p := { p with watch := some { w with queued := 0, phase := .drained }, events := drained })
    rfl hwatching rfl
  -- What the loop has read is what it remembers, so it concludes nothing from it.
  let holding : Watch := { w with queued := 0, phase := .holding p.content }
  have hnews : ∀ update, ¬ holding.IsNews p.content update := fun update hnews =>
    hnews.changed (hremembered.trans (hreadable.symm.trans hnews.readable))
  obtain ⟨hnone, hconclude⟩ : (holding.conclude p.content).update = none ∧
      (holding.conclude p.content).watch = { holding with phase := .waiting } := by
    rcases holding.conclude_cases p.content with ⟨update, hupdate, -⟩ | ⟨-, hkept⟩
    · exact absurd hupdate (hnews update)
    · exact hkept
  obtain ⟨concluded, hfourth⟩ := watchStep_of_update_eq_none
    (p := { p with watch := some holding, events := read }) rfl hwatching hnone
  refine ⟨concluded, ?_⟩
  show p.watchStep.watchStep.watchStep.watchStep = _
  rw [hfirst, hsecond]
  show Program.watchStep (Program.watchStep
    { p with watch := some { w with queued := 0, phase := .drained }, events := drained }) = _
  rw [hthird]
  show Program.watchStep { p with watch := some holding, events := read } = _
  rw [hfourth]
  show { p with watch := some (holding.conclude p.content).watch, events := concluded } = _
  rw [hconclude]

/-- The file is written once more with the text that the loop remembers, and the loop deals with all
events. -/
def rewriting (text : String) (w : Watch) : List Action :=
  .write (Text.bytesOf text) ::
    (List.replicate (w.undelivered + 1) .deliver ++ List.replicate 4 .watch)

theorem run_append (around : Surroundings) (p : Program) (a b : List Action) :
    p.run around (a ++ b) = (p.run around a).run around b := by
  rw [run, run, run, List.foldl_append]

theorem readable_bytesOf (text : String) :
    Watch.readable (some (Text.bytesOf text)) = some text := by
  rw [Watch.readable_eq_some_iff, Config.readFile, Text.decode?_bytesOf]

/-- A text that is written again changes nothing in a gateway that serves. -/
theorem run_rewriting (around : Surroundings) {p : Program} {w : Watch} {text : String}
    (hserving : p.stage = .serving) (hwatch : p.watch = some w) (hwaiting : w.phase = .waiting)
    (hremembered : w.remembered = some text) :
    ∃ w' events, w'.isSettled = true ∧ p.run around (rewriting text w) =
      { p with content := some (Text.bytesOf text), watch := some w', events := events } := by
  let written : Program :=
    { p with content := some (Text.bytesOf text), watch := some w.noteChange }
  have hwrite : p.act around (.write (Text.bytesOf text)) = written := by
    show { p with content := some (Text.bytesOf text), watch := p.watch.map Watch.noteChange } = _
    rw [hwatch]
    rfl
  let delivered : Watch :=
    { w with undelivered := 0, queued := w.queued + (w.undelivered + 1) }
  have hdeliver : written.run around (List.replicate (w.undelivered + 1) .deliver) =
      { written with watch := some delivered } :=
    run_deliver around (w.undelivered + 1) (p := written) (w := w.noteChange) rfl rfl
  have hqueued : 0 < delivered.queued := by
    show 0 < w.queued + (w.undelivered + 1)
    omega
  have hwatching : ({ written with watch := some delivered } : Program).isWatching = true := by
    show (p.stage == .watching || p.stage == .built || p.stage == .serving) = true
    rw [hserving]
    rfl
  obtain ⟨events, hevents⟩ := run_watch_of_remembered around hwatching rfl hwaiting hqueued
    hremembered (readable_bytesOf text)
  refine ⟨{ delivered with queued := 0, phase := .waiting }, events, rfl, ?_⟩
  show (p.act around (.write (Text.bytesOf text))).run around _ = _
  rw [hwrite, run_append, hdeliver, hevents]

/-- **Which edits are lost.** The program has read its file twice: once for its configuration and
once for the text that changes are told from. If it gets to serve, every quiet state that may follow
is up to date, whatever happens in between, exactly when the second text has the filters of the
first or is no valid configuration. -/
theorem upToDate_forall_iff (around : Surroundings) (path : Option String) (content : FileContent)
    (before : List Action)
    (hstage : ((start path content).run around before).stage = .remembering)
    (hserves : (((start path content).run around before).run around
      [.start, .start, .start]).stage = .serving) :
    ∃ loading remembering w,
      IsLoaded around (start path content) before loading
        ((start path content).run around before).config ∧
      ((start path content).run around before).watch = some w ∧
      IsRemembered around (start path content) before loading remembering w ∧
      ((∀ after, IsTold around (start path content) (before ++ after) →
          IsQuiet ((start path content).run around (before ++ after)) →
          IsUpToDate ((start path content).run around (before ++ after))) ↔
        ∀ text config,
          Watch.readable ((start path content).run around remembering).content = some text →
          Config.load text = .ok config → Snapshot.ofConfig config =
            Snapshot.ofConfig ((start path content).run around before).config) := by
  have hread := hasRead_run around path content before
  have hopened := hread
  unfold HasRead at hopened
  rw [hstage] at hopened
  obtain ⟨⟨-, hupdates⟩, w, hwatch, hwaiting, -, loading, remembering, hloading, hrem⟩ := hopened
  refine ⟨loading, remembering, w, hloading, hwatch, hrem, ?_, ?_⟩
  · intro hall text config hreadable hload
    have hremembered : w.remembered = some text := hrem.remembers.trans hreadable
    obtain ⟨hwatch', hupdates', server, hserver, hlive⟩ := served hstage hserves
    rw [hwatch] at hwatch'
    rw [hupdates] at hupdates'
    generalize hq : ((start path content).run around before).run around
      [.start, .start, .start] = q at hserves hwatch' hupdates' hserver
    obtain ⟨w', events, hsettled, hrun⟩ :=
      run_rewriting around hserves hwatch' hwaiting hremembered
    have hfinal : (start path content).run around
        (before ++ ([.start, .start, .start] ++ rewriting text w)) =
          { q with content := some (Text.bytesOf text), watch := some w', events := events } := by
      rw [run_append, run_append, hq, hrun]
    have htold : IsTold around (start path content)
        (before ++ ([.start, .start, .start] ++ rewriting text w)) := by
      refine ⟨before ++ [.start, .start, .start], Text.bytesOf text,
        List.replicate (w.undelivered + 1) .deliver ++ List.replicate 4 .watch, ?_, ?_, ?_⟩
      · rw [rewriting, List.append_assoc]
      · intro other hother
        simp only [List.mem_append, List.mem_replicate, reduceCtorEq, and_false, or_self] at hother
      · rw [run_append, hq, hwatch']
        rfl
    have hquiet := hall _ htold (by rw [hfinal]; exact ⟨hserves, hupdates', w', rfl, hsettled⟩)
    rw [hfinal] at hquiet
    obtain ⟨server', hserver', hlive'⟩ := hquiet text config (readable_bytesOf text) hload
    have hsame : server' = server := Option.some.inj (hserver'.symm.trans hserver)
    rw [hlive', hlive, hsame]
  · intro hagree after _ hquiet
    have htracks : Tracks ((start path content).run around before) := by
      refine tracks_of_hasRead hread hstage fun w' text config hw' hremembered hload => ?_
      have hsame : w = w' := Option.some.inj (hwatch.symm.trans hw')
      exact hagree text config (hrem.remembers.symm.trans (hsame ▸ hremembered)) hload
    rw [run_append] at hquiet ⊢
    exact (htracks.run around after).isUpToDate hquiet

/-- Surroundings in which every start succeeds. -/
def calm : Surroundings where
  listen := .ok
  serveMetrics := fun _ => .ok ()
  certificates := ⟨fun _ => true, fun _ => true⟩

/-- The text of a configuration without a content policy. -/
def unrestrictedText : String := "[csp]\nenabled = false\n"

/-- The program over an empty configuration file. -/
def overEmptyFile : Program := start (some "gate.toml") (some [])

/-- The file is edited once the program serves, and the program deals with the event. -/
def editedLater : List Action :=
  [.start, .start, .start, .write (Text.bytesOf unrestrictedText), .deliver, .watch, .watch, .watch,
    .watch, .update]

/-- Nobody edits the file between its two readings, so the later edit is followed. -/
theorem upToDate_after_edit :
    IsQuiet (overEmptyFile.run calm ([.start, .start, .start] ++ editedLater)) ∧
      IsUpToDate (overEmptyFile.run calm ([.start, .start, .start] ++ editedLater)) := by
  obtain ⟨hstage, hupdates, hsettled⟩ :
      (overEmptyFile.run calm ([.start, .start, .start] ++ editedLater)).stage = .serving ∧
        (overEmptyFile.run calm ([.start, .start, .start] ++ editedLater)).updates = [] ∧
        (overEmptyFile.run calm ([.start, .start, .start] ++ editedLater)).watch.map
          Watch.isSettled = some true := by decide +kernel
  obtain ⟨hremembered, hloaded⟩ :
      (overEmptyFile.run calm [.start, .start, .start]).watch.map (fun w => w.remembered) =
          some (some "") ∧
        (Config.load "").toOption =
          some (overEmptyFile.run calm [.start, .start, .start]).config := by decide +kernel
  obtain ⟨w', hw', hwsettled⟩ := Option.map_eq_some_iff.1 hsettled
  have hquiet : IsQuiet (overEmptyFile.run calm ([.start, .start, .start] ++ editedLater)) :=
    ⟨hstage, hupdates, w', hw', hwsettled⟩
  obtain ⟨loading, remembering, w, -, hw, hrem, hiff⟩ := upToDate_forall_iff calm
    (some "gate.toml") (some []) [.start, .start, .start] (by decide +kernel) (by decide +kernel)
  refine ⟨hquiet, hiff.2 (fun text config hreadable hload => ?_) editedLater ?_ hquiet⟩
  · have htext : some "" = some text := by
      rw [overEmptyFile, hw] at hremembered
      rw [← hreadable, ← hrem.remembers]
      exact (Option.some.inj hremembered).symm
    rw [← Option.some.inj htext] at hload
    rw [hload] at hloaded
    exact congrArg Snapshot.ofConfig (Option.some.inj hloaded)
  · refine ⟨[.start, .start, .start, .start, .start, .start], Text.bytesOf unrestrictedText,
      [.deliver, .watch, .watch, .watch, .watch, .update], rfl, ?_, ?_⟩
    · simp
    · decide +kernel

/-- The file is edited between its two readings, and the program deals with the event. -/
def editedBetween : List Action :=
  [.start, .start, .write (Text.bytesOf unrestrictedText), .start, .start, .start, .start, .deliver,
    .watch, .watch, .watch, .watch]

/-- The loop has dealt with the edit, and the content policy that it switches off is still live. -/
theorem stale_after_start :
    IsTold calm overEmptyFile editedBetween ∧
      IsQuiet (overEmptyFile.run calm editedBetween) ∧
      ¬ IsUpToDate (overEmptyFile.run calm editedBetween) := by
  obtain ⟨hstage, hupdates, hsettled, hreadable, hlive⟩ :
      (overEmptyFile.run calm editedBetween).stage = .serving ∧
        (overEmptyFile.run calm editedBetween).updates = [] ∧
        (overEmptyFile.run calm editedBetween).watch.map Watch.isSettled = some true ∧
        Watch.readable (overEmptyFile.run calm editedBetween).content = some unrestrictedText ∧
        (overEmptyFile.run calm editedBetween).server.map (fun s => s.live.content.isSome) =
          some true := by decide +kernel
  have hload : (Config.load unrestrictedText).toOption.map (fun c => c.content.enabled) =
      some false := by decide +kernel
  refine ⟨?_, ?_, fun huptodate => ?_⟩
  · refine ⟨[.start, .start], Text.bytesOf unrestrictedText,
      [.start, .start, .start, .start, .deliver, .watch, .watch, .watch, .watch], rfl, ?_, ?_⟩
    · simp
    · decide +kernel
  · obtain ⟨w, hw, hwsettled⟩ := Option.map_eq_some_iff.1 hsettled
    exact ⟨hstage, hupdates, w, hw, hwsettled⟩
  · cases hconfig : Config.load unrestrictedText with
    | error error =>
        rw [hconfig] at hload
        cases hload
    | ok config =>
        obtain ⟨server, hserver, hsnapshot⟩ :=
          huptodate unrestrictedText config hreadable hconfig
        obtain ⟨-, -, -, hcontent⟩ := Snapshot.ofConfig_eq_ok_iff.1 hsnapshot
        rw [hconfig] at hload
        have hdisabled : config.content.enabled = false := Option.some.inj hload
        rw [hserver, Option.map_some, hcontent, Gateway.contentOf, hdisabled] at hlive
        cases hlive

end IsolationGate.Lifecycle.Program
