import IsolationGate.Lifecycle.Shutdown
import Mathlib.Data.List.Induction
import Mathlib.Data.Set.Card

/-!
# Nobody misses the shutdown

The flag is a latch. What has happened to it shows in two facts about a run, that it was raised and
that its owner has gone; `IsReleased` says that one of them did happen. A signal that is polled is
told so whenever it was made, from whatever it was copied, and however often it was polled before.

A call may also be kept and polled again later, and the version that its signal has seen is what it
goes by. `IsAlert` is the invariant of such a call: while it watches, there is a newer version
exactly when the flag has been raised. It follows that no call sleeps through the end, and that none
looks at the flag more than twice.

## Main results

* `sameFlag_poll` — polling leaves the flag, its owner and the places of the signals alone.
* `isReleased_iff_run`, `toAccount_run` — what a run leaves behind, read off its steps.
* `IsAlert.act` — what a call under way keeps, move by move and step by step.
* `isLatch_run` — every run of the flag.
-/

namespace IsolationGate.Lifecycle.Shutdown

/-! ## What a run says -/

/-- There is nothing left to wait for: the flag was raised, or its owner has gone. -/
def IsReleased (steps : List Step) : Prop := .trigger ∈ steps ∨ .dropOwner ∈ steps

/-- What the steps of a run say by themselves: whether the owner is still there, and for each signal
that was made, in the order in which they were made, whether it is. -/
structure Account where
  owned : Bool := true
  signals : List Bool := []
  deriving Repr, DecidableEq

/-- A signal is made, at the next place. -/
def Account.add (c : Account) : Account := { c with signals := c.signals ++ [true] }

/-- One more step. An owner can be subscribed to, and a signal that is there can be copied. -/
def Account.enter (c : Account) : Step → Account
  | .subscribe => if c.owned then c.add else c
  | .clone i => if c.signals[i]? = some true then c.add else c
  | .drop i => { c with signals := c.signals.set i false }
  | .dropOwner => { c with owned := false }
  | .trigger | .recv _ => c

/-- The account of a run. -/
def account (steps : List Step) : Account := steps.foldl Account.enter {}

/-- A signal was subscribed or copied, and not dropped since. -/
def IsLive (steps : List Step) (i : Nat) : Prop := (account steps).signals[i]? = some true

/-- After a run this step makes a signal: it tells a place that was never used, and a signal is there
from then on, next to those that were there before. -/
structure Makes (steps : List Step) (a : Step) (i : Nat) : Prop where
  result : ((new.run steps).step a).2 = .signal i
  unused : ∀ before, before <+: steps → ¬ IsLive before i
  live : ∀ j, IsLive (steps ++ [a]) j ↔ IsLive steps j ∨ j = i

/-- Two flags that nobody can tell apart. -/
structure LooksLike (s t : Shutdown) : Prop where
  owned : s.owned = t.owned
  raised : s.raised = t.raised
  receiverCount : s.receiverCount = t.receiverCount
  recv : ∀ i, (s.recv i).2 = (t.recv i).2

/-! ## The view of a flag -/

/-- Which places hold a signal. -/
def places (s : Shutdown) : List Bool := s.signals.map Option.isSome

theorem receiverCount_eq (s : Shutdown) : s.receiverCount = s.places.count true := by
  rw [receiverCount, places, ← List.countP_eq_length_filter, List.count, List.countP_map]
  refine List.countP_congr fun seen _ => ?_
  cases seen <;> rfl

theorem isSome_seen?_iff {s : Shutdown} {i : Nat} :
    (s.seen? i).isSome = true ↔ s.places[i]? = some true := by
  rw [seen?, places, List.getElem?_map]
  cases s.signals[i]? with
  | none => simp
  | some seen => simp

/-- The flag is the same but for the versions that signals have seen. -/
structure SameFlag (s t : Shutdown) : Prop where
  owned : t.owned = s.owned
  raised : t.raised = s.raised
  version : t.version = s.version
  places : t.places = s.places

theorem SameFlag.refl (s : Shutdown) : SameFlag s s := ⟨rfl, rfl, rfl, rfl⟩

theorem SameFlag.trans {s t u : Shutdown} (h : SameFlag s t) (h' : SameFlag t u) : SameFlag s u :=
  ⟨h'.owned.trans h.owned, h'.raised.trans h.raised, h'.version.trans h.version,
    h'.places.trans h.places⟩

theorem sameFlag_mark (s : Shutdown) (i : Nat) : SameFlag s (s.mark i) where
  owned := rfl
  raised := rfl
  version := rfl
  places := by
    refine List.ext_getElem? fun j => ?_
    rw [places, places, List.getElem?_map, List.getElem?_map, mark, List.getElem?_modify]
    cases s.signals[j]? with
    | none => rfl
    | some seen =>
        by_cases hij : i = j
        · simp [hij]
        · simp [hij]

/-! ## Polling -/

theorem sameFlag_move {s next : Shutdown} {call moved : Call}
    (h : s.move? call = some (next, moved)) : SameFlag s next := by
  rcases move_cases h with ⟨-, rfl, -⟩ | ⟨-, -, rfl, -⟩ | ⟨-, -, -, rfl, -⟩
  · exact sameFlag_mark s call.signal
  · exact sameFlag_mark s call.signal
  · exact .refl next

theorem sameFlag_poll (s : Shutdown) (call : Call) : SameFlag s (s.poll call).1 := by
  fun_induction poll s call with
  | case1 s call next moved hmove ih => exact (sameFlag_move hmove).trans ih
  | case2 s call hmove => exact .refl s

theorem signal_move {s next : Shutdown} {call moved : Call}
    (h : s.move? call = some (next, moved)) : moved.signal = call.signal := by
  rcases move_cases h with ⟨-, -, rfl⟩ | ⟨-, -, -, rfl⟩ | ⟨-, -, -, -, rfl⟩ <;> rfl

theorem seen?_move_of_ne {s next : Shutdown} {call moved : Call} {i : Nat}
    (h : s.move? call = some (next, moved)) (hi : call.signal ≠ i) : next.seen? i = s.seen? i := by
  rcases move_cases h with ⟨-, rfl, -⟩ | ⟨-, -, rfl, -⟩ | ⟨-, -, -, rfl, -⟩
  · exact seen?_mark_of_ne hi s
  · exact seen?_mark_of_ne hi s
  · rfl

/-- Polling moves no other signal forward. -/
theorem seen?_poll_of_ne {s : Shutdown} {call : Call} {i : Nat} (hi : call.signal ≠ i) :
    (s.poll call).1.seen? i = s.seen? i := by
  fun_induction poll s call with
  | case1 s call next moved hmove ih =>
      have hsignal := signal_move hmove
      rw [ih (hsignal ▸ hi), seen?_move_of_ne hmove hi]
  | case2 s call hmove => rfl

/-! ## Calls that are alert -/

/-- A call that watches for a version has looked at the flag once, and has seen the version of now
exactly as long as the flag is down. -/
structure IsAlert (u : Underway) : Prop where
  live : (u.flag.seen? u.call.signal).isSome = true
  /-- A second look finds the flag up. -/
  looking : u.call.stand = .looking →
    u.call.rounds = 0 ∨ (u.call.rounds = 1 ∧ u.flag.raised = true)
  watching : u.call.stand = .watching →
    u.call.rounds = 1 ∧ ∃ seen, u.flag.seen? u.call.signal = some seen ∧ seen ≤ u.flag.version ∧
      (seen < u.flag.version ↔ u.flag.raised = true)
  ended : u.call.stand = .ended →
    u.call.rounds ≤ 2 ∧ (u.flag.raised = true ∨ u.flag.owned = false)

theorem IsAlert.hasNews_iff {u : Underway} (h : IsAlert u) (hwatching : u.call.stand = .watching) :
    u.flag.hasNews u.call.signal = true ↔ u.flag.raised = true := by
  obtain ⟨-, seen, hseen, hle, hlt⟩ := h.watching hwatching
  rw [hasNews, hseen, ← hlt]
  simp only [Option.any_some, bne_iff_ne, ne_eq]
  omega

/-- A call begins alert. -/
theorem isAlert_new {s : Shutdown} {i : Nat} (h : (s.seen? i).isSome = true) :
    IsAlert ⟨s, { signal := i }⟩ where
  live := h
  looking := fun _ => .inl rfl
  watching := nofun
  ended := nofun

/-- A move of the call keeps it alert. -/
theorem IsAlert.move {s next : Shutdown} {call moved : Call} (h : IsAlert ⟨s, call⟩)
    (hmove : s.move? call = some (next, moved)) : IsAlert ⟨next, moved⟩ := by
  obtain ⟨seen, hseen⟩ := Option.isSome_iff_exists.1 h.live
  have hmarked : (s.mark call.signal).seen? call.signal = some s.version := by
    rw [seen?_mark_self, hseen]
    rfl
  have hlive : ((s.mark call.signal).seen? call.signal).isSome = true := by
    rw [hmarked]
    rfl
  rcases move_cases hmove with ⟨hstand, rfl, rfl⟩ | ⟨hstand, hnews, rfl, rfl⟩ |
      ⟨hstand, hnews, howned, rfl, rfl⟩
  · have hrounds := h.looking hstand
    cases hraised : s.raised with
    | true =>
        refine ⟨hlive, fun h => ?_, fun h => ?_, fun _ => ⟨by grind, .inl hraised⟩⟩
        · cases h
        · cases h
    | false =>
        have hfirst : call.rounds = 0 := by simpa [hraised] using hrounds
        refine ⟨hlive, fun h => ?_,
          fun _ => ⟨by simp [hfirst], s.version, hmarked, Nat.le_refl _, ?_⟩, fun h => ?_⟩
        · cases h
        · simp [mark, hraised]
        · cases h
  · have hraised : s.raised = true := (h.hasNews_iff hstand).1 hnews
    refine ⟨hlive, fun _ => .inr ⟨(h.watching hstand).1, hraised⟩, fun h => ?_, fun h => ?_⟩
    · cases h
    · cases h
  · refine ⟨h.live, fun h => ?_, fun h => ?_, fun _ => ⟨?_, .inr howned⟩⟩
    · cases h
    · cases h
    · have hrounds : call.rounds = 1 := (h.watching hstand).1
      simp [hrounds]

theorem IsAlert.rounds_le {u : Underway} (h : IsAlert u) : u.call.rounds ≤ 2 := by
  cases hstand : u.call.stand with
  | looking =>
      have hrounds := h.looking hstand
      omega
  | watching =>
      have hrounds := (h.watching hstand).1
      omega
  | ended => exact (h.ended hstand).1

/-- A call that has no move to make is over, or has nothing to wait for yet. -/
theorem IsAlert.stand_of_stuck {s : Shutdown} {call : Call} (h : IsAlert ⟨s, call⟩)
    (hstuck : s.move? call = none) :
    call.stand = .ended ↔ s.raised = true ∨ s.owned = false := by
  cases hstand : call.stand with
  | looking => simp [move?, hstand] at hstuck
  | watching =>
      have hnews := h.hasNews_iff hstand
      simp only [move?, hstand] at hstuck
      split at hstuck
      · cases hstuck
      · next hno =>
          split at hstuck
          · next howned =>
              have hraised : ¬ s.raised = true := fun hraised => hno (hnews.2 hraised)
              simp [hraised, howned]
          · cases hstuck
  | ended => simpa using (h.ended hstand).2

theorem IsAlert.poll {s : Shutdown} {call : Call} (h : IsAlert ⟨s, call⟩) :
    IsAlert ⟨(s.poll call).1, (s.poll call).2⟩ ∧
      (s.poll call).1.move? (s.poll call).2 = none := by
  fun_induction Shutdown.poll s call with
  | case1 s call next moved hmove ih => exact ih (h.move hmove)
  | case2 s call hmove => exact ⟨h, hmove⟩

/-- A call that is polled is over when the flag is up or the owner has gone, and only then. -/
theorem IsAlert.stand_poll {s : Shutdown} {call : Call} (h : IsAlert ⟨s, call⟩) :
    (s.poll call).2.stand = .ended ↔ s.raised = true ∨ s.owned = false := by
  obtain ⟨halert, hstuck⟩ := h.poll
  have hsame := sameFlag_poll s call
  rw [halert.stand_of_stuck hstuck, hsame.raised, hsame.owned]

/-- What a signal is told when it is polled. -/
theorem recv_eq (s : Shutdown) (i : Nat) :
    (s.recv i).2 =
      if (s.seen? i).isSome then if s.raised = true ∨ s.owned = false then .ready else .pending
      else .noSignal := by
  rw [recv]
  cases hseen : s.seen? i with
  | none => rfl
  | some seen =>
      have hlive : (s.seen? i).isSome = true := by rw [hseen]; rfl
      simp only [(isAlert_new hlive).stand_poll, Option.isSome_some, if_true]

theorem SameFlag.looksLike {s t : Shutdown} (h : SameFlag s t) : LooksLike s t where
  owned := h.owned.symm
  raised := h.raised.symm
  receiverCount := by rw [receiverCount_eq, receiverCount_eq, h.places]
  recv := by
    intro i
    have hlive : (t.seen? i).isSome = (s.seen? i).isSome := by
      rw [Bool.eq_iff_iff, isSome_seen?_iff, isSome_seen?_iff, h.places]
    rw [recv_eq, recv_eq, hlive, h.raised, h.owned]

theorem sameFlag_recv (s : Shutdown) (i : Nat) : SameFlag s (s.recv i).1 := by
  rw [recv]
  split
  · exact sameFlag_poll s { signal := i }
  · exact .refl s

/-! ## What a step leaves behind -/

/-- The flag as an account of its steps. -/
def toAccount (s : Shutdown) : Account := ⟨s.owned, s.places⟩

theorem toAccount_addSignal (s : Shutdown) (version : Nat) :
    (s.addSignal version).1.toAccount = s.toAccount.add := by
  have hplaces : (s.addSignal version).1.places = s.places ++ [true] := List.map_append
  exact congrArg (Account.mk s.owned) hplaces

/-- A step does to the flag what the account says. -/
theorem toAccount_step (s : Shutdown) (a : Step) :
    (s.step a).1.toAccount = s.toAccount.enter a := by
  cases a with
  | subscribe =>
      show s.subscribe.1.toAccount = if s.owned then s.toAccount.add else s.toAccount
      rw [subscribe]
      split
      · exact toAccount_addSignal s s.version
      · rfl
  | clone i =>
      have hlive := isSome_seen?_iff (s := s) (i := i)
      show (s.clone i).1.toAccount =
        if s.places[i]? = some true then s.toAccount.add else s.toAccount
      rw [clone]
      cases hseen : s.seen? i with
      | none =>
          have hnone : ¬ s.places[i]? = some true := fun h => by simp [hseen, h] at hlive
          exact (if_neg hnone).symm
      | some version =>
          have hthere : s.places[i]? = some true := hlive.1 (by rw [hseen]; rfl)
          rw [if_pos hthere]
          exact toAccount_addSignal s version
  | drop i =>
      have hplaces : (s.drop i).1.places = s.places.set i false := List.map_set
      exact congrArg (Account.mk s.owned) hplaces
  | trigger =>
      show s.trigger.1.toAccount = s.toAccount
      rw [trigger]
      split <;> rfl
  | dropOwner => rfl
  | recv i =>
      have hsame := sameFlag_recv s i
      show (⟨(s.recv i).1.owned, (s.recv i).1.places⟩ : Account) = s.toAccount
      rw [hsame.owned, hsame.places]
      rfl

theorem Account.owned_enter (c : Account) (a : Step) :
    (c.enter a).owned = true ↔ c.owned = true ∧ a ≠ .dropOwner := by
  cases a with
  | subscribe =>
      rw [enter]
      split <;> simp [add]
  | clone i =>
      rw [enter]
      split <;> simp [add]
  | drop i | trigger | dropOwner | recv i => simp [enter]

/-- A place that was used once stays used. -/
theorem Account.length_le_enter (c : Account) (a : Step) :
    c.signals.length ≤ (c.enter a).signals.length := by
  cases a with
  | subscribe =>
      rw [enter]
      split <;> simp [add]
  | clone i =>
      rw [enter]
      split <;> simp [add]
  | drop i | trigger | dropOwner | recv i => simp [enter]

theorem owned_step (s : Shutdown) (a : Step) :
    (s.step a).1.owned = true ↔ s.owned = true ∧ a ≠ .dropOwner := by
  have haccount := Account.owned_enter s.toAccount a
  rw [← toAccount_step] at haccount
  exact haccount

/-- The flag is raised and its version grows, or neither changes. -/
theorem version_step (s : Shutdown) (a : Step) :
    (a = .trigger ∧ s.owned = true ∧ (s.step a).1.raised = true ∧
        (s.step a).1.version = s.version + 1) ∨
      ((a = .trigger → s.owned = false) ∧ (s.step a).1.raised = s.raised ∧
        (s.step a).1.version = s.version) := by
  cases a with
  | subscribe =>
      refine .inr ⟨nofun, ?_⟩
      show s.subscribe.1.raised = _ ∧ s.subscribe.1.version = _
      rw [subscribe]
      split <;> exact ⟨rfl, rfl⟩
  | clone i =>
      refine .inr ⟨nofun, ?_⟩
      show (s.clone i).1.raised = _ ∧ (s.clone i).1.version = _
      rw [clone]
      split <;> exact ⟨rfl, rfl⟩
  | drop i => exact .inr ⟨nofun, rfl, rfl⟩
  | trigger =>
      cases howned : s.owned with
      | true => simp [step, trigger, howned]
      | false => simp [step, trigger, howned]
  | dropOwner => exact .inr ⟨nofun, rfl, rfl⟩
  | recv i => exact .inr ⟨nofun, (sameFlag_recv s i).raised, (sameFlag_recv s i).version⟩

/-- Waiting is over after a step when it was before, or when the step ends it. -/
theorem isOver_step (s : Shutdown) (a : Step) :
    ((s.step a).1.raised = true ∨ (s.step a).1.owned = false) ↔
      (s.raised = true ∨ s.owned = false) ∨ a = .trigger ∨ a = .dropOwner := by
  have howned := owned_step s a
  rw [← Bool.not_eq_true, howned]
  rcases version_step s a with ⟨rfl, -, hraised, -⟩ | ⟨htrigger, hraised, -⟩
  · simp [hraised]
  · rw [hraised]
    constructor
    · rintro (h | h)
      · exact .inl (.inl h)
      · by_cases hdrop : a = .dropOwner
        · exact .inr (.inr hdrop)
        · exact .inl (.inr (Bool.eq_false_iff.2 fun hs => h ⟨hs, hdrop⟩))
    · rintro ((h | h) | rfl | rfl)
      · exact .inl h
      · exact .inr fun hboth => by simp [h] at hboth
      · exact .inr fun hboth => by simp [htrigger rfl] at hboth
      · exact .inr fun hboth => hboth.2 rfl

/-! ## What a run leaves behind -/

theorem run_concat (s : Shutdown) (steps : List Step) (a : Step) :
    s.run (steps ++ [a]) = ((s.run steps).step a).1 := by
  rw [run, List.foldl_concat]
  rfl

theorem account_concat (steps : List Step) (a : Step) :
    account (steps ++ [a]) = (account steps).enter a := by
  rw [account, List.foldl_concat]
  rfl

theorem isReleased_concat {steps : List Step} {a : Step} :
    IsReleased (steps ++ [a]) ↔ IsReleased steps ∨ a = .trigger ∨ a = .dropOwner := by
  simp only [IsReleased, List.mem_append, List.mem_singleton]
  grind

/-- The flag keeps the account of its steps, by induction on the last one. -/
theorem toAccount_run (steps : List Step) : (new.run steps).toAccount = account steps := by
  induction steps using List.reverseRecOn with
  | nil => rfl
  | append_singleton steps a ih => rw [run_concat, toAccount_step, account_concat, ih]

theorem places_run (steps : List Step) : (new.run steps).places = (account steps).signals :=
  congrArg Account.signals (toAccount_run steps)

/-- The signals that a run leaves are the live ones. -/
theorem isSome_seen?_run_iff (steps : List Step) (i : Nat) :
    ((new.run steps).seen? i).isSome = true ↔ IsLive steps i := by
  rw [isSome_seen?_iff, places_run]
  rfl

theorem owned_run_iff (steps : List Step) :
    (new.run steps).owned = true ↔ .dropOwner ∉ steps := by
  induction steps using List.reverseRecOn with
  | nil => simp [run, new]
  | append_singleton steps a ih =>
      rw [run_concat, owned_step, ih]
      simp [eq_comm]

/-- A run uses no fewer places than its beginning, by induction on what comes after. -/
theorem length_signals_le {before steps : List Step} (h : before <+: steps) :
    (account before).signals.length ≤ (account steps).signals.length := by
  obtain ⟨after, rfl⟩ := h
  induction after using List.reverseRecOn with
  | nil => rw [List.append_nil]
  | append_singleton after a ih =>
      rw [← List.append_assoc, account_concat]
      exact ih.trans (Account.length_le_enter _ a)

/-- A place beyond those of a run was used at no moment of it. -/
theorem not_isLive_of_prefix {before steps : List Step} (h : before <+: steps) {i : Nat}
    (hi : (account steps).signals.length ≤ i) : ¬ IsLive before i := by
  have hnone : (account before).signals[i]? = none :=
    List.getElem?_eq_none ((length_signals_le h).trans hi)
  rw [IsLive, hnone]
  exact nofun

/-- A step that adds a signal to the account adds it at the next place. -/
theorem makes_of_enter {steps : List Step} {a : Step}
    (haccount : (account steps).enter a = (account steps).add)
    (hresult : ((new.run steps).step a).2 = .signal (new.run steps).signals.length) :
    Makes steps a (account steps).signals.length where
  result := by
    have hlength : (new.run steps).signals.length = (account steps).signals.length := by
      rw [← places_run, places, List.length_map]
    rw [hresult, hlength]
  unused := fun before hbefore => not_isLive_of_prefix hbefore (Nat.le_refl _)
  live := by
    intro j
    rw [IsLive, IsLive, account_concat, haccount, Account.add, List.getElem?_append]
    split
    · next hlt => simp [Nat.ne_of_lt hlt]
    · next hge =>
        have hnone : (account steps).signals[j]? = none :=
          List.getElem?_eq_none (Nat.le_of_not_lt hge)
        rw [hnone, List.getElem?_singleton]
        split
        · simp
          omega
        · simp
          omega

/-- After a run waiting is over exactly when the run has ended it. -/
theorem isReleased_iff_run (steps : List Step) :
    ((new.run steps).raised = true ∨ (new.run steps).owned = false) ↔ IsReleased steps := by
  induction steps using List.reverseRecOn with
  | nil => simp [run, new, IsReleased]
  | append_singleton steps a ih => rw [run_concat, isOver_step, ih, isReleased_concat]

/-! ## Calls under way -/

/-- What others have done while a call was under way. -/
def others (acts : List Act) : List Step := acts.filterMap Act.step?

/-- The others leave a signal alone, as long as a call has it for itself. -/
def SpareSignal (acts : List Act) (i : Nat) : Prop := ∀ next ∈ others acts, next.needs i = false

theorem others_concat (acts : List Act) (a : Act) :
    others (acts ++ [a]) = others acts ++ a.step?.toList := by
  rw [others, others, List.filterMap_append]
  cases a <;> rfl

theorem seen?_addSignal {s : Shutdown} {i : Nat} (h : (s.seen? i).isSome = true) (version : Nat) :
    (s.addSignal version).1.seen? i = s.seen? i := by
  have hlt : i < s.signals.length := by
    by_contra hge
    have hnone : s.signals[i]? = none := List.getElem?_eq_none (by omega)
    rw [seen?, hnone] at h
    cases h
  rw [seen?, seen?, addSignal, List.getElem?_append_left hlt]

/-- A step that does not need a signal leaves it as it is. -/
theorem seen?_step {s : Shutdown} {a : Step} {i : Nat} (h : (s.seen? i).isSome = true)
    (ha : a.needs i = false) : (s.step a).1.seen? i = s.seen? i := by
  cases a with
  | subscribe =>
      show s.subscribe.1.seen? i = _
      rw [subscribe]
      split
      · exact seen?_addSignal h s.version
      · rfl
  | clone j =>
      show (s.clone j).1.seen? i = _
      rw [clone]
      split
      · next version _ => exact seen?_addSignal h version
      · rfl
  | drop j =>
      have hij : j ≠ i := by simpa [Step.needs] using ha
      show ((s.signals.set j none)[i]?).join = _
      rw [List.getElem?_set_ne hij]
      rfl
  | trigger =>
      show s.trigger.1.seen? i = _
      rw [trigger]
      split <;> rfl
  | dropOwner => rfl
  | recv j =>
      have hij : j ≠ i := by simpa [Step.needs] using ha
      show (s.recv j).1.seen? i = _
      rw [recv]
      split
      · exact seen?_poll_of_ne hij
      · rfl

/-- A step of others keeps the call alert, as long as its signal is left to it. -/
theorem IsAlert.other {u : Underway} (h : IsAlert u) {a : Step}
    (ha : a.needs u.call.signal = false) : IsAlert { u with flag := (u.flag.step a).1 } := by
  have hseen := seen?_step h.live ha
  have hover := isOver_step u.flag a
  have hlive : ((u.flag.step a).1.seen? u.call.signal).isSome = true := hseen ▸ h.live
  rcases version_step u.flag a with ⟨-, -, hraised, hversion⟩ | ⟨-, hraised, hversion⟩
  · refine ⟨hlive, fun hstand => ?_, fun hstand => ?_, fun hstand => ?_⟩
    · exact (h.looking hstand).imp_right fun hsecond => ⟨hsecond.1, hraised⟩
    · obtain ⟨hrounds, seen, hold, hle, -⟩ := h.watching hstand
      refine ⟨hrounds, seen, hseen.trans hold, ?_, ?_⟩
      · rw [hversion]
        omega
      · rw [hversion, hraised]
        simp only [iff_true]
        omega
    · exact ⟨(h.ended hstand).1, .inl hraised⟩
  · refine ⟨hlive, fun hstand => ?_, fun hstand => ?_, fun hstand => ?_⟩
    · rw [hraised]
      exact h.looking hstand
    · rw [hseen, hversion, hraised]
      exact h.watching hstand
    · exact ⟨(h.ended hstand).1, hover.2 (.inl (h.ended hstand).2)⟩

/-- Whatever happens next keeps the call alert, as long as its signal is left to it. -/
theorem IsAlert.act {u : Underway} (h : IsAlert u) {a : Act}
    (ha : ∀ next ∈ a.step?, next.needs u.call.signal = false) : IsAlert (u.act a) := by
  cases a with
  | move =>
      unfold Underway.act
      dsimp only
      split
      · next next moved hmove => exact h.move hmove
      · exact h
  | other next => exact h.other (ha next rfl)

theorem signal_act (u : Underway) (a : Act) : (u.act a).call.signal = u.call.signal := by
  cases a with
  | move =>
      unfold Underway.act
      dsimp only
      split
      · next hmove => exact signal_move hmove
      · rfl
  | other next => rfl

/-- What happens decides alone whether there is something left to wait for. -/
theorem isOver_act (u : Underway) (a : Act) :
    ((u.act a).flag.raised = true ∨ (u.act a).flag.owned = false) ↔
      (u.flag.raised = true ∨ u.flag.owned = false) ∨
        ∃ next ∈ a.step?, next = .trigger ∨ next = .dropOwner := by
  cases a with
  | move =>
      have hsame : SameFlag u.flag (u.act .move).flag := by
        unfold Underway.act
        dsimp only
        split
        · next hmove => exact sameFlag_move hmove
        · exact .refl _
      rw [hsame.raised, hsame.owned]
      simp [Act.step?]
  | other next =>
      refine (isOver_step u.flag next).trans ?_
      simp [Act.step?]

/-- A call that was begun after a run and is still under way, by induction on what has happened
since. -/
structure IsUnderway (steps : List Step) (i : Nat) (u : Underway) : Prop where
  signal : u.call.signal = i
  alert : IsAlert u
  isOver : (u.flag.raised = true ∨ u.flag.owned = false) ↔ IsReleased steps

theorem isUnderway_run {steps : List Step} {i : Nat} (hlive : IsLive steps i) {acts : List Act}
    (hspare : SpareSignal acts i) :
    IsUnderway (steps ++ others acts) i (Underway.run ⟨new.run steps, { signal := i }⟩ acts) := by
  induction acts using List.reverseRecOn with
  | nil =>
      refine ⟨rfl, isAlert_new ((isSome_seen?_run_iff steps i).2 hlive), ?_⟩
      rw [others, List.filterMap_nil, List.append_nil]
      exact isReleased_iff_run steps
  | append_singleton acts a ih =>
      rw [SpareSignal, others_concat] at hspare
      have hbefore := ih fun next hnext => hspare next (List.mem_append_left _ hnext)
      have hnow : ∀ next ∈ a.step?, next.needs i = false := fun next hnext =>
        hspare next (List.mem_append_right _ (Option.mem_toList.2 hnext))
      rw [Underway.run, List.foldl_concat, ← Underway.run, others_concat]
      refine ⟨(signal_act _ a).trans hbefore.signal, ?_, ?_⟩
      · refine hbefore.alert.act ?_
        rw [hbefore.signal]
        exact hnow
      · rw [isOver_act, hbefore.isOver]
        cases a with
        | move => simp [Act.step?]
        | other next =>
            rw [Act.step?, Option.toList_some, ← List.append_assoc, isReleased_concat]
            simp

/-! ## Every run -/

/-- What every run of the flag satisfies. -/
structure IsLatch (steps : List Step) : Prop where
  /-- While the owner is there, the flag is up exactly when it was raised. -/
  raised : .dropOwner ∉ steps →
    (new.run steps).owned = true ∧ ((new.run steps).raised = true ↔ .trigger ∈ steps)
  receiverCount : (new.run steps).receiverCount = {i | IsLive steps i}.ncard
  /-- While the owner is there, a new signal can be had. -/
  subscribed : .dropOwner ∉ steps → ∃ i, Makes steps .subscribe i
  /-- A live signal can be copied, also when the owner has gone. -/
  cloned : ∀ j, IsLive steps j → ∃ i, Makes steps (.clone j) i
  /-- Without an owner there is nothing to subscribe to, and a signal that is not there can neither
  be copied nor polled. -/
  refused : (.dropOwner ∈ steps → ((new.run steps).step .subscribe).2 = .noOwner) ∧
    ∀ i, ¬ IsLive steps i →
      ((new.run steps).step (.clone i)).2 = .noSignal ∧ ((new.run steps).recv i).2 = .noSignal
  /-- A live signal that is polled is ready exactly when there is nothing left to wait for. -/
  ready : ∀ i, IsLive steps i →
    (IsReleased steps → ((new.run steps).recv i).2 = .ready) ∧
      (¬ IsReleased steps → ((new.run steps).recv i).2 = .pending)
  /-- A signal that is ready once is ready from then on. -/
  stays : ∀ i later, IsLive (steps ++ later) i → ((new.run steps).recv i).2 = .ready →
    ((new.run (steps ++ later)).recv i).2 = .ready
  /-- Polling a new call or an old one is not noticed by anybody. -/
  unnoticed : ∀ call, (new.run steps).LooksLike ((new.run steps).poll call).1
  /-- A call that is kept, while others go on, looks at the flag at most twice. When it is polled
  it is over exactly when there is nothing left to wait for. -/
  kept : ∀ i acts, IsLive steps i → SpareSignal acts i →
    let u := Underway.run ⟨new.run steps, { signal := i }⟩ acts
    u.call.rounds ≤ 2 ∧ (u.flag.poll u.call).2.rounds ≤ 2 ∧
      ((u.flag.poll u.call).2.stand = .ended ↔ IsReleased (steps ++ others acts))

/-- The places of a list that hold `true` are as many as it says, by induction on its last entry. -/
theorem count_eq_ncard (l : List Bool) : l.count true = {i : Nat | l[i]? = some true}.ncard := by
  induction l using List.reverseRecOn with
  | nil => simp
  | append_singleton l b ih =>
      have hbound : ∀ i ∈ {i : Nat | l[i]? = some true}, i < l.length := fun i hi =>
        (List.getElem?_eq_some_iff.1 hi).1
      have hfinite : {i : Nat | l[i]? = some true}.Finite :=
        (Set.finite_lt_nat l.length).subset hbound
      cases b with
      | false =>
          have hsame : {i : Nat | (l ++ [false])[i]? = some true} = {i | l[i]? = some true} := by
            ext i
            simp only [Set.mem_ofPred_eq, List.getElem?_append, List.getElem?_singleton]
            grind
          rw [hsame, List.count_append, ← ih]
          simp
      | true =>
          have hmore : {i : Nat | (l ++ [true])[i]? = some true} =
              insert l.length {i | l[i]? = some true} := by
            ext i
            simp only [Set.mem_ofPred_eq, Set.mem_insert_iff, List.getElem?_append,
              List.getElem?_singleton]
            grind
          have hnew : l.length ∉ {i : Nat | l[i]? = some true} := fun h =>
            Nat.lt_irrefl _ (hbound _ h)
          rw [hmore, Set.ncard_insert_of_notMem hnew hfinite, List.count_append, ← ih]
          simp

theorem recv_of_isLive {steps : List Step} {i : Nat} (h : IsLive steps i) :
    (IsReleased steps → ((new.run steps).recv i).2 = .ready) ∧
      (¬ IsReleased steps → ((new.run steps).recv i).2 = .pending) := by
  have hover := isReleased_iff_run steps
  rw [recv_eq, if_pos ((isSome_seen?_run_iff steps i).2 h)]
  exact ⟨fun hreleased => if_pos (hover.2 hreleased), fun hnot => if_neg fun h => hnot (hover.1 h)⟩

/-- While the owner is there, subscribing makes a signal. -/
theorem makes_subscribe {steps : List Step} (h : .dropOwner ∉ steps) :
    Makes steps .subscribe (account steps).signals.length := by
  have howned := (owned_run_iff steps).2 h
  have haccount : (account steps).owned = true :=
    (congrArg Account.owned (toAccount_run steps)).symm.trans howned
  exact makes_of_enter (if_pos haccount) (congrArg Prod.snd (if_pos howned))

/-- Copying a live signal makes a signal. -/
theorem makes_clone {steps : List Step} {j : Nat} (h : IsLive steps j) :
    Makes steps (.clone j) (account steps).signals.length := by
  obtain ⟨version, hseen⟩ := Option.isSome_iff_exists.1 ((isSome_seen?_run_iff steps j).2 h)
  refine makes_of_enter (if_pos h) ?_
  show ((new.run steps).clone j).2 = _
  rw [clone, hseen]
  rfl

/-- **The shutdown flag is a latch.** Whatever happens to it, in any order: it is up exactly when it
was raised, it counts the signals that were made and not dropped, each of which was made at a place
of its own, and everybody who waits is told that waiting is over as soon as it is, and not before.
-/
theorem isLatch_run (steps : List Step) : IsLatch steps where
  raised := by
    intro hkept
    have howned := (owned_run_iff steps).2 hkept
    have hreleased := isReleased_iff_run steps
    refine ⟨howned, ?_⟩
    simpa [howned, IsReleased, hkept] using hreleased
  receiverCount := by
    rw [receiverCount_eq, places_run]
    exact count_eq_ncard (account steps).signals
  subscribed := fun hkept => ⟨_, makes_subscribe hkept⟩
  cloned := fun j hlive => ⟨_, makes_clone hlive⟩
  refused := by
    refine ⟨fun hgone => ?_, fun i hlive => ?_⟩
    · have howned : ¬ (new.run steps).owned = true := fun h => (owned_run_iff steps).1 h hgone
      exact congrArg Prod.snd (if_neg howned)
    · rw [← isSome_seen?_run_iff] at hlive
      constructor
      · have hseen : (new.run steps).seen? i = none := by simpa using hlive
        show ((new.run steps).clone i).2 = .noSignal
        rw [clone, hseen]
      · rw [recv_eq, if_neg hlive]
  ready := fun i h => recv_of_isLive h
  stays := by
    intro i later hlive hready
    have hreleased : IsReleased steps := by
      rw [recv_eq] at hready
      split at hready
      · split at hready
        · next hover => exact (isReleased_iff_run steps).1 hover
        · cases hready
      · cases hready
    refine (recv_of_isLive hlive).1 ?_
    exact hreleased.imp (List.mem_append_left later) (List.mem_append_left later)
  unnoticed := fun call => (sameFlag_poll (new.run steps) call).looksLike
  kept := by
    intro i acts hlive hspare
    dsimp only
    have hunderway := isUnderway_run hlive hspare
    exact ⟨hunderway.alert.rounds_le, hunderway.alert.poll.1.rounds_le,
      hunderway.alert.stand_poll.trans hunderway.isOver⟩

/-- A signal is polled in vain and copied before it is dropped; then the flag is raised, the owner
goes, and the copy is copied. -/
def handover : List Step :=
  [.subscribe, .recv 0, .clone 0, .drop 0, .trigger, .dropOwner, .clone 1]

/-- Two signals are left, both are told that waiting is over, and a third can still be made of them.
-/
theorem handover_ready :
    IsLive handover 1 ∧ IsLive handover 2 ∧ (new.run handover).receiverCount = 2 ∧
      ((new.run handover).recv 1).2 = .ready ∧ ((new.run handover).recv 2).2 = .ready ∧
      ∃ i, Makes handover (.clone 2) i := by
  have hlatch := isLatch_run handover
  have hcopy : IsLive handover 1 := rfl
  have hlate : IsLive handover 2 := rfl
  have hreleased : IsReleased handover := .inl (by decide)
  have hsignals : (account handover).signals = [false, true, true] := rfl
  have htwo : {i | IsLive handover i} = {1, 2} := by
    ext i
    rcases i with - | - | - | i
    · simp [IsLive, hsignals]
    · simp [hcopy]
    · simp [hlate]
    · simp [IsLive, hsignals]
  have hcount := hlatch.receiverCount
  rw [htwo, Set.ncard_pair (by decide)] at hcount
  exact ⟨hcopy, hlate, hcount, (hlatch.ready 1 hcopy).1 hreleased, (hlatch.ready 2 hlate).1 hreleased,
    hlatch.cloned 2 hlate⟩

end IsolationGate.Lifecycle.Shutdown
