/-!
# The shutdown flag

One owner raises a flag that is never lowered, and any number of signals wait for it. The flag has a
version that grows each time it is raised. A signal remembers the version that it has seen last;
waiting looks at the flag, and when it is down waits for a version that the signal has not seen or
for the end of the owner. Since the version is looked at together with the flag, a signal that
starts to wait late, or is a copy of another one, misses nothing.

A call that waits goes round a loop, in moves between which others may do something. Polling it
makes all moves that can be made now; `patience` bounds their number.

A signal is named by its place among all signals that there ever were.
-/

namespace IsolationGate.Lifecycle

/-- The flag and its signals. -/
structure Shutdown where
  /-- The owner is still there. -/
  owned : Bool := true
  /-- The flag is up. -/
  raised : Bool := false
  version : Nat := 0
  /-- For each signal the version that it has seen last; nothing for one that was dropped. -/
  signals : List (Option Nat) := []
  deriving Repr, DecidableEq

namespace Shutdown

/-- A flag that is down. -/
def new : Shutdown := {}

/-- The number of signals that were not dropped. -/
def receiverCount (s : Shutdown) : Nat := (s.signals.filter Option.isSome).length

/-- The version that a signal has seen last, if there is such a signal. -/
def seen? (s : Shutdown) (i : Nat) : Option Nat := (s.signals[i]?).join

/-- What comes of a step. -/
inductive Result where
  | done
  /-- A new signal and its place. -/
  | signal (i : Nat)
  /-- There is no owner to do this. -/
  | noOwner
  /-- There is no such signal. -/
  | noSignal
  /-- Waiting is over. -/
  | ready
  /-- Waiting goes on. -/
  | pending
  deriving Repr, DecidableEq

/-- A new signal that has seen a version. -/
def addSignal (s : Shutdown) (version : Nat) : Shutdown × Result :=
  ({ s with signals := s.signals ++ [some version] }, .signal s.signals.length)

/-- A new signal. -/
def subscribe (s : Shutdown) : Shutdown × Result :=
  if s.owned then s.addSignal s.version else (s, .noOwner)

/-- A copy of a signal. -/
def clone (s : Shutdown) (i : Nat) : Shutdown × Result :=
  match s.seen? i with
  | some version => s.addSignal version
  | none => (s, .noSignal)

/-- A signal is given up. -/
def drop (s : Shutdown) (i : Nat) : Shutdown × Result :=
  ({ s with signals := s.signals.set i none }, .done)

/-- The flag is raised. -/
def trigger (s : Shutdown) : Shutdown × Result :=
  if s.owned then ({ s with raised := true, version := s.version + 1 }, .done) else (s, .noOwner)

/-- The owner goes away. -/
def dropOwner (s : Shutdown) : Shutdown × Result := ({ s with owned := false }, .done)

/-! ## Waiting -/

/-- Where a call that waits stands. -/
inductive Stand where
  /-- It is about to look at the flag. -/
  | looking
  /-- It has found the flag down, and waits for news or for the end of the owner. -/
  | watching
  /-- Waiting is over. -/
  | ended
  deriving Repr, DecidableEq

/-- A call that waits. It has its signal for itself until it is over or given up. -/
structure Call where
  signal : Nat
  stand : Stand := .looking
  /-- How often it has looked at the flag. -/
  rounds : Nat := 0
  deriving Repr, DecidableEq

/-- A signal has seen the version of now. -/
def mark (s : Shutdown) (i : Nat) : Shutdown :=
  { s with signals := s.signals.modify i fun seen => seen.map fun _ => s.version }

/-- There is a version that a signal has not seen. -/
def hasNews (s : Shutdown) (i : Nat) : Bool := (s.seen? i).any fun seen => seen != s.version

/-- One move of a call, if there is one to make. The flag is looked at and its version is seen; a
call that has found it down goes round again for a newer version, and ends with the owner. -/
def move? (s : Shutdown) (call : Call) : Option (Shutdown × Call) :=
  match call.stand with
  | .looking =>
      some (s.mark call.signal,
        { call with
          stand := if s.raised then .ended else .watching
          rounds := call.rounds + 1 })
  | .watching =>
      if s.hasNews call.signal then some (s.mark call.signal, { call with stand := .looking })
      else if s.owned then none
      else some (s, { call with stand := .ended })
  | .ended => none

theorem seen?_mark_self (s : Shutdown) (i : Nat) :
    (s.mark i).seen? i = (s.seen? i).map fun _ => s.version := by
  rw [seen?, seen?, mark, List.getElem?_modify_eq]
  cases s.signals[i]? with
  | none => rfl
  | some seen => cases seen <;> rfl

theorem seen?_mark_of_ne {i j : Nat} (h : i ≠ j) (s : Shutdown) :
    (s.mark i).seen? j = s.seen? j := by
  rw [seen?, seen?, mark, List.getElem?_modify_ne _ _ h]

/-- A signal that has just seen the version of now has no news. -/
theorem hasNews_mark (s : Shutdown) (i : Nat) : (s.mark i).hasNews i = false := by
  rw [hasNews, seen?_mark_self]
  cases s.seen? i with
  | none => rfl
  | some seen => simp [mark]

/-- A bound for the moves of a call while nobody else does anything. -/
def patience (s : Shutdown) (call : Call) : Nat :=
  match call.stand with
  | .looking => 2
  | .watching => if s.hasNews call.signal then 3 else 1
  | .ended => 0

/-- Everything that a move can be. -/
theorem move_cases {s next : Shutdown} {call moved : Call}
    (h : s.move? call = some (next, moved)) :
    (call.stand = .looking ∧ next = s.mark call.signal ∧
        moved = ⟨call.signal, if s.raised then .ended else .watching, call.rounds + 1⟩) ∨
      (call.stand = .watching ∧ s.hasNews call.signal = true ∧ next = s.mark call.signal ∧
        moved = ⟨call.signal, .looking, call.rounds⟩) ∨
      (call.stand = .watching ∧ s.hasNews call.signal = false ∧ s.owned = false ∧ next = s ∧
        moved = ⟨call.signal, .ended, call.rounds⟩) := by
  obtain ⟨signal, stand, rounds⟩ := call
  cases stand with
  | looking =>
      cases h
      exact .inl ⟨rfl, rfl, rfl⟩
  | watching =>
      dsimp only [move?] at h
      split at h
      · next hnews =>
          cases h
          exact .inr (.inl ⟨rfl, hnews, rfl, rfl⟩)
      · next hnews =>
          split at h
          · cases h
          · next howned =>
              cases h
              exact .inr (.inr ⟨rfl, Bool.eq_false_iff.2 hnews,
                Bool.eq_false_iff.2 howned, rfl, rfl⟩)
  | ended => cases h

theorem patience_lt {s next : Shutdown} {call moved : Call}
    (h : s.move? call = some (next, moved)) :
    next.patience moved < s.patience call := by
  rcases move_cases h with ⟨hstand, rfl, rfl⟩ | ⟨hstand, hnews, rfl, rfl⟩ |
    ⟨hstand, hnews, -, rfl, rfl⟩
  · cases hraised : s.raised with
    | true => simp [patience, hstand]
    | false => simp [patience, hstand, hasNews_mark]
  · simp [patience, hstand, hnews]
  · simp [patience, hstand, hnews]

/-- A call is polled: it moves until there is no move to make. -/
def poll (s : Shutdown) (call : Call) : Shutdown × Call :=
  match _h : s.move? call with
  | some (next, moved) => poll next moved
  | none => (s, call)
termination_by s.patience call
decreasing_by exact patience_lt _h

/-- A signal waits: a call is polled once, and then given up unless it is over. -/
def recv (s : Shutdown) (i : Nat) : Shutdown × Result :=
  match s.seen? i with
  | some _ =>
      let (next, call) := s.poll { signal := i }
      (next, if call.stand = .ended then .ready else .pending)
  | none => (s, .noSignal)

/-! ## Runs -/

/-- A step of a run. -/
inductive Step where
  | subscribe
  | clone (i : Nat)
  | drop (i : Nat)
  | trigger
  | dropOwner
  | recv (i : Nat)
  deriving Repr, DecidableEq

/-- One step. -/
def step (s : Shutdown) : Step → Shutdown × Result
  | .subscribe => s.subscribe
  | .clone i => s.clone i
  | .drop i => s.drop i
  | .trigger => s.trigger
  | .dropOwner => s.dropOwner
  | .recv i => s.recv i

/-- The flag after a run. -/
def run (s : Shutdown) (steps : List Step) : Shutdown :=
  steps.foldl (fun s next => (s.step next).1) s

/-! ## Calls under way -/

/-- A step that needs a certain signal, which a call under way has for itself. -/
def Step.needs (i : Nat) : Step → Bool
  | .clone j | .drop j | .recv j => j == i
  | .subscribe | .trigger | .dropOwner => false

/-- A call that is under way while others go on. -/
structure Underway where
  flag : Shutdown
  call : Call
  deriving Repr, DecidableEq

/-- What happens while a call is under way. -/
inductive Act where
  /-- The call makes its next move. -/
  | move
  /-- Others do something. -/
  | other (next : Step)
  deriving Repr, DecidableEq

/-- What others do. -/
def Act.step? : Act → Option Step
  | .move => none
  | .other next => some next

namespace Underway

/-- Something has happened. -/
def act (u : Underway) : Act → Underway
  | .move =>
      match u.flag.move? u.call with
      | some (next, moved) => ⟨next, moved⟩
      | none => u
  | .other next => { u with flag := (u.flag.step next).1 }

/-- The call after a run. -/
def run (u : Underway) (acts : List Act) : Underway := acts.foldl act u

end Underway

end Shutdown

end IsolationGate.Lifecycle
