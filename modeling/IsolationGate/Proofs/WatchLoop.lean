import IsolationGate.Lifecycle.Watch
import Mathlib.Data.List.Chain
import Mathlib.Data.List.Induction

/-!
# The loop that watches and the last change of the file

Emptying the queue throws events away, and the remembered text moves only when a text is sent on.
No change is lost by either. While the loop may be behind the file, an event is still to come, or
the file is still to be read, or what has been read is what the file holds. `Watch.Covers` says this
of one state, and every step of the file, of the queue and of the loop keeps it.

## Main results

* `Watch.conclude_cases` — the loop sends news and remembers their text, or it sends nothing and
  keeps the text that it remembers.
* `Watch.Covers.current` — a loop with nothing left to do remembers what the file holds.
* `WatchedFile.faithful_run` — every run of a watched file is `WatchedFile.Faithful`.
-/

namespace IsolationGate.Lifecycle

namespace Watch

/-! ## What becomes of a content -/

/-- A content has a new text that is a valid configuration. -/
structure IsNews (w : Watch) (held : FileContent) (update : Update) : Prop where
  readable : Watch.readable held = some update.text
  changed : w.remembered ≠ some update.text
  accepted : Config.load update.text = .ok update.config

theorem readable_eq_some_iff {held : FileContent} {text : String} :
    readable held = some text ↔ Config.readFile held = .ok text := by
  rw [readable]
  cases Config.readFile held with
  | error error => simp [Except.toOption]
  | ok other => simp [Except.toOption]

/-- The loop sends news and remembers their text. Whatever else it holds changes nothing. -/
theorem conclude_cases (w : Watch) (held : FileContent) :
    (∃ update, w.IsNews held update ∧ (w.conclude held).update = some update ∧
        (w.conclude held).watch = { w with phase := .waiting, remembered := some update.text }) ∨
      ((∀ update, ¬ w.IsNews held update) ∧ (w.conclude held).update = none ∧
        (w.conclude held).watch = { w with phase := .waiting }) := by
  have hread : ∀ update, w.IsNews held update → Config.readFile held = .ok update.text :=
    fun update hnews => readable_eq_some_iff.1 hnews.readable
  unfold conclude
  cases hheld : Config.readFile held with
  | error error =>
      refine .inr ⟨fun update hnews => ?_, rfl, rfl⟩
      have hok := hread update hnews
      rw [hheld] at hok
      cases hok
  | ok text =>
      have htext : ∀ update, w.IsNews held update → text = update.text := by
        intro update hnews
        exact Except.ok.inj (hheld.symm.trans (hread update hnews))
      by_cases hsame : w.remembered = some text
      · simp only [if_pos hsame]
        refine .inr ⟨fun update hnews => ?_, trivial, trivial⟩
        exact hnews.changed (htext update hnews ▸ hsame)
      · simp only [if_neg hsame]
        cases hload : Config.load text with
        | ok config => exact .inl ⟨⟨text, config⟩, ⟨readable_eq_some_iff.2 hheld, hsame, hload⟩,
            rfl, rfl⟩
        | error error =>
            refine .inr ⟨fun update hnews => ?_, rfl, rfl⟩
            have haccepted := hnews.accepted
            rw [← htext update hnews, hload] at haccepted
            cases haccepted

/-- Concluding ends in waiting and touches no count of events. -/
theorem conclude_counts (w : Watch) (held : FileContent) :
    (w.conclude held).watch.undelivered = w.undelivered ∧
      (w.conclude held).watch.queued = w.queued ∧ (w.conclude held).watch.phase = .waiting := by
  rcases w.conclude_cases held with ⟨update, -, -, hwatch⟩ | ⟨-, -, hwatch⟩
  · rw [hwatch]
    exact ⟨rfl, rfl, rfl⟩
  · rw [hwatch]
    exact ⟨rfl, rfl, rfl⟩

/-- A content is unreadable, unchanged or invalid. -/
def IsIdleEdit (w : Watch) (held : FileContent) : Prop :=
  readable held = none ∨ readable held = w.remembered ∨
    ∃ text, readable held = some text ∧ ∀ config, Config.load text ≠ .ok config

theorem IsIdleEdit.not_isNews {w : Watch} {held : FileContent} (h : w.IsIdleEdit held)
    (update : Update) : ¬ w.IsNews held update := by
  intro hnews
  rcases h with hnone | hsame | ⟨text, htext, hinvalid⟩
  · rw [hnews.readable] at hnone
    cases hnone
  · exact hnews.changed (hsame.symm.trans hnews.readable)
  · have heq : text = update.text := Option.some.inj (htext.symm.trans hnews.readable)
    exact hinvalid update.config (heq ▸ hnews.accepted)

/-- Only the conclusion from news sends something or changes what the loop remembers. -/
theorem advance_cases (w : Watch) (content : FileContent) :
    ((w.advance content).update = none ∧ (w.advance content).watch.remembered = w.remembered) ∨
      ∃ held update, w.phase = .holding held ∧ w.IsNews held update ∧
        (w.advance content).update = some update ∧
        (w.advance content).watch.remembered = some update.text := by
  unfold Watch.advance
  cases hphase : w.phase with
  | waiting =>
      left
      dsimp only
      split <;> exact ⟨rfl, rfl⟩
  | woken => exact .inl ⟨rfl, rfl⟩
  | drained => exact .inl ⟨rfl, rfl⟩
  | holding held =>
      rcases w.conclude_cases held with ⟨update, hnews, hupdate, hwatch⟩ | ⟨-, hupdate, hwatch⟩
      · refine .inr ⟨held, update, rfl, hnews, hupdate, ?_⟩
        dsimp only
        rw [hwatch]
      · refine .inl ⟨hupdate, ?_⟩
        dsimp only
        rw [hwatch]

/-- The loop holds what it held, or what the file holds. -/
theorem holding_advance {w : Watch} {content held : FileContent}
    (h : (w.advance content).watch.phase = .holding held) : held = content := by
  revert h
  unfold Watch.advance
  cases hphase : w.phase with
  | waiting =>
      dsimp only
      split
      · intro h
        exact nomatch hphase.symm.trans h
      · exact nofun
  | woken => exact nofun
  | drained =>
      intro h
      exact (WatchPhase.holding.inj h).symm
  | holding before =>
      intro h
      exact nomatch (w.conclude_counts before).2.2.symm.trans h

theorem remembered_deliver (w : Watch) : w.deliver.remembered = w.remembered := by
  unfold Watch.deliver
  split <;> rfl

theorem phase_deliver (w : Watch) : w.deliver.phase = w.phase := by
  unfold Watch.deliver
  split <;> rfl

/-! ## The loop and the file -/

/-- If the file holds a valid configuration, the loop remembers its text. -/
def IsCurrent (w : Watch) (content : FileContent) : Prop :=
  ∀ text config, readable content = some text → Config.load text = .ok config →
    w.remembered = some text

/-- The loop remembers what the file holds, or it will still read the file or has just done so. The
removal of the file has no event, so what the loop holds may also be older than that. -/
def Covers (w : Watch) (content : FileContent) : Prop :=
  0 < w.undelivered ∨ 0 < w.queued ∨
    match w.phase with
    | .waiting => w.IsCurrent content
    | .woken => True
    | .drained => True
    | .holding held => held = content ∨ content = none

theorem isCurrent_none (w : Watch) : w.IsCurrent none := by
  intro text config hreadable _
  cases hreadable

/-- A loop that waits and remembers what the file holds has nothing to do. -/
theorem covers_of_remembered {w : Watch} {content : FileContent} (hphase : w.phase = .waiting)
    (h : w.remembered = readable content) : w.Covers content := by
  refine .inr (.inr ?_)
  rw [hphase]
  intro text config hreadable _
  exact h.trans hreadable

theorem covers_noteChange (w : Watch) (content : FileContent) : w.noteChange.Covers content :=
  .inl (Nat.succ_pos _)

theorem Covers.remove {w : Watch} {content : FileContent} (h : w.Covers content) :
    w.Covers none := by
  rcases h with hundelivered | hqueued | hphase
  · exact .inl hundelivered
  · exact .inr (.inl hqueued)
  · refine .inr (.inr ?_)
    cases hw : w.phase with
    | waiting => exact isCurrent_none w
    | woken => trivial
    | drained => trivial
    | holding held => exact .inr rfl

theorem Covers.deliver {w : Watch} {content : FileContent} (h : w.Covers content) :
    w.deliver.Covers content := by
  unfold Watch.deliver
  split
  · exact h
  · exact .inr (.inl (Nat.succ_pos _))

/-- What the loop has concluded from the present content is current. -/
theorem isCurrent_conclude (w : Watch) (content : FileContent) :
    (w.conclude content).watch.IsCurrent content := by
  intro text config hreadable hload
  rcases w.conclude_cases content with ⟨update, hnews, -, hwatch⟩ | ⟨hnone, -, hwatch⟩
  · rw [hwatch]
    exact hnews.readable.symm.trans hreadable
  · rw [hwatch]
    by_cases hsame : w.remembered = some text
    · exact hsame
    · exact absurd ⟨hreadable, hsame, hload⟩ (hnone ⟨text, config⟩)

theorem Covers.advance {w : Watch} {content : FileContent} (h : w.Covers content) :
    (w.advance content).watch.Covers content := by
  unfold Watch.advance
  cases hphase : w.phase with
  | waiting =>
      by_cases hqueued : w.queued = 0
      · simp only [if_pos hqueued]
        exact h
      · simp only [if_neg hqueued]
        exact .inr (.inr trivial)
  | woken => exact .inr (.inr trivial)
  | drained => exact .inr (.inr (.inl rfl))
  | holding held =>
      -- Concluding touches neither count, so only a loop without events has to be current.
      obtain ⟨hundelivered, hqueued, hwaiting⟩ := w.conclude_counts held
      simp only [Covers, hundelivered, hqueued, hwaiting]
      rcases h with hpos | hpos | hheld
      · exact .inl hpos
      · exact .inr (.inl hpos)
      · rw [hphase] at hheld
        rcases hheld with rfl | rfl
        · exact .inr (.inr (isCurrent_conclude w held))
        · exact .inr (.inr (isCurrent_none _))

/-- **No lost change.** A loop that waits while no event is queued or on its way remembers what the
file holds, if that is a valid configuration. -/
theorem Covers.current {w : Watch} {content : FileContent} (h : w.Covers content)
    (hsettled : w.isSettled = true) : w.IsCurrent content := by
  simp only [isSettled, isIdle, Bool.and_eq_true, beq_iff_eq] at hsettled
  obtain ⟨⟨hphase, hqueued⟩, hundelivered⟩ := hsettled
  rcases h with hpos | hpos | hcurrent
  · omega
  · omega
  · rw [hphase] at hcurrent
    exact hcurrent

end Watch

namespace WatchedFile

/-! ## Runs -/

/-- The text behind the last update, or the one that changes were told from at first. -/
def lastText (baseline : Option String) : List Update → Option String
  | [] => baseline
  | update :: _ => some update.text

/-- The texts behind the updates, the last one first, and the one that changes were told from at
first. -/
def texts (baseline : Option String) (sent : List Update) : List (Option String) :=
  sent.map (fun update => some update.text) ++ [baseline]

/-- The file has held a content at some moment of a run. -/
def Held (origin : WatchedFile) (steps : List Step) (content : FileContent) : Prop :=
  ∃ past, past <+: steps ∧ (origin.run past).content = content

/-- What holds after every run. -/
structure Invariant (origin : WatchedFile) (steps : List Step) (f : WatchedFile) : Prop where
  remembers : f.watch.remembered = lastText origin.watch.remembered f.sent
  changes : (texts origin.watch.remembered f.sent).IsChain (· ≠ ·)
  covers : f.watch.Covers f.content
  reads : ∀ held, f.watch.phase = .holding held → origin.Held steps held
  sends : ∀ update ∈ f.sent, Config.load update.text = .ok update.config ∧
    ∃ content, origin.Held steps content ∧ Watch.readable content = some update.text

theorem run_concat (f : WatchedFile) (steps : List Step) (s : Step) :
    f.run (steps ++ [s]) = (f.run steps).step s := by
  rw [run, run, List.foldl_append, List.foldl_cons, List.foldl_nil]

theorem Held.concat {origin : WatchedFile} {steps : List Step} {content : FileContent}
    (h : origin.Held steps content) (s : Step) : origin.Held (steps ++ [s]) content := by
  obtain ⟨past, hpast, hcontent⟩ := h
  exact ⟨past, hpast.trans (List.prefix_append steps [s]), hcontent⟩

theorem held_now (origin : WatchedFile) (steps : List Step) :
    origin.Held steps (origin.run steps).content :=
  ⟨steps, List.prefix_refl steps, rfl⟩

/-- An update whose text is not the last one makes the chain of texts longer. -/
theorem isChain_texts_cons {baseline : Option String} {update : Update} {sent : List Update}
    (hlast : lastText baseline sent ≠ some update.text)
    (h : (texts baseline sent).IsChain (· ≠ ·)) :
    (texts baseline (update :: sent)).IsChain (· ≠ ·) := by
  cases sent with
  | nil => exact List.isChain_pair.2 (Ne.symm hlast)
  | cons before rest => exact List.isChain_cons_cons.2 ⟨Ne.symm hlast, h⟩

/-- Only the conclusion from news sends something or changes what the loop remembers. -/
theorem step_cases (f : WatchedFile) (s : Step) :
    ((f.step s).sent = f.sent ∧ (f.step s).watch.remembered = f.watch.remembered) ∨
      ∃ held update, f.watch.phase = .holding held ∧ f.watch.IsNews held update ∧
        (f.step s).sent = update :: f.sent ∧
        (f.step s).watch.remembered = some update.text := by
  cases s with
  | write bytes => exact .inl ⟨rfl, rfl⟩
  | remove => exact .inl ⟨rfl, rfl⟩
  | deliver => exact .inl ⟨rfl, f.watch.remembered_deliver⟩
  | advance =>
      have hsent : (f.step .advance).sent =
          (f.watch.advance f.content).update.toList ++ f.sent := rfl
      rw [hsent]
      rcases f.watch.advance_cases f.content with
        ⟨hnone, hsame⟩ | ⟨held, update, hphase, hnews, hsome, htext⟩
      · rw [hnone]
        exact .inl ⟨rfl, hsame⟩
      · rw [hsome]
        exact .inr ⟨held, update, hphase, hnews, rfl, htext⟩

theorem covers_step {f : WatchedFile} (h : f.watch.Covers f.content) (s : Step) :
    (f.step s).watch.Covers (f.step s).content := by
  cases s with
  | write bytes => exact Watch.covers_noteChange f.watch (some bytes)
  | remove => exact h.remove
  | deliver => exact h.deliver
  | advance => exact h.advance

/-- What the loop holds after a step it has held before, or the file holds it. -/
theorem holding_step {f : WatchedFile} {s : Step} {held : FileContent}
    (h : (f.step s).watch.phase = .holding held) :
    f.watch.phase = .holding held ∨ held = f.content := by
  cases s with
  | write bytes => exact .inl h
  | remove => exact .inl h
  | deliver => exact .inl (f.watch.phase_deliver.symm.trans h)
  | advance => exact .inr (Watch.holding_advance h)

theorem invariant_start (path : String) (content : FileContent) :
    Invariant (start path content) [] (start path content) where
  remembers := rfl
  changes := List.isChain_singleton _
  covers := Watch.covers_of_remembered rfl rfl
  reads := by
    intro held h
    have hwaiting : WatchPhase.waiting = .holding held := h
    cases hwaiting
  sends := by
    intro update h
    have hnone : update ∈ [] := h
    cases hnone

theorem Invariant.step {origin : WatchedFile} {steps : List Step}
    (h : Invariant origin steps (origin.run steps)) (s : Step) :
    Invariant origin (steps ++ [s]) ((origin.run steps).step s) := by
  have hreads : ∀ held, ((origin.run steps).step s).watch.phase = .holding held →
      origin.Held (steps ++ [s]) held := by
    intro held hphase
    rcases holding_step hphase with hbefore | rfl
    · exact (h.reads held hbefore).concat s
    · exact (held_now origin steps).concat s
  have hsends : ∀ update ∈ (origin.run steps).sent,
      Config.load update.text = .ok update.config ∧
        ∃ content, origin.Held (steps ++ [s]) content ∧
          Watch.readable content = some update.text := by
    intro update hupdate
    obtain ⟨hload, content, hheld, hreadable⟩ := h.sends update hupdate
    exact ⟨hload, content, hheld.concat s, hreadable⟩
  rcases (origin.run steps).step_cases s with
    ⟨hsent, hremembered⟩ | ⟨held, update, hphase, hnews, hsent, hremembered⟩
  · exact
      { remembers := by rw [hsent, hremembered, h.remembers]
        changes := by rw [hsent]; exact h.changes
        covers := covers_step h.covers s
        reads := hreads
        sends := by rw [hsent]; exact hsends }
  · refine
      { remembers := by rw [hsent, hremembered]; rfl
        changes := ?_
        covers := covers_step h.covers s
        reads := hreads
        sends := ?_ }
    · rw [hsent]
      exact isChain_texts_cons (h.remembers ▸ hnews.changed) h.changes
    · rw [hsent]
      intro other hother
      rcases List.mem_cons.1 hother with rfl | hbefore
      · exact ⟨hnews.accepted, held, (h.reads held hphase).concat s, hnews.readable⟩
      · exact hsends other hbefore

/-- The invariant holds after every run, by induction on its last step. -/
theorem invariant_run (path : String) (content : FileContent) (steps : List Step) :
    Invariant (start path content) steps ((start path content).run steps) := by
  induction steps using List.reverseRecOn with
  | nil => exact invariant_start path content
  | append_singleton steps s ih =>
      rw [run_concat]
      exact ih.step s

/-! ## Events without delay -/

/-- Each new content of the file with its event right behind it. -/
def promptly : Step → List Step
  | .write bytes => [.write bytes, .deliver]
  | other => [other]

theorem undelivered_deliver {w : Watch} (h : w.undelivered ≤ 1) : w.deliver.undelivered = 0 := by
  unfold Watch.deliver
  split
  · assumption
  · show w.undelivered - 1 = 0
    omega

theorem undelivered_advance (w : Watch) (content : FileContent) :
    (w.advance content).watch.undelivered = w.undelivered := by
  unfold Watch.advance
  cases w.phase with
  | waiting =>
      dsimp only
      split <;> rfl
  | woken => rfl
  | drained => rfl
  | holding held => exact (w.conclude_counts held).1

/-- Without delay no event is on its way between two happenings. -/
theorem undelivered_run_promptly {f : WatchedFile} (h : f.watch.undelivered = 0)
    (steps : List Step) : (f.run (steps.flatMap promptly)).watch.undelivered = 0 := by
  induction steps generalizing f with
  | nil => exact h
  | cons s rest ih =>
      have hrest : f.run ((s :: rest).flatMap promptly) =
          (f.run (promptly s)).run (rest.flatMap promptly) := by
        rw [List.flatMap_cons, run, List.foldl_append]
        rfl
      rw [hrest]
      apply ih
      cases s with
      | write bytes =>
          refine undelivered_deliver (w := f.watch.noteChange) ?_
          show f.watch.undelivered + 1 ≤ 1
          omega
      | remove => exact h
      | deliver =>
          refine undelivered_deliver (w := f.watch) ?_
          omega
      | advance => exact (undelivered_advance f.watch f.content).trans h

/-! ## Every run -/

/-- A run that started from `origin` has sent what it should and nothing else. -/
structure Faithful (origin : WatchedFile) (steps : List Step) (f : WatchedFile) : Prop where
  /-- Every update is the valid configuration of a text that the file has held. -/
  fromFile : ∀ update ∈ f.sent, Config.load update.text = .ok update.config ∧
    ∃ past, past <+: steps ∧ Watch.readable (origin.run past).content = some update.text
  /-- The text behind an update is not the one before it. -/
  changes : (texts origin.watch.remembered f.sent).IsChain (· ≠ ·)
  /-- No valid text is missed: when no event is queued or on its way, it is the last one sent. -/
  current : f.watch.isSettled = true → ∀ text config, Watch.readable f.content = some text →
    Config.load text = .ok config → lastText origin.watch.remembered f.sent = some text
  /-- An unreadable, unchanged or invalid content changes nothing. -/
  kept : ∀ held, f.watch.phase = .holding held → f.watch.IsIdleEdit held →
    (f.step .advance).sent = f.sent ∧ (f.step .advance).watch.remembered = f.watch.remembered

theorem Invariant.faithful {origin : WatchedFile} {steps : List Step} {f : WatchedFile}
    (h : Invariant origin steps f) : Faithful origin steps f where
  fromFile := by
    intro update hupdate
    obtain ⟨hload, content, ⟨past, hpast, hcontent⟩, hreadable⟩ := h.sends update hupdate
    refine ⟨hload, past, hpast, ?_⟩
    rw [hcontent]
    exact hreadable
  changes := h.changes
  current := by
    intro hsettled text config hreadable hload
    rw [← h.remembers]
    exact h.covers.current hsettled text config hreadable hload
  kept := by
    intro held hphase hidle
    rcases f.step_cases .advance with hkept | ⟨other, update, hother, hnews, -, -⟩
    · exact hkept
    · have heq : held = other := WatchPhase.holding.inj (hphase.symm.trans hother)
      exact absurd (heq ▸ hnews) (hidle.not_isNews update)

/-- **The loop that watches is faithful to its file.** Whatever the file holds at first, however its
changes, their events and the steps of the loop follow each other, the updates are those that they
should be; and where each change queues its event at once, an empty queue is enough for a loop that
waits to be up to date. -/
theorem faithful_run (path : String) (content : FileContent) (steps : List Step) :
    Faithful (start path content) steps ((start path content).run steps) ∧
      (((start path content).run (steps.flatMap promptly)).watch.isIdle = true →
        ((start path content).run (steps.flatMap promptly)).watch.isSettled = true) := by
  refine ⟨(invariant_run path content steps).faithful, fun hidle => ?_⟩
  have hnone : ((start path content).run (steps.flatMap promptly)).watch.undelivered = 0 :=
    undelivered_run_promptly rfl steps
  rw [Watch.isSettled, hidle, hnone]
  rfl

end WatchedFile

end IsolationGate.Lifecycle
