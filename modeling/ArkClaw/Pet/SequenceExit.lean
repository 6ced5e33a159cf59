import ArkClaw.Library.Runs
import ArkClaw.Pet.Track0

/-!
# Graceful exits of a sequence

After a graceful exit was accepted, the runner is fed the callback of each of its steps: a loop boundary for a step that
loops, a completion for another. It leaves the first loop it comes to through the sequence's exit. The constructor of a
sequence asks of the exit only that it is a step; the terminal is reached exactly if no step from the exit on loops.
-/

namespace ArkClaw.Pet

open ArkClaw.Library

namespace PetActionSequence

/-- No step from the loop's exit on loops. -/
def ExitsStraight (sequence : PetActionSequence) : Prop :=
  ∀ exitIndex ∈ sequence.loopExitIndex, ∀ step ∈ sequence.steps.drop exitIndex, step.loop = false

instance (sequence : PetActionSequence) : Decidable sequence.ExitsStraight :=
  inferInstanceAs (Decidable (∀ exitIndex ∈ sequence.loopExitIndex, _))

end PetActionSequence

namespace PetSequenceRunner

variable {r : PetSequenceRunner} {p : RunnerProgress}

/-! ## Runs -/

inductive Operation where
  | start (sequence : PetActionSequence)
  | acceptPlayback (generation : Nat) (logicalAction : PetActionName) (physicalName : String)
      (playbackToken : ObjectId)
  | handleCompletion (event : PlaybackEvent)
  | requestGracefulExit
  | reset

/-- What an operation leaves; one that raises leaves the runner as it is. -/
def operate (r : PetSequenceRunner) : Operation → PetSequenceRunner
  | .start sequence => (start sequence).2
  | .acceptPlayback generation logicalAction physicalName playbackToken =>
    match r.acceptPlayback generation logicalAction physicalName playbackToken with
    | .ok (_, r) => r
    | .error _ => r
  | .handleCompletion event => (r.handleCompletion event).2
  | .requestGracefulExit => r.requestGracefulExit.2
  | .reset => PetSequenceRunner.reset

/-- What the player confirmed is the current step. -/
def Confirmed (r : PetSequenceRunner) : Prop :=
  ∀ epoch ∈ r.confirmedEpoch, ∃ p ∈ r.progress, epoch.logicalAction = p.step.action

/-- Nothing is confirmed yet. -/
theorem confirmed_of_none (h : r.confirmedEpoch = none) : r.Confirmed := by
  intro epoch hepoch
  rw [h] at hepoch
  cases hepoch

theorem leaveLoop_confirmed (h : r.Confirmed) (p : RunnerProgress) : (r.leaveLoop p).2.Confirmed := by
  unfold leaveLoop
  split
  next => exact h
  next => exact confirmed_of_none rfl

theorem nextStep_confirmed (r : PetSequenceRunner) (p : RunnerProgress) : (r.nextStep p).2.Confirmed := by
  unfold nextStep
  split <;> exact confirmed_of_none rfl

theorem handleCompletion_confirmed (h : r.Confirmed) (event : PlaybackEvent) :
    (r.handleCompletion event).2.Confirmed := by
  unfold handleCompletion
  split
  next => exact h
  next p _ =>
    split
    next => exact h
    next =>
      split
      next =>
        split
        next => exact h
        next =>
          split
          next => exact h
          next => exact leaveLoop_confirmed h p
      next =>
        split
        next => exact h
        next => exact nextStep_confirmed r p

theorem operate_confirmed (h : r.Confirmed) (op : Operation) : (operate r op).Confirmed := by
  cases op with
  | start sequence => exact confirmed_of_none rfl
  | acceptPlayback generation logicalAction physicalName playbackToken =>
    unfold operate acceptPlayback
    cases hprogress : r.progress with
    | none => exact h
    | some p =>
      by_cases haction : logicalAction ≠ p.step.action
      · simpa [haction] using h
      · by_cases hname : physicalName ≠ ""
        · simp only [haction, if_false, hname, ne_eq, not_false_eq_true, dite_true]
          intro epoch hepoch
          cases Option.mem_some_iff.mp hepoch
          exact ⟨p, rfl, not_not.mp haction⟩
        · simpa [haction, hname] using h
  | handleCompletion event => exact handleCompletion_confirmed h event
  | requestGracefulExit =>
    show r.requestGracefulExit.2.Confirmed
    unfold requestGracefulExit
    split
    next => exact h
    next =>
      split
      next =>
        split
        next => exact h
        next => split <;> exact h
      next => exact h
  | reset => exact confirmed_of_none rfl

theorem run_confirmed (ops : List Operation) : (run operate {} ops).Confirmed := by
  have hkeeps : ∀ (r : PetSequenceRunner) (op : Operation), r.Confirmed → (operate r op).Confirmed :=
    fun _ op h => operate_confirmed h op
  exact run_invariant hkeeps {} ops (confirmed_of_none rfl)

/-! ## Callbacks -/

/-- How the player confirms a step and reports its end. -/
structure Playback where
  generation : Nat := 0
  physicalName : String
  playbackToken : ObjectId
  boundaryIndex : Option Int := none
  physical_nonempty : physicalName ≠ ""

/-- The current step is confirmed, if it is not yet. -/
def confirm (r : PetSequenceRunner) (p : RunnerProgress) (playback : Playback) : PetSequenceRunner :=
  match r.confirmedEpoch with
  | some _ => r
  | none =>
    match r.acceptPlayback playback.generation p.step.action playback.physicalName playback.playbackToken with
    | .ok (_, r) => r
    | .error _ => r

/-- The callback of the confirmed step: a loop boundary if it loops, a completion otherwise. -/
def matchingEvent (p : RunnerProgress) (epoch : ConfirmedPlaybackEpoch) (boundaryIndex : Option Int) : PlaybackEvent :=
  { generation := epoch.generation, logicalAction := epoch.logicalAction, physicalName := epoch.physicalName
    playbackToken := epoch.playbackToken, loopBoundary := p.step.loop, boundaryIndex }

/-- The current step is confirmed, and its callback is handled. -/
def feed (r : PetSequenceRunner) (playback : Playback) : Option RunnerDirective × PetSequenceRunner :=
  match r.progress with
  | none => (none, r)
  | some p =>
    match (r.confirm p playback).confirmedEpoch with
    | none => (none, r)
    | some epoch => (r.confirm p playback).handleCompletion (matchingEvent p epoch playback.boundaryIndex)

/-- The callbacks lead to the terminal, and no advance is refused before. -/
def ReachesTerminal (r : PetSequenceRunner) : List Playback → Prop
  | [] => False
  | playback :: playbacks =>
    (∀ directive ∈ (r.feed playback).1, directive.outcome ≠ .invalidSequence) ∧
      ((∃ directive ∈ (r.feed playback).1, directive.terminal.isSome = true) ∨
        ReachesTerminal (r.feed playback).2 playbacks)

/-- A confirmed step stays the current one. -/
theorem confirm_spec (h : r.Confirmed) (hp : r.progress = some p) (playback : Playback) :
    (r.confirm p playback).progress = some p ∧
      (r.confirm p playback).pendingGracefulExit = r.pendingGracefulExit ∧
      ∃ epoch, (r.confirm p playback).confirmedEpoch = some epoch ∧ epoch.logicalAction = p.step.action := by
  unfold confirm
  cases hepoch : r.confirmedEpoch with
  | some epoch =>
    obtain ⟨q, hq, haction⟩ := h epoch hepoch
    rw [hp] at hq
    cases Option.mem_some_iff.mp hq
    exact ⟨hp, rfl, epoch, hepoch, haction⟩
  | none =>
    unfold acceptPlayback
    simp only [hp, ne_eq, not_true_eq_false, if_false, playback.physical_nonempty, not_false_eq_true, dite_true]
    exact ⟨trivial, trivial, _, rfl, rfl⟩

/-- The callback of the current step is taken for what it is. -/
theorem feed_eq (h : r.Confirmed) (hp : r.progress = some p) (playback : Playback) : r.feed playback =
      if p.step.loop then
        if r.pendingGracefulExit then
          (some ((r.confirm p playback).leaveLoop p).1, ((r.confirm p playback).leaveLoop p).2)
        else (none, r.confirm p playback)
      else (some ((r.confirm p playback).nextStep p).1, ((r.confirm p playback).nextStep p).2) := by
  obtain ⟨hprogress, hpending, epoch, hepoch, haction⟩ := confirm_spec h hp playback
  have hmatches : (r.confirm p playback).eventMatchesCurrentEpoch (matchingEvent p epoch playback.boundaryIndex)
      = true := by
    unfold eventMatchesCurrentEpoch
    rw [hepoch, hprogress]
    simp [matchingEvent, haction]
  unfold feed
  rw [hp]
  simp only
  rw [hepoch]
  simp only
  unfold handleCompletion
  rw [hprogress]
  simp only [hmatches, hpending]
  cases hloop : p.step.loop <;> cases hexit : r.pendingGracefulExit <;> simp [matchingEvent, hloop]

/-! ## On the way to the terminal -/

/-- A step at or after the current one loops. -/
def LoopsAhead (p : RunnerProgress) : Prop := ∃ step ∈ p.sequence.steps.drop p.currentIndex, step.loop = true

theorem drop_current (p : RunnerProgress) :
    p.sequence.steps.drop p.currentIndex = p.step :: p.sequence.steps.drop (p.currentIndex + 1) :=
  List.drop_eq_getElem_cons p.in_range

/-- The loop is behind a step that does not loop. -/
theorem LoopsAhead.later (h : LoopsAhead p) (hloop : p.step.loop = false) :
    ∃ step ∈ p.sequence.steps.drop (p.currentIndex + 1), step.loop = true := by
  obtain ⟨step, hmem, hstep⟩ := h
  rw [drop_current p] at hmem
  rcases List.mem_cons.mp hmem with hthis | hlater
  · rw [hthis, hloop] at hstep
    cases hstep
  · exact ⟨step, hlater, hstep⟩

/-- A step that does not loop: the next one, or the terminal. -/
theorem feed_once (h : r.Confirmed) (hp : r.progress = some p) (hloop : p.step.loop = false) (playback : Playback) :
    ((∃ directive, (r.feed playback).1 = some directive ∧ directive.outcome = .accepted ∧
        directive.terminal = some p.sequence.terminal) ∧ p.currentIndex + 1 = p.sequence.steps.length) ∨
      ∃ next : RunnerProgress, next.sequence = p.sequence ∧ next.currentIndex = p.currentIndex + 1 ∧
        (r.feed playback).2.progress = some next ∧
        (r.feed playback).2.pendingGracefulExit = r.pendingGracefulExit ∧ (r.feed playback).2.Confirmed ∧
        ∃ directive, (r.feed playback).1 = some directive ∧ directive.outcome = .accepted ∧ directive.terminal = none := by
  have hconfirmed := nextStep_confirmed (r.confirm p playback) p
  have hpending := (confirm_spec h hp playback).2.1
  rw [feed_eq h hp, hloop, if_neg Bool.false_ne_true]
  unfold nextStep at hconfirmed ⊢
  split
  next hin =>
    rw [dif_pos hin] at hconfirmed
    exact .inr ⟨{ p with currentIndex := p.currentIndex + 1, in_range := hin }, rfl, rfl, rfl, hpending, hconfirmed, _,
      rfl, rfl, rfl⟩
  next hout => exact .inl ⟨⟨_, rfl, rfl, rfl⟩, by have := p.in_range; omega⟩

/-- A loop with a graceful exit pending is left through the exit. -/
theorem feed_exit (h : r.Confirmed) (hp : r.progress = some p) (hloop : p.step.loop = true)
    (hpending : r.pendingGracefulExit = true) {exitIndex : Nat} (hexit : p.sequence.loopExitIndex = some exitIndex)
    (playback : Playback) :
    ∃ next : RunnerProgress, next.sequence = p.sequence ∧ next.currentIndex = exitIndex ∧
      (r.feed playback).2.progress = some next ∧ (r.feed playback).2.pendingGracefulExit = false ∧
      (r.feed playback).2.Confirmed ∧
      ∃ directive, (r.feed playback).1 = some directive ∧ directive.outcome = .accepted ∧ directive.terminal = none := by
  rw [feed_eq h hp, hloop, if_pos rfl, hpending, if_pos rfl]
  unfold leaveLoop
  split
  next hnone =>
    rw [hexit] at hnone
    cases hnone
  next exitIndex' hsome =>
    rw [hexit] at hsome
    cases hsome
    exact ⟨{ p with currentIndex := exitIndex, in_range := p.sequence.exit_in_range exitIndex hexit }, rfl, rfl, rfl,
      rfl, confirmed_of_none rfl, _, rfl, rfl, rfl⟩

/-- A loop that is not left goes on. -/
theorem feed_loop (h : r.Confirmed) (hp : r.progress = some p) (hloop : p.step.loop = true)
    (hpending : r.pendingGracefulExit = false) (playback : Playback) :
    (r.feed playback).1 = none ∧ (r.feed playback).2.progress = some p ∧
      (r.feed playback).2.pendingGracefulExit = false ∧ (r.feed playback).2.Confirmed := by
  obtain ⟨hprogress, hstill, epoch, hepoch, haction⟩ := confirm_spec h hp playback
  rw [feed_eq h hp, hloop, if_pos rfl, hpending, if_neg Bool.false_ne_true]
  refine ⟨rfl, hprogress, hstill.trans hpending, fun epoch' hepoch' => ?_⟩
  rw [hepoch] at hepoch'
  cases Option.mem_some_iff.mp hepoch'
  exact ⟨p, hprogress, haction⟩

/-- An advance that is accepted, towards the terminal. -/
theorem ReachesTerminal.of_advance {playback : Playback} {playbacks : List Playback} {directive : RunnerDirective}
    (hdirective : (r.feed playback).1 = some directive) (haccepted : directive.outcome = .accepted)
    (h : directive.terminal.isSome = true ∨ ReachesTerminal (r.feed playback).2 playbacks) :
    ReachesTerminal r (playback :: playbacks) := by
  refine ⟨fun d hd => ?_, h.imp_left fun hterminal => ⟨directive, hdirective, hterminal⟩⟩
  rw [hdirective] at hd
  cases Option.mem_some_iff.mp hd
  rw [haccepted]
  nofun

/-- An advance that is not the last. -/
theorem reachesTerminal_advance {playback : Playback} {playbacks : List Playback}
    (hnone : ∀ directive ∈ (r.feed playback).1, directive.terminal = none)
    (h : ReachesTerminal r (playback :: playbacks)) : ReachesTerminal (r.feed playback).2 playbacks := by
  refine h.2.resolve_left ?_
  rintro ⟨directive, hmem, hterminal⟩
  rw [hnone directive hmem] at hterminal
  cases hterminal

/-- Without a loop ahead each callback is an advance. -/
theorem reaches_straight (playbacks : List Playback) : ∀ {r : PetSequenceRunner} {p : RunnerProgress}, r.Confirmed →
    r.progress = some p → ¬LoopsAhead p → p.sequence.steps.length ≤ p.currentIndex + playbacks.length →
    ReachesTerminal r playbacks := by
  induction playbacks with
  | nil =>
    intro r p _ _ _ hlength
    exact absurd p.in_range (Nat.not_lt.mpr hlength)
  | cons playback playbacks ih =>
    intro r p h hp hstraight hlength
    have hloop : p.step.loop = false := by
      by_contra hthis
      exact hstraight ⟨p.step, drop_current p ▸ List.mem_cons_self, Bool.not_eq_false _ ▸ hthis⟩
    rcases feed_once h hp hloop playback with ⟨⟨directive, hdirective, haccepted, hterminal⟩, _⟩ |
      ⟨next, hsequence, hindex, hprogress, _, hconfirmed, directive, hdirective, haccepted, _⟩
    · exact .of_advance hdirective haccepted (.inl (by rw [hterminal]; rfl))
    · refine .of_advance hdirective haccepted (.inr (ih hconfirmed hprogress ?_ ?_))
      · rintro ⟨step, hmem, hstep⟩
        rw [hsequence, hindex] at hmem
        exact hstraight ⟨step, drop_current p ▸ List.mem_cons_of_mem _ hmem, hstep⟩
      · rw [List.length_cons] at hlength
        rw [hsequence, hindex]
        omega

/-- Up to the loop, through the exit, and straight on. The exit lies behind the loop, so that every advance is counted
against a step of its own. -/
theorem reaches_armed (playbacks : List Playback) : ∀ {r : PetSequenceRunner} {p : RunnerProgress} {exitIndex : Nat},
    r.Confirmed → r.progress = some p → r.pendingGracefulExit = true → LoopsAhead p →
    p.sequence.loopExitIndex = some exitIndex → p.sequence.ExitsStraight →
    p.sequence.steps.length ≤ p.currentIndex + playbacks.length → ReachesTerminal r playbacks := by
  induction playbacks with
  | nil =>
    intro r p _ _ _ _ _ _ _ hlength
    exact absurd p.in_range (Nat.not_lt.mpr hlength)
  | cons playback playbacks ih =>
    intro r p exitIndex h hp hpending hahead hexit hstraight hlength
    rw [List.length_cons] at hlength
    cases hloop : p.step.loop with
    | true =>
      obtain ⟨next, hsequence, hindex, hprogress, _, hconfirmed, directive, hdirective, haccepted, _⟩ :=
        feed_exit h hp hloop hpending hexit playback
      have hbehind : p.currentIndex < exitIndex := by
        by_contra hbefore
        have hmem : p.step ∈ p.sequence.steps.drop exitIndex := by
          have hsub := List.drop_subset_drop_left p.sequence.steps (Nat.not_lt.mp hbefore)
          exact hsub (drop_current p ▸ List.mem_cons_self)
        rw [hstraight exitIndex hexit p.step hmem] at hloop
        cases hloop
      refine .of_advance hdirective haccepted (.inr (reaches_straight playbacks hconfirmed hprogress ?_ ?_))
      · rintro ⟨step, hmem, hstep⟩
        rw [hsequence, hindex] at hmem
        rw [hstraight exitIndex hexit step hmem] at hstep
        cases hstep
      · rw [hsequence, hindex]
        omega
    | false =>
      obtain ⟨step, hlater, hstep⟩ := hahead.later hloop
      rcases feed_once h hp hloop playback with ⟨_, hlast⟩ |
        ⟨next, hsequence, hindex, hprogress, hstill, hconfirmed, directive, hdirective, haccepted, _⟩
      · rw [hlast, List.drop_length] at hlater
        cases hlater
      · refine .of_advance hdirective haccepted (.inr (ih hconfirmed hprogress (hstill.trans hpending)
          ⟨step, by rw [hsequence, hindex]; exact hlater, hstep⟩ (hsequence ▸ hexit) (hsequence ▸ hstraight) ?_))
        rw [hsequence, hindex]
        omega

/-- A loop ahead is never left unless an exit is pending. -/
theorem stays_in_loop (playbacks : List Playback) : ∀ {r : PetSequenceRunner} {p : RunnerProgress}, r.Confirmed →
    r.progress = some p → r.pendingGracefulExit = false → LoopsAhead p → ¬ReachesTerminal r playbacks := by
  induction playbacks with
  | nil => exact fun _ _ _ _ h => h
  | cons playback playbacks ih =>
    intro r p h hp hpending hahead hreaches
    cases hloop : p.step.loop with
    | true =>
      obtain ⟨hnone, hprogress, hstill, hconfirmed⟩ := feed_loop h hp hloop hpending playback
      refine ih hconfirmed hprogress hstill hahead (reachesTerminal_advance (fun directive hmem => ?_) hreaches)
      rw [hnone] at hmem
      cases hmem
    | false =>
      obtain ⟨step, hlater, hstep⟩ := hahead.later hloop
      rcases feed_once h hp hloop playback with ⟨_, hlast⟩ |
        ⟨next, hsequence, hindex, hprogress, hstill, hconfirmed, directive, hdirective, _, hterminal⟩
      · rw [hlast, List.drop_length] at hlater
        cases hlater
      · refine ih hconfirmed hprogress (hstill.trans hpending) ⟨step, by rw [hsequence, hindex]; exact hlater, hstep⟩
          (reachesTerminal_advance (fun d hd => ?_) hreaches)
        rw [hdirective] at hd
        cases Option.mem_some_iff.mp hd
        exact hterminal

/-- With a loop from the exit on, the way leads into a loop that is not left. -/
theorem never_from_exit (playbacks : List Playback) : ∀ {r : PetSequenceRunner} {p : RunnerProgress} {exitIndex : Nat},
    r.Confirmed → r.progress = some p → r.pendingGracefulExit = true → LoopsAhead p →
    p.sequence.loopExitIndex = some exitIndex → (∃ step ∈ p.sequence.steps.drop exitIndex, step.loop = true) →
    ¬ReachesTerminal r playbacks := by
  induction playbacks with
  | nil => exact fun _ _ _ _ _ _ h => h
  | cons playback playbacks ih =>
    intro r p exitIndex h hp hpending hahead hexit hloops hreaches
    cases hloop : p.step.loop with
    | true =>
      obtain ⟨next, hsequence, hindex, hprogress, hstill, hconfirmed, directive, hdirective, _, hterminal⟩ :=
        feed_exit h hp hloop hpending hexit playback
      have hnext : LoopsAhead next := by
        unfold LoopsAhead
        rw [hsequence, hindex]
        exact hloops
      refine stays_in_loop playbacks hconfirmed hprogress hstill hnext
        (reachesTerminal_advance (fun d hd => ?_) hreaches)
      rw [hdirective] at hd
      cases Option.mem_some_iff.mp hd
      exact hterminal
    | false =>
      obtain ⟨step, hlater, hstep⟩ := hahead.later hloop
      rcases feed_once h hp hloop playback with ⟨_, hlast⟩ |
        ⟨next, hsequence, hindex, hprogress, hstill, hconfirmed, directive, hdirective, _, hterminal⟩
      · rw [hlast, List.drop_length] at hlater
        cases hlater
      · refine ih hconfirmed hprogress (hstill.trans hpending) ⟨step, by rw [hsequence, hindex]; exact hlater, hstep⟩
          (hsequence ▸ hexit) (hsequence ▸ hloops) (reachesTerminal_advance (fun d hd => ?_) hreaches)
        rw [hdirective] at hd
        cases Option.mem_some_iff.mp hd
        exact hterminal

/-- An accepted exit is pending before a loop, and the sequence has an exit. -/
theorem accepted_exit (hp : r.progress = some p) (h : r.requestGracefulExit.1 = .accepted) :
    r.requestGracefulExit.2 = { r with pendingGracefulExit := true } ∧ LoopsAhead p ∧
      ∃ exitIndex, p.sequence.loopExitIndex = some exitIndex := by
  unfold requestGracefulExit at h ⊢
  rw [hp] at h ⊢
  simp only at h ⊢
  split at h
  next loopIndex exitIndex hindex hexit =>
    split at h
    next => cases h
    next hbefore =>
      rw [if_neg hbefore]
      split at h
      next => cases h
      next hfirst =>
        rw [if_neg hfirst]
        refine ⟨rfl, ?_, exitIndex, hexit⟩
        have hloops := p.sequence.loop_loops loopIndex hindex
        obtain ⟨step, hstep, hloop⟩ : ∃ step, p.sequence.steps[loopIndex]? = some step ∧ step.loop = true := by
          cases hstep : p.sequence.steps[loopIndex]? with
          | none =>
            rw [hstep] at hloops
            cases hloops
          | some step =>
            rw [hstep] at hloops
            exact ⟨step, rfl, hloops⟩
        refine ⟨step, ?_, hloop⟩
        obtain ⟨hlt, hget⟩ := List.getElem?_eq_some_iff.mp hstep
        rw [← hget]
        exact List.mem_drop_iff_getElem.mpr ⟨loopIndex - p.currentIndex, by omega, by congr 1; omega⟩
  next => cases h

/-- In every run of the runner: after a graceful exit was accepted, the callbacks of the confirmed steps reach the
terminal, in no more advances than the sequence has steps and none of them refused, exactly if no step from the exit on
loops. -/
theorem graceful_exit_reaches_iff (ops : List Operation) {p : RunnerProgress}
    (hp : (run operate {} ops).progress = some p) (haccepted : (run operate {} ops).requestGracefulExit.1 = .accepted)
    {playbacks : List Playback} (hlength : p.sequence.steps.length ≤ playbacks.length) :
    ReachesTerminal (run operate {} ops).requestGracefulExit.2 playbacks ↔ p.sequence.ExitsStraight := by
  obtain ⟨hrequested, hahead, exitIndex, hexit⟩ := accepted_exit hp haccepted
  have hconfirmed : (run operate {} ops).requestGracefulExit.2.Confirmed :=
    operate_confirmed (run_confirmed ops) .requestGracefulExit
  have hprogress : (run operate {} ops).requestGracefulExit.2.progress = some p := by
    rw [hrequested]
    exact hp
  have hpending : (run operate {} ops).requestGracefulExit.2.pendingGracefulExit = true := by
    rw [hrequested]
  constructor
  · intro hreaches exitIndex' hexit' step hmem
    by_contra hloop
    rw [hexit] at hexit'
    cases Option.mem_some_iff.mp hexit'
    exact never_from_exit playbacks hconfirmed hprogress hpending hahead hexit
      ⟨step, hmem, Bool.not_eq_false _ ▸ hloop⟩ hreaches
  · intro hstraight
    exact reaches_armed playbacks hconfirmed hprogress hpending hahead hexit hstraight (by omega)

/-- The player confirms under the name of Relax. -/
def relaxPlayback : Playback := { physicalName := "idle", playbackToken := .given 0, physical_nonempty := by decide }

theorem graceful_exit_reaches_iff_sit :
    ReachesTerminal (run operate {} [.start (sequenceCatalog .sit).sequence]).requestGracefulExit.2
      (List.replicate 3 relaxPlayback) :=
  (graceful_exit_reaches_iff [.start (sequenceCatalog .sit).sequence] rfl rfl (by decide)).mpr (by decide)

/-- A loop that is its own exit. -/
def exitsToItself : PetActionSequence :=
  { steps := [ArkClaw.Pet.step .idle true], loopIndex := some 0, loopExitIndex := some 0 }

/-- The exit of a loop that is its own exit is accepted, and the terminal is never reached. -/
theorem exit_to_itself : (run operate {} [.start exitsToItself]).requestGracefulExit.1 = .accepted ∧
      ∀ playbacks, ¬ReachesTerminal (run operate {} [.start exitsToItself]).requestGracefulExit.2 playbacks := by
  refine ⟨rfl, fun playbacks => ?_⟩
  have hloops : ∃ step ∈ exitsToItself.steps.drop 0, step.loop = true := ⟨_, List.mem_cons_self, rfl⟩
  exact never_from_exit (p := RunnerProgress.first exitsToItself) playbacks (confirmed_of_none rfl) rfl rfl hloops rfl hloops

end PetSequenceRunner

end ArkClaw.Pet
