import ArkClaw.Pet.EngineClosing
import ArkClaw.Pet.EngineTrack

/-!
# The callback a playback waits for

A callback that completes the confirmed step begins another generation: the next step, the exit, or what the
engine lets follow the end of the sequence. Two callbacks do not: one the scheduler takes for a boundary of the
loop it watches, and the end of a protected playback after which nothing can play. No callback queues anything.
-/

namespace ArkClaw.Pet

open ArkClaw.Library

namespace PetTrack0Controller

section

variable {env : Track0Env} {c : PetTrack0Controller} {request : ActionRequest} {p : RunnerProgress}
  {event : PlaybackEvent}

/-- A play that is not refused beforehand begins a generation. -/
theorem play_moves (hfree : c.activeRequest = none) (hpre : (preflight env request).outcome = .accepted) :
    Wp (play env request) (fun _ c' => c.generation < c'.generation) (fun _ c' => NoYounger c c') c := by
  obtain ⟨hentry, _⟩ := durations_of_preflight hpre
  simp only [play, wp_bind, wp_modify, wp_get, hfree, Option.isSome_none, Bool.false_eq_true, if_false, hpre, hentry,
    PetSequenceRunner.start, playDirective]
  exact (playStep_moves _).mono (fun _ _ h => h.2) (fun _ _ h => ⟨h.1, Nat.le_of_lt h.2⟩)

/-- A completing callback begins the generation of the step that follows, unless the sequence ends there. -/
theorem Completes.moves (hc : Completes c event) (h : Playing env c request p)
    (hends : ¬(p.step.loop = false ∧ p.currentIndex + 1 = p.sequence.steps.length))
    (continuation : Option ActionRequest) :
    Wp (handleCompletion env event continuation) (fun _ c' => c.generation < c'.generation)
      (fun _ c' => c.generation < c'.generation) c := by
  obtain ⟨hmatches, q, hq, hkind, hpending⟩ := hc
  obtain rfl : p = q := Option.some.inj (h.progress.symm.trans hq)
  unfold Matches at hmatches
  cases hl : p.step.loop with
  | true =>
    have hb : event.loopBoundary = true := hkind ▸ hl
    have hpending := hpending hl
    obtain ⟨_, _, hexit, _⟩ := h.pending hpending
    obtain ⟨exitIndex, hexit⟩ := Option.isSome_iff_exists.mp hexit
    have hleave : ∃ next : RunnerProgress, c.runner.leaveLoop p =
        ({ outcome := .accepted, nextIndex := some exitIndex, step := some next.step },
          { progress := some next }) := by
      unfold PetSequenceRunner.leaveLoop
      split
      next hnone => rw [hexit] at hnone; cases hnone
      next i hi =>
        obtain rfl : exitIndex = i := by rw [hexit] at hi; exact Option.some.inj hi
        exact ⟨_, rfl⟩
    obtain ⟨next, hleave⟩ := hleave
    have hrunner : c.runner.handleCompletion event =
        (some { outcome := .accepted, nextIndex := some exitIndex, step := some next.step },
          { progress := some next }) := by
      simp only [PetSequenceRunner.handleCompletion, h.progress, hmatches, hl, hb, hpending, hleave, Bool.not_true,
        Bool.false_eq_true, if_false, if_true]
    exact handleCompletion_moves hrunner rfl rfl h.active
  | false =>
    have hb : event.loopBoundary = false := hkind ▸ hl
    have hnext : p.currentIndex + 1 < p.sequence.steps.length :=
      Nat.lt_of_le_of_ne p.in_range fun hlast => hends ⟨hl, hlast⟩
    let next : RunnerProgress := { p with currentIndex := p.currentIndex + 1, in_range := hnext }
    have hrunner : c.runner.handleCompletion event =
        (some { outcome := .accepted, nextIndex := some (p.currentIndex + 1), step := some next.step },
          { c.runner with progress := some next, confirmedEpoch := none }) := by
      simp only [PetSequenceRunner.handleCompletion, PetSequenceRunner.nextStep, h.progress, hmatches, hl, hb,
        dif_pos hnext, Bool.not_true, Bool.false_eq_true, if_false]
      rfl
    exact handleCompletion_moves hrunner rfl rfl h.active

end

end PetTrack0Controller

namespace PetAnimationEngine

open PetTrack0Controller (Onward NoYounger Completes)
open PetTrack0Controller (Stopped wp_clear play_moves)

/-! ## The queue behind a protected playback -/

/-- Nothing waits behind the playback. -/
def Free (e : PetAnimationEngine) : Prop := e.pendingExplicitAction = none ∧ e.resumeAfterProtected = false

/-- A free queue stays free. -/
def KeepsFree (e e' : PetAnimationEngine) : Prop := Free e → Free e'

instance : Std.Refl KeepsFree := ⟨fun _ => id⟩

instance : Trans KeepsFree KeepsFree KeepsFree := ⟨fun h h' hf => h' (h hf)⟩

section

variable {env : EngineEnv} {t0 : Track0Env} {α : Type}

theorem free_frame {f : PetAnimationEngine → PetAnimationEngine} (h : ∀ e, KeepsFree e (f e)) :
    Follows KeepsFree (modify f : Program PetAnimationEngine Unit) := .modify h

theorem onTrack0_free (c : Program PetTrack0Controller α) : Follows KeepsFree (onTrack0 c) := fun _ =>
  wp_onTrack0.mpr (wp_trivial c (fun _ _ h => h) (fun _ _ h => h))

theorem onMotion_free (c : Program PetMotionModel α) : Follows KeepsFree (onMotion c) := fun _ =>
  wp_onMotion.mpr (wp_trivial c (fun _ _ h => h) (fun _ _ h => h))

theorem onRandom_free (c : Program Nat α) : Follows KeepsFree (onRandom c) := fun _ =>
  wp_onRandom.mpr (wp_trivial c (fun _ _ h => h) (fun _ _ h => h))

theorem newObject_free : Follows KeepsFree newObject := fun _ h => h

theorem setMode_free (mode : AutonomousExecutionMode) : Follows KeepsFree (setMode mode) := fun _ h => h

theorem clearProtectedContinuation_free : Follows KeepsFree clearProtectedContinuation := fun _ _ => ⟨rfl, rfl⟩

theorem propose_free (change : StateChange) : Follows KeepsFree (propose change) := .get fun _ => .getOrRaise _

theorem assertTransactionCompatible_free : Follows KeepsFree assertTransactionCompatible :=
  (onMotion_free _).bind fun _ => .get fun _ => .getOrRaise _

theorem playOrCancel_free (reason : CancelReason) (mode : Option CancellationMode) (request : ActionRequest) :
    Follows KeepsFree (playOrCancel t0 reason mode request) := by
  refine .get fun e => ?_
  split
  next => exact onTrack0_free _
  next =>
    cases mode with
    | none => exact .pure _
    | some mode => exact onTrack0_free _

theorem carryOutIntent_free (intent : ActionIntent) (proposal : ProposedStateTransition) (request : ActionRequest)
    (mode : Option CancellationMode) : Follows KeepsFree (carryOutIntent t0 intent proposal request mode) := by
  have hassert : ∀ o : ActionOutcome, Follows KeepsFree (do assertTransactionCompatible; return o) :=
    fun o => assertTransactionCompatible_free.bind fun _ => .pure _
  have hfail : ∀ o, Follows KeepsFree (failIntent intent o) := by
    intro o
    unfold failIntent
    refine .bind (free_frame fun _ h => h) fun _ => ?_
    dsimp only
    split
    next => exact (propose_free _).bind fun _ => (onMotion_free _).bind fun _ => hassert o
    next => exact hassert o
  have hsettle : Follows KeepsFree (settleIntent intent) := by
    unfold settleIntent
    refine .bind (free_frame fun _ h => h) fun _ => ?_
    dsimp only
    split
    next => exact (setMode_free _).bind fun _ => hassert _
    next =>
      split
      next => exact (setMode_free _).bind fun _ => hassert _
      next => exact .bind (free_frame fun _ h => h) fun _ => hassert _
  have hrest : Follows KeepsFree (do
      commit proposal
      let outcome ← playOrCancel t0 .userInterrupt mode request
      if outcome ≠ .accepted then failIntent intent outcome else settleIntent intent) := by
    refine (onMotion_free _).bind fun _ => (playOrCancel_free _ _ _).bind fun outcome => ?_
    split
    next => exact hfail outcome
    next => exact hsettle
  unfold carryOutIntent
  dsimp only
  split
  next => exact clearProtectedContinuation_free.bind fun _ => hrest
  next => exact hrest

/-- Only an explicit intent is queued. -/
theorem submitProductionIntent_free {intent : ActionIntent} (horigin : intent.origin ≠ .explicit)
    (facing : Option PetFacing) : Follows KeepsFree (submitProductionIntent t0 intent facing) := by
  have hadmit : ∀ override, Follows KeepsFree (admitIntent t0 intent facing override) := by
    intro override
    unfold admitIntent
    refine (propose_free _).bind fun proposal => .bind (.getOrRaise _) fun request => .get fun e => ?_
    dsimp only
    split
    next => exact .pure _
    next =>
      split
      next => exact .pure _
      next =>
        split
        next => exact carryOutIntent_free _ _ _ _
        next =>
          refine .bind ((onMotion_free _).bind fun _ => .get fun _ => .pure _) fun context => .get fun e => ?_
          split
          next => exact .pure _
          next => exact carryOutIntent_free _ _ _ _
  unfold submitProductionIntent
  refine .get fun e => ?_
  dsimp only
  split
  next => exact clearProtectedContinuation_free.bind fun _ => .pure _
  next =>
    split
    next =>
      unfold queueIntent
      rw [dif_neg horigin]
      exact .pure _
    next =>
      split
      next => exact .bind (free_frame fun _ h => ⟨h.1, rfl⟩) fun _ => .pure _
      next => exact hadmit _

theorem Bookkeeps.keepsFree {e e' : PetAnimationEngine} (h : Bookkeeps e e') : KeepsFree e e' := by
  obtain ⟨_, _, _, _, _, rfl⟩ := h
  exact id

theorem activateAutonomous_free (action : ProductionAction) :
    Follows KeepsFree (activateAutonomous env action) :=
  (activateAutonomous_bookkeeps action).mono fun _ _ => Bookkeeps.keepsFree

theorem settleAutonomous_free (action : ProductionAction) (outcome : ActionOutcome) :
    Follows KeepsFree (settleAutonomous env action outcome) :=
  (settleAutonomous_bookkeeps action outcome).mono fun _ _ => Bookkeeps.keepsFree

theorem recoverAutonomousRelax_free (facing : Option PetFacing) :
    Follows KeepsFree (recoverAutonomousRelax env t0 facing) :=
  newObject_free.bind fun _ => (submitProductionIntent_free (fun h => by cases h) _).bind fun _ =>
    (settleAutonomous_free _ _).bind fun _ => .pure _

/-- Behind a free queue a protected playback is followed by the autonomous Relax. -/
theorem continueAfterProtected_free (facing : Option PetFacing) :
    Follows KeepsFree (continueAfterProtected env t0 facing) := by
  intro e
  by_cases hfree : Free e
  · unfold continueAfterProtected
    refine wp_get_bind.mpr ?_
    refine wp_bind.mpr (wp_clearProtectedContinuation.mpr ?_)
    refine wp_modify_bind.mpr ?_
    rw [hfree.1]
    exact (recoverAutonomousRelax_free facing _).mono (fun _ _ h _ => h ⟨rfl, rfl⟩) (fun _ _ h _ => h ⟨rfl, rfl⟩)
  · exact wp_trivial _ (fun _ _ h => absurd h hfree) (fun _ _ h => absurd h hfree)

/-- The scheduler's own proposals are autonomous. -/
theorem handleAutonomousBoundary_free (event : PlaybackEvent) (boundaryIndex : Int) :
    Follows KeepsFree (handleAutonomousBoundary env t0 event boundaryIndex) := by
  intro e
  simp only [handleAutonomousBoundary, wp_bind, wp_get]
  cases e.autonomousSchedulerState with
  | none => exact id
  | some state =>
    dsimp only
    split
    next => exact id
    next =>
      simp only [wp_bind, wp_readClock, wp_getOrRaise, wp_newObject, wp_get, wp_onRandom, wp_modify]
      refine ⟨fun boundary _ => ?_, fun _ _ => id⟩
      refine (evaluate_spec _ _ _ _ _ _).mono (fun decision draws hdecision => ?_) (fun _ _ _ => id)
      cases hintent : decision.intent with
      | none => exact ((onTrack0_free _).map _) _
      | some intent =>
        have horigin : intent.origin ≠ .explicit := by
          rw [hdecision.2.2 intent hintent]
          decide
        have hproposal : Follows KeepsFree (submitProposal env t0 decision intent (env.clock e.clockReadings)) :=
          (submitProductionIntent_free horigin none).bind fun outcome => .get fun e' =>
            (onRandom_free _).bind fun _ => .bind (free_frame fun _ h => h) fun _ => .pure _
        exact (hproposal.map _) _

theorem commitReturnIdle_free (event : PlaybackEvent) : Follows KeepsFree (commitReturnIdle event) := by
  have hassert : ∀ x : Except PetError Unit, Follows KeepsFree (getOrRaise x) := fun x => .getOrRaise x
  unfold commitReturnIdle
  refine .get fun e => ?_
  split
  next => exact .pure _
  next =>
    refine (propose_free _).bind fun proposal => (hassert _).bind fun _ => ?_
    cases e.track0.activeRequest with
    | none => exact .pure _
    | some active => exact (onMotion_free _).bind fun _ => .pure _

theorem startIdleAfterTerminal_free : Follows KeepsFree (startIdleAfterTerminal t0) := by
  unfold startIdleAfterTerminal
  refine newObject_free.bind fun token => .get fun e => .bind (.getOrRaise _) fun request => ?_
  split
  next => exact onTrack0_free _
  next => exact onTrack0_free _

theorem continueAfterRecovery_free : Follows KeepsFree (continueAfterRecovery env t0) := by
  refine (onTrack0_free _).bind fun answer => ?_
  split
  next => exact recoverAutonomousRelax_free _
  next => exact (setMode_free _).bind fun _ => .pure _

/-- What returns to idle after the end of a sequence. -/
theorem idleAfter_free (reachesIdle : Bool) (outcome : ActionOutcome) : Follows KeepsFree
    (if outcome = ActionOutcome.accepted ∧ reachesIdle = true then startIdleAfterTerminal t0 else pure outcome) := by
  split
  next => exact startIdleAfterTerminal_free
  next => exact .pure _

theorem followCompletion_free (completesProtected completesRecovery reachesIdle : Bool)
    (facing : Option PetFacing) (completed : ActionOutcome) : Follows KeepsFree
      (followCompletion env t0 completesProtected completesRecovery reachesIdle facing completed) := by
  unfold followCompletion
  dsimp only
  split
  next => exact (continueAfterProtected_free facing).bind (idleAfter_free reachesIdle)
  next =>
    split
    next => exact continueAfterRecovery_free.bind (idleAfter_free reachesIdle)
    next => exact .bind (.pure _) (idleAfter_free reachesIdle)

/-- No callback queues anything. -/
theorem handlePlaybackEvent_free (event : PlaybackEvent) (facing : Option PetFacing) :
    Follows KeepsFree (handlePlaybackEvent env event facing) := by
  unfold handlePlaybackEvent
  cases env.track0 with
  | none => exact .pure _
  | some t0 =>
    have hadvances : Follows KeepsFree (advanceSequence env t0 event facing) := by
      unfold advanceSequence
      refine .get fun e => (commitReturnIdle_free event).bind fun continuation => ?_
      cases continuation with
      | none => exact .pure _
      | some continuation =>
        refine .get fun e' => (onTrack0_free _).bind fun completed => ?_
        refine (followCompletion_free _ _ _ _ _).bind fun outcome => ?_
        exact assertTransactionCompatible_free.bind fun _ => .pure _
    refine .get fun e => ?_
    dsimp only
    split
    next => exact (onTrack0_free _).bind fun _ => assertTransactionCompatible_free.bind fun _ => .pure _
    next =>
      split
      next =>
        exact (handleAutonomousBoundary_free _ _).bindOption hadvances
          fun _ => assertTransactionCompatible_free.bind fun _ => .pure _
      next => exact .bindOption (.pure _) hadvances fun _ => assertTransactionCompatible_free.bind fun _ => .pure _

end

/-! ## What follows a playback that ended -/

section

variable {env : EngineEnv} {t0 : Track0Env} {e : PetAnimationEngine} {intent : ActionIntent}

/-- On the free track of a healthy, active pet a performable intent begins a generation, and none waits. -/
theorem submitProductionIntent_moves (hv : e.motion.states.Valid) (hstopped : Stopped e.track0)
    (hhealth : e.track0.state.health = .healthy) (hactive : e.motion.states.lifecycle = .active)
    (hperformable : Performable t0 (productionSequenceByAction intent.action)) (facing : Option PetFacing) :
    Wp (submitProductionIntent t0 intent facing)
      (fun _ e' => e.track0.generation < e'.track0.generation ∧ KeepsFree e e') (fun _ _ => False) e := by
  refine ((submitProductionIntent_spec hv facing).and
    (submitProductionIntent_along (commanded_onward t0) facing e)).mono (fun o e' h => ?_) (fun _ _ h => h.1)
  obtain ⟨hsubmitted, -, honward⟩ := h
  cases hsubmitted with
  | continued _ hbusy => simp [hstopped.active] at hbusy
  | queued _ hprotected => simp [activeRequestIsProtected, hstopped.active] at hprotected
  | held _ hbusy => simp [hstopped.confirmed] at hbusy
  | refused _ _ hfree => exact absurd hperformable (hfree hstopped.active hhealth hactive)
  | played motion track0 request _ _ _ _ _ hperforms =>
    refine ⟨honward.resolve_right fun hsame => ?_, fun hfree => ?_⟩
    · obtain ⟨epoch, -, hstate, -⟩ := hperforms.playing.confirmed
      have hconfirmed := hstopped.confirmed
      rw [← hsame.2.1] at hconfirmed
      change track0.state.confirmedEpoch = none at hconfirmed
      rw [hstate] at hconfirmed
      cases hconfirmed
    · show (if intent.origin = .explicit then none else e.pendingExplicitAction) = none
        ∧ (if intent.origin = .explicit then false else e.resumeAfterProtected) = false
      rw [hfree.1, hfree.2]
      simp
  | failed _ motion track0 _ _ hcontained =>
    refine ⟨honward.resolve_right fun hsame => ?_, fun hfree => ?_⟩
    · exact hcontained.health (by rw [← hhealth]; exact congrArg (·.health) hsame.2.1)
    · show (if intent.origin = .explicit then none else e.pendingExplicitAction) = none
        ∧ (if intent.origin = .explicit then false else e.resumeAfterProtected) = false
      rw [hfree.1, hfree.2]
      simp

/-- What begins a generation may go on with what takes none back and queues nothing. -/
theorem moves_then {α β : Type} {c : Program PetAnimationEngine α} {f : α → Program PetAnimationEngine β}
    (h : Wp c (fun _ e' => e.track0.generation < e'.track0.generation ∧ KeepsFree e e') (fun _ _ => False) e)
    (halong : ∀ a, Follows (OnTrack NoYounger) (f a)) (hfree : ∀ a, Follows KeepsFree (f a)) :
    Wp (c >>= f) (fun _ e' => e.track0.generation < e'.track0.generation ∧ KeepsFree e e') (fun _ _ => True) e := by
  refine wp_bind.mpr (h.mono (fun a e₁ h₁ => ?_) (fun _ _ h => h.elim))
  refine ((halong a e₁).and (hfree a e₁)).mono (fun _ e' h' => ?_) (fun _ _ _ => trivial)
  exact ⟨Nat.lt_of_lt_of_le h₁.1 h'.1.generation, fun hf => h'.2 (h₁.2 hf)⟩

theorem recoverAutonomousRelax_moves (hv : e.motion.states.Valid)
    (hstopped : Stopped e.track0) (hhealth : e.track0.state.health = .healthy)
    (hactive : e.motion.states.lifecycle = .active) (hperformable : Performable t0 .productionRelax)
    (facing : Option PetFacing) : Wp (recoverAutonomousRelax env t0 facing)
      (fun _ e' => e.track0.generation < e'.track0.generation ∧ KeepsFree e e') (fun _ _ => True) e := by
  unfold recoverAutonomousRelax
  refine wp_bind.mpr (wp_newObject.mpr ?_)
  refine @moves_then { e with objects := e.objects + 1 } _ _ _ _ ?_ (fun outcome => ?_) (fun outcome => ?_)
  · refine submitProductionIntent_moves ?_ ?_ ?_ ?_ hperformable facing
    · exact hv
    · exact hstopped
    · exact hhealth
    · exact hactive
  · exact (settleAutonomous_along _ _).bind fun _ => .pure _
  · exact (settleAutonomous_free _ _).bind fun _ => .pure _

/-- The sequence that follows a protected playback: that of the action that waits, or the production Relax. -/
def follower (e : PetAnimationEngine) : SequenceName :=
  match e.pendingExplicitAction with
  | some pending => productionSequenceByAction pending.action
  | none => .productionRelax

/-- A performable follower begins a generation behind a free queue. -/
theorem continueAfterProtected_moves (hv : e.motion.states.Valid)
    (hstopped : Stopped e.track0) (hhealth : e.track0.state.health = .healthy)
    (hactive : e.motion.states.lifecycle = .active) (hperformable : Performable t0 e.follower)
    (facing : Option PetFacing) : Wp (continueAfterProtected env t0 facing)
      (fun _ e' => e.track0.generation < e'.track0.generation ∧ Free e') (fun _ _ => True) e := by
  unfold continueAfterProtected
  refine wp_get_bind.mpr ?_
  refine wp_bind.mpr (wp_clearProtectedContinuation.mpr ?_)
  refine wp_modify_bind.mpr ?_
  unfold follower at hperformable
  cases hpending : e.pendingExplicitAction with
  | none =>
    rw [hpending] at hperformable
    refine Wp.mono (recoverAutonomousRelax_moves ?_ ?_ ?_ ?_ hperformable facing) (fun _ e' h => ⟨h.1, h.2 ⟨rfl, rfl⟩⟩)
      (fun _ _ h => h)
    · exact hv
    · exact hstopped
    · exact hhealth
    · exact hactive
  | some pending =>
    rw [hpending] at hperformable
    refine Wp.mono (submitProductionIntent_moves ?_ ?_ ?_ ?_ hperformable none) (fun _ e' h => ⟨h.1, h.2 ⟨rfl, rfl⟩⟩)
      (fun _ _ _ => trivial)
    · exact hv
    · exact hstopped
    · exact hhealth
    · exact hactive

/-- A cleared track has a new generation, whatever follows. -/
theorem continueAfterRecovery_moves :
    Wp (continueAfterRecovery env t0) (fun _ e' => e.track0.generation < e'.track0.generation)
      (fun _ _ => True) e := by
  have hrest : ∀ answer, Follows (OnTrack NoYounger)
      (if answer = ActionOutcome.cleared then recoverAutonomousRelax env t0
        else do setMode .suspended; return answer) := by
    intro answer
    split
    next => exact recoverAutonomousRelax_along (commanded_noYounger t0) _
    next => exact (setMode_along _).bind fun _ => .pure _
  refine wp_bind.mpr (wp_onTrack0.mpr ((wp_clear _ _ _).mpr ?_))
  refine (hrest _ _).mono (fun _ e' h => ?_) (fun _ _ _ => trivial)
  exact Nat.lt_of_lt_of_le (Nat.lt_succ_self e.track0.generation) h.generation

/-- Idle on a free track begins a generation, or its failure does. -/
theorem startIdleAfterTerminal_moves (hstopped : Stopped e.track0) :
    Wp (startIdleAfterTerminal t0) (fun _ e' => e.track0.generation < e'.track0.generation)
      (fun _ _ => True) e := by
  unfold startIdleAfterTerminal
  refine wp_bind.mpr (wp_newObject.mpr ?_)
  refine wp_get_bind.mpr ?_
  refine wp_bind.mpr (wp_getOrRaise.mpr ⟨fun request _ => ?_, fun _ _ => trivial⟩)
  split
  next =>
    refine wp_onTrack0.mpr ((PetTrack0Controller.wp_containPreflightFailure _ _ _).mpr ?_)
    exact Nat.lt_succ_self e.track0.generation
  next hpre =>
    rw [not_not] at hpre
    refine wp_onTrack0.mpr ?_
    exact (play_moves hstopped.active hpre).mono (fun _ _ h => h) (fun _ _ _ => trivial)

end

/-! ## A completing callback -/

/-- The scheduler of an autonomous pet takes the callback for a new boundary of the playback it watches. -/
def HeardByScheduler (env : EngineEnv) (e : PetAnimationEngine) (event : PlaybackEvent) : Prop :=
  event.loopBoundary = true ∧ env.hasScheduler = true ∧ e.executionMode = .autonomous
    ∧ ∃ index state, event.boundaryIndex = some index ∧ e.autonomousSchedulerState = some state
      ∧ state.playbackGeneration.map (fun g => (g : Int)) = some event.generation
      ∧ state.playbackToken = some event.playbackToken ∧ state.lastConsumedBoundaryIndex < index

/-- The callback ends a protected playback after which nothing plays: the engine no longer knows it for one, or
what follows cannot play. -/
def EndsIdle (t0 : Track0Env) (e : PetAnimationEngine) (event : PlaybackEvent) : Prop :=
  event.loopBoundary = false ∧ e.activeRequestIsProtected = true
    ∧ ¬(e.activeProductionAction.any (·.isProtected) = true ∧ Performable t0 e.follower)

/-- A protected sequence has no exit. -/
theorem no_exit_of_protected (env : EngineEnv) {name : SequenceName} (h : name ∈ performedSequences env)
    (hprotected : (sequenceCatalog name).isProtected = true) :
    (sequenceCatalog name).sequence.loopExitIndex = none := by
  have hall : ∀ name ∈ performedSequences env, (sequenceCatalog name).isProtected = true →
      (sequenceCatalog name).sequence.loopExitIndex = none := by
    unfold performedSequences dragSequence
    cases env.useRelaxMotionFallback <;> decide
  exact hall name h hprotected

section

variable {env : EngineEnv} {t0 : Track0Env} {e : PetAnimationEngine} {event : PlaybackEvent}
  {request : ActionRequest} {p : RunnerProgress}

/-- The step the callback completes is followed by another generation, and no action waits behind a protected
playback that ended. -/
theorem completeStep_moves (hs : Sound env t0 e) (hq : Quiet e) (hperforms : Performs t0 e.track0 request p)
    (hmem : request.sequenceName ∈ performedSequences env) (hc : Completes e.track0 event)
    (hidle : ¬EndsIdle t0 e event) {motion : PetMotionModel} {continuation : Option ActionRequest}
    (facing : Option PetFacing) (hstays : e.nextActionForCallback event ≠ some .returnIdle → motion = e.motion) :
    Wp (onTrack0 (PetTrack0Controller.handleCompletion t0 event continuation))
      (fun completed e₂ => Wp (followCompletion env t0 (e.completesProductionProtected event)
          (e.completesMandatoryRecovery event) (e.callbackReachesIdleTerminal event) facing completed)
        (fun _ e' => e.track0.generation < e'.track0.generation ∧ (e.activeRequestIsProtected = true → Free e'))
        (fun _ _ => True) e₂)
      (fun _ _ => True) { e with motion } := by
  have hplaying := hperforms.playing
  have hprotected : e.activeRequestIsProtected = request.isProtected := by
    simp [activeRequestIsProtected, hplaying.active]
  have hactive : e.motion.states.lifecycle = .active := by
    by_contra hnot
    have hstopped := (hq hnot).active
    rw [hplaying.active] at hstopped
    cases hstopped
  by_cases hends : p.step.loop = false ∧ p.currentIndex + 1 = p.sequence.steps.length
  swap
  · -- another step of the same sequence, which is not protected
    have hopen : request.isProtected = false := by
      by_contra hp
      rw [Bool.not_eq_false] at hp
      obtain ⟨-, q, hq', hkind, hpending⟩ := hc
      obtain rfl : p = q := Option.some.inj (hplaying.progress.symm.trans hq')
      cases hl : p.step.loop with
      | true =>
        obtain ⟨_, _, hexit, _⟩ := hplaying.pending (hpending hl)
        rw [hperforms.sequence, no_exit_of_protected env hmem (hperforms.policy ▸ hp)] at hexit
        cases hexit
      | false =>
        have hnext : p.currentIndex + 1 < p.sequence.steps.length :=
          Nat.lt_of_le_of_ne p.in_range fun hlast => hends ⟨hl, hlast⟩
        have hnot := (hperforms.next hmem hl hnext).2.2
        rw [hp] at hnot
        cases hnot
    refine wp_onTrack0.mpr ((hc.moves hplaying hends continuation).mono (fun completed track0 hmoves => ?_)
      (fun _ _ _ => trivial))
    refine (followCompletion_along (commanded_noYounger t0) _ _ _ _ _ _).mono (fun _ e' h => ?_)
      (fun _ _ _ => trivial)
    refine ⟨Nat.lt_of_lt_of_le hmoves h.generation, fun hp => ?_⟩
    rw [hprotected, hopen] at hp
    cases hp
  · obtain ⟨hl, hlast⟩ := hends
    obtain ⟨hmatches, q, hq', hkind, -⟩ := id hc
    obtain rfl : p = q := Option.some.inj (hplaying.progress.symm.trans hq')
    have hb : event.loopBoundary = false := hkind ▸ hl
    have hends := hperforms.last hmem hl hlast
    have hnext : e.nextActionForCallback event ≠ some .returnIdle := by
      simp [nextActionForCallback, hplaying.progress, hl, hb, hlast]
    obtain rfl := hstays hnext
    refine wp_onTrack0.mpr (((PetTrack0Controller.handleCompletion_finishes hplaying hmatches hl hb
      hlast).and (PetTrack0Controller.handleCompletion_noYounger event continuation e.track0)).mono
        (fun o track0 hend => ?_) (fun _ _ _ => trivial))
    obtain ⟨⟨rfl, hend⟩, hyounger⟩ := hend
    rw [followCompletion_last hperforms hmem hl hb hlast]
    have hopen : request.isProtected = false → e.activeRequestIsProtected = true → ∀ e', Free e' := by
      intro hp hp'
      rw [hprotected, hp] at hp'
      cases hp'
    cases hterminal : p.sequence.terminal with
    | hold =>
      rw [hterminal] at hends
      refine continueAfterRecovery_moves.mono (fun _ e' h => ?_) (fun _ _ _ => trivial)
      exact ⟨Nat.lt_of_le_of_lt hyounger.generation h, fun hp => hopen hends.2 hp e'⟩
    | idle =>
      rw [hterminal] at hends hend
      simp only [reduceCtorEq, if_false] at hend
      refine (startIdleAfterTerminal_moves hend.1).mono (fun _ e' h => ?_) (fun _ _ _ => trivial)
      exact ⟨Nat.lt_of_le_of_lt hyounger.generation h, fun hp => hopen hends.2.2 hp e'⟩
    | complete =>
      rw [hterminal] at hends hend
      simp only [reduceCtorEq, if_false] at hend
      obtain ⟨hknown, hperformable⟩ : e.activeProductionAction.any (·.isProtected) = true
          ∧ Performable t0 e.follower := by
        by_contra hnot
        exact hidle ⟨hb, hprotected.trans hends.2, hnot⟩
      simp only [hknown, if_true]
      refine (continueAfterProtected_moves ?_ ?_ ?_ ?_ ?_ facing).mono (fun _ e' h => ?_) (fun _ _ _ => trivial)
      · exact hs.valid
      · exact hend.1
      · exact hend.2
      · exact hactive
      · exact hperformable
      · exact ⟨Nat.lt_of_le_of_lt hyounger.generation h.1, fun _ => h.2⟩

/-- Advancing the sequence by a completing callback begins a generation. -/
theorem advanceSequence_moves (hs : Sound env t0 e) (hq : Quiet e) (hperforms : Performs t0 e.track0 request p)
    (hmem : request.sequenceName ∈ performedSequences env) (hc : Completes e.track0 event)
    (hidle : ¬EndsIdle t0 e event) (facing : Option PetFacing) : Wp (advanceSequence env t0 event facing)
      (fun _ e' => e.track0.generation < e'.track0.generation ∧ (e.activeRequestIsProtected = true → Free e'))
      (fun _ _ => True) e := by
  have hassert : ∀ (o : ActionOutcome) (e₃ : PetAnimationEngine),
      (e.track0.generation < e₃.track0.generation ∧ (e.activeRequestIsProtected = true → Free e₃)) →
      Wp (do assertTransactionCompatible; return o)
        (fun _ e' => e.track0.generation < e'.track0.generation ∧ (e.activeRequestIsProtected = true → Free e'))
        (fun _ _ => True) e₃ := by
    intro o e₃ h
    have hkeeps : Follows (fun a b : PetAnimationEngine => OnTrack NoYounger a b ∧ KeepsFree a b) (do
        assertTransactionCompatible
        return o) := fun a =>
      ((assertTransactionCompatible_along.bind fun _ => .pure o) a).and
        ((assertTransactionCompatible_free.bind fun _ => .pure o) a)
    refine (hkeeps e₃).mono (fun _ e' h' => ?_) (fun _ _ _ => trivial)
    exact ⟨Nat.lt_of_lt_of_le h.1 h'.1.generation, fun hp => h'.2 (h.2 hp)⟩
  unfold advanceSequence
  refine wp_get_bind.mpr ?_
  refine wp_bind.mpr ((commitReturnIdle_spec hs hperforms).mono ?_ (fun _ _ _ => trivial))
  intro continuation e₁ hcommitted
  obtain ⟨motion, request', hstays, rfl, rfl⟩ : ∃ motion : PetMotionModel, ∃ request' : Option ActionRequest,
      (e.nextActionForCallback event ≠ some .returnIdle → motion = e.motion)
      ∧ continuation = some request' ∧ e₁ = { e with motion } := by
    obtain ⟨hnext, rfl, rfl⟩ | ⟨hnext, motion, -, -, rfl, rfl⟩ := hcommitted
    · exact ⟨e₁.motion, none, fun _ => rfl, rfl, rfl⟩
    · exact ⟨motion, _, fun h => absurd hnext h, rfl, rfl⟩
  refine wp_get_bind.mpr ?_
  refine wp_bind.mpr ?_
  refine (completeStep_moves hs hq hperforms hmem hc hidle
    (if e.completesProductionProtected event ∧ e.activeProductionAction = some .special then facing else none)
    hstays).imp (fun completed e₂ hfollow => ?_)
  exact wp_bind.mpr (hfollow.mono hassert (fun _ _ h => h))

/-- A boundary the scheduler does not know makes it propose nothing. -/
theorem evaluate_unheard {rng : RandomSource} {state : AutonomousSchedulerState}
    {snapshot : AutonomousRuntimeSnapshot} {boundary : AutonomousBoundaryEvent} {requestToken : ObjectId}
    (h : snapshot.executionMode = .autonomous →
      AutonomousActionScheduler.matchesNewBoundary state boundary = false) (n : Nat) :
    Wp (AutonomousActionScheduler.evaluate rng state snapshot (some boundary) requestToken)
      (fun decision _ => decision.intent = none) (fun _ _ => False) n := by
  unfold AutonomousActionScheduler.evaluate
  split
  next => exact rfl
  next hmode =>
    rw [not_not] at hmode
    dsimp only
    rw [h hmode, Bool.not_false, if_pos rfl]
    exact rfl

/-- A completing callback the scheduler does not take for its own begins a generation. -/
theorem handlePlaybackEvent_moves (htrack : env.track0 = some t0) (hs : Sound env t0 e) (hq : Quiet e)
    (hc : Completes e.track0 event) (hunheard : ¬HeardByScheduler env e event) (hidle : ¬EndsIdle t0 e event)
    (facing : Option PetFacing) : Wp (handlePlaybackEvent env event facing)
      (fun _ e' => e.track0.generation < e'.track0.generation ∧ (e.activeRequestIsProtected = true → Free e'))
      (fun _ _ => True) e := by
  obtain ⟨hmatches, p, hp, hkind, hpending⟩ := id hc
  obtain ⟨request, hperforms, hmem⟩ : ∃ request, Performs t0 e.track0 request p
      ∧ request.sequenceName ∈ performedSequences env := by
    obtain hstopped | ⟨request, q, hperforms, hmem⟩ := hs.track
    · rw [hstopped.runner] at hp
      cases hp
    · obtain rfl : p = q := Option.some.inj (hp.symm.trans hperforms.playing.progress)
      exact ⟨request, hperforms, hmem⟩
  have hplaying := hperforms.playing
  have hmatches : e.callbackMatchesSnapshot event = true := hmatches
  have hadvances := @advanceSequence_moves env t0 e event request p hs hq hperforms hmem hc hidle facing
  unfold handlePlaybackEvent
  rw [htrack]
  refine wp_get_bind.mpr ?_
  simp only [hmatches, Bool.not_true, Bool.false_eq_true, if_false]
  split
  swap
  next => exact wp_bind.mpr (wp_pure.mpr hadvances)
  next _ _ index hb hindex =>
    have hl : p.step.loop = true := hkind.trans hb
    have hopen : e.activeRequestIsProtected = false := by
      obtain ⟨_, _, hexit, _⟩ := hplaying.pending (hpending hl)
      rw [activeRequestIsProtected, hplaying.active, Option.any_some]
      by_contra hprotected
      rw [Bool.not_eq_false, hperforms.policy] at hprotected
      rw [hperforms.sequence, no_exit_of_protected env hmem hprotected] at hexit
      cases hexit
    simp only [wp_bind, handleAutonomousBoundary, wp_get]
    cases hstate : e.autonomousSchedulerState with
    | none => exact hadvances
    | some state =>
      cases hscheduler : env.hasScheduler with
      | false => exact hadvances
      | true =>
        simp only [Bool.not_true, Bool.false_eq_true, if_false, wp_bind, wp_readClock, wp_getOrRaise,
          wp_newObject, wp_get, wp_onRandom, wp_modify]
        refine ⟨fun boundary hmake => ?_, fun _ _ => trivial⟩
        obtain ⟨hgeneration, htoken, hboundary⟩ : boundary.generation = event.generation
            ∧ boundary.playbackToken = event.playbackToken ∧ boundary.boundaryIndex = index := by
          unfold AutonomousBoundaryEvent.make at hmake
          split at hmake
          next => cases hmake; exact ⟨rfl, rfl, rfl⟩
          next => cases hmake
        refine (evaluate_unheard (fun hmode => ?_) _).mono (fun decision draws hnone => ?_) (fun _ _ h => h.elim)
        · by_contra hheard
          rw [Bool.not_eq_false] at hheard
          simp only [AutonomousActionScheduler.matchesNewBoundary, hgeneration, htoken, hboundary,
            decide_eq_true_eq] at hheard
          exact hunheard ⟨hb, hscheduler, hmode, index, state, hindex, hstate, hheard⟩
        · rw [hnone]
          simp only [wp_map, wp_onTrack0]
          refine (hc.moves hplaying (fun hends => ?_) none).mono (fun o track0 hmoves => ?_) (fun _ _ _ => trivial)
          · rw [hl] at hends
            cases hends.1
          · refine (assertTransactionCompatible_along.bind fun _ => .pure o : Follows (OnTrack NoYounger) (do
              assertTransactionCompatible
              return o)) _ |>.mono (fun _ e' h => ?_) (fun _ _ _ => trivial)
            refine ⟨Nat.lt_of_lt_of_le hmoves h.generation, fun hprotected => ?_⟩
            rw [hopen] at hprotected
            cases hprotected

end

end PetAnimationEngine

end ArkClaw.Pet
