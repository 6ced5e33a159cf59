import ArkClaw.Pet.EngineRuns

/-!
# What the engine does to its track

The engine commands its controller through five calls; a callback and a graceful exit come from outside. A
relation of the controller that each of the five calls leads along, every program of the engine leads along.
The relation used below is `Onward`: a new generation has begun, or the same playback goes on under the same
deadline.
-/

namespace ArkClaw.Pet

open ArkClaw.Library

namespace PetTrack0Controller

/-! ## Generations -/

/-- A new generation has begun, or the same playback goes on under the same deadline. -/
structure Onward (c c' : PetTrack0Controller) : Prop where
  clock : c.clockReadings ≤ c'.clockReadings
  moves : c.generation < c'.generation
    ∨ c'.generation = c.generation ∧ c'.state = c.state
      ∧ c'.watchdogDeadline = c.watchdogDeadline ∧ c'.runner = c.runner

/-- Neither a generation nor the clock is taken back. -/
structure NoYounger (c c' : PetTrack0Controller) : Prop where
  clock : c.clockReadings ≤ c'.clockReadings
  generation : c.generation ≤ c'.generation

section

variable {env : Track0Env} {c c' c'' : PetTrack0Controller} {request : ActionRequest}

theorem Onward.refl (c : PetTrack0Controller) : Onward c c := ⟨Nat.le_refl _, .inr ⟨rfl, rfl, rfl, rfl⟩⟩

theorem Onward.trans (h : Onward c c') (h' : Onward c' c'') : Onward c c'' := by
  refine ⟨Nat.le_trans h.clock h'.clock, ?_⟩
  obtain hlt | ⟨hg, hc, hd, hr⟩ := h.moves
  · obtain hlt' | ⟨hg', -, -, -⟩ := h'.moves
    · exact .inl (Nat.lt_trans hlt hlt')
    · exact .inl (hg'.symm ▸ hlt)
  · obtain hlt' | ⟨hg', hc', hd', hr'⟩ := h'.moves
    · exact .inl (hg ▸ hlt')
    · exact .inr ⟨hg'.trans hg, hc'.trans hc, hd'.trans hd, hr'.trans hr⟩

theorem Onward.noYounger (h : Onward c c') : NoYounger c c' :=
  ⟨h.clock, h.moves.elim Nat.le_of_lt fun h => Nat.le_of_eq h.1.symm⟩

theorem NoYounger.refl (c : PetTrack0Controller) : NoYounger c c := ⟨Nat.le_refl _, Nat.le_refl _⟩

theorem NoYounger.trans (h : NoYounger c c') (h' : NoYounger c' c'') : NoYounger c c'' :=
  ⟨Nat.le_trans h.clock h'.clock, Nat.le_trans h.generation h'.generation⟩

instance : Std.Refl Onward := ⟨Onward.refl⟩

instance : Trans Onward Onward Onward := ⟨Onward.trans⟩

instance : Std.Refl NoYounger := ⟨NoYounger.refl⟩

instance : Trans NoYounger NoYounger NoYounger := ⟨NoYounger.trans⟩

/-- What has a new generation has moved on. -/
theorem onward_of_lt (hclock : c.clockReadings ≤ c'.clockReadings) (h : c.generation < c'.generation) :
    Onward c c' := ⟨hclock, .inl h⟩

theorem containFailedPlay_moves : Wp (containFailedPlay env)
      (fun _ c' => c.clockReadings ≤ c'.clockReadings ∧ c.generation < c'.generation) (fun _ _ => False) c :=
  ⟨Nat.le_refl c.clockReadings, Nat.lt_succ_self c.generation⟩

/-- Every play command begins a generation, whatever the player does. -/
theorem playStep_moves (step : PetActionStep) : Wp (playStep env request step)
      (fun _ c' => c.clockReadings ≤ c'.clockReadings ∧ c.generation < c'.generation)
      (fun _ c' => c.clockReadings ≤ c'.clockReadings ∧ c.generation < c'.generation) c := by
  have hfailed : Wp (containFailedPlay env)
      (fun _ c' => c.clockReadings ≤ c'.clockReadings ∧ c.generation < c'.generation)
      (fun _ c' => c.clockReadings ≤ c'.clockReadings ∧ c.generation < c'.generation)
      { c with generation := c.generation + 1 } :=
    containFailedPlay_moves.mono (fun _ _ h => ⟨h.1, Nat.lt_of_succ_lt h.2⟩) (fun _ _ h => h.elim)
  unfold playStep
  simp only [allocateGeneration, wp_bind, wp_modify, wp_get, wp_pure]
  split
  next => exact hfailed
  next token hplayed =>
    simp only [wp_bind, wp_get]
    split
    next => exact hfailed
    next epoch runner haccepted =>
      simp only [wp_bind, wp_modify, wp_pure, armAfterSuccessfulPlay]
      have hmoves : c.generation < c.generation + 1 := Nat.lt_succ_self _
      split
      next => exact ⟨Nat.le_refl _, hmoves⟩
      next =>
        simp only [wp_bind, deadlineForStep]
        split
        next => exact ⟨Nat.le_refl _, hmoves⟩
        next =>
          simp only [readClock, wp_bind, wp_get, wp_set, wp_pure, wp_getOrRaise, wp_modify]
          exact ⟨fun _ _ => ⟨Nat.le_succ _, hmoves⟩, fun _ _ => ⟨Nat.le_succ _, hmoves⟩⟩

theorem playStep_onward (step : PetActionStep) : Follows Onward (playStep env request step) := fun _ =>
  (playStep_moves step).mono (fun _ _ h => onward_of_lt h.1 h.2) (fun _ _ h => onward_of_lt h.1 h.2)

/-- A play that is not refused beforehand begins a generation. -/
theorem play_onward (request : ActionRequest) : Follows Onward (play env request) := by
  refine .get fun c => ?_
  split
  next => exact .pure _
  next =>
    dsimp only
    split
    next entry _ _ =>
      intro c
      simp only [wp_bind, wp_modify, PetSequenceRunner.start, playDirective]
      exact (playStep_moves _).mono (fun _ _ h => onward_of_lt h.1 h.2) (fun _ _ h => onward_of_lt h.1 h.2)
    next => exact .pure _
    next => exact .pure _

/-- A replacement whose preflight passes plays at once. -/
theorem replacePlayback_onward (replacement : Option ActionRequest) :
    Follows Onward (replacePlayback env replacement) := by
  cases replacement with
  | none => exact .pure _
  | some request =>
    unfold replacePlayback
    dsimp only
    split
    next => exact .pure _
    next hpre =>
      intro c
      rw [not_not] at hpre
      obtain ⟨hentry, _⟩ := durations_of_preflight hpre
      simp only [play, wp_bind, wp_modify, wp_get, Option.isSome_none, Bool.false_eq_true, if_false, hpre, hentry,
        PetSequenceRunner.start, playDirective]
      exact (playStep_moves _).mono (fun _ _ h => onward_of_lt h.1 h.2) (fun _ _ h => onward_of_lt h.1 h.2)

theorem clear_onward (reason : CancelReason) : Follows Onward (clear env reason) := fun c =>
  (wp_clear reason _ _).mpr (onward_of_lt (Nat.le_refl c.clockReadings) (Nat.lt_succ_self c.generation))

theorem containPreflightFailure_onward (reason : CancelReason) :
    Follows Onward (containPreflightFailure env reason) := fun c =>
  (wp_containPreflightFailure reason _ _).mpr
    (onward_of_lt (Nat.le_refl c.clockReadings) (Nat.lt_succ_self c.generation))

theorem adoptActivePlayback_onward (request : ActionRequest) :
    Follows Onward (adoptActivePlayback env request) := fun c =>
  adoptActivePlayback_spec.mono
    (fun _ c' h => by
      obtain ⟨-, rfl⟩ | ⟨-, -, -, rfl⟩ := h
      · exact .refl _
      · exact ⟨Nat.le_refl c.clockReadings, .inr ⟨rfl, rfl, rfl, rfl⟩⟩)
    (fun _ _ h => h.elim)

/-! ## Callbacks -/

/-- The callback is the one the confirmed step waits for: its completion, or the boundary its exit was asked for
at. -/
def Completes (c : PetTrack0Controller) (event : PlaybackEvent) : Prop :=
  Matches c event ∧ ∃ p, c.runner.progress = some p ∧ p.step.loop = event.loopBoundary
    ∧ (p.step.loop = true → c.runner.pendingGracefulExit = true)

/-- A callback that completes nothing changes nothing. -/
theorem handleCompletion_idles {event : PlaybackEvent} {continuation : Option ActionRequest}
    (h : ¬Completes c event) :
    Wp (handleCompletion env event continuation) (fun _ c' => c' = c) (fun _ _ => False) c := by
  by_cases hm : Matches c event
  · cases hp : c.runner.progress with
    | none =>
      have : ¬Matches c event := by
        unfold Matches PetSequenceRunner.eventMatchesCurrentEpoch
        rw [hp]
        cases c.runner.confirmedEpoch <;> simp
      exact absurd hm this
    | some p =>
      by_cases hkind : p.step.loop = event.loopBoundary
      · have hloop : p.step.loop = true ∧ c.runner.pendingGracefulExit = false := by
          by_contra hnot
          refine h ⟨hm, p, hp, hkind, fun hl => ?_⟩
          by_contra hpending
          exact hnot ⟨hl, by simpa using hpending⟩
        exact (handleCompletion_loops hp hm hloop.1 (hkind ▸ hloop.1) hloop.2 _ _).mpr rfl
      · exact (handleCompletion_stale (.inr ⟨p, hp, hkind⟩) _ _).mpr rfl
  · exact (handleCompletion_stale (.inl hm) _ _).mpr rfl

/-- A callback that another step follows begins its generation. -/
theorem handleCompletion_moves {event : PlaybackEvent} {continuation : Option ActionRequest}
    {directive : RunnerDirective} {runner : PetSequenceRunner} {step : PetActionStep}
    (hrunner : c.runner.handleCompletion event = (some directive, runner))
    (hstep : directive.step = some step) (haccepted : directive.outcome = .accepted)
    (hactive : c.activeRequest = some request) :
    Wp (handleCompletion env event continuation) (fun _ c' => c.generation < c'.generation)
      (fun _ c' => c.generation < c'.generation) c := by
  have hrequest : (continuation <|> c.activeRequest) = some (continuation.getD request) := by
    cases continuation <;> simp [hactive]
  simp only [handleCompletion, hrunner, wp_bind, wp_get, wp_modify, hstep, haccepted, ne_eq, not_true_eq_false,
    if_false, Option.isNone_some, Bool.false_eq_true, hrequest, playDirective]
  exact (playStep_moves _).mono (fun _ _ h => h.2) (fun _ _ h => h.2)

/-- No callback takes a generation back. -/
theorem handleCompletion_noYounger (event : PlaybackEvent) (continuation : Option ActionRequest) :
    Follows NoYounger (handleCompletion env event continuation) := by
  refine .get fun c => ?_
  dsimp only
  refine .bind (.modify fun c => ⟨Nat.le_refl c.clockReadings, Nat.le_refl c.generation⟩) fun _ => ?_
  split
  next => exact .pure _
  next directive _ =>
    split
    next => exact .pure _
    next =>
      split
      next =>
        refine .bind ?_ fun _ => .pure _
        unfold finishSequence
        refine .bind (.modify fun c => ⟨Nat.le_refl c.clockReadings, Nat.le_refl c.generation⟩) fun _ => ?_
        split
        next => exact .modify fun c => ⟨Nat.le_refl c.clockReadings, Nat.le_refl c.generation⟩
        next => exact .pure _
      next =>
        refine .get fun c => ?_
        split
        next => exact .pure _
        next request _ =>
          unfold playDirective
          split
          next => exact (playStep_onward _).mono fun _ _ h => h.noYounger
          next => exact .pure _

end

end PetTrack0Controller

namespace PetAnimationEngine

open PetTrack0Controller (Onward NoYounger)

/-! ## Relations of the track -/

/-- The relation of the controller, seen on the engine it belongs to. -/
def OnTrack (r : PetTrack0Controller → PetTrack0Controller → Prop) (e e' : PetAnimationEngine) : Prop :=
  r e.track0 e'.track0

/-- Every command the engine gives its controller leads along the relation. -/
structure Commanded (t0 : Track0Env) (r : PetTrack0Controller → PetTrack0Controller → Prop) : Prop where
  play : ∀ request, Follows r (PetTrack0Controller.play t0 request)
  replace : ∀ replacement, Follows r (PetTrack0Controller.replacePlayback t0 replacement)
  clear : ∀ reason, Follows r (PetTrack0Controller.clear t0 reason)
  contain : ∀ reason, Follows r (PetTrack0Controller.containPreflightFailure t0 reason)
  adopt : ∀ request, Follows r (PetTrack0Controller.adoptActivePlayback t0 request)

theorem commanded_onward (t0 : Track0Env) : Commanded t0 Onward :=
  ⟨PetTrack0Controller.play_onward, PetTrack0Controller.replacePlayback_onward,
    PetTrack0Controller.clear_onward, PetTrack0Controller.containPreflightFailure_onward,
    PetTrack0Controller.adoptActivePlayback_onward⟩

section

variable {env : EngineEnv} {t0 : Track0Env} {α : Type}
  {r r' : PetTrack0Controller → PetTrack0Controller → Prop}

theorem Commanded.mono (h : Commanded t0 r) (hr : ∀ c c', r c c' → r' c c') : Commanded t0 r' :=
  ⟨fun q => (h.play q).mono hr, fun q => (h.replace q).mono hr, fun q => (h.clear q).mono hr,
    fun q => (h.contain q).mono hr, fun q => (h.adopt q).mono hr⟩

theorem commanded_noYounger (t0 : Track0Env) : Commanded t0 NoYounger :=
  (commanded_onward t0).mono fun _ _ => Onward.noYounger

/-- Only the motion and the timers of its actions change. -/
def Times (e e' : PetAnimationEngine) : Prop :=
  ∃ motion actionRemaining nextRandomAction blinkElapsed nextBlink draws,
    e' = { e with motion, actionRemaining, nextRandomAction, blinkElapsed, nextBlink, draws }

instance : Std.Refl Times := ⟨fun _ => ⟨_, _, _, _, _, _, rfl⟩⟩

instance : Trans Times Times Times where
  trans := by
    rintro _ _ _ ⟨_, _, _, _, _, _, rfl⟩ ⟨_, _, _, _, _, _, rfl⟩
    exact ⟨_, _, _, _, _, _, rfl⟩

theorem times_frame {f : PetAnimationEngine → PetAnimationEngine} (h : ∀ e, Times e (f e)) :
    Follows Times (modify f : Program PetAnimationEngine Unit) := .modify h

theorem onMotion_times (c : Program PetMotionModel α) : Follows Times (onMotion c) := fun _ =>
  wp_onMotion.mpr (wp_trivial c (fun _ _ => ⟨_, _, _, _, _, _, rfl⟩) (fun _ _ => ⟨_, _, _, _, _, _, rfl⟩))

theorem onRandom_times (c : Program Nat α) : Follows Times (onRandom c) := fun _ =>
  wp_onRandom.mpr (wp_trivial c (fun _ _ => ⟨_, _, _, _, _, _, rfl⟩) (fun _ _ => ⟨_, _, _, _, _, _, rfl⟩))

theorem advanceAction_times (elapsed : Rat) : Follows Times (advanceAction env elapsed) := by
  have hends : Follows Times (do
      let state ← onMotion PetMotionModel.state
      let ended ← (do onMotion (finishTimedAction state); return true) <|> return false
      if ended then
        let interval ← newRandomActionInterval env
        modify fun e => { e with nextRandomAction := interval }) := by
    refine (onMotion_times _).bind fun state => ?_
    refine .bind (.orElse ((onMotion_times _).bind fun _ => .pure _) (.pure _)) fun ended => ?_
    split
    next => exact (onRandom_times _).bind fun interval => times_frame fun _ => ⟨_, _, _, _, _, _, rfl⟩
    next => exact .pure _
  intro e
  have hset : ∀ actionRemaining, Times e { e with actionRemaining } := fun _ => ⟨_, _, _, _, _, _, rfl⟩
  refine wp_get_bind.mpr ?_
  split
  next => exact ⟨_, _, _, _, _, _, rfl⟩
  next =>
    refine wp_bind.mpr (wp_set.mpr ?_)
    split
    next => exact hset _
    next => exact hends.after (hset _)

theorem advanceBlink_times (elapsed : Rat) : Follows Times (advanceBlink env elapsed) := by
  have hends : Follows Times (do
      onMotion (PetMotionModel.onStates fun m => .ok m.finishBlinking)
      let interval ← newBlinkInterval env
      modify fun (e : PetAnimationEngine) => { e with blinkElapsed := 0, nextBlink := interval }) :=
    (onMotion_times _).bind fun _ => (onRandom_times _).bind fun _ => times_frame fun _ => ⟨_, _, _, _, _, _, rfl⟩
  have hstarts : Follows Times (do
      onMotion (PetMotionModel.onStates (·.startBlinking))
      let state ← onMotion PetMotionModel.state
      if state.behaviors.blinking then modify fun (e : PetAnimationEngine) => { e with blinkElapsed := 0 }
      else
        let interval ← newBlinkInterval env
        modify fun e => { e with nextBlink := interval }) := by
    refine (onMotion_times _).bind fun _ => (onMotion_times _).bind fun state => ?_
    split
    next => exact times_frame fun _ => ⟨_, _, _, _, _, _, rfl⟩
    next => exact (onRandom_times _).bind fun _ => times_frame fun _ => ⟨_, _, _, _, _, _, rfl⟩
  refine (onMotion_times _).bind fun state => ?_
  intro e
  refine wp_get_bind.mpr ?_
  split
  next =>
    have hset : Times e { e with blinkElapsed := e.blinkElapsed + elapsed } := ⟨_, _, _, _, _, _, rfl⟩
    refine wp_bind.mpr (wp_set.mpr ?_)
    split
    next => exact hends.after hset
    next => exact hset
  next =>
    have hset : Times e { e with nextBlink := e.nextBlink - elapsed } := ⟨_, _, _, _, _, _, rfl⟩
    refine wp_bind.mpr (wp_set.mpr ?_)
    split
    next => exact hstarts.after hset
    next => exact hset

instance [Std.Refl r] : Std.Refl (OnTrack r) := ⟨fun e => Std.Refl.refl e.track0⟩

instance [Trans r r r] : Trans (OnTrack r) (OnTrack r) (OnTrack r) :=
  ⟨fun {e e' e''} (h : r e.track0 e'.track0) (h' : r e'.track0 e''.track0) => (Trans.trans h h' : r _ _)⟩

theorem onTrack0_along {c : Program PetTrack0Controller α} (h : Follows r c) :
    Follows (OnTrack r) (onTrack0 c) := fun e => wp_onTrack0.mpr (h e.track0)

section

variable [Std.Refl r]

/-- A program that does not touch the track. -/
theorem along_frame {f : PetAnimationEngine → PetAnimationEngine} (htrack : ∀ e, (f e).track0 = e.track0) :
    Follows (OnTrack r) (modify f : Program PetAnimationEngine Unit) :=
  .modify fun e => by
    show r e.track0 (f e).track0
    rw [htrack]
    exact Std.Refl.refl _

theorem onMotion_along (c : Program PetMotionModel α) : Follows (OnTrack r) (onMotion c) := fun e =>
  wp_onMotion.mpr
    (wp_trivial c (fun _ _ => Std.Refl.refl e.track0) (fun _ _ => Std.Refl.refl e.track0))

theorem onRandom_along (c : Program Nat α) : Follows (OnTrack r) (onRandom c) := fun e =>
  wp_onRandom.mpr
    (wp_trivial c (fun _ _ => Std.Refl.refl e.track0) (fun _ _ => Std.Refl.refl e.track0))

theorem newObject_along : Follows (OnTrack r) newObject := fun e => Std.Refl.refl e.track0

theorem readClock_along : Follows (OnTrack r) (readClock env) := fun e => Std.Refl.refl e.track0

theorem setMode_along (mode : AutonomousExecutionMode) : Follows (OnTrack r) (setMode mode) :=
  along_frame fun _ => rfl

theorem clearProtectedContinuation_along : Follows (OnTrack r) clearProtectedContinuation :=
  along_frame fun _ => rfl

theorem interrupt_along : Follows (OnTrack r) interrupt := fun e => Std.Refl.refl e.track0

theorem propose_along (change : StateChange) : Follows (OnTrack r) (propose change) :=
  .get fun _ => .getOrRaise _

theorem commit_along (proposal : ProposedStateTransition) : Follows (OnTrack r) (commit proposal) :=
  onMotion_along _

theorem Bookkeeps.along {e e' : PetAnimationEngine} (h : Bookkeeps e e') : OnTrack r e e' := by
  obtain ⟨_, _, _, _, _, rfl⟩ := h
  exact Std.Refl.refl e.track0

theorem activateAutonomous_along (action : ProductionAction) :
    Follows (OnTrack r) (activateAutonomous env action) :=
  (activateAutonomous_bookkeeps action).mono fun _ _ => Bookkeeps.along

theorem settleAutonomous_along (action : ProductionAction) (outcome : ActionOutcome) :
    Follows (OnTrack r) (settleAutonomous env action outcome) :=
  (settleAutonomous_bookkeeps action outcome).mono fun _ _ => Bookkeeps.along

/-- A timed action and a blink touch no track. -/
theorem Times.along {e e' : PetAnimationEngine} (h : Times e e') : OnTrack r e e' := by
  obtain ⟨_, _, _, _, _, _, rfl⟩ := h
  exact Std.Refl.refl e.track0

theorem advanceAction_along (elapsed : Rat) : Follows (OnTrack r) (advanceAction env elapsed) :=
  (advanceAction_times elapsed).mono fun _ _ => Times.along

theorem advanceBlink_along (elapsed : Rat) : Follows (OnTrack r) (advanceBlink env elapsed) :=
  (advanceBlink_times elapsed).mono fun _ _ => Times.along

/-- What arbitration is told asks for no graceful exit. -/
theorem along_arbitration {f : ArbitrationContext → Program PetAnimationEngine α} [Trans r r r]
    (h : ∀ context : ArbitrationContext, context.incomingMode = .replace → Follows (OnTrack r) (f context)) :
    Follows (OnTrack r) (arbitrationContext >>= f) := by
  intro e
  have hread : Wp arbitrationContext (fun context e' => context.incomingMode = .replace ∧ OnTrack r e e')
      (fun _ => OnTrack r e) e := by
    refine ((onMotion_along (r := r) _) e).bind fun state e' h => ?_
    exact ⟨rfl, h⟩
  refine hread.bind fun context e' hcontext => ?_
  exact ((h context hcontext.1) e').mono (fun _ _ => Trans.trans hcontext.2) (fun _ _ => Trans.trans hcontext.2)

/-- Arbitration over what is told so decides for a replacement, a clear, or nothing. -/
theorem arbitrate_not_graceful (c : PetTrack0Controller) (request : ActionRequest) {context : ArbitrationContext}
    (h : context.incomingMode = .replace) : (c.arbitrate request context).mode ≠ some .gracefulExit := by
  unfold PetTrack0Controller.arbitrate PetActionArbiter.decide
  cases c.activeRequest with
  | none => simp
  | some active =>
    dsimp only
    split
    next => split <;> simp
    next =>
      split
      next => simp [h]
      next =>
        split
        next => simp
        next =>
          split
          next => simp
          next =>
            split
            next => simp
            next =>
              unfold PetActionArbiter.decideEqualClass PetActionArbiter.decideMotionSafety
                PetActionArbiter.decideUserInteraction PetActionArbiter.decideNormalAction
              cases request.interruptionClass with
              | motionSafety => dsimp only; split_ifs <;> simp
              | userInteraction => dsimp only; split_ifs <;> simp
              | normalAction => dsimp only; split_ifs <;> simp
              | _ => simp

theorem playOrCancel_along (hr : Commanded t0 r) (reason : CancelReason) {mode : Option CancellationMode}
    (hmode : mode ≠ some .gracefulExit) (request : ActionRequest) :
    Follows (OnTrack r) (playOrCancel t0 reason mode request) := by
  refine .get fun e => ?_
  split
  next => exact onTrack0_along (hr.play request)
  next =>
    cases mode with
    | none => exact .pure _
    | some mode =>
      cases mode with
      | gracefulExit => exact absurd rfl hmode
      | immediateClear => exact onTrack0_along (hr.clear reason)
      | replace => exact onTrack0_along (hr.replace (some request))

end

/-! ## Intents -/

section

variable [Std.Refl r] [Trans r r r] {intent : ActionIntent}

theorem assertTransactionCompatible_along : Follows (OnTrack r) assertTransactionCompatible :=
  (onMotion_along _).bind fun _ => .get fun _ => .getOrRaise _

theorem failIntent_along (outcome : ActionOutcome) : Follows (OnTrack r) (failIntent intent outcome) := by
  unfold failIntent
  refine .bind (along_frame fun _ => rfl) fun _ => ?_
  dsimp only
  split
  next =>
    refine (propose_along _).bind fun _ => (commit_along _).bind fun _ => ?_
    exact assertTransactionCompatible_along.bind fun _ => .pure _
  next => exact assertTransactionCompatible_along.bind fun _ => .pure _

theorem settleIntent_along : Follows (OnTrack r) (settleIntent intent) := by
  have hset : ∀ f : PetAnimationEngine → PetAnimationEngine, (∀ e, (f e).track0 = e.track0) →
      Follows (OnTrack r) (do modify f; assertTransactionCompatible; return ActionOutcome.accepted) :=
    fun f hf => .bind (along_frame hf) fun _ => assertTransactionCompatible_along.bind fun _ => .pure _
  unfold settleIntent
  refine .bind (along_frame fun _ => rfl) fun _ => ?_
  dsimp only
  split
  next => exact hset _ fun _ => rfl
  next =>
    split
    next => exact hset _ fun _ => rfl
    next => exact hset _ fun _ => rfl

theorem carryOutIntent_along (hr : Commanded t0 r) (proposal : ProposedStateTransition) (request : ActionRequest)
    {mode : Option CancellationMode} (hmode : mode ≠ some .gracefulExit) :
    Follows (OnTrack r) (carryOutIntent t0 intent proposal request mode) := by
  have hrest : Follows (OnTrack r) (do
      commit proposal
      let outcome ← playOrCancel t0 .userInterrupt mode request
      if outcome ≠ .accepted then failIntent intent outcome else settleIntent intent) := by
    refine (commit_along _).bind fun _ => (playOrCancel_along hr _ hmode _).bind fun outcome => ?_
    split
    next => exact failIntent_along outcome
    next => exact settleIntent_along
  unfold carryOutIntent
  dsimp only
  split
  next => exact clearProtectedContinuation_along.bind fun _ => hrest
  next => exact hrest

theorem admitIntent_along (hr : Commanded t0 r) (facing : Option PetFacing) (override : Bool) :
    Follows (OnTrack r) (admitIntent t0 intent facing override) := by
  unfold admitIntent
  refine (propose_along _).bind fun proposal => .bind (.getOrRaise _) fun request => .get fun e => ?_
  dsimp only
  split
  next => exact .pure _
  next =>
    split
    next => exact .pure _
    next =>
      split
      next => exact carryOutIntent_along hr _ _ (by decide)
      next =>
        refine along_arbitration fun context hcontext => .get fun e => ?_
        split
        next => exact .pure _
        next => exact carryOutIntent_along hr _ _ (arbitrate_not_graceful _ _ hcontext)

theorem submitProductionIntent_along (hr : Commanded t0 r) (facing : Option PetFacing) :
    Follows (OnTrack r) (submitProductionIntent t0 intent facing) := by
  unfold submitProductionIntent
  refine .get fun e => ?_
  dsimp only
  split
  next => exact clearProtectedContinuation_along.bind fun _ => .pure _
  next =>
    split
    next =>
      unfold queueIntent
      split
      next => exact .bind (along_frame fun _ => rfl) fun _ => .pure _
      next => exact .pure _
    next =>
      split
      next => exact .bind (along_frame fun _ => rfl) fun _ => .pure _
      next => exact admitIntent_along hr _ _

theorem recoverAutonomousRelax_along (hr : Commanded t0 r) (facing : Option PetFacing) :
    Follows (OnTrack r) (recoverAutonomousRelax env t0 facing) :=
  newObject_along.bind fun _ => (submitProductionIntent_along hr facing).bind fun _ =>
    (settleAutonomous_along _ _).bind fun _ => .pure _

/-! ## Events -/

theorem containMandatoryProposal_along (hr : Commanded t0 r) (proposal : ProposedStateTransition)
    (reason : CancelReason) : Follows (OnTrack r) (containMandatoryProposal t0 proposal reason) :=
  (commit_along _).bind fun _ => (onTrack0_along (hr.contain reason)).bind fun _ =>
    assertTransactionCompatible_along.bind fun _ => .pure _

theorem carryOutEvent_along (hr : Commanded t0 r) (event : PetAnimationEvent)
    (proposal : ProposedStateTransition) (reason : CancelReason) (request : ActionRequest)
    {mode : Option CancellationMode} (hmode : mode ≠ some .gracefulExit) :
    Follows (OnTrack r) (carryOutEvent env t0 event proposal reason request mode) := by
  have hsettle : ∀ outcome, Follows (OnTrack r) (settleEvent env event outcome) := by
    intro outcome
    unfold settleEvent
    split
    next => exact .pure _
    next =>
      split
      next => exact setMode_along _
      next => exact .bind (along_frame fun _ => rfl) fun _ => activateAutonomous_along _
  exact (commit_along _).bind fun _ => (playOrCancel_along hr reason hmode request).bind fun outcome =>
    (hsettle outcome).bind fun _ => assertTransactionCompatible_along.bind fun _ => .pure _

theorem submitEvent_along (hr : Commanded t0 r) (event : PetAnimationEvent) (proposal : ProposedStateTransition)
    (name : SequenceName) (reason : CancelReason) :
    Follows (OnTrack r) (submitEvent env t0 event proposal name reason) := by
  have hcontain : ∀ outcome : ActionOutcome, Follows (OnTrack r)
      (if proposal.mandatoryForSafety then containMandatoryProposal t0 proposal reason else return outcome) := by
    intro outcome
    split
    next => exact containMandatoryProposal_along hr _ _
    next => exact .pure _
  unfold submitEvent
  refine .bind (.getOrRaise _) fun request => .get fun e => ?_
  dsimp only
  split
  next => exact hcontain _
  next =>
    split
    next => exact hcontain _
    next =>
      refine along_arbitration fun context hcontext => .get fun e => ?_
      split
      next => exact .pure _
      next => exact carryOutEvent_along hr _ _ _ _ (arbitrate_not_graceful _ _ hcontext)

theorem handleEvent_along (htrack : env.track0 = some t0) (hr : Commanded t0 r) (event : PetAnimationEvent) :
    Follows (OnTrack r) (handleEvent env event) := by
  have hchange : ∀ x : Except PetError (StateChange × Option SequenceName × CancelReason),
      Follows (OnTrack r) (getOrRaise x) := fun x => .getOrRaise x
  unfold handleEvent
  refine .bind ?_ fun _ => ?_
  · unfold interruptFor
    split
    next => exact interrupt_along
    next => exact .pure _
  · rw [htrack]
    refine .bind ((hchange _).bind fun change => (propose_along _).bind fun proposal => .pure _) ?_
    rintro ⟨proposal, name, reason⟩
    cases name with
    | none =>
      exact (commit_along _).bind fun _ => (onTrack0_along (hr.clear reason)).bind fun _ =>
        assertTransactionCompatible_along.bind fun _ => .pure _
    | some name => exact submitEvent_along hr _ _ _ _

theorem submitNewEvent_along (htrack : env.track0 = some t0) (hr : Commanded t0 r)
    (eventType : PetAnimationEventType) (facing : Option PetFacing) (inputSessionToken : Option ObjectId) :
    Follows (OnTrack r) (submitNewEvent env eventType facing inputSessionToken) :=
  newObject_along.bind fun _ => handleEvent_along htrack hr _

/-! ## The tick -/

theorem requestWalk_along (htrack : env.track0 = some t0) (hr : Commanded t0 r) (direction : PetFacing) :
    Follows (OnTrack r) (requestWalk env direction) := by
  unfold requestWalk
  split
  next => exact submitNewEvent_along htrack hr _ _ _
  next => exact (onMotion_along _).bind fun _ => .bind (along_frame fun _ => rfl) fun _ => .pure _

theorem requestThinkingAnimation_along (htrack : env.track0 = some t0) (hr : Commanded t0 r) :
    Follows (OnTrack r) (requestThinkingAnimation env) := by
  have hrest : Follows (OnTrack r) (do
      onMotion (PetMotionModel.onStates (·.startThinking))
      modify fun (e : PetAnimationEngine) => { e with actionRemaining := env.config.thinkingDurationSeconds }
      return ActionOutcome.legacyDirect) :=
    (onMotion_along _).bind fun _ => .bind (along_frame fun _ => rfl) fun _ => .pure _
  unfold requestThinkingAnimation
  split
  next => exact submitNewEvent_along htrack hr _ _ _
  next =>
    refine (onMotion_along _).bind fun state => ?_
    dsimp only
    split
    next => exact (onMotion_along _).bind fun _ => hrest
    next => exact hrest

theorem advanceRandomAction_along (htrack : env.track0 = some t0) (hr : Commanded t0 r) (elapsed : Rat) :
    Follows (OnTrack r) (advanceRandomAction env elapsed) := by
  have hasks : Follows (OnTrack r) (requestRandomAction env) := by
    refine (onRandom_along _).bind fun selection => ?_
    split
    next => exact (requestWalk_along htrack hr _).bind fun _ => .pure _
    next =>
      split
      next => exact (requestWalk_along htrack hr _).bind fun _ => .pure _
      next => exact (requestThinkingAnimation_along htrack hr).bind fun _ => .pure _
  refine (onMotion_along _).bind fun state => ?_
  intro e
  refine wp_get_bind.mpr ?_
  split
  next => exact Std.Refl.refl e.track0
  next =>
    refine wp_bind.mpr (wp_set.mpr ?_)
    split
    next => exact Std.Refl.refl e.track0
    next => exact hasks _

/-- Of the commands only the adoption serves the recovery of a landing. -/
theorem finishRelaxMotionRecovery_along
    (hadopt : ∀ request, Follows r (PetTrack0Controller.adoptActivePlayback t0 request)) :
    Follows (OnTrack r) (finishRelaxMotionRecovery env t0) := by
  unfold finishRelaxMotionRecovery
  refine .get fun e => ?_
  split
  next => exact (setMode_along _).bind fun _ => .pure _
  next =>
    refine newObject_along.bind fun token => .bind (.getOrRaise _) fun request => ?_
    refine (onTrack0_along (hadopt request)).bind fun adopted => ?_
    split
    next => exact (setMode_along _).bind fun _ => .pure _
    next =>
      refine .bind (along_frame fun _ => rfl) fun _ => (activateAutonomous_along _).bind fun _ => ?_
      exact assertTransactionCompatible_along.bind fun _ => .pure _

theorem turnAtBoundary_along (htrack : env.track0 = some t0) (hr : Commanded t0 r) (direction : PetFacing) :
    Follows (OnTrack r) (turnAtBoundary env direction) := by
  unfold turnAtBoundary
  refine .get fun e => ?_
  split
  next =>
    rw [htrack]
    dsimp only
    split
    next =>
      refine .bind ?_ fun _ => .pure _
      refine interrupt_along.bind fun _ => (onTrack0_along (hr.clear _)).bind fun answer => ?_
      split
      next => exact .pure _
      next => exact recoverAutonomousRelax_along hr _
    next =>
      refine clearProtectedContinuation_along.bind fun _ => (setMode_along _).bind fun _ => ?_
      refine newObject_along.bind fun token => (submitProductionIntent_along hr _).bind fun outcome => ?_
      split
      next => exact activateAutonomous_along _
      next => exact .pure _
  next => exact onMotion_along _

theorem advancePhysics_along (htrack : env.track0 = some t0) (hr : Commanded t0 r) (elapsed : Rat)
    (workspaces : List Rect) : Follows (OnTrack r) (advancePhysics env elapsed workspaces) := by
  have hlanding : ∀ previous moved : PetMotionState, Follows (OnTrack r) (recoverLanding env previous moved) := by
    intro previous moved
    unfold recoverLanding
    split
    next =>
      rw [htrack]
      exact .map _ (finishRelaxMotionRecovery_along hr.adopt)
    next => exact .pure _
  have hturn : Follows (OnTrack r) (takeTurn env) := by
    unfold takeTurn
    refine (onMotion_along _).bind fun direction => ?_
    cases direction with
    | none => exact .pure _
    | some direction => exact turnAtBoundary_along htrack hr direction
  exact (onMotion_along _).bind fun previous => (onMotion_along _).bind fun moved =>
    (hlanding _ _).bind fun _ => hturn.bind fun _ => onMotion_along _

theorem advance_along (htrack : env.track0 = some t0) (hr : Commanded t0 r) (elapsedSeconds : Rat)
    (workspaces : List Rect) : Follows (OnTrack r) (advance env elapsedSeconds workspaces) := by
  unfold advance
  split
  next => exact .throw _
  next =>
    refine (onMotion_along _).bind fun state => ?_
    dsimp only
    split
    next => exact .bind (along_frame fun _ => rfl) fun _ => onMotion_along _
    next =>
      refine .bind (along_frame fun _ => rfl) fun _ => (advanceAction_along _).bind fun _ => ?_
      refine (advanceBlink_along _).bind fun _ => (advanceRandomAction_along htrack hr _).bind fun _ => ?_
      exact advancePhysics_along htrack hr _ _

/-! ## Callbacks -/

theorem continueAfterProtected_along (hr : Commanded t0 r) (facing : Option PetFacing) :
    Follows (OnTrack r) (continueAfterProtected env t0 facing) := by
  unfold continueAfterProtected
  refine .get fun e => clearProtectedContinuation_along.bind fun _ => .bind (along_frame fun _ => rfl) fun _ => ?_
  cases e.pendingExplicitAction with
  | none => exact recoverAutonomousRelax_along hr _
  | some pending => exact submitProductionIntent_along hr _

theorem continueAfterRecovery_along (hr : Commanded t0 r) : Follows (OnTrack r) (continueAfterRecovery env t0) := by
  refine (onTrack0_along (hr.clear _)).bind fun answer => ?_
  split
  next => exact recoverAutonomousRelax_along hr _
  next => exact (setMode_along _).bind fun _ => .pure _

theorem submitProposal_along (hr : Commanded t0 r) (decision : AutonomousSchedulerDecision)
    (intent : ActionIntent) (now : Rat) : Follows (OnTrack r) (submitProposal env t0 decision intent now) := by
  refine (submitProductionIntent_along hr none).bind fun outcome => .get fun e => ?_
  exact (onRandom_along _).bind fun state => .bind (along_frame fun _ => rfl) fun _ => .pure _

theorem startIdleAfterTerminal_along (hr : Commanded t0 r) :
    Follows (OnTrack r) (startIdleAfterTerminal t0) := by
  unfold startIdleAfterTerminal
  refine newObject_along.bind fun token => .get fun e => .bind (.getOrRaise _) fun request => ?_
  split
  next => exact onTrack0_along (hr.contain _)
  next => exact onTrack0_along (hr.play request)

theorem followCompletion_along (hr : Commanded t0 r) (completesProtected completesRecovery reachesIdle : Bool)
    (facing : Option PetFacing) (completed : ActionOutcome) : Follows (OnTrack r)
      (followCompletion env t0 completesProtected completesRecovery reachesIdle facing completed) := by
  have hidle : ∀ outcome, Follows (OnTrack r)
      (if outcome = ActionOutcome.accepted ∧ reachesIdle = true then startIdleAfterTerminal t0
        else pure outcome) := by
    intro outcome
    split
    next => exact startIdleAfterTerminal_along hr
    next => exact .pure _
  unfold followCompletion
  dsimp only
  split
  next => exact .bind (continueAfterProtected_along hr facing) hidle
  next =>
    split
    next => exact .bind (continueAfterRecovery_along hr) hidle
    next => exact .bind (.pure _) hidle

/-- What a callback goes on under: no request of its own, or the active one under another epoch. -/
def Continues (c : PetTrack0Controller) (continuation : Option ActionRequest) : Prop :=
  ∀ request, continuation = some request →
    ∃ active semanticEpoch, c.activeRequest = some active ∧ request = { active with semanticEpoch }

/-- The return to idle leaves the track alone, and goes on under the active request. -/
theorem commitReturnIdle_continues (event : PlaybackEvent) (e : PetAnimationEngine) :
    Wp (commitReturnIdle event)
      (fun continuation e' => e'.track0 = e.track0 ∧ ∀ request, continuation = some request → Continues e.track0 request)
      (fun _ e' => e'.track0 = e.track0) e := by
  have hnone : Continues e.track0 none := by
    intro request h
    cases h
  simp only [commitReturnIdle, wp_bind, wp_get]
  split
  next =>
    refine ⟨rfl, fun request h => ?_⟩
    obtain rfl := Option.some.inj h
    exact hnone
  next =>
    simp only [wp_bind, wp_propose, wp_getOrRaise]
    refine ⟨fun proposal _ => ⟨fun _ _ => ?_, fun _ _ => trivial⟩, fun _ _ => trivial⟩
    cases hactive : e.track0.activeRequest with
    | none =>
      refine ⟨rfl, fun request h => ?_⟩
      cases h
    | some active =>
      refine wp_bind.mpr (wp_onMotion.mpr (wp_trivial _ (fun _ _ => ?_) (fun _ _ => rfl)))
      refine ⟨rfl, fun continuation h => ?_⟩
      obtain rfl := Option.some.inj h
      intro request hrequest
      obtain rfl := Option.some.inj hrequest
      exact ⟨active, _, hactive, rfl⟩

variable (htrack : env.track0 = some t0)

include htrack

/-- A relation that a callback leads the controller along, it leads the engine along. -/
theorem handlePlaybackEvent_continues (hr : Commanded t0 r)
    {event : PlaybackEvent} (hcompletes : ∀ c continuation, Continues c continuation →
      Wp (PetTrack0Controller.handleCompletion t0 event continuation) (fun _ => r c) (fun _ => r c) c)
    (facing : Option PetFacing) : Follows (OnTrack r) (handlePlaybackEvent env event facing) := by
  have hplain : Follows (OnTrack r) (onTrack0 (PetTrack0Controller.handleCompletion t0 event)) :=
    onTrack0_along fun c => hcompletes c none fun _ h => by cases h
  have hboundary : ∀ index, Follows (OnTrack r) (handleAutonomousBoundary env t0 event index) := by
    intro index
    unfold handleAutonomousBoundary
    refine .get fun e => ?_
    cases e.autonomousSchedulerState with
    | none => exact .pure _
    | some state =>
      dsimp only
      split
      next => exact .pure _
      next =>
        refine readClock_along.bind fun now => .bind (.getOrRaise _) fun boundary => newObject_along.bind fun token => ?_
        refine .get fun e' => (onRandom_along _).bind fun decision => .bind (along_frame fun _ => rfl) fun _ => ?_
        cases decision.intent with
        | none => exact .map _ hplain
        | some intent => exact .map _ (submitProposal_along hr _ _ _)
  have hadvances : Follows (OnTrack r) (advanceSequence env t0 event facing) := by
    intro e
    refine wp_get_bind.mpr ?_
    refine wp_bind.mpr ((commitReturnIdle_continues event e).mono (fun continuation e' h => ?_) (fun _ e' h => ?_))
    · have hkept : OnTrack r e e' := by
        show r e.track0 e'.track0
        rw [h.1]
        exact Std.Refl.refl _
      cases continuation with
      | none => exact hkept
      | some continuation =>
        refine wp_get_bind.mpr (wp_bind.mpr (wp_onTrack0.mpr ?_))
        have hdone : ∀ track0, r e'.track0 track0 → OnTrack r e { e' with track0 } := fun track0 hstep =>
          (Trans.trans (show r e.track0 e'.track0 from hkept) hstep : r _ _)
        refine (hcompletes e'.track0 continuation (h.1 ▸ h.2 _ rfl)).mono (fun completed track0 hstep => ?_)
          (fun _ track0 hstep => hdone track0 hstep)
        refine Follows.after ?_ (hdone track0 hstep)
        exact (followCompletion_along hr _ _ _ _ _).bind fun outcome =>
          assertTransactionCompatible_along.bind fun _ => .pure _
    · show r e.track0 e'.track0
      rw [h]
      exact Std.Refl.refl _
  unfold handlePlaybackEvent
  rw [htrack]
  refine .get fun e => ?_
  dsimp only
  split
  next => exact hplain.bind fun _ => assertTransactionCompatible_along.bind fun _ => .pure _
  next =>
    split
    next => exact (hboundary _).bindOption hadvances fun _ => assertTransactionCompatible_along.bind fun _ => .pure _
    next => exact .bindOption (.pure _) hadvances fun _ => assertTransactionCompatible_along.bind fun _ => .pure _

theorem handlePlaybackEvent_along (hr : Commanded t0 r) {event : PlaybackEvent}
    (hcompletes : ∀ continuation, Follows r (PetTrack0Controller.handleCompletion t0 event continuation))
    (facing : Option PetFacing) : Follows (OnTrack r) (handlePlaybackEvent env event facing) :=
  handlePlaybackEvent_continues htrack hr (fun c continuation _ => hcompletes continuation c) facing

theorem containRendererFailure_along (hr : Commanded t0 r) :
    Follows (OnTrack r) (containRendererFailure env) := by
  unfold containRendererFailure
  refine interrupt_along.bind fun _ => (propose_along _).bind fun proposal => (commit_along _).bind fun _ => ?_
  rw [htrack]
  exact onTrack0_along (hr.clear _)

/-! ## Every operation -/

theorem startAutonomous_along (hr : Commanded t0 r) :
    Follows (OnTrack r) (startAutonomous env) := by
  unfold startAutonomous
  rw [htrack]
  refine .get fun e => ?_
  split
  next => exact .pure _
  next => exact recoverAutonomousRelax_along hr _

theorem resumeAutonomous_along (hr : Commanded t0 r) (source : ActionSource) :
    Follows (OnTrack r) (resumeAutonomous env source) := by
  have hrestart : ∀ resumeAction, Follows (OnTrack r) (restartAutonomous env t0 resumeAction) := by
    intro resumeAction
    unfold restartAutonomous
    cases resumeAction with
    | none => exact startAutonomous_along htrack hr
    | some action =>
      exact newObject_along.bind fun _ => (submitProductionIntent_along hr _).bind fun _ =>
        (settleAutonomous_along _ _).bind fun _ => .pure _
  unfold resumeAutonomous
  rw [htrack]
  refine .get fun e => interrupt_along.bind fun _ => .get fun e' => ?_
  split
  next => exact hrestart _
  next =>
    refine (onTrack0_along (hr.clear _)).bind fun answer => ?_
    split
    next => exact assertTransactionCompatible_along.bind fun _ => .pure _
    next => exact hrestart _

theorem requestAction_along (hr : Commanded t0 r) (action : ProductionAction)
    (source : ActionSource) : Follows (OnTrack r) (requestAction env action source) := by
  unfold requestAction
  refine newObject_along.bind fun _ => ?_
  split
  next =>
    rw [htrack]
    exact submitProductionIntent_along hr _
  next => exact .throw _

theorem startDragging_along (hr : Commanded t0 r) :
    Follows (OnTrack r) (startDragging env) := by
  unfold startDragging
  split
  next =>
    refine newObject_along.bind fun token => (submitNewEvent_along htrack hr _ _ _).bind fun outcome => ?_
    dsimp only
    split
    next => exact .bind (along_frame fun _ => rfl) fun _ => .pure _
    next => exact .pure _
  next => exact .bind (along_frame fun _ => rfl) fun _ => (onMotion_along _).bind fun _ => .pure _

theorem releaseDrag_along (hr : Commanded t0 r)
    (workspaces : Option (List Rect)) : Follows (OnTrack r) (releaseDrag env workspaces) := by
  unfold releaseDrag
  split
  next =>
    refine .get fun e => ?_
    cases e.dragSessionToken with
    | none => exact .throw _
    | some token =>
      dsimp only
      split
      next =>
        unfold releaseDragInRelax
        refine .bind (along_frame fun _ => rfl) fun _ => (onMotion_along _).bind fun _ => .get fun e' => ?_
        split
        next => exact .pure _
        next => exact assertTransactionCompatible_along.bind fun _ => .pure _
      next =>
        refine (submitNewEvent_along htrack hr _ _ _).bind fun outcome => ?_
        split
        next => exact .bind (along_frame fun _ => rfl) fun _ => .pure _
        next => exact .pure _
  next => exact (onMotion_along _).bind fun _ => .pure _

/-- The pause, the resume, the reminder, and the close are events, or calls of the motion model. -/
theorem eventOrMotion_along (hr : Commanded t0 r)
    (eventType : PetAnimationEventType) {legacy : Program PetAnimationEngine ActionOutcome}
    (hlegacy : Follows (OnTrack r) legacy) : Follows (OnTrack r)
      (if productionSequencingEnabled env then submitNewEvent env eventType else legacy) := by
  split
  next => exact submitNewEvent_along htrack hr _ _ _
  next => exact hlegacy

/-- Every operation leads along a relation that every command, callback, and graceful exit leads along. -/
theorem operate_continues (hr : Commanded t0 r)
    (hcompletes : ∀ event c continuation, Continues c continuation →
      Wp (PetTrack0Controller.handleCompletion t0 event continuation) (fun _ => r c) (fun _ => r c) c)
    (hexits : Follows r (PetTrack0Controller.cancelGracefully t0)) (e : PetAnimationEngine) (op : Operation) :
    OnTrack r e (operate env e op) := by
  have hdropped : ∀ {α : Type} {c : Program PetAnimationEngine α}, Follows (OnTrack r) c →
      OnTrack r e (stateAfter ((fun _ => ()) <$> c) e) := fun h => (h.map _).stateAfter e
  have hlegacy : ∀ c : Program PetMotionModel Unit, Follows (OnTrack r) (do
      onMotion c
      return ActionOutcome.legacyDirect) := fun c => (onMotion_along c).bind fun _ => .pure _
  cases op with
  | handleEvent event => exact hdropped (handleEvent_along htrack hr event)
  | requestAction action source => exact hdropped (requestAction_along htrack hr action source)
  | resumeAutonomous source => exact hdropped (resumeAutonomous_along htrack hr source)
  | startAutonomous => exact hdropped (startAutonomous_along htrack hr)
  | requestWalk direction => exact hdropped (requestWalk_along htrack hr direction)
  | requestThinkingAnimation => exact hdropped (requestThinkingAnimation_along htrack hr)
  | requestReminderAnimation =>
    refine hdropped (eventOrMotion_along htrack hr _ ?_)
    exact (onMotion_along _).bind fun _ => .bind (along_frame fun _ => rfl) fun _ => .pure _
  | startDragging => exact hdropped (startDragging_along htrack hr)
  | releaseDrag workspaces => exact hdropped (releaseDrag_along htrack hr workspaces)
  | pause => exact hdropped (eventOrMotion_along htrack hr _ (hlegacy _))
  | resume => exact hdropped (eventOrMotion_along htrack hr _ (hlegacy _))
  | beginClosing =>
    refine hdropped (.bind (along_frame fun _ => rfl) fun _ => ?_)
    exact eventOrMotion_along htrack hr _ (hlegacy _)
  | recoverFailedClose => exact (onMotion_along _).stateAfter e
  | requestGracefulExit =>
    refine hdropped ?_
    unfold requestGracefulExit
    rw [htrack]
    dsimp only
    split
    next => exact .pure _
    next => exact onTrack0_along hexits
  | advance elapsed workspaces => exact hdropped (advance_along htrack hr elapsed workspaces)
  | containRendererFailure => exact hdropped (containRendererFailure_along htrack hr)
  | handlePlaybackEvent event facing =>
    exact hdropped (handlePlaybackEvent_continues htrack hr (hcompletes event) facing)
  | dragTo | constrain | placeForRenderLayout | restorePosition => exact hdropped (onMotion_along _)

theorem operate_along (hr : Commanded t0 r)
    (hcompletes : ∀ event continuation, Follows r (PetTrack0Controller.handleCompletion t0 event continuation))
    (hexits : Follows r (PetTrack0Controller.cancelGracefully t0)) (e : PetAnimationEngine) (op : Operation) :
    OnTrack r e (operate env e op) :=
  operate_continues htrack hr (fun event c continuation _ => hcompletes event continuation c) hexits e op

end

end

end PetAnimationEngine

end ArkClaw.Pet
