import ArkClaw.Pet.EngineRuns

/-!
# The lifecycle, and what is barred

The lifecycle moves by the events that name one and by nothing else. While it is not active, or the renderer
is not healthy, a stopped track stays stopped: every intent, every other event, and every callback is kept
out. Both are one relation between the state before a program and the state after, and every program of the
engine leads along it.
-/

namespace ArkClaw.Pet

open ArkClaw.Library
open PetTrack0Controller (Stopped clear_spec adopts arbitrate)

namespace PetAnimationEngine

/-! ## The relation -/

/-- Valid layers stay valid, in the same lifecycle. -/
def SameLifecycle (e e' : PetAnimationEngine) : Prop :=
  e.motion.states.Valid → e'.motion.states.Valid ∧ e'.motion.states.lifecycle = e.motion.states.lifecycle

/-- Nothing plays, and nothing may: the lifecycle is not active, or the renderer is not healthy. -/
structure Barred (e : PetAnimationEngine) : Prop where
  valid : e.motion.states.Valid
  stopped : Stopped e.track0
  bars : e.motion.states.lifecycle ≠ .active ∨ e.track0.state.health ≠ .healthy

/-- The track is still stopped, and its renderer no healthier. -/
structure StaysStopped (c c' : PetTrack0Controller) : Prop where
  stopped : Stopped c'
  health : c'.state.health = c.state.health ∨ c'.state.health ≠ .healthy

/-- The lifecycle stays as it is, and a barred pet stays barred. -/
structure Lasting (e e' : PetAnimationEngine) : Prop where
  same : SameLifecycle e e'
  stays : Barred e → StaysStopped e.track0 e'.track0

section

variable {e e' e'' : PetAnimationEngine}

theorem Lasting.refl (e : PetAnimationEngine) : Lasting e e :=
  ⟨fun hv => ⟨hv, rfl⟩, fun hb => ⟨hb.stopped, .inl rfl⟩⟩

theorem Lasting.barred (h : Lasting e e') (hb : Barred e) : Barred e' := by
  obtain ⟨hvalid, hlifecycle⟩ := h.same hb.valid
  obtain ⟨hstopped, hhealth⟩ := h.stays hb
  refine ⟨hvalid, hstopped, ?_⟩
  rw [hlifecycle]
  rcases hhealth with hhealth | hhealth
  · rw [hhealth]
    exact hb.bars
  · exact .inr hhealth

theorem SameLifecycle.trans (h : SameLifecycle e e') (h' : SameLifecycle e' e'') : SameLifecycle e e'' := by
  intro hv
  obtain ⟨hv', hlifecycle⟩ := h hv
  obtain ⟨hv'', hlifecycle'⟩ := h' hv'
  exact ⟨hv'', hlifecycle'.trans hlifecycle⟩

theorem Lasting.trans (h : Lasting e e') (h' : Lasting e' e'') : Lasting e e'' := by
  refine ⟨h.same.trans h'.same, fun hb => ?_⟩
  obtain ⟨hstopped, hhealth⟩ := h'.stays (h.barred hb)
  refine ⟨hstopped, ?_⟩
  rcases hhealth with hhealth | hhealth
  · rw [hhealth]
    exact (h.stays hb).health
  · exact .inr hhealth

instance : Std.Refl SameLifecycle := ⟨fun _ hv => ⟨hv, rfl⟩⟩

instance : Trans SameLifecycle SameLifecycle SameLifecycle := ⟨SameLifecycle.trans⟩

instance : Std.Refl Lasting := ⟨Lasting.refl⟩

instance : Trans Lasting Lasting Lasting := ⟨Lasting.trans⟩

/-- The relation sees the layers' lifecycle and the track. -/
theorem Lasting.of_frame (hmotion : e'.motion.states = e.motion.states) (htrack : e'.track0 = e.track0) :
    Lasting e e' := by
  refine ⟨fun hv => ?_, fun hb => ?_⟩
  · rw [hmotion]
    exact ⟨hv, rfl⟩
  · rw [htrack]
    exact ⟨hb.stopped, .inl rfl⟩

/-- A pet that is not barred need only keep its lifecycle. -/
theorem Lasting.of_free (h : SameLifecycle e e') (hfree : ¬Barred e) : Lasting e e' :=
  ⟨h, fun hb => absurd hb hfree⟩

/-- Nothing is asked where the layers are not valid. -/
theorem lasting_of_invalid (h : ¬e.motion.states.Valid) : Lasting e e' :=
  ⟨fun hv => absurd hv h, fun hb => absurd hb.valid h⟩

end

/-! ## Programs of the parts -/

section

variable {env : EngineEnv} {t0 : Track0Env} {α : Type}

/-- A program that touches neither the layers nor the track. -/
theorem lasts_frame {f : PetAnimationEngine → PetAnimationEngine} (hmotion : ∀ e, (f e).motion = e.motion)
    (htrack : ∀ e, (f e).track0 = e.track0) : Follows Lasting (modify f : Program PetAnimationEngine Unit) :=
  fun e => .of_frame (congrArg (·.states) (hmotion e)) (htrack e)

theorem newObject_lasts : Follows Lasting newObject := fun _ => .of_frame rfl rfl

theorem readClock_lasts : Follows Lasting (readClock env) := fun _ => .of_frame rfl rfl

theorem onRandom_lasts (c : Program Nat α) : Follows Lasting (onRandom c) := fun _ =>
  wp_onRandom.mpr (wp_trivial _ (fun _ _ => .of_frame rfl rfl) (fun _ _ => .of_frame rfl rfl))

theorem setMode_lasts (mode : AutonomousExecutionMode) : Follows Lasting (setMode mode) :=
  lasts_frame (fun _ => rfl) (fun _ => rfl)

theorem clearProtectedContinuation_lasts : Follows Lasting clearProtectedContinuation :=
  lasts_frame (fun _ => rfl) (fun _ => rfl)

theorem interrupt_lasts : Follows Lasting interrupt := fun _ => .of_frame rfl rfl

/-- A program of the motion model that keeps valid layers in their lifecycle. -/
theorem onMotion_lasts {c : Program PetMotionModel α} (h : ∀ m : PetMotionModel, m.states.Valid →
      Wp c (fun _ m' => m'.states.Valid ∧ m'.states.lifecycle = m.states.lifecycle)
        (fun _ m' => m'.states.Valid ∧ m'.states.lifecycle = m.states.lifecycle) m) :
    Follows Lasting (onMotion c) := by
  intro e
  refine wp_onMotion.mpr ?_
  by_cases hv : e.motion.states.Valid
  · refine (h e.motion hv).mono (fun _ m' hm => ?_) (fun _ m' hm => ?_) <;>
      exact ⟨fun _ => hm, fun hb => ⟨hb.stopped, .inl rfl⟩⟩
  · exact wp_trivial _ (fun _ _ => lasting_of_invalid hv) (fun _ _ => lasting_of_invalid hv)

/-- A program of Track 0 that leaves a stopped track stopped. -/
theorem onTrack0_lasts {c : Program PetTrack0Controller α} (h : ∀ c₀, Stopped c₀ →
      Wp c (fun _ => StaysStopped c₀) (fun _ => StaysStopped c₀) c₀) : Follows Lasting (onTrack0 c) := by
  intro e
  refine wp_onTrack0.mpr ?_
  by_cases hb : Barred e
  · refine (h e.track0 hb.stopped).mono (fun _ c' hc => ?_) (fun _ c' hc => ?_) <;>
      exact ⟨fun hv => ⟨hv, rfl⟩, fun _ => hc⟩
  · refine wp_trivial _ (fun _ _ => ?_) (fun _ _ => ?_) <;>
      exact .of_free (fun hv => ⟨hv, rfl⟩) hb

theorem onTrack0_same (c : Program PetTrack0Controller α) : Follows SameLifecycle (onTrack0 c) := fun _ =>
  wp_onTrack0.mpr (wp_trivial _ (fun _ _ hv => ⟨hv, rfl⟩) (fun _ _ hv => ⟨hv, rfl⟩))

theorem motionState_lasts : Follows Lasting (onMotion PetMotionModel.state) :=
  onMotion_lasts fun _ hv => (PetMotionModel.wp_state hv _ _).mpr ⟨hv, rfl⟩

theorem assertTransactionCompatible_lasts : Follows Lasting assertTransactionCompatible :=
  motionState_lasts.bind fun _ => .get fun _ => .getOrRaise _

theorem clear_lasts (reason : CancelReason) :
    Follows Lasting (onTrack0 (PetTrack0Controller.clear t0 reason)) :=
  onTrack0_lasts fun c₀ _ => (clear_spec reason).mono
    (fun _ _ hc => ⟨hc.1, hc.2.elim (fun h => .inl h.2) fun h => .inr (by rw [h.2]; decide)⟩)
    (fun _ _ h => h.elim)

/-- A callback finds nothing to complete on a stopped track. -/
theorem handleCompletion_lasts (event : PlaybackEvent) (continuation : Option ActionRequest) :
    Follows Lasting (onTrack0 (PetTrack0Controller.handleCompletion t0 event continuation)) := by
  refine onTrack0_lasts fun c₀ hstopped => ?_
  refine (PetTrack0Controller.handleCompletion_stale (.inl ?_) _ _).mpr ⟨hstopped, .inl rfl⟩
  simp [PetTrack0Controller.Matches, PetSequenceRunner.eventMatchesCurrentEpoch, hstopped.runner]

/-- A stopped track has no exit to ask for. -/
theorem cancelGracefully_lasts (reason : CancelReason) :
    Follows Lasting (onTrack0 (PetTrack0Controller.cancel t0 reason .gracefulExit)) :=
  onTrack0_lasts fun _ hstopped =>
    (PetTrack0Controller.cancelGracefully_idle (by rw [hstopped.runner]) _ _).mpr ⟨hstopped, .inl rfl⟩

/-- A stopped track has no playback to adopt. -/
theorem adoptActivePlayback_lasts (request : ActionRequest) :
    Follows Lasting (onTrack0 (PetTrack0Controller.adoptActivePlayback t0 request)) := by
  refine onTrack0_lasts fun c₀ hstopped => ?_
  refine PetTrack0Controller.adoptActivePlayback_spec.mono (fun o c' hc => ?_) (fun _ _ h => h.elim)
  rcases hc with ⟨-, rfl⟩ | ⟨-, -, hadopts, -⟩
  · exact ⟨hstopped, .inl rfl⟩
  · simp [adopts, hstopped.active] at hadopts

/-! ## Proposals that name no lifecycle -/

theorem follows_propose {R : PetAnimationEngine → PetAnimationEngine → Prop} [Std.Refl R]
    {change : StateChange} {f : ProposedStateTransition → Program PetAnimationEngine α}
    (hchange : change.lifecycle = none) (h : ∀ proposal : ProposedStateTransition,
      proposal.targetState.lifecycle = proposal.sourceState.lifecycle → Follows R (f proposal)) :
    Follows R (propose change >>= f) := by
  intro e
  refine wp_bind.mpr ((wp_propose _ _ _).mpr ⟨fun proposal hproposal => ?_,
    fun _ _ => Std.Refl.refl e⟩)
  refine h proposal ?_ e
  rw [e.motion.states.propose_lifecycle hproposal, hchange, Option.getD_none]

theorem commit_lasts {proposal : ProposedStateTransition}
    (h : proposal.targetState.lifecycle = proposal.sourceState.lifecycle) :
    Follows Lasting (commit proposal) := by
  have hcommit : ∀ (m m' : PetLayeredStateMachine), m.Valid → m.commit proposal = .ok m' →
      m'.Valid ∧ m'.lifecycle = m.lifecycle := by
    intro m m' hv hm
    simp only [PetLayeredStateMachine.commit, m.snapshot_of_valid hv, bind, Except.bind, pure, Except.pure] at hm
    split at hm
    next => cases hm
    next =>
      split at hm
      next => cases hm
      next hcurrent =>
        obtain rfl := Except.ok.inj hm
        rw [not_or, not_not] at hcurrent
        refine ⟨m.valid_install _ _, ?_⟩
        show proposal.targetState.lifecycle = m.lifecycle
        rw [h, hcurrent.1]
        rfl
  refine onMotion_lasts fun m hv => ?_
  unfold PetMotionModel.commitStateTransition
  refine wp_bind.mpr ((PetMotionModel.wp_onStates _ _ _).mpr
    ⟨fun states hstates => ?_, fun _ _ => ⟨hv, rfl⟩⟩)
  refine wp_modify_bind.mpr ?_
  split
  next => exact hcommit _ _ hv hstates
  next => exact hcommit _ _ hv hstates

theorem commit_same {proposal : ProposedStateTransition}
    (h : proposal.targetState.lifecycle = proposal.sourceState.lifecycle) :
    Follows SameLifecycle (commit proposal) := (commit_lasts h).mono fun _ _ h => h.same

end

/-! ## Intents -/

section

variable {env : EngineEnv} {t0 : Track0Env} {intent : ActionIntent}

theorem assertTransactionCompatible_same : Follows SameLifecycle assertTransactionCompatible :=
  assertTransactionCompatible_lasts.mono fun _ _ h => h.same

theorem playOrCancel_same (reason : CancelReason) (mode : Option CancellationMode) (request : ActionRequest) :
    Follows SameLifecycle (playOrCancel t0 reason mode request) := by
  refine .get fun e => ?_
  split
  next => exact onTrack0_same _
  next =>
    cases mode with
    | none => exact .pure _
    | some mode => exact onTrack0_same _

theorem failIntent_same (outcome : ActionOutcome) : Follows SameLifecycle (failIntent intent outcome) := by
  unfold failIntent
  refine .bind (.modify fun _ hv => ⟨hv, rfl⟩) fun _ => ?_
  dsimp only
  split
  next =>
    refine follows_propose rfl fun _ h => (commit_same h).bind fun _ => ?_
    exact assertTransactionCompatible_same.bind fun _ => .pure _
  next => exact assertTransactionCompatible_same.bind fun _ => .pure _

theorem settleIntent_same : Follows SameLifecycle (settleIntent intent) := by
  unfold settleIntent
  refine .bind (.modify fun _ hv => ⟨hv, rfl⟩) fun _ => ?_
  dsimp only
  have hset : ∀ f : PetAnimationEngine → PetAnimationEngine, (∀ e, (f e).motion = e.motion) →
      Follows SameLifecycle (do modify f; assertTransactionCompatible; return ActionOutcome.accepted) := by
    intro f hf
    refine .bind (.modify fun e hv => ?_) fun _ => assertTransactionCompatible_same.bind fun _ => .pure _
    rw [hf]
    exact ⟨hv, rfl⟩
  split
  next => exact hset _ fun _ => rfl
  next =>
    split
    next => exact hset _ fun _ => rfl
    next => exact hset _ fun _ => rfl

/-- An intent that is carried out leaves the lifecycle alone, whatever the player does. -/
theorem carryOutIntent_same {proposal : ProposedStateTransition} {request : ActionRequest}
    {mode : Option CancellationMode} (h : proposal.targetState.lifecycle = proposal.sourceState.lifecycle) :
    Follows SameLifecycle (carryOutIntent t0 intent proposal request mode) := by
  have hrest : Follows SameLifecycle (do
      commit proposal
      let outcome ← playOrCancel t0 .userInterrupt mode request
      if outcome ≠ .accepted then failIntent intent outcome else settleIntent intent) := by
    refine (commit_same h).bind fun _ => (playOrCancel_same _ _ _).bind fun outcome => ?_
    split
    next => exact failIntent_same outcome
    next => exact settleIntent_same
  unfold carryOutIntent
  dsimp only
  split
  next => exact .bind (clearProtectedContinuation_lasts.mono fun _ _ h => h.same) fun _ => hrest
  next => exact hrest

theorem admitIntent_same (facing : Option PetFacing) (override : Bool) :
    Follows SameLifecycle (admitIntent t0 intent facing override) := by
  unfold admitIntent
  refine follows_propose rfl fun proposal h => ?_
  refine .bind (.getOrRaise _) fun request => .get fun e => ?_
  dsimp only
  split
  next => exact .pure _
  next =>
    split
    next => exact .pure _
    next =>
      split
      next => exact carryOutIntent_same h
      next =>
        refine .bind ?_ fun context => .get fun e => ?_
        · exact .bind (motionState_lasts.mono fun _ _ h => h.same) fun _ => .get fun _ => .pure _
        · split
          next => exact .pure _
          next => exact carryOutIntent_same h

theorem submitProductionIntent_same (facing : Option PetFacing) :
    Follows SameLifecycle (submitProductionIntent t0 intent facing) := by
  unfold submitProductionIntent
  refine .get fun e => ?_
  dsimp only
  split
  next => exact .bind (clearProtectedContinuation_lasts.mono fun _ _ h => h.same) fun _ => .pure _
  next =>
    split
    next =>
      unfold queueIntent
      split
      next => exact .bind (.modify fun _ hv => ⟨hv, rfl⟩) fun _ => .pure _
      next => exact .pure _
    next =>
      split
      next => exact .bind (.modify fun _ hv => ⟨hv, rfl⟩) fun _ => .pure _
      next => exact admitIntent_same _ _

/-- A barred pet refuses every intent: its layers or its renderer permit no action. -/
theorem submitProductionIntent_barred {e : PetAnimationEngine} (hb : Barred e) (facing : Option PetFacing)
    (Q : ActionOutcome → PetAnimationEngine → Prop) (R : PetError → PetAnimationEngine → Prop) :
    Wp (submitProductionIntent t0 intent facing) Q R e ↔ Q .rejectedIncompatibleState e := by
  have hpropose := e.motion.states.propose_eq (PetLayeredStateMachine.snapshot_of_valid _ hb.valid)
    (intentChange_resets intent.action facing)
  have hclass : (sequenceCatalog (productionSequenceByAction intent.action)).interruptionClass
      ≠ .userInteraction := by cases intent.action <;> decide
  have hkeptOut : ¬AnimationCompatible
      (e.motion.states.proposal (e.motion.states.state hb.valid)
        (intentChange_resets intent.action facing)).targetState
      (some (productionTrack0Action intent.action)) e.track0.state.health := by
    rw [animationCompatible_some, proposal_intent_lifecycle]
    rintro ⟨hhealth, hactive, -⟩
    exact hb.bars.elim (fun h => h hactive) (fun h => h hhealth)
  have hunprotected : e.activeRequestIsProtected = false := by
    simp [activeRequestIsProtected, hb.stopped.active]
  obtain ⟨request, hmake⟩ := make_ok (productionSequenceByAction intent.action) intent.requestToken
    (e.motion.states.proposal (e.motion.states.state hb.valid)
      (intentChange_resets intent.action facing)).targetEpoch intent.authority hclass
  unfold submitProductionIntent admitIntent
  simp only [wp_bind, wp_get, hunprotected, hb.stopped.confirmed, Bool.false_eq_true, false_and, and_false,
    decide_false, Option.isSome_none, if_false, wp_propose, hpropose, Except.ok.injEq, reduceCtorEq,
    IsEmpty.forall_iff, implies_true, and_true, forall_eq', wp_getOrRaise, hmake, hkeptOut, not_false_eq_true,
    if_true, wp_pure]

/-- A program that keeps the lifecycle, and is seen to last where the pet is barred. -/
theorem lasts_of_barred {α : Type} {c : Program PetAnimationEngine α} (hsame : Follows SameLifecycle c)
    (h : ∀ e, Barred e → Wp c (fun _ => Lasting e) (fun _ => Lasting e) e) : Follows Lasting c := by
  intro e
  by_cases hb : Barred e
  · exact h e hb
  · exact (hsame e).mono (fun _ _ h => .of_free h hb) (fun _ _ h => .of_free h hb)

theorem submitProductionIntent_lasts (facing : Option PetFacing) :
    Follows Lasting (submitProductionIntent t0 intent facing) :=
  lasts_of_barred (submitProductionIntent_same facing) fun e hb =>
    (submitProductionIntent_barred hb facing _ _).mpr (.refl e)

/-! ## Autonomy -/

theorem Bookkeeps.lasting (h : Bookkeeps e e') : Lasting e e' := by
  obtain ⟨_, _, _, _, _, rfl⟩ := h
  exact .of_frame rfl rfl

theorem activateAutonomous_lasts (action : ProductionAction) :
    Follows Lasting (activateAutonomous env action) :=
  (activateAutonomous_bookkeeps action).mono fun _ _ => Bookkeeps.lasting

theorem settleAutonomous_lasts (action : ProductionAction) (outcome : ActionOutcome) :
    Follows Lasting (settleAutonomous env action outcome) :=
  (settleAutonomous_bookkeeps action outcome).mono fun _ _ => Bookkeeps.lasting

theorem recoverAutonomousRelax_lasts (facing : Option PetFacing) :
    Follows Lasting (recoverAutonomousRelax env t0 facing) :=
  newObject_lasts.bind fun _ => (submitProductionIntent_lasts facing).bind fun _ =>
    (settleAutonomous_lasts _ _).bind fun _ => .pure _

theorem startAutonomous_lasts : Follows Lasting (startAutonomous env) := by
  unfold startAutonomous
  cases env.track0 with
  | none => exact .pure _
  | some t0 =>
    refine .get fun e => ?_
    split
    next => exact .pure _
    next => exact recoverAutonomousRelax_lasts _

theorem restartAutonomous_lasts (resumeAction : Option ProductionAction) :
    Follows Lasting (restartAutonomous env t0 resumeAction) := by
  unfold restartAutonomous
  cases resumeAction with
  | none => exact startAutonomous_lasts
  | some action =>
    exact newObject_lasts.bind fun _ => (submitProductionIntent_lasts _).bind fun _ =>
      (settleAutonomous_lasts _ _).bind fun _ => .pure _

theorem resumeAutonomous_lasts (source : ActionSource) : Follows Lasting (resumeAutonomous env source) := by
  unfold resumeAutonomous
  cases env.track0 with
  | none => exact .pure _
  | some t0 =>
    refine .get fun e => interrupt_lasts.bind fun _ => .get fun e' => ?_
    split
    next => exact restartAutonomous_lasts _
    next =>
      refine (clear_lasts _).bind fun answer => ?_
      split
      next => exact assertTransactionCompatible_lasts.bind fun _ => .pure _
      next => exact restartAutonomous_lasts _

theorem requestAction_lasts (action : ProductionAction) (source : ActionSource) :
    Follows Lasting (requestAction env action source) := by
  unfold requestAction
  refine newObject_lasts.bind fun _ => ?_
  split
  next =>
    cases env.track0 with
    | none => exact .pure _
    | some t0 => exact submitProductionIntent_lasts _
  next => exact .throw _

/-! ## Callbacks -/

theorem continueAfterProtected_lasts (facing : Option PetFacing) :
    Follows Lasting (continueAfterProtected env t0 facing) := by
  unfold continueAfterProtected
  refine .get fun e => clearProtectedContinuation_lasts.bind fun _ => .bind ?_ fun _ => ?_
  · exact lasts_frame (fun _ => rfl) (fun _ => rfl)
  · cases e.pendingExplicitAction with
    | none => exact recoverAutonomousRelax_lasts _
    | some pending => exact submitProductionIntent_lasts _

theorem continueAfterRecovery_lasts : Follows Lasting (continueAfterRecovery env t0) := by
  refine (clear_lasts _).bind fun answer => ?_
  split
  next => exact recoverAutonomousRelax_lasts _
  next => exact (setMode_lasts _).bind fun _ => .pure _

theorem submitProposal_lasts (decision : AutonomousSchedulerDecision) (now : Rat) :
    Follows Lasting (submitProposal env t0 decision intent now) := by
  refine (submitProductionIntent_lasts none).bind fun outcome => .get fun e => ?_
  refine (onRandom_lasts _).bind fun state => .bind ?_ fun _ => .pure _
  exact lasts_frame (fun _ => rfl) (fun _ => rfl)

theorem handleAutonomousBoundary_lasts (event : PlaybackEvent) (boundaryIndex : Int) :
    Follows Lasting (handleAutonomousBoundary env t0 event boundaryIndex) := by
  unfold handleAutonomousBoundary
  refine .get fun e => ?_
  cases e.autonomousSchedulerState with
  | none => exact .pure _
  | some state =>
    dsimp only
    split
    next => exact .pure _
    next =>
      refine readClock_lasts.bind fun now => .bind (.getOrRaise _) fun boundary => ?_
      refine newObject_lasts.bind fun token => .get fun e' => (onRandom_lasts _).bind fun decision => ?_
      refine .bind (lasts_frame (fun _ => rfl) (fun _ => rfl)) fun _ => ?_
      cases decision.intent with
      | none => exact .map _ (handleCompletion_lasts _ _)
      | some intent => exact .map _ (submitProposal_lasts _ _)

/-- The return to idle names no lifecycle. -/
theorem commitReturnIdle_same (event : PlaybackEvent) : Follows SameLifecycle (commitReturnIdle event) := by
  have hassert : ∀ x : Except PetError Unit, Follows SameLifecycle (getOrRaise x) := fun x => .getOrRaise x
  unfold commitReturnIdle
  refine .get fun e => ?_
  split
  next => exact .pure _
  next =>
    refine follows_propose rfl fun proposal h => (hassert _).bind fun _ => ?_
    cases e.track0.activeRequest with
    | none => exact .pure _
    | some active => exact (commit_same h).bind fun _ => .pure _

theorem startIdleAfterTerminal_same : Follows SameLifecycle (startIdleAfterTerminal t0) := by
  unfold startIdleAfterTerminal
  refine .bind (newObject_lasts.mono fun _ _ h => h.same) fun token => .get fun e => ?_
  refine .bind (.getOrRaise _) fun request => ?_
  split
  next => exact onTrack0_same _
  next => exact onTrack0_same _

theorem followCompletion_same (completesProtected completesRecovery reachesIdle : Bool)
    (facing : Option PetFacing) (completed : ActionOutcome) : Follows SameLifecycle
      (followCompletion env t0 completesProtected completesRecovery reachesIdle facing completed) := by
  have hidle : ∀ outcome, Follows SameLifecycle
      (if outcome = ActionOutcome.accepted ∧ reachesIdle = true then startIdleAfterTerminal t0
        else pure outcome) := by
    intro outcome
    split
    next => exact startIdleAfterTerminal_same
    next => exact .pure _
  unfold followCompletion
  dsimp only
  split
  next => exact .bind ((continueAfterProtected_lasts facing).mono fun _ _ h => h.same) hidle
  next =>
    split
    next => exact .bind (continueAfterRecovery_lasts.mono fun _ _ h => h.same) hidle
    next => exact .bind (.pure _) hidle

theorem advanceSequence_same (event : PlaybackEvent) (facing : Option PetFacing) :
    Follows SameLifecycle (advanceSequence env t0 event facing) := by
  unfold advanceSequence
  refine .get fun e => (commitReturnIdle_same event).bind fun continuation => ?_
  cases continuation with
  | none => exact .pure _
  | some continuation =>
    refine .get fun e' => (onTrack0_same _).bind fun completed => ?_
    refine (followCompletion_same _ _ _ _ _).bind fun outcome => ?_
    exact assertTransactionCompatible_same.bind fun _ => .pure _

/-- A callback keeps the lifecycle, and a barred pet waits for none. -/
theorem handlePlaybackEvent_lasts (event : PlaybackEvent) (facing : Option PetFacing) :
    Follows Lasting (handlePlaybackEvent env event facing) := by
  unfold handlePlaybackEvent
  cases env.track0 with
  | none => exact .pure _
  | some t0 =>
    have hforeign : Follows Lasting (do
        let outcome ← onTrack0 (PetTrack0Controller.handleCompletion t0 event)
        assertTransactionCompatible
        return outcome) :=
      (handleCompletion_lasts event none).bind fun _ => assertTransactionCompatible_lasts.bind fun _ => .pure _
    refine lasts_of_barred (.get fun e => ?_) fun e hb => ?_
    · dsimp only
      split
      next => exact hforeign.mono fun _ _ h => h.same
      next =>
        split
        next =>
          exact ((handleAutonomousBoundary_lasts _ _).mono fun _ _ h => h.same).bindOption (advanceSequence_same _ _)
            fun _ => assertTransactionCompatible_same.bind fun _ => .pure _
        next =>
          exact .bindOption (.pure _) (advanceSequence_same _ _)
            fun _ => assertTransactionCompatible_same.bind fun _ => .pure _
    · have hstale : e.callbackMatchesSnapshot event = false := by
        simp [callbackMatchesSnapshot, PetSequenceRunner.eventMatchesCurrentEpoch, hb.stopped.runner]
      refine wp_get_bind.mpr ?_
      simp only [hstale, Bool.not_false, if_true]
      exact hforeign e

end

/-! ## Events -/

/-- The lifecycle an event names. -/
def eventLifecycle : PetAnimationEventType → Option PetLifecycleState
  | .pause => some .paused
  | .resume => some .active
  | .beginClosing => some .closing
  | _ => none

section

variable {env : EngineEnv} {t0 : Track0Env} {e e' : PetAnimationEngine} {event : PetAnimationEvent}
  {o : ActionOutcome}

theorem eventChange_lifecycle {change : StateChange} {name : Option SequenceName} {reason : CancelReason}
    (h : eventChange env event = .ok (change, name, reason)) :
    change.lifecycle = eventLifecycle event.eventType := by
  unfold eventChange at h
  cases hevent : event.eventType with
  | startWalking =>
    rw [hevent] at h
    cases hfacing : event.facing with
    | none => rw [hfacing] at h; cases h
    | some facing =>
      rw [hfacing] at h
      cases facing <;>
        · simp only [Except.ok.injEq, Prod.mk.injEq] at h
          rw [← h.1]
          rfl
  | _ =>
    rw [hevent] at h
    simp only [Except.ok.injEq, Prod.mk.injEq] at h
    rw [← h.1]
    rfl

/-- A committed event brings the lifecycle it names. -/
theorem carriedOut_lifecycle (hv : e.motion.states.Valid) {change : StateChange}
    {name : Option SequenceName} {reason : CancelReason} {proposal : ProposedStateTransition}
    (hchange : eventChange env event = .ok (change, name, reason))
    (hpropose : e.motion.states.propose change = .ok proposal) : proposal.targetState.lifecycle
      = (eventLifecycle event.eventType).getD e.motion.states.lifecycle := by
  have hsource := (e.motion.states.propose_source hpropose).1
  rw [PetLayeredStateMachine.snapshot_of_valid _ hv] at hsource
  rw [e.motion.states.propose_lifecycle hpropose, eventChange_lifecycle hchange, ← Except.ok.inj hsource]
  rfl

/-- What follows the commit of an event leaves its layers alone. -/
theorem settleEvent_same : Follows SameLifecycle (settleEvent env event o) := by
  unfold settleEvent
  split
  next => exact .pure _
  next =>
    split
    next => exact (setMode_lasts _).mono fun _ _ h => h.same
    next => exact .bind (.modify fun _ hv => ⟨hv, rfl⟩) fun _ =>
      (activateAutonomous_lasts _).mono fun _ _ h => h.same

/-- An event that is carried out leaves the pet in the lifecycle it names. -/
theorem handleEvent_carriedOut (htrack : env.track0 = some t0) (hv : e.motion.states.Valid) :
    Wp (handleEvent env event)
      (fun o e' => o ∉ notCarriedOut → e'.motion.states.lifecycle
        = (eventLifecycle event.eventType).getD e.motion.states.lifecycle) (fun _ _ => True) e := by
  obtain ⟨hmotion, -⟩ := prepared_frame e event
  generalize hprepared : e.prepared event = e₀ at hmotion
  have hv₀ : e₀.motion.states.Valid := by rwa [hmotion]
  have hcommitted : ∀ {change name reason proposal}, eventChange env event = .ok (change, name, reason) →
      e₀.motion.states.propose change = .ok proposal → ∀ {α : Type} {c : Program PetAnimationEngine α},
      Follows SameLifecycle c →
      Wp (do commit proposal; c) (fun _ e' => e'.motion.states.lifecycle
        = (eventLifecycle event.eventType).getD e.motion.states.lifecycle) (fun _ _ => True) e₀ := by
    intro change name reason proposal hchange hpropose α c hc
    refine wp_bind.mpr ((wp_commit _ hpropose _ _).mpr ?_)
    refine (hc _).mono (fun _ e' hsame => ?_) (fun _ _ _ => trivial)
    rw [(hsame (committed_valid _ _)).2, ← hmotion]
    exact carriedOut_lifecycle hv₀ hchange hpropose
  unfold handleEvent
  refine wp_bind.mpr ((wp_interruptFor _ _).mpr ?_)
  rw [hprepared]
  simp only [htrack, proposeEvent]
  refine wp_bind.mpr (wp_bind.mpr (wp_getOrRaise.mpr
    ⟨?_, fun _ _ => trivial⟩))
  rintro ⟨change, name, reason⟩ hchange
  refine wp_bind.mpr ((wp_propose _ _ _).mpr ⟨fun proposal hpropose => ?_, fun _ _ => trivial⟩)
  refine wp_pure.mpr ?_
  cases name with
  | none =>
    refine (hcommitted hchange hpropose ?_).mono (fun _ _ h _ => h) (fun _ _ _ => trivial)
    exact (onTrack0_same _).bind fun _ => assertTransactionCompatible_same.bind fun _ => .pure _
  | some name =>
    have hcontain : ∀ {o : ActionOutcome}, o ∈ notCarriedOut → Wp
        (if proposal.mandatoryForSafety then containMandatoryProposal t0 proposal reason else return o)
        (fun o e' => o ∉ notCarriedOut → e'.motion.states.lifecycle
          = (eventLifecycle event.eventType).getD e.motion.states.lifecycle) (fun _ _ => True) e₀ := by
      intro o ho
      split
      next =>
        refine (hcommitted hchange hpropose ?_).mono (fun _ _ h _ => h) (fun _ _ _ => trivial)
        exact (onTrack0_same _).bind fun _ => assertTransactionCompatible_same.bind fun _ => .pure _
      next => exact fun h => absurd ho h
    unfold submitEvent
    refine wp_bind.mpr (wp_getOrRaise.mpr ⟨fun request hrequest => ?_, fun _ _ => trivial⟩)
    refine wp_get_bind.mpr ?_
    dsimp only
    split
    next => exact hcontain (by decide)
    next =>
      split
      next hpreflight => exact hcontain (preflight_keepsOut hpreflight)
      next =>
        refine wp_bind.mpr
          ((wp_arbitrationContext (PetLayeredStateMachine.snapshot_of_valid _ hv₀) _ _).mpr ?_)
        refine wp_get_bind.mpr ?_
        split
        next hrefused => exact fun h => absurd (arbitrate_keepsOut hrefused) h
        next =>
          refine (hcommitted hchange hpropose ?_).mono (fun _ _ h _ => h) (fun _ _ _ => trivial)
          exact (playOrCancel_same _ _ _).bind fun _ => settleEvent_same.bind fun _ =>
            assertTransactionCompatible_same.bind fun _ => .pure _

/-- The lifecycle after an event is the one it names, if it is carried out. -/
theorem handleEvent_lifecycle (htrack : env.track0 = some t0) (hv : e.motion.states.Valid) :
    Wp (handleEvent env event)
      (fun o e' => Handled env t0 (e.prepared event) event o e' ∧ e'.motion.states.Valid
        ∧ e'.motion.states.lifecycle = if o ∈ notCarriedOut then e.motion.states.lifecycle
            else (eventLifecycle event.eventType).getD e.motion.states.lifecycle)
      (fun _ e' => e' = e.prepared event) e := by
  obtain ⟨hmotion, -⟩ := prepared_frame e event
  have hv₀ : (e.prepared event).motion.states.Valid := by rwa [hmotion]
  refine ((handleEvent_spec htrack).and (handleEvent_carriedOut htrack hv)).mono (fun o e' h => ?_)
    (fun error e' h => h.1.1)
  obtain ⟨hhandled, hcarried⟩ := h
  have hvalid : e'.motion.states.Valid ∧ (o ∈ notCarriedOut → e'.motion = e.motion) := by
    cases hhandled with
    | cleared _ motion track0 _ hvalid _ _ _ ho =>
      refine ⟨hvalid, fun hmem => ?_⟩
      obtain rfl | rfl := ho <;> exact absurd hmem (by decide)
    | contained _ proposal reason request track0 _ _ _ hcontained =>
      refine ⟨committed_valid _ _, fun hmem => ?_⟩
      obtain rfl | rfl := hcontained.outcome <;> exact absurd hmem (by decide)
    | refused => exact ⟨hv₀, fun _ => hmotion⟩
    | played => exact ⟨committed_valid _ _, fun hmem => absurd hmem (by decide)⟩
    | resumed _ _ _ _ _ _ _ _ _ _ hactivated =>
      refine ⟨?_, fun hmem => absurd hmem (by decide)⟩
      rw [hactivated.frame.1]
      exact committed_valid _ _
    | failed _ proposal track0 _ hcontained =>
      refine ⟨committed_valid _ _, fun hmem => ?_⟩
      obtain rfl | rfl := hcontained.outcome <;> exact absurd hmem (by decide)
  refine ⟨hhandled, hvalid.1, ?_⟩
  split
  next hmem => rw [hvalid.2 hmem]
  next hmem => exact hcarried hmem

/-- An admitted event meets a healthy renderer, and goes to the active lifecycle. -/
theorem Admits.target (h : Admits env t0 e event) (hv : e.motion.states.Valid) :
    e.track0.state.health = .healthy
      ∧ (eventLifecycle event.eventType).getD e.motion.states.lifecycle = .active := by
  obtain ⟨proposal, reason, request, ⟨change, hchange, hpropose, -⟩, hplayable, -⟩ := h
  obtain ⟨hhealth, hactive, -⟩ := animationCompatible_some.mp hplayable.1
  exact ⟨hhealth, (carriedOut_lifecycle hv hchange hpropose).symm.trans hactive⟩

/-- A barred pet admits no event but a resume. -/
theorem Barred.not_admits (hb : Barred e) (hkind : event.eventType ≠ .resume) : ¬Admits env t0 e event := by
  intro hadmits
  obtain ⟨hhealth, hactive⟩ := hadmits.target hb.valid
  cases hevent : event.eventType with
  | resume => exact hkind hevent
  | pause => rw [hevent] at hactive; cases hactive
  | beginClosing => rw [hevent] at hactive; cases hactive
  | _ =>
    rw [hevent] at hactive
    exact hb.bars.elim (fun h => h hactive) (fun h => h hhealth)

/-- A resume requests the production Relax, which the layers it proposes permit. -/
theorem resume_submits (hv : e.motion.states.Valid) (hevent : event.eventType = .resume) :
    ∃ proposal request, Submits env e event proposal .userInterrupt request
      ∧ (Playable t0 e proposal request ↔ e.track0.state.health = .healthy ∧ Performable t0 .productionRelax) := by
  have hresets : StateChange.Resets
      { lifecycle := some .active, motion := some .idle, activity := some .none } := .inl rfl
  have hpropose := e.motion.states.propose_eq (PetLayeredStateMachine.snapshot_of_valid _ hv) hresets
  obtain ⟨request, hmake⟩ : ∃ request, eventRequest event .productionRelax
      (e.motion.states.proposal (e.motion.states.state hv) hresets).targetEpoch = .ok request := by
    unfold eventRequest ActionRequest.make eventOrigin eventSource
    rw [hevent]
    exact ⟨_, rfl⟩
  obtain ⟨hname, hclass, hprotected, -⟩ := make_policy hmake
  have hpermits : PetActionName.idle ∈ stateActionCompatibility .idle .none := by decide
  refine ⟨_, request, ⟨_, ?_, hpropose, ?_⟩, ?_⟩
  · rw [hname]
    unfold eventChange
    rw [hevent]
  · rw [hname]
    exact hmake
  · unfold Playable
    rw [preflight_accepted hclass hprotected, hname]
    refine and_congr_left fun _ => animationCompatible_some.trans ⟨And.left, fun hhealth => ?_⟩
    exact ⟨hhealth, rfl, hpermits⟩

/-- A barred pet resumes exactly if its renderer is healthy and its Relax can play. -/
theorem Barred.admits_resume (hb : Barred e) (hevent : event.eventType = .resume) :
    Admits env t0 e event ↔ e.track0.state.health = .healthy ∧ Performable t0 .productionRelax := by
  obtain ⟨proposal, request, hsubmits, hplayable⟩ := @resume_submits env t0 e event hb.valid hevent
  constructor
  · rintro ⟨proposal', reason', request', hsubmits', hplayable', -⟩
    obtain ⟨rfl, rfl, rfl⟩ := hsubmits.unique hsubmits'
    exact hplayable.mp hplayable'
  · intro hplays
    refine ⟨_, _, request, hsubmits, hplayable.mpr hplays, ?_⟩
    simp [arbitrate, PetActionArbiter.decide, hb.stopped.active]

/-- An event that names no lifecycle keeps it, and a barred pet plays nothing for it. -/
theorem handleEvent_lasts (htrack : env.track0 = some t0) (hkind : eventLifecycle event.eventType = none) :
    Follows Lasting (handleEvent env event) := by
  intro e
  obtain ⟨hmotion, htrack₀⟩ := prepared_frame e event
  by_cases hv : e.motion.states.Valid
  · refine (handleEvent_lifecycle htrack hv).mono (fun o e' h => ?_) (fun error e' h => ?_)
    · obtain ⟨hhandled, hvalid, hlifecycle⟩ := h
      rw [hkind, Option.getD_none, ite_self] at hlifecycle
      refine ⟨fun _ => ⟨hvalid, hlifecycle⟩, fun hb => ?_⟩
      cases hhandled with
      | cleared _ motion track0 hevent =>
        obtain hevent | hevent := hevent <;> rw [hevent] at hkind <;> cases hkind
      | contained _ proposal reason request track0 _ _ _ hcontained =>
        exact ⟨hcontained.stopped, .inr hcontained.health⟩
      | refused =>
        rw [htrack₀]
        exact ⟨hb.stopped, .inl rfl⟩
      | played proposal reason request track0 hadmits _ _ _ _ hresume =>
        exact absurd (admits_prepared.mp hadmits) (hb.not_admits hresume)
      | resumed proposal request track0 _ hevent => rw [hevent] at hkind; cases hkind
      | failed _ proposal track0 _ hcontained => exact ⟨hcontained.stopped, .inr hcontained.health⟩
    · subst h
      exact .of_frame (by rw [hmotion]) htrack₀
  · exact wp_trivial _ (fun _ _ => lasting_of_invalid hv) (fun _ _ => lasting_of_invalid hv)

theorem submitNewEvent_lasts (htrack : env.track0 = some t0) {eventType : PetAnimationEventType}
    (hkind : eventLifecycle eventType = none) (facing : Option PetFacing)
    (inputSessionToken : Option ObjectId) :
    Follows Lasting (submitNewEvent env eventType facing inputSessionToken) :=
  newObject_lasts.bind fun _ => handleEvent_lasts htrack hkind

theorem startDragging_lasts (htrack : env.track0 = some t0)
    (hsequencing : productionSequencingEnabled env = true) : Follows Lasting (startDragging env) := by
  unfold startDragging
  rw [if_pos hsequencing]
  refine newObject_lasts.bind fun token => (submitNewEvent_lasts htrack rfl _ _).bind fun outcome => ?_
  dsimp only
  split
  next =>
    refine .bind ?_ fun _ => .pure _
    exact lasts_frame (fun _ => rfl) (fun _ => rfl)
  next => exact .pure _

theorem motion_releaseDrag_lasts (workspaces : Option (List Rect)) :
    Follows Lasting (onMotion (PetMotionModel.releaseDrag workspaces)) := by
  refine onMotion_lasts fun m hv => ?_
  refine (PetMotionModel.releaseDrag_layers hv workspaces).mono (fun _ m' h => ?_) (fun _ m' h => ?_)
  · obtain ⟨-, -, ⟨hpaused, hat⟩ | ⟨hactive, hat | hat⟩⟩ := h
    · exact ⟨hat.valid, hat.lifecycle.trans hpaused.symm⟩
    · exact ⟨hat.valid, hat.lifecycle.trans hactive.symm⟩
    · exact ⟨hat.valid, hat.lifecycle.trans hactive.symm⟩
  · rw [h.1.1]
    exact ⟨hv, rfl⟩

theorem releaseDrag_lasts (htrack : env.track0 = some t0)
    (hsequencing : productionSequencingEnabled env = true) (workspaces : Option (List Rect)) :
    Follows Lasting (releaseDrag env workspaces) := by
  unfold releaseDrag
  rw [if_pos hsequencing]
  refine .get fun e => ?_
  cases e.dragSessionToken with
  | none => exact .throw _
  | some token =>
    dsimp only
    split
    next =>
      unfold releaseDragInRelax
      refine .bind (lasts_frame (fun _ => rfl) (fun _ => rfl)) fun _ => ?_
      refine (motion_releaseDrag_lasts workspaces).bind fun _ => .get fun e' => ?_
      split
      next => exact .pure _
      next => exact assertTransactionCompatible_lasts.bind fun _ => .pure _
    next =>
      refine (submitNewEvent_lasts htrack rfl _ _).bind fun outcome => ?_
      split
      next =>
        refine .bind ?_ fun _ => .pure _
        exact lasts_frame (fun _ => rfl) (fun _ => rfl)
      next => exact .pure _

/-! ## The rest of the operations -/

theorem containRendererFailure_lasts : Follows Lasting (containRendererFailure env) := by
  unfold containRendererFailure
  refine interrupt_lasts.bind fun _ => follows_propose rfl fun proposal h => ?_
  refine (commit_lasts h).bind fun _ => ?_
  cases env.track0 with
  | none => exact .pure _
  | some t0 => exact clear_lasts _

theorem requestGracefulExit_lasts : Follows Lasting (requestGracefulExit env) := by
  unfold requestGracefulExit
  cases env.track0 with
  | none => exact .pure _
  | some t0 =>
    dsimp only
    split
    next => exact .pure _
    next => exact cancelGracefully_lasts _

theorem finishRelaxMotionRecovery_lasts : Follows Lasting (finishRelaxMotionRecovery env t0) := by
  unfold finishRelaxMotionRecovery
  refine .get fun e => ?_
  split
  next => exact (setMode_lasts _).bind fun _ => .pure _
  next =>
    refine newObject_lasts.bind fun token => .bind (.getOrRaise _) fun request => ?_
    refine (adoptActivePlayback_lasts request).bind fun adopted => ?_
    split
    next => exact (setMode_lasts _).bind fun _ => .pure _
    next =>
      refine .bind (lasts_frame (fun _ => rfl) (fun _ => rfl)) fun _ => ?_
      exact (activateAutonomous_lasts _).bind fun _ => assertTransactionCompatible_lasts.bind fun _ => .pure _

theorem turnAtBoundary_lasts (direction : PetFacing) : Follows Lasting (turnAtBoundary env direction) := by
  have hstart : Follows Lasting (onMotion (PetMotionModel.startWalking direction)) := by
    refine onMotion_lasts fun m hv => ?_
    unfold PetMotionModel.startWalking
    refine wp_bind.mpr ((PetMotionModel.wp_onStates _ _ _).mpr
      ⟨fun states hstates => ?_, fun _ _ => ⟨hv, rfl⟩⟩)
    have hat := PetLayeredStateMachine.startWalking_at hv hstates
    refine ⟨hat.valid, hat.lifecycle.trans ?_⟩
    unfold PetLayeredStateMachine.startWalking at hstates
    split at hstates
    next => cases hstates
    next hallowed =>
      rw [not_or, not_not] at hallowed
      exact hallowed.1.symm
  have hsuspend : Follows Lasting (do clearProtectedContinuation; setMode .suspended) :=
    clearProtectedContinuation_lasts.bind fun _ => setMode_lasts _
  unfold turnAtBoundary
  refine .get fun e => ?_
  split
  next =>
    cases env.track0 with
    | none =>
      dsimp only
      split
      next => exact interrupt_lasts
      next => exact hsuspend
    | some t0 =>
      dsimp only
      split
      next =>
        unfold recoverExplicitBoundary
        refine .bind ?_ fun _ => .pure _
        refine interrupt_lasts.bind fun _ => (clear_lasts _).bind fun answer => ?_
        split
        next => exact .pure _
        next => exact recoverAutonomousRelax_lasts _
      next =>
        unfold commitWorkspaceBoundaryTurn
        refine clearProtectedContinuation_lasts.bind fun _ => (setMode_lasts _).bind fun _ => ?_
        refine newObject_lasts.bind fun token => (submitProductionIntent_lasts _).bind fun outcome => ?_
        split
        next => exact activateAutonomous_lasts _
        next => exact .pure _
  next => exact hstart

theorem motion_update_lasts (elapsed : Rat) (workspaces : List Rect) :
    Follows Lasting (onMotion (PetMotionModel.update elapsed workspaces)) := by
  refine onMotion_lasts fun m hv => ?_
  refine (PetMotionModel.update_layers hv elapsed workspaces).mono (fun _ m' h => ?_) (fun _ m' h => ?_)
  · cases h with
    | kept h =>
      rw [h.1]
      exact ⟨hv, rfl⟩
    | turning _ _ hstates _ =>
      rw [hstates]
      exact ⟨hv, rfl⟩
    | landed hactive _ _ hat _ => exact ⟨hat.valid, hat.lifecycle.trans hactive.symm⟩
    | rested hactive _ hat _ => exact ⟨hat.valid, hat.lifecycle.trans hactive.symm⟩
  · rw [h.1.1]
    exact ⟨hv, rfl⟩

theorem advancePhysics_lasts (elapsed : Rat) (workspaces : List Rect) :
    Follows Lasting (advancePhysics env elapsed workspaces) := by
  have hlanding : ∀ previous moved : PetMotionState, Follows Lasting (recoverLanding env previous moved) := by
    intro previous moved
    unfold recoverLanding
    split
    next =>
      cases env.track0 with
      | none => exact .pure _
      | some t0 => exact .map _ finishRelaxMotionRecovery_lasts
    next => exact .pure _
  have hturn : Follows Lasting (takeTurn env) := by
    unfold takeTurn
    refine .bind (onMotion_lasts fun m hv => ⟨hv, rfl⟩) fun direction => ?_
    cases direction with
    | none => exact .pure _
    | some direction => exact turnAtBoundary_lasts direction
  refine motionState_lasts.bind fun previous => (motion_update_lasts _ _).bind fun moved => ?_
  refine (hlanding _ _).bind fun _ => hturn.bind fun _ => ?_
  exact onMotion_lasts fun m hv => (PetMotionModel.wp_snapshot hv _ _).mpr ⟨hv, rfl⟩

/-- A tick keeps the lifecycle, and moves nothing but the window of a barred pet. -/
theorem advance_lasts (htrack : env.track0 = some t0)
    (hsequencing : sequencingEnabled t0.player.capabilities = true) (hs : Sound env t0 e)
    (elapsedSeconds : Rat) (workspaces : List Rect) :
    Wp (advance env elapsedSeconds workspaces) (fun _ => Lasting e) (fun _ => Lasting e) e := by
  have henabled := sequencingEnabled_of htrack hsequencing
  refine advance_spec hs (Lasting.refl e) (fun _ => ?_) fun _ _ hsound => ?_
  · have hframe : Lasting e { e with lastAppliedDelta := 0 } := .of_frame rfl rfl
    exact (motion_update_lasts _ _ _).mono (fun _ _ h => hframe.trans h) (fun _ _ h => hframe.trans h)
  · obtain ⟨states, blinkElapsed, nextBlink, draws, hat, hblinked⟩ :=
      @blinked_frame env e (applied env elapsedSeconds) hs.valid
    have hblink : Lasting e (blinked env (applied env elapsedSeconds) e) := by
      rw [hblinked]
      exact ⟨fun _ => ⟨hat.valid, hat.lifecycle⟩, fun hb => ⟨hb.stopped, .inl rfl⟩⟩
    have hrest : ∀ e₁, Lasting e e₁ →
        Wp (advancePhysics env (applied env elapsedSeconds) workspaces) (fun _ => Lasting e)
          (fun _ => Lasting e) e₁ := fun e₁ h₁ =>
      (advancePhysics_lasts _ _ e₁).mono (fun _ _ h => h₁.trans h) (fun _ _ h => h₁.trans h)
    refine wp_bind.mpr (advanceRandomAction_spec henabled hsound.valid hsound.untimed
      (fun _ next => hrest _ (hblink.trans (.of_frame rfl rfl))) (fun event hevent => ?_))
    have hkind : eventLifecycle event.eventType = none := by
      obtain ⟨-, ⟨hevent, -⟩ | hevent⟩ := randomEvent_kind hevent <;> rw [hevent] <;> rfl
    have hdrawn : Lasting e ((blinked env (applied env elapsedSeconds) e).drawn (applied env elapsedSeconds)) :=
      hblink.trans (.of_frame rfl rfl)
    exact (handleEvent_lasts htrack hkind _).mono (fun _ e₁ h => hrest e₁ (hdrawn.trans h))
      (fun _ _ h => hdrawn.trans h)

/-! ## One operation -/

/-- The event of its own that an operation handles, where that event names a lifecycle. -/
def Operation.lifecycleEvent : Operation → Option PetAnimationEventType
  | .handleEvent event => if (eventLifecycle event.eventType).isSome then some event.eventType else none
  | .pause => some .pause
  | .resume => some .resume
  | .beginClosing => some .beginClosing
  | _ => none

/-- Every operation that handles no such event keeps the lifecycle and what is barred; the recovery of a failed
close is the one exception. -/
theorem operate_lasts (htrack : env.track0 = some t0)
    (hsequencing : sequencingEnabled t0.player.capabilities = true) (hs : Sound env t0 e) {op : Operation}
    (hop : op.lifecycleEvent = none) (hrecover : op ≠ .recoverFailedClose) : Lasting e (operate env e op) := by
  have henabled := sequencingEnabled_of htrack hsequencing
  have hdropped : ∀ {α : Type} {c : Program PetAnimationEngine α}, Follows Lasting c →
      Lasting e (stateAfter ((fun _ => ()) <$> c) e) := fun h => (h.map _).stateAfter e
  have hwindow : ∀ {c : Program PetMotionModel PetMotionSnapshot}, (∀ m : PetMotionModel, m.states.Valid →
      Wp c (fun _ => PetMotionModel.KeepsLayers m) (PetMotionModel.Raises m) m) →
      Lasting e (stateAfter ((fun _ => ()) <$> onMotion c) e) := by
    intro c hc
    refine hdropped (onMotion_lasts fun m hv => (hc m hv).mono (fun _ m' h => ?_) (fun _ m' h => ?_))
    · rw [h.1]
      exact ⟨hv, rfl⟩
    · rw [h.1.1]
      exact ⟨hv, rfl⟩
  cases op with
  | handleEvent event =>
    refine hdropped (handleEvent_lasts htrack ?_)
    simpa [Operation.lifecycleEvent] using hop
  | requestAction action source => exact hdropped (requestAction_lasts action source)
  | resumeAutonomous source => exact hdropped (resumeAutonomous_lasts source)
  | startAutonomous => exact hdropped startAutonomous_lasts
  | requestWalk direction =>
    refine hdropped ?_
    unfold requestWalk
    rw [if_pos henabled]
    exact submitNewEvent_lasts htrack rfl _ _
  | requestThinkingAnimation =>
    refine hdropped ?_
    unfold requestThinkingAnimation
    rw [if_pos henabled]
    exact submitNewEvent_lasts htrack rfl _ _
  | requestReminderAnimation =>
    refine hdropped ?_
    unfold requestReminderAnimation
    rw [if_pos henabled]
    exact submitNewEvent_lasts htrack rfl _ _
  | startDragging => exact hdropped (startDragging_lasts htrack henabled)
  | releaseDrag workspaces => exact hdropped (releaseDrag_lasts htrack henabled workspaces)
  | pause => cases hop
  | resume => cases hop
  | beginClosing => cases hop
  | recoverFailedClose => exact absurd rfl hrecover
  | requestGracefulExit => exact hdropped requestGracefulExit_lasts
  | advance elapsedSeconds workspaces =>
    exact Wp.stateAfter (wp_map.mpr (advance_lasts htrack hsequencing hs _ _))
  | containRendererFailure => exact hdropped containRendererFailure_lasts
  | handlePlaybackEvent event facing => exact hdropped (handlePlaybackEvent_lasts event facing)
  | dragTo position workspaces => exact hwindow fun _ hv => PetMotionModel.dragTo_keeps hv _ _
  | constrain workspaces => exact hwindow fun _ hv => PetMotionModel.constrain_keeps hv _
  | placeForRenderLayout position workspace =>
    exact hwindow fun _ hv => PetMotionModel.placeForRenderLayout_keeps hv _ _
  | restorePosition position workspaces => exact hwindow fun _ hv => PetMotionModel.restorePosition_keeps hv _ _

/-- What holds after the event of its own holds after the operation. -/
theorem operate_lifecycleEvent (henabled : productionSequencingEnabled env = true) {op : Operation}
    {eventType : PetAnimationEventType} (hop : op.lifecycleEvent = some eventType)
    {P : PetAnimationEngine → Prop}
    (h : ∀ event e₁, event.eventType = eventType → e₁.motion = e.motion → e₁.track0 = e.track0 →
      Wp (handleEvent env event) (fun _ => P) (fun _ => P) e₁) : P (operate env e op) := by
  have hnew : ∀ e₁ : PetAnimationEngine, e₁.motion = e.motion → e₁.track0 = e.track0 →
      Wp (submitNewEvent env eventType) (fun _ => P) (fun _ => P) e₁ := fun e₁ hmotion htrack =>
    wp_bind.mpr (wp_newObject.mpr (h _ _ rfl hmotion htrack))
  unfold operate
  refine Wp.stateAfter ?_
  cases op with
  | handleEvent event =>
    refine wp_map.mpr (h event e ?_ rfl rfl)
    simp only [Operation.lifecycleEvent] at hop
    split at hop
    next => exact Option.some.inj hop
    next => cases hop
  | pause =>
    obtain rfl := Option.some.inj hop
    refine wp_map.mpr ?_
    unfold pause
    rw [if_pos henabled]
    exact hnew e rfl rfl
  | resume =>
    obtain rfl := Option.some.inj hop
    refine wp_map.mpr ?_
    unfold resume
    rw [if_pos henabled]
    exact hnew e rfl rfl
  | beginClosing =>
    obtain rfl := Option.some.inj hop
    refine wp_map.mpr ?_
    unfold beginClosing
    refine wp_modify_bind.mpr ?_
    rw [if_pos henabled]
    exact hnew _ rfl rfl
  | _ => cases hop

end

end PetAnimationEngine

end ArkClaw.Pet
