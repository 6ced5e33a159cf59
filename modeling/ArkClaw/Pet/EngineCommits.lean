import ArkClaw.Pet.EngineMotion

/-!
# What the operations of the engine commit

Each operation, seen from the motion model: along a relation leads every operation whose own transitions, and whose
intents and events where they are admitted, lead along it. What a callback commits depends on what the controller
makes of the completion, so `GoesOnWith` says it of the controller that has handled it.
-/

namespace ArkClaw.Pet

open ArkClaw.Library

namespace PetAnimationEngine

section

variable {env : EngineEnv} {t0 : Track0Env} {e e' : PetAnimationEngine} {α : Type}
  {r : PetMotionModel → PetMotionModel → Prop}

/-- A run from another state with the same motion. -/
theorem wp_of_motion {c : Program PetAnimationEngine α}
    (h : Wp c (fun _ => OnMotion r e') (fun _ => OnMotion r e') e') (hmotion : e'.motion = e.motion) :
    Wp c (fun _ => OnMotion r e) (fun _ => OnMotion r e) e' := by
  unfold OnMotion at h ⊢
  rwa [hmotion] at h

variable [Std.Refl r]

theorem requestGracefulExit_still : Follows (OnMotion r) (requestGracefulExit env) := by
  unfold requestGracefulExit
  cases env.track0 with
  | none => exact .pure _
  | some t0 =>
    dsimp only
    split
    next => exact .pure _
    next => exact onTrack0_still _

/-- The callback makes the runner return to idle, and the layers may: idle is committed before it does. -/
def ReturnsToIdle (e : PetAnimationEngine) (event : PlaybackEvent) : Prop :=
  e.nextActionForCallback event = some .returnIdle ∧ e.track0.activeRequest.isSome = true
    ∧ e.motion.states.lifecycle = .active ∧ e.track0.state.health = .healthy

theorem commitReturnIdle_follows (event : PlaybackEvent)
    (h : ReturnsToIdle e event → ∀ proposal : ProposedStateTransition, proposal.targetState.motion = .idle →
      Follows r (PetMotionModel.commitStateTransition proposal)) : Wp (commitReturnIdle event)
      (fun continuation e' => OnMotion r e e' ∧ e'.pendingExplicitAction = e.pendingExplicitAction
        ∧ (continuation = none ∨ ReturnsToIdle e event
          ∨ e.nextActionForCallback event ≠ some .returnIdle ∧ continuation = some none ∧ e' = e))
      (fun _ => OnMotion r e) e := by
  unfold commitReturnIdle
  refine wp_get_bind.mpr ?_
  split
  next hnext => exact ⟨.rfl, rfl, .inr (.inr ⟨hnext, rfl, rfl⟩)⟩
  next hnext =>
    simp only [wp_bind, wp_propose, wp_getOrRaise]
    refine ⟨fun proposal hpropose => ⟨fun _ hcompatible => ?_, fun _ _ => .rfl⟩, fun _ _ => .rfl⟩
    cases hactive : e.track0.activeRequest with
    | none => exact ⟨.rfl, rfl, .inl rfl⟩
    | some active =>
      have hidle : proposal.targetState.motion = .idle := PetLayeredStateMachine.propose_motion hpropose
      obtain ⟨hhealth, hlifecycle, -⟩ := animationCompatible_some.mp hcompatible
      have hkept : proposal.targetState.lifecycle = proposal.sourceState.lifecycle :=
        PetLayeredStateMachine.propose_lifecycle _ hpropose
      have hshown := PetLayeredStateMachine.snapshot_lifecycle (PetLayeredStateMachine.propose_source _ hpropose).1
      have hreturns : ReturnsToIdle e event :=
        ⟨not_not.mp hnext, by rw [hactive]; rfl, hshown.symm.trans (hkept.symm.trans hlifecycle), hhealth⟩
      have hwaits : Wp (commit proposal) (fun _ e' => e'.pendingExplicitAction = e.pendingExplicitAction)
          (fun _ _ => True) e :=
        wp_onMotion.mpr (wp_trivial _ (fun _ _ => rfl) (fun _ _ => trivial))
      refine wp_bind.mpr (((onMotion_follows (h hreturns proposal hidle) e).and hwaits).mono
        (fun _ e' hboth => ?_) (fun _ _ h => h.1))
      exact ⟨hboth.1, hboth.2, .inr (.inl hreturns)⟩

variable [Trans r r r]

/-! ## Autonomy -/

theorem recoverAutonomousRelax_follows (facing : Option PetFacing) (h : CanPlay t0 e .relax → CommitsIntent r .relax) :
    Wp (recoverAutonomousRelax env t0 facing) (fun _ => OnMotion r e) (fun _ => OnMotion r e) e := by
  unfold recoverAutonomousRelax
  refine wp_bind.mpr (wp_newObject.mpr (wp_bind.mpr ?_))
  refine (submitProductionIntent_follows _ facing fun hplays _ => h hplays).imp (fun outcome e' hkept => ?_)
  have hsettle : Follows (OnMotion r) (do settleAutonomous env .relax outcome; return outcome) :=
    (settleAutonomous_still _ _).bind fun _ => .pure _
  exact hsettle.after (show OnMotion r e e' from hkept)

theorem startAutonomous_follows
    (h : ∀ t0, env.track0 = some t0 → e.track0.activeRequest.isNone = true → CanPlay t0 e .relax →
      CommitsIntent r .relax) : Wp (startAutonomous env) (fun _ => OnMotion r e) (fun _ => OnMotion r e) e := by
  unfold startAutonomous
  cases htrack : env.track0 with
  | none => exact .rfl
  | some t0 =>
    refine wp_get_bind.mpr ?_
    split
    next => exact .rfl
    next hfree =>
      rw [Option.not_isSome_iff_eq_none] at hfree
      exact recoverAutonomousRelax_follows none (h t0 htrack (by rw [hfree]; rfl))

/-- Autonomy restarts with the action it is given, or with Relax. -/
theorem restartAutonomous_follows (htrack : env.track0 = some t0) (resumeAction : Option ProductionAction)
    (h : CanPlay t0 e (resumeAction.getD .relax) → CommitsIntent r (resumeAction.getD .relax)) :
    Wp (restartAutonomous env t0 resumeAction) (fun _ => OnMotion r e) (fun _ => OnMotion r e) e := by
  unfold restartAutonomous
  cases resumeAction with
  | none =>
    refine startAutonomous_follows fun t0' htrack' _ hplays => ?_
    obtain rfl := Option.some.inj (htrack.symm.trans htrack')
    exact h hplays
  | some action =>
    refine wp_bind.mpr (wp_newObject.mpr (wp_bind.mpr ?_))
    refine (submitProductionIntent_follows _ none fun hplays _ => h hplays).imp (fun outcome e' hkept => ?_)
    have hsettle : Follows (OnMotion r) (do settleAutonomous env action outcome; return outcome) :=
      (settleAutonomous_still _ _).bind fun _ => .pure _
    exact hsettle.after (show OnMotion r e e' from hkept)

theorem resumeAutonomous_follows (source : ActionSource) (h : ∀ t0, env.track0 = some t0 →
      (e.track0.activeRequest.isNone = true ∨ PetTrack0Controller.clears t0 e.track0 = true) →
      CanPlay t0 e (e.autonomousResumeAction.getD .relax) →
      CommitsIntent r (e.autonomousResumeAction.getD .relax)) :
    Wp (resumeAutonomous env source) (fun _ => OnMotion r e) (fun _ => OnMotion r e) e := by
  unfold resumeAutonomous
  cases htrack : env.track0 with
  | none => exact .rfl
  | some t0 =>
    simp only [wp_bind, wp_get, wp_interrupt]
    split
    next hfree => exact restartAutonomous_follows htrack _ (h t0 htrack (.inl hfree))
    next =>
      simp only [wp_bind, wp_onTrack0, PetTrack0Controller.wp_clear]
      cases hclears : PetTrack0Controller.clears t0 e.interrupted.track0 with
      | false =>
        rw [if_pos (by decide)]
        have hasserts : Follows (OnMotion r) (do
            assertTransactionCompatible
            return ActionOutcome.rendererStateUnknown) := assertTransactionCompatible_still.bind fun _ => .pure _
        exact wp_of_motion (hasserts _) rfl
      | true =>
        rw [if_neg (by decide)]
        refine wp_of_motion (restartAutonomous_follows htrack _ fun hplays => ?_) rfl
        exact h t0 htrack (.inr hclears) hplays

/-! ## What a person or the agent asks for -/

/-- The intent of an explicit request. -/
def explicitIntent (e : PetAnimationEngine) (action : ProductionAction) (source : ActionSource)
    (authority : source ∈ sourcesByOrigin .explicit) : ActionIntent :=
  { action, origin := .explicit, source, requestToken := .fresh e.objects, authority }

theorem requestAction_follows (action : ProductionAction) (source : ActionSource)
    (h : ∀ t0 authority, env.track0 = some t0 → AdmitsIntent t0 e (e.explicitIntent action source authority) →
      CommitsIntent r action) :
    Wp (requestAction env action source) (fun _ => OnMotion r e) (fun _ => OnMotion r e) e := by
  unfold requestAction
  refine wp_bind.mpr (wp_newObject.mpr ?_)
  split
  next hauthority =>
    split
    next => exact .rfl
    next t0 htrack =>
      exact submitProductionIntent_follows (e.explicitIntent action source hauthority) none fun _ hadmits =>
        h t0 hauthority htrack (hadmits rfl)
  next => exact .rfl

theorem submitNewEvent_follows (eventType : PetAnimationEventType) (facing : Option PetFacing)
    (inputSessionToken : Option ObjectId)
    (h : ∀ t0, env.track0 = some t0 → CommitsEvent r env t0 e (e.newEvent eventType facing inputSessionToken)) :
    Wp (submitNewEvent env eventType facing inputSessionToken) (fun _ => OnMotion r e) (fun _ => OnMotion r e) e := by
  unfold submitNewEvent
  refine wp_bind.mpr (wp_newObject.mpr ?_)
  exact handleEvent_follows (e.newEvent eventType facing inputSessionToken) h

theorem startDragging_follows
    (hevent : ∀ token, Follows (OnMotion r) (submitNewEvent env .startDragging none token))
    (hdrags : Follows r PetMotionModel.startDragging) : Follows (OnMotion r) (startDragging env) := by
  unfold startDragging
  split
  next =>
    refine newObject_still.bind fun token => (hevent _).bind fun outcome => ?_
    dsimp only
    split
    next => exact .bind (still_frame fun _ => rfl) fun _ => .pure _
    next => exact .pure _
  next =>
    exact .bind (still_frame fun _ => rfl) fun _ => (onMotion_follows hdrags).bind fun _ => .pure _

theorem pause_follows (hevent : Follows (OnMotion r) (submitNewEvent env .pause))
    (hpauses : Follows r PetMotionModel.pause) : Follows (OnMotion r) (pause env) := by
  unfold pause
  split
  next => exact hevent
  next => exact (onMotion_follows hpauses).bind fun _ => .pure _

theorem beginClosing_follows (hevent : Follows (OnMotion r) (submitNewEvent env .beginClosing))
    (hcloses : Follows r PetMotionModel.beginClosing) : Follows (OnMotion r) (beginClosing env) := by
  unfold beginClosing
  refine .bind (still_frame fun _ => rfl) fun _ => ?_
  split
  next => exact hevent
  next => exact (onMotion_follows hcloses).bind fun _ => .pure _

theorem requestThinkingAnimation_follows (hevent : productionSequencingEnabled env = true →
      Wp (submitNewEvent env .startThinking) (fun _ => OnMotion r e) (fun _ => OnMotion r e) e)
    (hstops : Follows r PetMotionModel.stopWalking)
    (hthinks : Follows r (PetMotionModel.onStates (·.startThinking))) :
    Wp (requestThinkingAnimation env) (fun _ => OnMotion r e) (fun _ => OnMotion r e) e := by
  have hthought : Follows (OnMotion r) (do
      onMotion (PetMotionModel.onStates (·.startThinking))
      modify fun (e : PetAnimationEngine) => { e with actionRemaining := env.config.thinkingDurationSeconds }
      return ActionOutcome.legacyDirect) :=
    (onMotion_follows hthinks).bind fun _ => .bind (still_frame fun _ => rfl) fun _ => .pure _
  have hlegacy : Follows (OnMotion r) (do
      let state ← onMotion PetMotionModel.state
      if state.motion ∈ [PetMotionState.walkingLeft, .walkingRight] then onMotion PetMotionModel.stopWalking
      onMotion (PetMotionModel.onStates (·.startThinking))
      modify fun (e : PetAnimationEngine) => { e with actionRemaining := env.config.thinkingDurationSeconds }
      return ActionOutcome.legacyDirect) := by
    refine state_still.bind fun state => ?_
    dsimp only
    split
    next => exact (onMotion_follows hstops).bind fun _ => hthought
    next => exact hthought
  unfold requestThinkingAnimation
  exact wp_ite.mpr ⟨hevent, fun _ => hlegacy e⟩

theorem containRendererFailure_follows
    (h : ∀ proposal, e.motion.states.propose (intentChange .relax none) = .ok proposal →
      Follows r (PetMotionModel.commitStateTransition proposal)) :
    Wp (containRendererFailure env) (fun _ => OnMotion r e) (fun _ => OnMotion r e) e := by
  unfold containRendererFailure proposeRelax
  simp only [wp_bind, wp_interrupt, wp_propose]
  refine ⟨fun proposal hpropose => ?_, fun _ _ => .rfl⟩
  refine wp_bind.mp (wp_of_motion (Follows.bind (onMotion_follows (h proposal hpropose)) (fun _ => ?_) _) rfl)
  cases env.track0 with
  | none => exact .pure _
  | some t0 => exact onTrack0_still _

/-! ## Callbacks -/

/-- A numbered boundary is handed to the scheduler. -/
def HandsOver (env : EngineEnv) (e : PetAnimationEngine) (event : PlaybackEvent) : Prop :=
  event.loopBoundary = true ∧ event.boundaryIndex.isSome = true ∧ e.autonomousSchedulerState.isSome = true
    ∧ env.hasScheduler = true

theorem submitProposal_follows (decision : AutonomousSchedulerDecision) (intent : ActionIntent) (now : Rat)
    (h : AdmitsIntent t0 e intent → CommitsIntent r intent.action) :
    Wp (submitProposal env t0 decision intent now) (fun _ => OnMotion r e) (fun _ => OnMotion r e) e := by
  unfold submitProposal
  refine (submitProductionIntent_follows intent none fun _ hadmits => h (hadmits rfl)).bind fun outcome e' hkept => ?_
  -- the scheduler's draws and its state are no part of the motion
  refine Follows.after ?_ hkept
  exact .get fun _ => (onRandom_still _).bind fun _ => .bind (still_frame fun _ => rfl) fun _ => .pure _

theorem handleAutonomousBoundary_follows {event : PlaybackEvent} {boundaryIndex : Int}
    (hindex : event.boundaryIndex = some boundaryIndex)
    (h : ∀ intent, Proposes env e event intent → AdmitsIntent t0 e intent → CommitsIntent r intent.action) :
    Wp (handleAutonomousBoundary env t0 event boundaryIndex)
      (fun handled e' => (handled = none → e' = e ∧ ¬HandsOver env e event) ∧ OnMotion r e e')
      (fun _ => OnMotion r e) e := by
  unfold handleAutonomousBoundary
  simp only [wp_bind, wp_get]
  cases hstate : e.autonomousSchedulerState with
  | none =>
    refine ⟨fun _ => ⟨rfl, fun hands => ?_⟩, .rfl⟩
    have hsome := hands.2.2.1
    rw [hstate] at hsome
    cases hsome
  | some state =>
    dsimp only
    split
    next hno =>
      refine ⟨fun _ => ⟨rfl, fun hands => ?_⟩, .rfl⟩
      rw [hands.2.2.2] at hno
      cases hno
    next =>
      simp only [wp_bind, wp_readClock, wp_getOrRaise, wp_newObject, wp_get, wp_onRandom, wp_modify]
      refine ⟨fun boundary hmake => ?_, fun _ _ => .rfl⟩
      refine (wp_run _ _).mono (fun decision draws hrun => ?_) (fun _ _ _ => .rfl)
      cases hintent : decision.intent with
      | none =>
        simp only [wp_map]
        exact (onTrack0_still _ _).imp (fun _ _ h => ⟨fun hnone => absurd hnone (Option.some_ne_none _), h⟩)
      | some intent =>
        have hproposes : Proposes env e event intent :=
          ⟨boundaryIndex, state, boundary, decision, draws, hindex, hstate, hmake, hrun, hintent⟩
        simp only [wp_map]
        refine (submitProposal_follows decision intent _ ?_).imp (fun _ _ h => ⟨fun hnone => absurd hnone (Option.some_ne_none _), h⟩)
        exact fun hadmits => h intent hproposes hadmits

/-- The action that follows a protected playback: the one that waits, or Relax. -/
def nextAction (e : PetAnimationEngine) : ProductionAction :=
  match e.pendingExplicitAction with
  | some pending => pending.action
  | none => .relax

theorem continueAfterProtected_follows (facing : Option PetFacing)
    (h : CanPlay t0 e e.nextAction → CommitsIntent r e.nextAction) :
    Wp (continueAfterProtected env t0 facing) (fun _ => OnMotion r e) (fun _ => OnMotion r e) e := by
  unfold continueAfterProtected
  simp only [wp_bind, wp_get, wp_clearProtectedContinuation, wp_modify]
  unfold nextAction at h
  cases hpending : e.pendingExplicitAction with
  | none =>
    rw [hpending] at h
    exact recoverAutonomousRelax_follows facing fun hplays => h hplays
  | some pending =>
    rw [hpending] at h
    exact submitProductionIntent_follows pending.intent none fun hplays _ => h hplays

theorem continueAfterRecovery_follows
    (h : PetTrack0Controller.clears t0 e.track0 = true → CanPlay t0 e .relax → CommitsIntent r .relax) :
    Wp (continueAfterRecovery env t0) (fun _ => OnMotion r e) (fun _ => OnMotion r e) e := by
  unfold continueAfterRecovery
  simp only [wp_bind, wp_onTrack0, PetTrack0Controller.wp_clear]
  cases hclears : PetTrack0Controller.clears t0 e.track0 with
  | false =>
    rw [if_neg (by decide)]
    exact .rfl
  | true =>
    rw [if_pos (by decide)]
    exact recoverAutonomousRelax_follows none fun hplays => h hclears hplays

/-- The controller accepts the completion, and the engine follows it with the action: after a protected playback the
one that waits or Relax, after a recovery Relax, over a track that could be cleared. -/
def GoesOnWith (t0 : Track0Env) (e : PetAnimationEngine) (event : PlaybackEvent) (action : ProductionAction) : Prop :=
  e.nextActionForCallback event ≠ some .returnIdle
    ∧ ∃ track0, Gives (PetTrack0Controller.handleCompletion t0 event) e.track0 .accepted track0
      ∧ CanPlay t0 { e with track0 } action
      ∧ (e.completesProductionProtected event = true ∧ action = e.nextAction
        ∨ e.completesProductionProtected event = false ∧ e.completesMandatoryRecovery event = true
          ∧ PetTrack0Controller.clears t0 track0 = true ∧ action = .relax)

/-- What an accepted completion is followed with. -/
theorem advanceSequence_follows (event : PlaybackEvent) (facing : Option PetFacing)
    (hreturn : ReturnsToIdle e event → ∀ proposal : ProposedStateTransition, proposal.targetState.motion = .idle →
      Follows r (PetMotionModel.commitStateTransition proposal))
    (hcontinue : ∀ action, ReturnsToIdle e event ∨ GoesOnWith t0 e event action →
      (action = .relax ∨ e.completesProductionProtected event = true ∧ action = e.nextAction
        ∧ Performable t0 (productionSequenceByAction action)) → CommitsIntent r action) :
    Wp (advanceSequence env t0 event facing) (fun _ => OnMotion r e) (fun _ => OnMotion r e) e := by
  unfold advanceSequence
  refine wp_get_bind.mpr (wp_bind.mpr ?_)
  refine (commitReturnIdle_follows event hreturn).imp (fun continuation e₁ hcommitted => ?_)
  obtain ⟨hkept, hpending, hcases⟩ := hcommitted
  cases continuation with
  | none => exact hkept
  | some continuation =>
    dsimp only
    simp only [wp_bind, wp_get, wp_onTrack0]
    refine (wp_run _ _).mono (fun completed track0 hrun => ?_) (fun _ _ _ => hkept)
    have hkept₁ : OnMotion r e { e₁ with track0 } := hkept
    have hthen : ∀ e', OnMotion r { e₁ with track0 } e' → OnMotion r e e' := fun _ => Trans.trans hkept₁
    have hnext : e₁.nextAction = e.nextAction := by
      unfold nextAction
      rw [hpending]
    -- what the engine goes on with, it has either returned to idle for or found the callback complete for
    have hgoes : ∀ action, completed = .accepted → CanPlay t0 { e₁ with track0 } action →
        (e.completesProductionProtected event = true ∧ action = e.nextAction
          ∨ e.completesProductionProtected event = false ∧ e.completesMandatoryRecovery event = true
            ∧ PetTrack0Controller.clears t0 track0 = true ∧ action = .relax) →
        ReturnsToIdle e event ∨ GoesOnWith t0 e event action := by
      rintro action rfl hplays hfollows
      rcases hcases with hnone | hreturns | ⟨hnotIdle, hcontinuation, rfl⟩
      · cases hnone
      · exact .inl hreturns
      · obtain rfl := Option.some.inj hcontinuation
        exact .inr ⟨hnotIdle, track0, hrun, hplays, hfollows⟩
    have hlast : ∀ (reaches : Bool) outcome e', OnMotion r e e' →
        Wp (if outcome = .accepted ∧ reaches = true then startIdleAfterTerminal t0 else pure outcome)
          (fun _ => OnMotion r e) (fun _ => OnMotion r e) e' := by
      intro reaches outcome e' hsofar
      split
      next => exact startIdleAfterTerminal_still.after hsofar
      next => exact hsofar
    have hfollows : Wp (followCompletion env t0 (e.completesProductionProtected event)
        (e.completesMandatoryRecovery event) (e₁.callbackReachesIdleTerminal event)
        (if e.completesProductionProtected event ∧ e.activeProductionAction = some .special then facing else none)
        completed) (fun _ => OnMotion r e) (fun _ => OnMotion r e) { e₁ with track0 } := by
      unfold followCompletion
      dsimp only
      split
      next hcompletes =>
        refine wp_bind.mpr ((continueAfterProtected_follows _ fun hplays => ?_).mono
          (fun outcome e' h => hlast _ _ _ (hthen e' h)) (fun _ e' h => hthen e' h))
        have hplays : CanPlay t0 { e₁ with track0 } e₁.nextAction := hplays
        rw [hnext] at hplays
        show CommitsIntent r e₁.nextAction
        rw [hnext]
        refine hcontinue _ (hgoes _ hcompletes.1 hplays (.inl ⟨hcompletes.2, rfl⟩)) (.inr ⟨hcompletes.2, rfl, ?_⟩)
        exact hplays.2.2
      next hopen =>
        split
        next hrecovers =>
          refine wp_bind.mpr ((continueAfterRecovery_follows fun hclears hplays => ?_).mono
            (fun outcome e' h => hlast _ _ _ (hthen e' h)) (fun _ e' h => hthen e' h))
          refine hcontinue _ (hgoes _ hrecovers.1 hplays (.inr ⟨?_, hrecovers.2, hclears, rfl⟩)) (.inl rfl)
          exact Bool.eq_false_iff.mpr fun hprotected => hopen ⟨hrecovers.1, hprotected⟩
        next => exact hlast _ _ _ hkept₁
    refine hfollows.imp (fun outcome e' h => ?_)
    have hasserts : Follows (OnMotion r) (do assertTransactionCompatible; return outcome) :=
      assertTransactionCompatible_still.bind fun _ => .pure _
    exact wp_bind.mp (hasserts.after h)

/-- What a callback of the confirmed playback commits: the scheduler's intent, the return to idle, and what follows
the end of a playback. -/
theorem handlePlaybackEvent_follows (event : PlaybackEvent) (facing : Option PetFacing)
    (hproposes : ∀ t0 intent, env.track0 = some t0 → e.callbackMatchesSnapshot event = true →
      event.loopBoundary = true → Proposes env e event intent → AdmitsIntent t0 e intent →
      CommitsIntent r intent.action)
    (hreturn : e.callbackMatchesSnapshot event = true → ¬HandsOver env e event → ReturnsToIdle e event →
      env.track0.isSome = true →
      ∀ proposal : ProposedStateTransition, proposal.targetState.motion = .idle →
        Follows r (PetMotionModel.commitStateTransition proposal))
    (hcontinue : ∀ t0 action, env.track0 = some t0 → e.callbackMatchesSnapshot event = true →
      ¬HandsOver env e event → ReturnsToIdle e event ∨ GoesOnWith t0 e event action →
      (action = .relax ∨ e.completesProductionProtected event = true ∧ action = e.nextAction
        ∧ Performable t0 (productionSequenceByAction action)) → CommitsIntent r action) :
    Wp (handlePlaybackEvent env event facing) (fun _ => OnMotion r e) (fun _ => OnMotion r e) e := by
  have hasserts : ∀ outcome : ActionOutcome, Follows (OnMotion r) (do assertTransactionCompatible; return outcome) :=
    fun _ => assertTransactionCompatible_still.bind fun _ => .pure _
  unfold handlePlaybackEvent
  split
  next => exact .rfl
  next t0 htrack =>
    refine wp_get_bind.mpr ?_
    split
    next =>
      have hstale : Follows (OnMotion r) (do
          let outcome ← onTrack0 (PetTrack0Controller.handleCompletion t0 event)
          assertTransactionCompatible
          return outcome) := (onTrack0_still _).bind fun outcome => hasserts outcome
      exact hstale e
    next hmatches =>
      rw [Bool.not_eq_true, Bool.not_eq_false'] at hmatches
      have hadvance : ¬HandsOver env e event →
          Wp (advanceSequence env t0 event facing) (fun _ => OnMotion r e) (fun _ => OnMotion r e) e := fun hkeeps =>
        advanceSequence_follows event facing
          (fun hreturns => hreturn hmatches hkeeps hreturns (by rw [htrack]; rfl))
          (fun action => hcontinue t0 action htrack hmatches hkeeps)
      dsimp only
      split
      next boundaryIndex hboundary hindex =>
        refine (handleAutonomousBoundary_follows hindex fun intent =>
          hproposes t0 intent htrack hmatches hboundary).bind fun handled e' hhandled => ?_
        cases handled with
        | none =>
          obtain ⟨rfl, hkeeps⟩ := hhandled.1 rfl
          exact hadvance hkeeps
        | some outcome => exact (hasserts outcome).after hhandled.2
      next hunnumbered =>
        refine hadvance fun hands => ?_
        obtain ⟨index, hindex⟩ := Option.isSome_iff_exists.mp hands.2.1
        exact hunnumbered index hands.1 hindex

/-! ## The tick -/

theorem advanceAction_follows (hfinish : ∀ state, Follows r (finishTimedAction state)) (elapsed : Rat) :
    Follows (OnMotion r) (advanceAction env elapsed) := by
  have hends : Follows (OnMotion r) (do
      let state ← onMotion PetMotionModel.state
      let ended ← (do onMotion (finishTimedAction state); return true) <|> return false
      if ended then
        let interval ← newRandomActionInterval env
        modify fun e => { e with nextRandomAction := interval }) := by
    refine state_still.bind fun state => ?_
    refine .bind (.orElse ((onMotion_follows (hfinish state)).bind fun _ => .pure _) (.pure _)) fun ended => ?_
    split
    next => exact (onRandom_still _).bind fun interval => still_frame fun _ => rfl
    next => exact .pure _
  intro e
  refine wp_get_bind.mpr ?_
  split
  next => exact .rfl
  next =>
    refine wp_bind.mpr (wp_set.mpr ?_)
    split
    next => exact .rfl
    next => exact wp_of_motion (hends _) rfl

theorem advanceBlink_follows (hstart : Follows r (PetMotionModel.onStates (·.startBlinking)))
    (hfinish : Follows r (PetMotionModel.onStates fun m => .ok m.finishBlinking)) (elapsed : Rat) :
    Follows (OnMotion r) (advanceBlink env elapsed) := by
  have hends : Follows (OnMotion r) (do
      onMotion (PetMotionModel.onStates fun m => .ok m.finishBlinking)
      let interval ← newBlinkInterval env
      modify fun (e : PetAnimationEngine) => { e with blinkElapsed := 0, nextBlink := interval }) :=
    (onMotion_follows hfinish).bind fun _ => (onRandom_still _).bind fun _ => still_frame fun _ => rfl
  have hstarts : Follows (OnMotion r) (do
      onMotion (PetMotionModel.onStates (·.startBlinking))
      let state ← onMotion PetMotionModel.state
      if state.behaviors.blinking then modify fun (e : PetAnimationEngine) => { e with blinkElapsed := 0 }
      else
        let interval ← newBlinkInterval env
        modify fun e => { e with nextBlink := interval }) := by
    refine (onMotion_follows hstart).bind fun _ => state_still.bind fun state => ?_
    split
    next => exact still_frame fun _ => rfl
    next => exact (onRandom_still _).bind fun _ => still_frame fun _ => rfl
  refine state_still.bind fun state => ?_
  intro e
  refine wp_get_bind.mpr ?_
  split
  next =>
    refine wp_bind.mpr (wp_set.mpr ?_)
    split
    next => exact wp_of_motion (hends _) rfl
    next => exact .rfl
  next =>
    refine wp_bind.mpr (wp_set.mpr ?_)
    split
    next => exact wp_of_motion (hstarts _) rfl
    next => exact .rfl

end

/-- Outside the active lifecycle a tick is a physical step of no length; inside, the actions come first. -/
theorem wp_advance {env : EngineEnv} {e : PetAnimationEngine} {elapsedSeconds : Rat} {workspaces : List Rect}
    {Q : PetMotionSnapshot → PetAnimationEngine → Prop} {R : PetError → PetAnimationEngine → Prop}
    (hraises : ∀ error, R error e) (hinactive : e.motion.states.lifecycle ≠ .active →
      Wp (onMotion (PetMotionModel.update 0 workspaces)) Q R { e with lastAppliedDelta := 0 })
    (hactive : 0 ≤ elapsedSeconds → e.motion.states.lifecycle = .active →
      Wp (do
        advanceAction env (applied env elapsedSeconds)
        advanceBlink env (applied env elapsedSeconds)
        advanceRandomAction env (applied env elapsedSeconds)
        advancePhysics env (applied env elapsedSeconds) workspaces) Q R
        { e with lastAppliedDelta := applied env elapsedSeconds }) :
    Wp (advance env elapsedSeconds workspaces) Q R e := by
  unfold advance
  split
  next => exact hraises _
  next hforward =>
    refine wp_bind.mpr (wp_onMotion.mpr ?_)
    refine (PetMotionModel.wp_shown _ _).mpr ⟨fun s hs => ?_, fun _ _ => hraises _⟩
    rw [PetLayeredStateMachine.snapshot_lifecycle hs]
    split
    next hlifecycle => exact wp_modify_bind.mpr (hinactive hlifecycle)
    next hlifecycle =>
      exact wp_modify_bind.mpr (hactive (not_lt.mp hforward) (not_not.mp hlifecycle))

end PetAnimationEngine

end ArkClaw.Pet
