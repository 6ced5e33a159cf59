import ArkClaw.Library.Substeps
import ArkClaw.Pet.GroundRuns
import ArkClaw.Pet.Pace

/-!
# Runs of the engine, seen from its velocities

Every program of the engine keeps the pace of a pet that is not falling, because what it commits starts at the
velocity of its own motion. What does not keep it is of two kinds. A fall that is left for an active motion by a
proposal goes on at its vertical velocity, so the condition is on the operations that commit such a proposal while
the pet gathers speed. And a walk may stand: once it is resumed without sequencing, once a position is restored under
it, and once a turn at the edge of the workspace is taken and not carried out; without sequencing a reminder, and a
close that failed, leave the velocity of a walk behind.
-/

namespace ArkClaw.Pet

open ArkClaw.Library
open PetMotionModel (KeepsPace commitStateTransition_keepsPace stopWalking_keepsPace onStates_keepsPace
  walkingVelocity releaseDrag_keepsPace Walks wp_shown update_paced takePendingDirectionTurn wp_snapshot_same)
open PetLayeredStateMachine (propose_motion propose_lifecycle snapshot_lifecycle propose_source
  startBlinking_frame snapshot_motion)

/-- The events that take an active pet out of a fall. -/
def PetAnimationEventType.leavesFall : PetAnimationEventType → Bool
  | .startWalking | .startThinking | .startReminding | .resume => true
  | _ => false

namespace PetAnimationEngine

/-- A steady pet stays steady; the program may end a fall only where `ends`. -/
abbrev InPace (ends : Prop) : PetAnimationEngine → PetAnimationEngine → Prop :=
  OnMotion (KeepsPace ends)

/-- A steady pet that does not gather speed. -/
def Level (e : PetAnimationEngine) : Prop := e.motion.Steady ∧ e.motion.verticalVelocity = 0

section

variable {env : EngineEnv} {t0 : Track0Env} {e e' : PetAnimationEngine} {α : Type} {ends : Prop}

theorem InPace.mono {ends' : Prop} (h : InPace ends e e') (hends : ends → ends') : InPace ends' e e' :=
  KeepsPace.mono h hends

theorem InPace.steady (h : InPace ends e e') (hends : ends → e.motion.verticalVelocity = 0)
    (hsteady : e.motion.Steady) : e'.motion.Steady := (h hends hsteady).1

theorem InPace.level (h : InPace ends e e') (hlevel : Level e) : Level e' := by
  obtain ⟨hsteady, hvertical⟩ := h (fun _ => hlevel.2) hlevel.1
  exact ⟨hsteady, hvertical hlevel.2⟩

/-- A level pet stays level. -/
theorem level_of_follows {c : Program PetAnimationEngine α} (h : Follows (InPace ends) c) (hlevel : Level e) :
    Wp c (fun _ => Level) (fun _ => Level) e :=
  (h e).mono (fun _ _ hkept => hkept.level hlevel) (fun _ _ hkept => hkept.level hlevel)

/-! ## Intents and events -/

/-- An intent may end a fall. -/
theorem commitsIntent_ends {action : ProductionAction} (hends : ends) :
    CommitsIntent (KeepsPace ends) action := by
  intro proposal hintends
  refine commitStateTransition_keepsPace (.inr ⟨?_, .inl hends⟩)
  rcases hintends with hidle | ⟨hwalk, -⟩
  · rw [hidle]
    decide
  · revert hwalk
    cases proposal.targetState.motion <;> decide

/-- The event is admitted, and it takes an active pet out of a fall. -/
def EventEnds (env : EngineEnv) (e : PetAnimationEngine) (event : PetAnimationEvent) : Prop :=
  event.eventType.leavesFall = true ∧ ∃ t0, env.track0 = some t0 ∧ Admits env t0 e event

/-- An event keeps the motion, starts a drag or another fall, or takes the pet out of one; then it is not mandatory. -/
theorem eventChange_pace {event : PetAnimationEvent} {change : StateChange} {name : Option SequenceName}
    {reason : CancelReason} (h : eventChange env event = .ok (change, name, reason)) :
    change.motion = none ∨ (∃ motion ∈ [PetMotionState.dragging, .falling], change.motion = some motion)
      ∨ event.eventType.leavesFall = true ∧ change.mandatoryForSafety = false
        ∧ ∃ motion ∈ PetMotionState.idle :: walkMotions, change.motion = some motion := by
  unfold eventChange at h
  cases htype : event.eventType with
  | startWalking =>
    rw [htype] at h
    dsimp only at h
    cases hfacing : event.facing with
    | none => rw [hfacing] at h; cases h
    | some direction =>
      rw [hfacing] at h
      cases direction with
      | left => obtain ⟨rfl, -⟩ := Prod.mk.inj (Except.ok.inj h); exact .inr (.inr ⟨rfl, rfl, _, by decide, rfl⟩)
      | right => obtain ⟨rfl, -⟩ := Prod.mk.inj (Except.ok.inj h); exact .inr (.inr ⟨rfl, rfl, _, by decide, rfl⟩)
  | startReading | pause | beginClosing =>
    rw [htype] at h
    obtain ⟨rfl, -⟩ := Prod.mk.inj (Except.ok.inj h)
    exact .inl rfl
  | startFalling | startDragging | releaseDrag =>
    rw [htype] at h
    obtain ⟨rfl, -⟩ := Prod.mk.inj (Except.ok.inj h)
    exact .inr (.inl ⟨_, by decide, rfl⟩)
  | startThinking | startReminding | resume =>
    rw [htype] at h
    obtain ⟨rfl, -⟩ := Prod.mk.inj (Except.ok.inj h)
    exact .inr (.inr ⟨rfl, rfl, _, by decide, rfl⟩)

theorem commitsEvent_ends (htrack : env.track0 = some t0) (event : PetAnimationEvent) :
    CommitsEvent (KeepsPace (EventEnds env e event)) env t0 e event := by
  intro change name reason proposal hchange hpropose hwhy
  have htarget := propose_motion hpropose
  apply commitStateTransition_keepsPace
  rcases eventChange_pace hchange with hnone | ⟨motion, hstops, hsome⟩ | ⟨hleaves, hoptional, motion, hgoes, hsome⟩
  · exact .inl (by rw [htarget, hnone]; rfl)
  · rw [hsome] at htarget
    have htarget : proposal.targetState.motion = motion := htarget
    refine .inr ⟨?_, .inr (.inr (htarget ▸ hstops))⟩
    rw [htarget]
    revert hstops
    cases motion <;> decide
  · rw [hsome] at htarget
    have htarget : proposal.targetState.motion = motion := htarget
    refine .inr ⟨?_, .inl ⟨hleaves, t0, htrack, hwhy.resolve_left (by rw [hoptional]; decide)⟩⟩
    rw [htarget]
    revert hgoes
    cases motion <;> decide

theorem handleEvent_inPace (event : PetAnimationEvent) :
    Wp (handleEvent env event) (fun _ => InPace (EventEnds env e event) e) (fun _ => InPace (EventEnds env e event) e) e :=
  handleEvent_follows event fun _ htrack => commitsEvent_ends htrack event

theorem submitNewEvent_inPace (eventType : PetAnimationEventType) (facing : Option PetFacing)
    (inputSessionToken : Option ObjectId) : Wp (submitNewEvent env eventType facing inputSessionToken)
      (fun _ => InPace (EventEnds env e (e.newEvent eventType facing inputSessionToken)) e)
      (fun _ => InPace (EventEnds env e (e.newEvent eventType facing inputSessionToken)) e) e :=
  submitNewEvent_follows eventType facing inputSessionToken fun _ htrack => commitsEvent_ends htrack _

/-- Every other event ends a fall with its velocity. -/
theorem submitNewEvent_ends {eventType : PetAnimationEventType} (h : eventType.leavesFall = false)
    (facing : Option PetFacing) (inputSessionToken : Option ObjectId) :
    Follows (InPace ends) (submitNewEvent env eventType facing inputSessionToken) := fun e =>
  have hnot : ∀ {e' : PetAnimationEngine},
      InPace (EventEnds env e (e.newEvent eventType facing inputSessionToken)) e e' → InPace ends e e' := fun hkept =>
    hkept.mono fun hleaves => by
      have hleaves : eventType.leavesFall = true := hleaves.1
      rw [h] at hleaves
      cases hleaves
  (submitNewEvent_inPace eventType facing inputSessionToken).mono (fun _ _ => hnot) (fun _ _ => hnot)

/-! ## Operations that may end a fall -/

/-- With sequencing the event of the operation is admitted. -/
def OwnEventEnds (env : EngineEnv) (e : PetAnimationEngine) (eventType : PetAnimationEventType)
    (facing : Option PetFacing) : Prop :=
  productionSequencingEnabled env = true ∧ EventEnds env e (e.newEvent eventType facing)

/-- The callback of the confirmed playback ends a fall: the scheduler's intent is admitted, the return to idle is
committed, or the engine follows the completed playback with another. -/
def CallbackEnds (env : EngineEnv) (e : PetAnimationEngine) (event : PlaybackEvent) : Prop :=
  ∃ t0, env.track0 = some t0 ∧ e.callbackMatchesSnapshot event = true
    ∧ (event.loopBoundary = true ∧ (∃ intent, Proposes env e event intent ∧ AdmitsIntent t0 e intent)
      ∨ ¬HandsOver env e event ∧ (ReturnsToIdle e event ∨ ∃ action, GoesOnWith t0 e event action))

/-- The operation takes an active pet out of a fall by a proposal. -/
def EndsFall (env : EngineEnv) (e : PetAnimationEngine) : Operation → Prop
  | .handleEvent event => EventEnds env e event
  | .requestAction action source =>
    ∃ t0 authority, env.track0 = some t0 ∧ AdmitsIntent t0 e (e.explicitIntent action source authority)
  | .resumeAutonomous _ =>
    ∃ t0, env.track0 = some t0
      ∧ (e.track0.activeRequest.isNone = true ∨ PetTrack0Controller.clears t0 e.track0 = true)
      ∧ CanPlay t0 e (e.autonomousResumeAction.getD .relax)
  | .startAutonomous =>
    ∃ t0, env.track0 = some t0 ∧ e.track0.activeRequest.isNone = true ∧ CanPlay t0 e .relax
  | .requestWalk direction => OwnEventEnds env e .startWalking (some direction)
  | .requestThinkingAnimation => OwnEventEnds env e .startThinking none
  | .requestReminderAnimation => OwnEventEnds env e .startReminding none
  | .resume => OwnEventEnds env e .resume none
  | .containRendererFailure => e.motion.states.lifecycle = .active
  | .handlePlaybackEvent event _ => CallbackEnds env e event
  | _ => False

theorem submitOwnEvent_inPace (henabled : productionSequencingEnabled env = true) (eventType : PetAnimationEventType)
    (facing : Option PetFacing) :
    Wp (submitNewEvent env eventType facing) (fun _ => InPace (OwnEventEnds env e eventType facing) e)
      (fun _ => InPace (OwnEventEnds env e eventType facing) e) e :=
  (submitNewEvent_inPace eventType facing none).mono (fun _ _ h => h.mono fun hends => ⟨henabled, hends⟩)
    (fun _ _ h => h.mono fun hends => ⟨henabled, hends⟩)

theorem requestWalk_inPace (direction : PetFacing) :
    Wp (requestWalk env direction) (fun _ => InPace (OwnEventEnds env e .startWalking (some direction)) e)
      (fun _ => InPace (OwnEventEnds env e .startWalking (some direction)) e) e := by
  unfold requestWalk
  split
  next henabled =>
    exact submitOwnEvent_inPace henabled _ _
  next =>
    have hlegacy : Follows (InPace (OwnEventEnds env e .startWalking (some direction))) (do
        onMotion (PetMotionModel.startWalking direction)
        modify fun (e : PetAnimationEngine) => { e with actionRemaining := env.config.walkingDurationSeconds }
        return ActionOutcome.legacyDirect) :=
      (onMotion_follows (PetMotionModel.startWalking_keepsPace direction)).bind fun _ =>
        .bind (still_frame fun _ => rfl) fun _ => .pure _
    exact hlegacy e

theorem requestThinkingAnimation_inPace :
    Wp (requestThinkingAnimation env) (fun _ => InPace (OwnEventEnds env e .startThinking none) e)
      (fun _ => InPace (OwnEventEnds env e .startThinking none) e) e := by
  refine requestThinkingAnimation_follows (fun henabled => ?_) stopWalking_keepsPace
    (onStates_keepsPace fun m m' h => ?_)
  · exact submitOwnEvent_inPace henabled _ _
  · unfold PetLayeredStateMachine.startThinking at h
    split at h
    next => cases h
    next =>
      cases h
      exact ⟨rfl, rfl, fun _ => rfl⟩

/-- A reminder without sequencing makes a walk idle and leaves it its velocity. -/
theorem requestReminderAnimation_inPace
    (h : ¬(productionSequencingEnabled env = false ∧ e.motion.states.lifecycle = .active
      ∧ e.motion.states.motion ∈ walkMotions)) :
    Wp (requestReminderAnimation env) (fun _ => InPace (OwnEventEnds env e .startReminding none) e)
      (fun _ => InPace (OwnEventEnds env e .startReminding none) e) e := by
  unfold requestReminderAnimation
  split
  next henabled =>
    exact submitOwnEvent_inPace henabled _ _
  next hlegacy =>
    refine wp_bind.mpr (wp_onMotion.mpr ?_)
    refine (PetMotionModel.startReminding_keepsPace fun hactive hwalk => ?_).mono (fun _ m hkept => hkept)
      (fun _ m hkept => hkept)
    exact h ⟨Bool.eq_false_iff.mpr hlegacy, hactive, hwalk⟩

/-- Without sequencing a paused walk is resumed at the velocity it was paused with. -/
theorem resume_inPace (h : ¬(productionSequencingEnabled env = false ∧ e.motion.states.lifecycle = .paused
      ∧ e.motion.states.motion ∈ walkMotions
      ∧ e.motion.horizontalVelocity ≠ walkingVelocity e.motion.config e.motion.states.motion)) :
    Wp (resume env) (fun _ => InPace (OwnEventEnds env e .resume none) e)
      (fun _ => InPace (OwnEventEnds env e .resume none) e) e := by
  unfold resume
  split
  next henabled =>
    exact submitOwnEvent_inPace henabled _ _
  next hlegacy =>
    refine wp_bind.mpr (wp_onMotion.mpr ?_)
    refine (PetMotionModel.resume_keepsPace fun hpaused hwalk => ?_).mono (fun _ m hkept => hkept)
      (fun _ m hkept => hkept)
    by_contra hvelocity
    exact h ⟨Bool.eq_false_iff.mpr hlegacy, hpaused, hwalk, hvelocity⟩

theorem releaseDrag_inPace (workspaces : Option (List Rect)) : Follows (InPace ends) (releaseDrag env workspaces) := by
  unfold releaseDrag
  split
  next =>
    refine .get fun e => ?_
    split
    next => exact .throw _
    next token =>
      split
      next =>
        unfold releaseDragInRelax
        refine .bind (still_frame fun _ => rfl) fun _ =>
          (onMotion_follows (releaseDrag_keepsPace workspaces)).bind fun _ => .get fun _ => ?_
        split
        next => exact .pure _
        next => exact assertTransactionCompatible_still.bind fun _ => .pure _
      next =>
        refine (submitNewEvent_ends (by decide) _ _).bind fun outcome => ?_
        dsimp only
        split
        next => exact .bind (still_frame fun _ => rfl) fun _ => .pure _
        next => exact .pure _
  next => exact (onMotion_follows (releaseDrag_keepsPace none)).bind fun _ => .pure _

/-- Only an active pet is left with a vertical velocity. -/
theorem containRendererFailure_inPace :
    Wp (containRendererFailure env) (fun _ => InPace (e.motion.states.lifecycle = .active) e)
      (fun _ => InPace (e.motion.states.lifecycle = .active) e) e := by
  refine containRendererFailure_follows fun proposal hpropose => ?_
  have hidle : proposal.targetState.motion = .idle := propose_motion hpropose
  have hlifecycle : proposal.targetState.lifecycle = e.motion.states.lifecycle :=
    (propose_lifecycle _ hpropose).trans
      (snapshot_lifecycle (propose_source _ hpropose).1)
  refine commitStateTransition_keepsPace (.inr ⟨by rw [hidle]; decide, ?_⟩)
  by_cases hactive : e.motion.states.lifecycle = .active
  · exact .inl hactive
  · exact .inr (.inl (by rwa [hlifecycle]))

theorem handlePlaybackEvent_inPace (event : PlaybackEvent) (facing : Option PetFacing) :
    Wp (handlePlaybackEvent env event facing) (fun _ => InPace (CallbackEnds env e event) e)
      (fun _ => InPace (CallbackEnds env e event) e) e := by
  refine handlePlaybackEvent_follows event facing (fun t0 intent htrack hmatches hboundary hproposes hadmits => ?_)
    (fun hmatches hkeeps hreturns htrack proposal hidle => ?_)
    (fun t0 action htrack hmatches hkeeps hwhy _ => commitsIntent_ends ?_)
  · exact commitsIntent_ends ⟨t0, htrack, hmatches, .inl ⟨hboundary, intent, hproposes, hadmits⟩⟩
  · obtain ⟨t0, htrack⟩ := Option.isSome_iff_exists.mp htrack
    have hends : CallbackEnds env e event := ⟨t0, htrack, hmatches, .inr ⟨hkeeps, .inl hreturns⟩⟩
    exact (commitsIntent_ends hends : CommitsIntent _ .relax) proposal (.inl hidle)
  · exact ⟨t0, htrack, hmatches, .inr ⟨hkeeps, hwhy.imp_right fun hgoes => ⟨action, hgoes⟩⟩⟩

/-! ## The turn at the edge -/

/-- A walk that stands: it may have lost its velocity. -/
structure Halted (m : PetMotionModel) : Prop where
  walks : Walks m
  vertical : m.verticalVelocity = 0
  turn : m.pendingDirectionTurn = none
  calm : m.states.behaviors.reminding = false
  shown : ∃ s, m.states.snapshot = .ok s

/-- The intent of an autonomous turn. -/
def boundaryIntent (e : PetAnimationEngine) (direction : PetFacing) : ActionIntent :=
  { action := if direction = .left then .moveLeft else .moveRight, origin := .system, source := .motion
    requestToken := .fresh e.objects, authority := motion_authority }

/-- The turn is carried out: the walk is no production action, or Relax can take the place of a held one, or the
action of the other direction is admitted. -/
def CarriesOutTurn (env : EngineEnv) (e : PetAnimationEngine) (direction : PetFacing) : Prop :=
  e.activeProductionAction = some .moveLeft ∨ e.activeProductionAction = some .moveRight →
    ∃ t0, env.track0 = some t0 ∧
      if e.executionMode = .explicitHold then PetTrack0Controller.clears t0 e.track0 = true ∧ CanPlay t0 e .relax
      else AdmitsIntent t0 e (e.boundaryIntent direction)

/-- A walk of the other direction starts at its own velocity. -/
theorem startWalking_halted (h : Halted e.motion) (direction : PetFacing) :
    Wp (onMotion (PetMotionModel.startWalking direction)) (fun _ => Level) (fun _ => Level) e := by
  have hmotion : e.motion.states.motion ∈ [PetMotionState.idle, .walkingLeft, .walkingRight] := by
    rcases h.walks.2 with hleft | hright
    · rw [hleft]
      decide
    · rw [hright]
      decide
  have hallowed : ∃ states, e.motion.states.startWalking direction = .ok states := by
    unfold PetLayeredStateMachine.startWalking
    rw [if_neg (by simp only [h.walks.1, h.calm, hmotion]; decide)]
    exact ⟨_, rfl⟩
  obtain ⟨states, hstates⟩ := hallowed
  refine wp_onMotion.mpr ?_
  refine (PetMotionModel.startWalking_spec direction h.turn fun _ => h.vertical).mono (fun _ m' hstarted => ?_)
    (fun _ m' hraised => ?_)
  · exact ⟨hstarted.1, hstarted.2.2⟩
  · exact absurd hstates (hraised.2 states)

/-- An admitted intent puts the velocity of the motion it commits in the place of the old one. -/
theorem submitProductionIntent_halted {intent : ActionIntent} (h : Halted e.motion) (hadmits : AdmitsIntent t0 e intent)
    (horigin : intent.origin ≠ .explicit) :
    Wp (submitProductionIntent t0 intent) (fun _ => Level) (fun _ => Level) e := by
  refine submitProductionIntent_admitted hadmits horigin fun proposal request mode hpropose => ?_
  refine carryOutIntent_commits fun e₁ hmotion => ?_
  refine wp_bind.mpr ((wp_commit (intentChange intent.action none) ?_ _ _).mpr ?_)
  · rw [hmotion]
    exact hpropose
  · have hgait : proposal.targetState.motion ∉ runMotions := by
      rcases propose_intends hpropose with hidle | ⟨hwalk, -⟩
      · rw [hidle]
        decide
      · revert hwalk
        cases proposal.targetState.motion <;> decide
    have hcommitted := PetMotionModel.committed_steady h.turn hgait (.inl h.vertical)
    have hplays : Follows (InPace True) (do
        let outcome ← playOrCancel t0 .userInterrupt mode request
        if outcome ≠ .accepted then failIntent intent outcome else settleIntent intent) :=
      playIntent_follows (commitsIntent_ends trivial) request mode
    refine level_of_follows hplays ?_
    show (e₁.motion.committed proposal.targetState).Steady
      ∧ (e₁.motion.committed proposal.targetState).verticalVelocity = 0
    rw [hmotion]
    exact ⟨hcommitted.1, hcommitted.2 h.vertical⟩

/-- A turn that is carried out leaves no walk standing. -/
theorem turnAtBoundary_level (h : Halted e.motion) (direction : PetFacing) (hturns : CarriesOutTurn env e direction) :
    Wp (turnAtBoundary env direction) (fun _ => Level) (fun _ => Level) e := by
  unfold turnAtBoundary
  refine wp_get_bind.mpr ?_
  split
  next hmoves =>
    obtain ⟨t0, htrack, hcarries⟩ := hturns hmoves
    simp only [htrack]
    split
    next hheld =>
      rw [if_pos hheld] at hcarries
      obtain ⟨hclears, hactive, hhealth, hperformable⟩ := hcarries
      unfold recoverExplicitBoundary
      simp only [wp_bind, wp_interrupt, wp_onTrack0, PetTrack0Controller.wp_clear]
      have hclears' : PetTrack0Controller.clears t0 e.interrupted.track0 = true := hclears
      simp only [hclears', if_true, ne_eq, not_true_eq_false, if_false]
      unfold recoverAutonomousRelax
      refine wp_bind.mpr (wp_newObject.mpr (wp_bind.mpr ?_))
      obtain ⟨s, hs⟩ := h.shown
      have hshown : e.interrupted.motion.states.snapshot = .ok s := hs
      refine Wp.mono (submitProductionIntent_halted h
        (admitsIntent_of_free hshown rfl ⟨hactive, hhealth, hperformable⟩) (fun horigin => by cases horigin)) (fun outcome e₁ hlevel => ?_)
        (fun _ _ hlevel => hlevel)
      have hsettles : Follows (InPace True) (settleAutonomous env .relax outcome >>= fun _ => pure outcome) :=
        (settleAutonomous_still .relax outcome).bind fun _ => .pure _
      exact level_of_follows hsettles hlevel
    next hautonomous =>
      rw [if_neg hautonomous] at hcarries
      unfold commitWorkspaceBoundaryTurn
      simp only [wp_bind, wp_clearProtectedContinuation, wp_setMode, wp_newObject]
      refine Wp.mono (submitProductionIntent_halted h hcarries (fun horigin => by cases horigin)) (fun outcome e₁ hlevel => ?_)
        (fun _ _ hlevel => hlevel)
      have hactivates : Follows (InPace True)
          (if outcome = .accepted then activateAutonomous env (if direction = .left then .moveLeft else .moveRight)
          else pure ()) := by
        split
        next => exact activateAutonomous_still _
        next => exact .pure _
      exact level_of_follows hactivates hlevel
  next => exact startWalking_halted h direction

/-! ## The tick -/

/-- Where there is no fall, none is ended. -/
theorem InPace.of_landed {ends' : Prop} (h : InPace ends e e') (hlanded : e.motion.states.motion ≠ .falling) :
    InPace ends' e e' := fun _ hsteady => h (fun _ => hsteady.vertical hlanded) hsteady

theorem finishTimedAction_keepsPace (state : PetLayeredState) :
    Follows (KeepsPace ends) (finishTimedAction state) := by
  have hrestores : ∀ m : PetLayeredStateMachine, m.restoreDefaultBehavior.bumpEpoch.lifecycle = m.lifecycle
      ∧ m.restoreDefaultBehavior.bumpEpoch.motion = m.motion
      ∧ (m.behaviors.reminding = false → m.restoreDefaultBehavior.bumpEpoch.behaviors.reminding = false) := by
    refine fun m => ⟨rfl, rfl, fun _ => ?_⟩
    show Behaviors.reminding (if _ then { breathing := true } else {}) = false
    split
    next => rfl
    next => rfl
  unfold finishTimedAction
  split
  next => exact stopWalking_keepsPace
  next =>
    split
    next =>
      refine onStates_keepsPace fun m m' h => ?_
      unfold PetLayeredStateMachine.finishThinking at h
      split at h
      next => cases h
      next => cases h; exact hrestores m
    next =>
      split
      next =>
        refine onStates_keepsPace fun m m' h => ?_
        unfold PetLayeredStateMachine.finishReminding at h
        split at h
        next => cases h
        next => cases h; exact hrestores m
      next => exact .pure _

theorem advanceBlink_inPace (elapsed : Rat) : Follows (InPace ends) (advanceBlink env elapsed) := by
  refine advanceBlink_follows (onStates_keepsPace fun m m' h => ?_)
    (onStates_keepsPace fun m m' h => ?_) elapsed
  · obtain ⟨_, _, rfl⟩ := startBlinking_frame h
    exact ⟨rfl, rfl, id⟩
  · cases h
    obtain ⟨_, _, hframe⟩ := m.finishBlinking_frame
    rw [hframe]
    exact ⟨rfl, rfl, id⟩

/-- A random action finds the pet idle, and so ends no fall. -/
theorem advanceRandomAction_inPace (elapsed : Rat) : Follows (InPace ends) (advanceRandomAction env elapsed) := by
  intro e
  unfold advanceRandomAction
  simp only [wp_bind, wp_onMotion, wp_shown, wp_get]
  refine ⟨fun s hs => ?_, fun _ _ => .refl e.motion⟩
  split
  next => exact KeepsPace.refl e.motion
  next hidle =>
    rw [not_or, not_or, not_not] at hidle
    have hlanded : e.motion.states.motion ≠ .falling := by
      rw [← snapshot_motion hs, hidle.2.1]
      decide
    simp only [wp_bind, wp_set]
    split
    next => exact KeepsPace.refl e.motion
    next =>
      have hends : ∀ {c : Program PetAnimationEngine ActionOutcome} {ends' : Prop} {e₁ : PetAnimationEngine},
          e₁.motion = e.motion → Wp c (fun _ => InPace ends' e₁) (fun _ => InPace ends' e₁) e₁ →
          Wp (c >>= fun _ => pure ()) (fun _ => InPace ends e) (fun _ => InPace ends e) e₁ := fun hmotion hc =>
        wp_of_motion (wp_bind.mpr (hc.mono (fun _ _ h => h.of_landed (hmotion ▸ hlanded))
          (fun _ _ h => h.of_landed (hmotion ▸ hlanded)))) hmotion
      simp only [requestRandomAction, RandomSource.drawRandrange, wp_bind, wp_onRandom, wp_get, wp_set, wp_pure]
      split
      next => exact hends rfl (requestWalk_inPace .left)
      next =>
        split
        next => exact hends rfl (requestWalk_inPace .right)
        next => exact hends rfl requestThinkingAnimation_inPace

/-- What a tick does before its physical step. -/
def advanceActions (env : EngineEnv) (elapsed : Rat) : Program PetAnimationEngine Unit := do
  advanceAction env elapsed
  advanceBlink env elapsed
  advanceRandomAction env elapsed

theorem advanceActions_inPace (elapsed : Rat) : Follows (InPace ends) (advanceActions env elapsed) :=
  (advanceAction_follows finishTimedAction_keepsPace elapsed).bind fun _ =>
    (advanceBlink_inPace elapsed).bind fun _ => advanceRandomAction_inPace elapsed

/-- The physical step brings a walk to the edge, and the turn it asks for is not carried out. -/
def LosesTurn (env : EngineEnv) (e : PetAnimationEngine) (elapsed : Rat) (workspaces : List Rect) : Prop :=
  Walks e.motion ∧ PetMotionModel.LeavesWorkspace e.motion elapsed workspaces
    ∧ ¬CarriesOutTurn env e (if e.motion.states.motion = .walkingLeft then .right else .left)

theorem advancePhysics_steady (h : e.motion.Steady) (elapsed : Rat) (workspaces : List Rect)
    (hturns : ¬LosesTurn env e elapsed workspaces) :
    Wp (advancePhysics env elapsed workspaces) (fun _ e' => e'.motion.Steady) (fun _ e' => e'.motion.Steady) e := by
  unfold advancePhysics
  simp only [wp_bind, wp_onMotion, wp_shown]
  refine ⟨fun previous hprevious => ?_, fun _ _ => h⟩
  refine (update_paced h elapsed workspaces).imp (fun moved m hmoved => ?_)
  rcases hmoved with hsteady | ⟨hwalks, hleaves, position, rfl⟩
  · have hsame : Follows (OnMotion Eq) (recoverLanding env previous.motion moved.state.motion) :=
      recoverLanding_still _ _
    refine (hsame { e with motion := m }).mono (fun _ e₁ (hmotion : m = e₁.motion) => ?_)
      (fun _ e₁ (hmotion : m = e₁.motion) => hmotion ▸ hsteady)
    subst hmotion
    simp only [takeTurn, takePendingDirectionTurn, wp_bind, wp_onMotion, wp_get, wp_set, wp_pure,
      hsteady.turn]
    exact wp_snapshot_same (hsteady.of_layers rfl rfl id rfl rfl rfl hsteady.turn.symm)
  · -- a walk that turns was no landing
    have hwalk := hwalks.mem
    have hlanding : previous.motion ≠ .landing := by
      rw [snapshot_motion hprevious]
      intro hlands
      rw [hlands] at hwalk
      revert hwalk
      decide
    have hnothing : recoverLanding env previous.motion moved.state.motion = pure () := if_neg fun hx => hlanding hx.2.1
    rw [hnothing]
    simp only [takeTurn, takePendingDirectionTurn, wp_bind, wp_onMotion, wp_get, wp_set, wp_pure]
    have hvertical : e.motion.verticalVelocity = 0 := h.vertical fun hfalls => by
      rw [hfalls] at hwalk
      revert hwalk
      decide
    have hcarries : CarriesOutTurn env e (if e.motion.states.motion = .walkingLeft then .right else .left) := by
      by_contra hloses
      exact hturns ⟨hwalks, hleaves, hloses⟩
    have hhalted : Halted { e.motion with position, horizontalVelocity := 0, pendingDirectionTurn := none } :=
      ⟨hwalks, hvertical, rfl, h.calm hwalk, previous, hprevious⟩
    exact Wp.mono (turnAtBoundary_level hhalted _ hcarries)
      (fun _ e' hlevel => wp_snapshot_same hlevel.1) (fun _ e' hlevel => hlevel.1)

/-- Where an operation goes on: the physical step of a tick is a sub-step of its own. -/
inductive OperationPoint where
  | operation (op : Operation)
  | moves (elapsed : Rat) (workspaces : List Rect)

namespace OperationPoint

def rank : OperationPoint → Nat
  | .operation _ => 1
  | .moves _ _ => 0

/-- The sub-step at a point, and the point behind it. -/
def next (env : EngineEnv) : OperationPoint → Program PetAnimationEngine (Option OperationPoint)
  | .operation (.advance elapsedSeconds workspaces) => do
    if elapsedSeconds < 0 then throw (.value "Elapsed animation time must not be negative.")
    else
      let state ← onMotion PetMotionModel.state
      if state.lifecycle ≠ .active then
        modify fun e => { e with lastAppliedDelta := 0 }
        let _ ← onMotion (PetMotionModel.update 0 workspaces)
        return none
      else
        let applied := min elapsedSeconds env.config.maximumDeltaSeconds
        modify fun e => { e with lastAppliedDelta := applied }
        advanceActions env applied
        return some (.moves applied workspaces)
  | .operation op => do
    op.program env
    return none
  | .moves elapsed workspaces => do
    let _ ← advancePhysics env elapsed workspaces
    return none

end OperationPoint

/-- An operation is its sub-steps, one after the other. -/
theorem operate_substeps (env : EngineEnv) (e : PetAnimationEngine) (op : Operation) :
    operate env e op = stateAfter (through (OperationPoint.next env) 2 (.operation op)) e := by
  unfold operate
  congr 1
  cases op with
  | advance elapsedSeconds workspaces =>
    simp only [Operation.program, advance, advanceActions, through, OperationPoint.next, map_eq_pure_bind]
    split
    next => rfl
    next =>
      simp only [bind_assoc]
      refine bind_congr fun state => ?_
      split
      next => simp only [bind_assoc, pure_bind]
      next => simp only [bind_assoc, pure_bind]
  | _ => simp only [through, OperationPoint.next, bind_assoc, pure_bind, bind_pure_unit]

/-- The sub-step of a tick before its physical step. -/
theorem advance_steady (h : e.motion.Steady) (elapsedSeconds : Rat) (workspaces : List Rect) :
    Wp (OperationPoint.next env (.operation (.advance elapsedSeconds workspaces)))
      (Proceeds (fun _ e' => e'.motion.Steady) (·.motion.Steady) OperationPoint.rank
        (.operation (.advance elapsedSeconds workspaces)))
      (fun _ e' => e'.motion.Steady) e := by
  unfold OperationPoint.next
  refine wp_ite.mpr ⟨fun _ => h, fun _ => wp_bind.mpr (wp_onMotion.mpr ?_)⟩
  refine (wp_shown _ _).mpr ⟨fun state hstate => wp_ite.mpr ⟨fun hinactive => ?_, fun _ => ?_⟩, fun _ _ => h⟩
  · refine wp_modify_bind.mpr (wp_bind.mpr (wp_onMotion.mpr ?_))
    refine (update_paced h 0 workspaces).imp (fun _ m hmoved => ?_)
    refine hmoved.resolve_right fun hturning => hinactive ?_
    exact (snapshot_lifecycle hstate).trans hturning.1.1
  · have hacts : Follows (InPace False) (advanceActions env (applied env elapsedSeconds)) := advanceActions_inPace _
    refine wp_modify_bind.mpr (wp_bind.mpr ((hacts _).mono (fun _ _ hacted => ?_) fun _ _ hraised => ?_))
    · exact ⟨hacted.steady False.elim h, (by decide : 0 < 1)⟩
    · exact hraised.steady False.elim h

/-! ## Every operation -/

/-- The operation leaves the velocity of a walk to what is no walk, or takes it from a walk. -/
def Stalls (env : EngineEnv) (e : PetAnimationEngine) : Operation → Prop
  | .resume =>
    productionSequencingEnabled env = false ∧ e.motion.states.lifecycle = .paused ∧ e.motion.states.motion ∈ walkMotions
      ∧ e.motion.horizontalVelocity ≠ walkingVelocity e.motion.config e.motion.states.motion
  | .requestReminderAnimation =>
    productionSequencingEnabled env = false ∧ e.motion.states.lifecycle = .active ∧ e.motion.states.motion ∈ walkMotions
  | .recoverFailedClose => e.motion.states.lifecycle = .closing ∧ e.motion.horizontalVelocity ≠ 0
  | .restorePosition position workspaces =>
    e.motion.states.lifecycle = .active ∧ e.motion.states.motion ∈ walkMotions
      ∧ ∃ workspace, selectWorkspace position e.motion.windowSize workspaces = .ok workspace
  | _ => False

/-- The sub-step ends a fall that has gathered speed, or it leaves a velocity where it does not belong. -/
def Falters (env : EngineEnv) (e : PetAnimationEngine) : OperationPoint → Prop
  | .operation op => e.motion.verticalVelocity ≠ 0 ∧ EndsFall env e op ∨ Stalls env e op
  | .moves elapsed workspaces => LosesTurn env e elapsed workspaces

/-- Every operation but a tick keeps a steady pet steady, if it does not falter. -/
theorem program_steady (h : e.motion.Steady) {op : Operation}
    (hop : ∀ elapsedSeconds workspaces, op ≠ .advance elapsedSeconds workspaces)
    (hkeeps : ¬Falters env e (.operation op)) :
    Wp (op.program env) (fun _ e' => e'.motion.Steady) (fun _ e' => e'.motion.Steady) e := by
  obtain ⟨hfalls, hstalls⟩ := not_or.mp hkeeps
  have hvertical : EndsFall env e op → e.motion.verticalVelocity = 0 := fun hends => by
    by_contra hne
    exact hfalls ⟨hne, hends⟩
  have hpaces : ∀ {c : Program PetAnimationEngine Unit} {ends : Prop}, (ends → e.motion.verticalVelocity = 0) →
      Wp c (fun _ => InPace ends e) (fun _ => InPace ends e) e →
      Wp c (fun _ e' => e'.motion.Steady) (fun _ e' => e'.motion.Steady) e := fun hends hc =>
    hc.mono (fun _ _ hkept => hkept.steady hends h) (fun _ _ hkept => hkept.steady hends h)
  have hmay : ∀ {β : Type} {c : Program PetAnimationEngine β},
      Wp c (fun _ => InPace (EndsFall env e op) e) (fun _ => InPace (EndsFall env e op) e) e →
      Wp ((fun _ => ()) <$> c) (fun _ e' => e'.motion.Steady) (fun _ e' => e'.motion.Steady) e := fun hc =>
    hpaces hvertical (wp_map.mpr hc)
  have hstays : ∀ {β : Type} {c : Program PetAnimationEngine β}, Follows (InPace False) c →
      Wp ((fun _ => ()) <$> c) (fun _ e' => e'.motion.Steady) (fun _ e' => e'.motion.Steady) e := fun hc =>
    hpaces False.elim (wp_map.mpr (hc e))
  cases op with
  | handleEvent event => exact hmay (handleEvent_inPace event)
  | requestAction action source =>
    exact hmay (requestAction_follows action source fun t0 authority htrack hadmits =>
      commitsIntent_ends ⟨t0, authority, htrack, hadmits⟩)
  | resumeAutonomous source =>
    exact hmay (resumeAutonomous_follows source fun t0 htrack hfree hplays =>
      commitsIntent_ends ⟨t0, htrack, hfree, hplays⟩)
  | startAutonomous =>
    exact hmay (startAutonomous_follows fun t0 htrack hfree hplays => commitsIntent_ends ⟨t0, htrack, hfree, hplays⟩)
  | requestWalk direction => exact hmay (requestWalk_inPace direction)
  | requestThinkingAnimation => exact hmay requestThinkingAnimation_inPace
  | requestReminderAnimation => exact hmay (requestReminderAnimation_inPace hstalls)
  | resume => exact hmay (resume_inPace hstalls)
  | containRendererFailure => exact hmay containRendererFailure_inPace
  | handlePlaybackEvent event facing => exact hmay (handlePlaybackEvent_inPace event facing)
  | startDragging =>
    exact hstays (startDragging_follows (fun _ => submitNewEvent_ends (by decide) _ _)
      PetMotionModel.startDragging_keepsPace)
  | releaseDrag workspaces => exact hstays (releaseDrag_inPace workspaces)
  | pause => exact hstays (pause_follows (submitNewEvent_ends (by decide) _ _) PetMotionModel.pause_keepsPace)
  | beginClosing =>
    exact hstays (beginClosing_follows (submitNewEvent_ends (by decide) _ _) PetMotionModel.beginClosing_keepsPace)
  | requestGracefulExit => exact hstays requestGracefulExit_still
  | recoverFailedClose =>
    refine hpaces hvertical (wp_onMotion.mpr (PetMotionModel.recoverFailedClose_keepsPace fun hclosing => ?_))
    by_contra hne
    exact hstalls ⟨hclosing, hne⟩
  | advance elapsedSeconds workspaces => exact (hop elapsedSeconds workspaces rfl).elim
  | dragTo position workspaces => exact hstays (onMotion_follows (PetMotionModel.dragTo_keepsPace position workspaces))
  | constrain workspaces => exact hstays (onMotion_follows (PetMotionModel.constrain_keepsPace workspaces))
  | placeForRenderLayout position workspace =>
    exact hstays (onMotion_follows (PetMotionModel.placeForRenderLayout_keepsPace position workspace))
  | restorePosition position workspaces =>
    refine hmay (wp_onMotion.mpr (PetMotionModel.restorePosition_keepsPace fun hactive hwalk => ?_))
    exact fun workspace hselect => hstalls ⟨hactive, hwalk, workspace, hselect⟩

/-- Every sub-step that does not falter keeps a steady pet steady. -/
theorem next_steady (p : OperationPoint) (e : PetAnimationEngine) (h : e.motion.Steady) (hkeeps : ¬Falters env e p) :
    Wp (OperationPoint.next env p) (Proceeds (fun _ e' => e'.motion.Steady) (·.motion.Steady) OperationPoint.rank p)
      (fun _ e' => e'.motion.Steady) e := by
  cases p with
  | moves elapsed workspaces =>
    exact (advancePhysics_steady h elapsed workspaces hkeeps).bind fun _ _ h' => wp_pure.mpr h'
  | operation op =>
    by_cases htick : ∃ elapsedSeconds workspaces, op = .advance elapsedSeconds workspaces
    · obtain ⟨elapsedSeconds, workspaces, rfl⟩ := htick
      exact advance_steady h elapsedSeconds workspaces
    · have hnext : OperationPoint.next env (.operation op) = (do op.program env; return none) := by
        cases op with
        | advance elapsedSeconds workspaces => exact (htick ⟨_, _, rfl⟩).elim
        | _ => rfl
      rw [hnext]
      refine (program_steady h (fun elapsedSeconds workspaces heq => ?_) hkeeps).bind fun _ _ h' => wp_pure.mpr h'
      exact htick ⟨elapsedSeconds, workspaces, heq⟩

/-! ## Runs -/

/-- As long as no sub-step ends a fall that has gathered speed or leaves a velocity where it does not belong, a pet
walks at its walking speed, stands otherwise, moves down only in a fall, and has no turn left to take. -/
theorem paced_throughout {e₀ : PetAnimationEngine} (hbuilt : Built env e₀) (ops : List Operation)
    (hmeets : StepsMeet (substep OperationPoint.operation (OperationPoint.next env))
      (AtPoint fun p e => ¬Falters env e p) ⟨e₀, none⟩ (substeps (fun _ => 2) ops)) :
    StepsMeet (operate env) (fun e op => (operate env e op).motion.Paced) e₀ ops := by
  have hstart : e₀.motion.Steady := by
    obtain ⟨position, windowSize, config, rfl⟩ := hbuilt
    have hidle : PetMotionState.idle ∉ walkMotions ∧ PetMotionState.idle ∉ runMotions := by decide
    exact .of_still rfl rfl rfl (fun _ => hidle.1) hidle.2 (fun _ => rfl)
  refine StepsMeet.of_substeps (I := fun e => e.motion.Steady) (operate_substeps env)
    (fun e op h hmet => ?_) ⟨e₀, none⟩ ops hstart hmeets
  have hsteady : (operate env e op).motion.Steady := by
    rw [operate_substeps]
    exact Wp.stateAfter (P := fun e' : PetAnimationEngine => e'.motion.Steady)
      (wp_through next_steady 2 _ e (by decide : 1 < 2) h hmet)
  exact ⟨hsteady, hsteady.toPaced⟩

end

/-! ## A walk that stands -/

/-- An engine without a playback track, and the engine it begins with. -/
def legacyEnv : EngineEnv := { groundedEnv with track0 := none }

def legacyEngine : PetAnimationEngine :=
  build legacyEnv
    { position := { x := 900, y := 980 }
      windowSize := { width := 100, height := 100, width_pos := ofNat_pos trivial, height_pos := ofNat_pos trivial } }

theorem legacyEngine_built : Built legacyEnv legacyEngine := ⟨_, _, _, rfl⟩

/-- A walk that is paused and resumed without sequencing walks on without moving. -/
theorem walks_in_place : ¬∀ (env : EngineEnv) (e₀ : PetAnimationEngine) (ops : List Operation), Built env e₀ →
      (∀ op ∈ ops, ∀ position workspaces, op ≠ .restorePosition position workspaces) →
      StepsMeet (operate env) (fun e op => (operate env e op).motion.Paced) e₀ ops := by
  intro h
  obtain ⟨-, -, hpaced, -⟩ := h legacyEnv legacyEngine [.requestWalk .left, .pause, .resume] legacyEngine_built (by simp)
  exact absurd (hpaced.walks (by decide +kernel) (by decide +kernel)) (by decide +kernel)

/-- A walk that is not paused keeps moving. -/
theorem walks_at_speed :
    StepsMeet (operate legacyEnv) (fun e op => (operate legacyEnv e op).motion.Paced) legacyEngine
      [.requestWalk .left, .advance (1 / 20) [desktop]] := by
  -- no fall, and a walk that is no production action
  have hcalm : StepsMeet (substep OperationPoint.operation (OperationPoint.next legacyEnv))
      (AtPoint fun p e => (match p with
        | .operation (.requestWalk _) | .operation (.advance _ _) => decide (e.motion.verticalVelocity = 0)
        | .moves _ _ => decide (e.activeProductionAction = none)
        | _ => false) = true)
      ⟨legacyEngine, none⟩ (substeps (fun _ => 2) [.requestWalk .left, .advance (1 / 20) [desktop]]) := by
    decide +kernel
  refine paced_throughout legacyEngine_built _ (hcalm.mono fun m a => AtPoint.mono fun p e hp => ?_)
  cases p with
  | moves elapsed workspaces =>
    rintro ⟨-, -, hloses⟩
    refine hloses fun hmoves => ?_
    rw [of_decide_eq_true hp] at hmoves
    exact absurd hmoves (by decide)
  | operation op =>
    cases op with
    | requestWalk direction => exact fun hfalters => hfalters.elim (fun hends => hends.1 (of_decide_eq_true hp)) id
    | advance elapsedSeconds workspaces => exact fun hfalters => hfalters.elim (fun hends => hends.2) id
    | _ => cases hp

end PetAnimationEngine

end ArkClaw.Pet
