import ArkClaw.Pet.EngineCommits

/-!
# Runs of the engine, seen from the ground

Which operations of the engine start a walk, and what a run keeps when none of them does so above the ground. A
submitted intent or event commits its motion without asking where the window is, so the condition is on the
operations: every other one leaves the window in its place, and a tick puts an active pet on the ground unless
it is dragged or falls.
-/

namespace ArkClaw.Pet

open ArkClaw.Library
open PetMotionModel (KeepsPlace commitStateTransition_keepsPlace wp_onStates startWalking_keepsPlace
  stopWalking_keepsPlace onStates_keepsPlace wp_shown Unturned Grounded update_stepped takePendingDirectionTurn
  wp_snapshot_same)

namespace PetAnimationEngine

/-- The window stays where it is, and no walk starts unless `walks`. -/
abbrev InPlace (walks : Prop) : PetAnimationEngine → PetAnimationEngine → Prop :=
  OnMotion (KeepsPlace walks)

section

variable {env : EngineEnv} {t0 : Track0Env} {e e' : PetAnimationEngine} {α : Type} {walks : Prop}
variable {w : Rect}

theorem InPlace.refl (e : PetAnimationEngine) : InPlace walks e e := KeepsPlace.refl _

theorem InPlace.mono {walks' : Prop} (h : InPlace walks e e') (hwalks : walks → walks') : InPlace walks' e e' :=
  KeepsPlace.mono h hwalks

/-! ## Intents -/

/-- An action that does not walk leaves the pet where it is. -/
theorem commitsIntent_stays {action : ProductionAction} (hstays : ¬Moves action) :
    CommitsIntent (KeepsPlace walks) action := by
  rintro proposal (hidle | ⟨-, hmoves⟩)
  · exact commitStateTransition_keepsPlace (.inr (.inl (by rw [hidle]; decide)))
  · exact absurd hmoves hstays

/-- An action that walks may do so. -/
theorem commitsIntent_walks {action : ProductionAction} (hwalks : Moves action → walks) :
    CommitsIntent (KeepsPlace walks) action := by
  rintro proposal (hidle | ⟨hwalk, hmoves⟩)
  · exact commitStateTransition_keepsPlace (.inr (.inl (by rw [hidle]; decide)))
  · exact commitStateTransition_keepsPlace (.inr (.inr ⟨hwalk, hwalks hmoves⟩))

/-! ## Events -/

/-- An event walks where it says so; any other keeps the motion or goes to one a pet may have above the ground. -/
theorem eventChange_motion {event : PetAnimationEvent} {change : StateChange} {name : Option SequenceName}
    {reason : CancelReason} (h : eventChange env event = .ok (change, name, reason)) :
    change.motion = none ∨ (∃ motion ∈ aloftMotions, change.motion = some motion)
      ∨ event.eventType = .startWalking ∧ (∃ motion ∈ walkMotions, change.motion = some motion)
        ∧ change.mandatoryForSafety = false := by
  unfold eventChange at h
  cases htype : event.eventType with
  | startWalking =>
    rw [htype] at h
    dsimp only at h
    cases hfacing : event.facing with
    | none => rw [hfacing] at h; cases h
    | some direction =>
      rw [hfacing] at h
      refine .inr (.inr ⟨rfl, ?_⟩)
      cases direction with
      | left => obtain ⟨rfl, -⟩ := Prod.mk.inj (Except.ok.inj h); exact ⟨⟨_, by decide, rfl⟩, rfl⟩
      | right => obtain ⟨rfl, -⟩ := Prod.mk.inj (Except.ok.inj h); exact ⟨⟨_, by decide, rfl⟩, rfl⟩
  | startReading | pause | beginClosing =>
    rw [htype] at h
    obtain ⟨rfl, -⟩ := Prod.mk.inj (Except.ok.inj h)
    exact .inl rfl
  | startFalling | startThinking | startReminding | startDragging | releaseDrag | resume =>
    rw [htype] at h
    obtain ⟨rfl, -⟩ := Prod.mk.inj (Except.ok.inj h)
    exact .inr (.inl ⟨_, by decide, rfl⟩)

/-- The event walks and is admitted. -/
def WalksBy (env : EngineEnv) (t0 : Track0Env) (e : PetAnimationEngine) (event : PetAnimationEvent) : Prop :=
  event.eventType = .startWalking ∧ Admits env t0 e event

/-- The event walks on the track the engine has. -/
def EventWalks (env : EngineEnv) (e : PetAnimationEngine) (event : PetAnimationEvent) : Prop :=
  ∃ t0, env.track0 = some t0 ∧ WalksBy env t0 e event

/-- An event moves no window, and walks only where it says so and is admitted. -/
theorem handleEvent_inPlace (event : PetAnimationEvent) : Wp (handleEvent env event)
      (fun _ => InPlace (EventWalks env e event) e)
      (fun _ => InPlace (EventWalks env e event) e) e := by
  refine handleEvent_follows event fun t0 htrack change name reason proposal hchange hpropose hwhy => ?_
  have htarget := PetLayeredStateMachine.propose_motion hpropose
  apply commitStateTransition_keepsPlace
  rcases eventChange_motion hchange with hnone | ⟨motion, haloft, hsome⟩ | ⟨hwalks, ⟨motion, hwalk, hsome⟩, hoptional⟩
  · exact .inl (by rw [htarget, hnone]; rfl)
  · exact .inr (.inl (by rw [htarget, hsome]; exact haloft))
  · have hadmits : Admits env t0 e event := hwhy.resolve_left (by rw [hoptional]; decide)
    exact .inr (.inr ⟨by rw [htarget, hsome]; exact hwalk, t0, htrack, hwalks, hadmits⟩)

/-- Every other event keeps the pet where it is. -/
theorem submitNewEvent_stays {eventType : PetAnimationEventType} (h : eventType ≠ .startWalking)
    (facing : Option PetFacing) (inputSessionToken : Option ObjectId) :
    Follows (InPlace walks) (submitNewEvent env eventType facing inputSessionToken) :=
  newObject_still.bind fun _ _ => (handleEvent_inPlace _).mono
    (fun _ _ hkept => hkept.mono fun ⟨_, _, hwalks⟩ => absurd hwalks.1 h)
    (fun _ _ hkept => hkept.mono fun ⟨_, _, hwalks⟩ => absurd hwalks.1 h)

/-! ## Operations that keep the pet in place -/

/-- The walk is admitted as an event; without sequencing, the layers allow it. -/
def WalkAllowed (env : EngineEnv) (e : PetAnimationEngine) (direction : PetFacing) : Prop :=
  if productionSequencingEnabled env then EventWalks env e (e.newEvent .startWalking (some direction))
  else ∃ states, e.motion.states.startWalking direction = .ok states

theorem requestWalk_inPlace (direction : PetFacing) :
    Wp (requestWalk env direction) (fun _ => InPlace (WalkAllowed env e direction) e)
      (fun _ => InPlace (WalkAllowed env e direction) e) e := by
  unfold requestWalk
  split
  next henabled =>
    refine wp_bind.mpr (wp_newObject.mpr ?_)
    have hallowed : EventWalks env { e with objects := e.objects + 1 } (e.newEvent .startWalking (some direction)) →
        WalkAllowed env e direction := fun hwalks => (if_pos henabled).mpr hwalks
    exact (handleEvent_inPlace _).mono (fun _ _ h => h.mono hallowed) (fun _ _ h => h.mono hallowed)
  next hlegacy =>
    refine wp_bind.mpr (wp_onMotion.mpr ?_)
    cases hwalk : e.motion.states.startWalking direction with
    | error error =>
      have hraises : Wp (PetMotionModel.startWalking direction) (fun _ _ => False)
          (fun _ motion => motion = e.motion) e.motion := by
        refine wp_bind.mpr ((wp_onStates _ _ _).mpr ⟨fun states hok => ?_, fun _ _ => rfl⟩)
        rw [hwalk] at hok
        cases hok
      refine hraises.mono (fun _ _ h => h.elim) fun _ motion h => ?_
      subst h
      exact .refl e
    | ok states =>
      have hallowed : WalkAllowed env e direction := (if_neg hlegacy).mpr ⟨states, hwalk⟩
      exact (startWalking_keepsPlace direction hallowed e.motion).imp (fun _ _ h => h)

theorem requestThinkingAnimation_inPlace : Follows (InPlace walks) (requestThinkingAnimation env) := by
  refine fun e => requestThinkingAnimation_follows (fun _ => submitNewEvent_stays (by decide) _ _ e)
    stopWalking_keepsPlace (onStates_keepsPlace fun m m' h => ?_)
  unfold PetLayeredStateMachine.startThinking at h
  split at h
  next => cases h
  next =>
    cases h
    exact .inl rfl

theorem requestReminderAnimation_inPlace : Follows (InPlace walks) (requestReminderAnimation env) := by
  unfold requestReminderAnimation
  split
  next => exact submitNewEvent_stays (by decide) _ _
  next =>
    refine (onMotion_follows (onStates_keepsPlace fun m m' h => ?_)).bind fun _ =>
      .bind (still_frame fun _ => rfl) fun _ => .pure _
    unfold PetLayeredStateMachine.startReminding at h
    split at h
    next => cases h
    next =>
      cases h
      exact .aloft .idle rfl (by decide)

theorem startDragging_inPlace : Follows (InPlace walks) (startDragging env) :=
  startDragging_follows (fun _ => submitNewEvent_stays (by decide) _ _) PetMotionModel.startDragging_keepsPlace

theorem pause_inPlace : Follows (InPlace walks) (pause env) :=
  pause_follows (submitNewEvent_stays (by decide) _ _) PetMotionModel.pause_keepsPlace

theorem resume_inPlace : Follows (InPlace walks) (resume env) := by
  unfold resume
  split
  next => exact submitNewEvent_stays (by decide) _ _
  next => exact (onMotion_follows PetMotionModel.resume_keepsPlace).bind fun _ => .pure _

theorem beginClosing_inPlace : Follows (InPlace walks) (beginClosing env) :=
  beginClosing_follows (submitNewEvent_stays (by decide) _ _) PetMotionModel.beginClosing_keepsPlace

theorem startAutonomous_inPlace : Follows (InPlace walks) (startAutonomous env) := fun _ =>
  startAutonomous_follows fun _ _ _ _ => commitsIntent_stays (by decide)

theorem containRendererFailure_inPlace : Follows (InPlace walks) (containRendererFailure env) := fun _ =>
  containRendererFailure_follows fun _ hpropose =>
    commitsIntent_stays (show ¬Moves .relax by decide) _ (propose_intends hpropose)

/-! ## Operations that may walk -/

/-- The person or the agent asks for a move, and it is admitted. -/
def RequestWalks (env : EngineEnv) (e : PetAnimationEngine) (action : ProductionAction) (source : ActionSource) :
    Prop :=
  ∃ t0 intent, env.track0 = some t0 ∧ intent.action = action ∧ intent.source = source
    ∧ intent.origin = .explicit ∧ Moves action ∧ AdmitsIntent t0 e intent

theorem requestAction_inPlace (action : ProductionAction) (source : ActionSource) :
    Wp (requestAction env action source) (fun _ => InPlace (RequestWalks env e action source) e)
      (fun _ => InPlace (RequestWalks env e action source) e) e :=
  requestAction_follows action source fun t0 _ htrack hadmits =>
    commitsIntent_walks fun hmoves => ⟨t0, _, htrack, rfl, rfl, rfl, hmoves, hadmits⟩

/-- Autonomy would resume with a move: the track is free or can be freed, the renderer is healthy, the pet active,
and the move can be played. -/
def ResumeWalks (env : EngineEnv) (e : PetAnimationEngine) : Prop :=
  ∃ t0 action, env.track0 = some t0 ∧ e.autonomousResumeAction = some action ∧ Moves action
    ∧ e.motion.states.lifecycle = .active ∧ e.track0.state.health = .healthy
    ∧ Performable t0 (productionSequenceByAction action)
    ∧ (e.track0.activeRequest.isNone = true ∨ PetTrack0Controller.clears t0 e.track0 = true)

theorem resumeAutonomous_inPlace (source : ActionSource) :
    Wp (resumeAutonomous env source) (fun _ => InPlace (ResumeWalks env e) e)
      (fun _ => InPlace (ResumeWalks env e) e) e := by
  refine resumeAutonomous_follows source fun t0 htrack hfree hplays => ?_
  cases haction : e.autonomousResumeAction with
  | none => exact commitsIntent_stays (by decide)
  | some action =>
    rw [haction] at hplays
    obtain ⟨hactive, hhealth, hperformable⟩ := hplays
    exact commitsIntent_walks fun hmoves => ⟨t0, action, htrack, haction, hmoves, hactive, hhealth, hperformable, hfree⟩

/-! ## Callbacks -/

/-- The scheduler proposes a move at the boundary, and it is admitted. -/
def BoundaryWalks (env : EngineEnv) (t0 : Track0Env) (e : PetAnimationEngine) (event : PlaybackEvent) : Prop :=
  ∃ intent, Proposes env e event intent ∧ Moves intent.action ∧ AdmitsIntent t0 e intent

/-- A move that can be played waits for the protected playback the callback completes. -/
def QueueWalks (t0 : Track0Env) (e : PetAnimationEngine) (event : PlaybackEvent) : Prop :=
  e.completesProductionProtected event = true ∧ ∃ pending, e.pendingExplicitAction = some pending
    ∧ Moves pending.action ∧ Performable t0 (productionSequenceByAction pending.action)

/-- The callback of the confirmed playback starts a walk. -/
def CallbackWalks (env : EngineEnv) (e : PetAnimationEngine) (event : PlaybackEvent) : Prop :=
  ∃ t0, env.track0 = some t0 ∧ e.callbackMatchesSnapshot event = true
    ∧ (event.loopBoundary = true ∧ BoundaryWalks env t0 e event ∨ QueueWalks t0 e event)

theorem handlePlaybackEvent_inPlace (event : PlaybackEvent) (facing : Option PetFacing) :
    Wp (handlePlaybackEvent env event facing) (fun _ => InPlace (CallbackWalks env e event) e)
      (fun _ => InPlace (CallbackWalks env e event) e) e := by
  refine handlePlaybackEvent_follows event facing (fun t0 intent htrack hmatches hboundary hproposes hadmits => ?_)
    (fun _ _ _ _ proposal hidle => ?_) (fun t0 action htrack hmatches _ _ hwhy => ?_)
  · exact commitsIntent_walks fun hmoves =>
      ⟨t0, htrack, hmatches, .inl ⟨hboundary, intent, hproposes, hmoves, hadmits⟩⟩
  · exact commitsIntent_stays (show ¬Moves .relax by decide) proposal (.inl hidle)
  · rcases hwhy with rfl | ⟨hcompletes, rfl, hperformable⟩
    · exact commitsIntent_stays (by decide)
    · refine commitsIntent_walks fun hmoves => ⟨t0, htrack, hmatches, .inr ⟨hcompletes, ?_⟩⟩
      unfold nextAction at hmoves hperformable
      cases hpending : e.pendingExplicitAction with
      | none =>
        rw [hpending] at hmoves
        exact absurd hmoves (by decide)
      | some pending =>
        rw [hpending] at hmoves hperformable
        exact ⟨pending, rfl, hmoves, hperformable⟩

/-! ## The tick -/

theorem advanceAction_inPlace (elapsed : Rat) : Follows (InPlace walks) (advanceAction env elapsed) := by
  refine advanceAction_follows (fun state => ?_) elapsed
  have hrestores : ∀ m : PetLayeredStateMachine, m.Settles walks m.restoreDefaultBehavior.bumpEpoch :=
    fun m => .inl rfl
  unfold finishTimedAction
  split
  next => exact stopWalking_keepsPlace
  next =>
    split
    next =>
      refine onStates_keepsPlace fun m m' h => ?_
      unfold PetLayeredStateMachine.finishThinking at h
      split at h
      next => cases h
      next => cases h; exact hrestores m
    next =>
      split
      next =>
        refine onStates_keepsPlace fun m m' h => ?_
        unfold PetLayeredStateMachine.finishReminding at h
        split at h
        next => cases h
        next => cases h; exact hrestores m
      next => exact .pure _

theorem advanceBlink_inPlace (elapsed : Rat) : Follows (InPlace walks) (advanceBlink env elapsed) := by
  refine advanceBlink_follows (onStates_keepsPlace fun m m' h => .inl ?_)
    (onStates_keepsPlace fun m m' h => .inl ?_) elapsed
  · obtain ⟨_, _, rfl⟩ := PetLayeredStateMachine.startBlinking_frame h
    rfl
  · cases h
    obtain ⟨_, _, hframe⟩ := m.finishBlinking_frame
    rw [hframe]

/-- The random action that is due walks, and the walk is allowed. -/
def RandomWalks (env : EngineEnv) (elapsed : Rat) (e : PetAnimationEngine) : Prop :=
  e.actionRemaining ≤ 0 ∧ e.nextRandomAction ≤ elapsed
    ∧ (∃ s, e.motion.states.snapshot = .ok s ∧ s.motion = .idle ∧ s.behaviors = { breathing := true })
    ∧ ∃ direction : PetFacing, env.rng.randrange e.draws 3 = (if direction = .left then 0 else 1)
      ∧ WalkAllowed env e direction

theorem advanceRandomAction_inPlace (elapsed : Rat) :
    Wp (advanceRandomAction env elapsed) (fun _ => InPlace (RandomWalks env elapsed e) e)
      (fun _ => InPlace (RandomWalks env elapsed e) e) e := by
  unfold advanceRandomAction
  simp only [wp_bind, wp_onMotion, wp_shown, wp_get]
  refine ⟨fun s hs => ?_, fun _ _ => .refl e⟩
  split
  next => exact InPlace.refl e
  next hidle =>
    rw [not_or, not_or, not_not, not_not, not_lt] at hidle
    simp only [wp_bind, wp_set]
    split
    next => exact InPlace.refl e
    next hdue =>
      have hdue : e.nextRandomAction ≤ elapsed := by linarith [not_lt.mp hdue]
      have hwalks : ∀ direction : PetFacing, env.rng.randrange e.draws 3 = (if direction = .left then 0 else 1) →
          WalkAllowed env e direction → RandomWalks env elapsed e := fun direction hdraw hallowed =>
        ⟨hidle.1, hdue, ⟨s, hs, hidle.2⟩, direction, hdraw, hallowed⟩
      simp only [requestRandomAction, RandomSource.drawRandrange, wp_bind, wp_onRandom, wp_get, wp_set, wp_pure]
      split
      next hleft =>
        exact wp_bind.mpr ((requestWalk_inPlace .left).mono
          (fun _ _ h => h.mono (hwalks .left hleft)) (fun _ _ h => h.mono (hwalks .left hleft)))
      next =>
        split
        next hright =>
          exact wp_bind.mpr ((requestWalk_inPlace .right).mono
            (fun _ _ h => h.mono (hwalks .right hright)) (fun _ _ h => h.mono (hwalks .right hright)))
        next => exact (requestThinkingAnimation_inPlace.bind fun _ => .pure _) _

/-- On the ground a turn may walk. -/
theorem turnAtBoundary_inPlace (direction : PetFacing) : Follows (InPlace True) (turnAtBoundary env direction) := by
  have hsubmits : ∀ (t0 : Track0Env) (intent : ActionIntent),
      Follows (InPlace True) (submitProductionIntent t0 intent) := fun t0 intent _ =>
    submitProductionIntent_follows intent none fun _ _ => commitsIntent_walks fun _ => trivial
  unfold turnAtBoundary
  refine .get fun e => ?_
  split
  next =>
    cases env.track0 with
    | none =>
      dsimp only
      split
      next => exact interrupt_still
      next => exact clearProtectedContinuation_still.bind fun _ => setMode_still _
    | some t0 =>
      dsimp only
      split
      next =>
        refine .bind ?_ fun _ => .pure _
        refine interrupt_still.bind fun _ => (onTrack0_still _).bind fun answer => ?_
        split
        next => exact .pure _
        next => exact fun _ => recoverAutonomousRelax_follows none fun _ => commitsIntent_stays (by decide)
      next =>
        refine clearProtectedContinuation_still.bind fun _ => (setMode_still _).bind fun _ => ?_
        refine newObject_still.bind fun token => (hsubmits t0 _).bind fun outcome => ?_
        split
        next => exact activateAutonomous_still _
        next => exact .pure _
  next => exact onMotion_follows (startWalking_keepsPlace direction trivial)

/-- The physical step of a tick puts an active pet on the ground, unless it is dragged or falls. -/
theorem advancePhysics_grounded (h : Unturned w e.motion) (elapsed : Rat) :
    Wp (advancePhysics env elapsed [w])
      (fun _ e' => Unturned w e'.motion ∧ Grounded w e'.motion)
      (fun _ e' => Unturned w e'.motion) e := by
  unfold advancePhysics
  simp only [wp_bind, wp_onMotion, wp_shown]
  refine ⟨fun previous hprevious => ?_, fun _ _ => h⟩
  refine (update_stepped h.1 h.2 elapsed).imp (fun moved m hstep => ?_)
  cases hpending : m.pendingDirectionTurn with
  | none =>
    have hsame : Follows (OnMotion Eq) (recoverLanding env previous.motion moved.state.motion) :=
      recoverLanding_still _ _
    refine (hsame { e with motion := m }).mono (fun _ e₁ hmotion => ?_) (fun _ e₁ hmotion => ?_)
    · have hmotion : m = e₁.motion := hmotion
      subst hmotion
      simp only [takeTurn, takePendingDirectionTurn, wp_bind, wp_onMotion, wp_get, wp_set, wp_pure,
        hpending]
      have hend : Unturned w { e₁.motion with pendingDirectionTurn := none }
          ∧ Grounded w { e₁.motion with pendingDirectionTurn := none } :=
        ⟨⟨⟨hstep.placed.holds, hstep.placed.motion⟩, rfl⟩, hstep.grounded⟩
      exact (wp_snapshot_same (P := fun m => Unturned w m ∧ Grounded w m)
        hend).mono (fun _ _ h => h) (fun _ _ h => h.1)
    · have hmotion : m = e₁.motion := hmotion
      exact hmotion ▸ ⟨hstep.placed, hpending⟩
  | some direction =>
    -- only a walk turns, and it turns on the ground
    obtain ⟨hon, hwalk⟩ := hstep.turn (by rw [hpending]; exact Option.some_ne_none _)
    have hlanding : previous.motion ≠ .landing := by
      rw [PetLayeredStateMachine.snapshot_motion hprevious]
      intro hlands
      have hwalking := hwalk.mem
      rw [hlands] at hwalking
      revert hwalking
      decide
    have hnothing : recoverLanding env previous.motion moved.state.motion = pure () := if_neg fun hx => hlanding hx.2.1
    rw [hnothing]
    simp only [takeTurn, takePendingDirectionTurn, wp_bind, wp_onMotion, wp_get, wp_set, wp_pure,
      hpending]
    have hplaced : PetMotionModel.Placed w { m with pendingDirectionTurn := none } :=
      ⟨hstep.placed.holds, hstep.placed.motion⟩
    have hturned : ∀ e' : PetAnimationEngine,
        InPlace True { e with motion := { m with pendingDirectionTurn := none } } e' →
        Unturned w e'.motion ∧ Grounded w e'.motion := by
      intro e' hkept
      exact ⟨⟨hplaced.kept hkept fun _ => hon, hkept.turn⟩, fun _ => .inr (.inr (hkept.onGround hon))⟩
    refine (turnAtBoundary_inPlace direction _).mono (fun _ e' hkept => ?_) (fun _ e' hkept => (hturned e' hkept).1)
    exact (wp_snapshot_same (P := fun m => Unturned w m ∧ Grounded w m)
      (hturned e' hkept)).mono (fun _ _ h => h) (fun _ _ h => h.1)

/-- The tick's random action walks. -/
def TickWalks (env : EngineEnv) (e : PetAnimationEngine) (elapsedSeconds : Rat) : Prop :=
  let elapsed := applied env elapsedSeconds
  0 ≤ elapsedSeconds ∧ e.motion.states.lifecycle = .active
    ∧ RandomWalks env elapsed (stateAfter (do advanceAction env elapsed; advanceBlink env elapsed)
        { e with lastAppliedDelta := elapsed })

/-- A tick leaves an active pet on the ground, unless it is dragged or falls. -/
theorem advance_grounded (h : Unturned w e.motion) (elapsedSeconds : Rat)
    (hwalks : TickWalks env e elapsedSeconds → e.motion.OnGround w) : Wp (advance env elapsedSeconds [w])
      (fun _ e' => Unturned w e'.motion ∧ Grounded w e'.motion)
      (fun _ e' => Unturned w e'.motion) e := by
  have hkeeps : ∀ {walks : Prop} (e₁ e₂ : PetAnimationEngine), Unturned w e₁.motion →
      InPlace walks e₁ e₂ → (walks → e₁.motion.OnGround w) → Unturned w e₂.motion :=
    fun _ _ hunturned hkept hon => ⟨hunturned.1.kept hkept hon, hkept.turn.trans hunturned.2⟩
  refine wp_advance (fun _ => h) (fun hinactive => wp_onMotion.mpr ?_) fun hforward hactive => ?_
  · refine (update_stepped h.1 h.2 0).imp (fun _ m hstep => ⟨⟨hstep.placed, ?_⟩, hstep.grounded⟩)
    by_contra hpending
    exact hinactive (hstep.turn hpending).2.1
  · -- what the timed action and the blink leave is what the random action is decided in
    have hbegin : Follows (InPlace False) (do
        advanceAction env (applied env elapsedSeconds)
        advanceBlink env (applied env elapsedSeconds)) := (advanceAction_inPlace _).bind fun _ => advanceBlink_inPlace _
    have hrun := (hbegin { e with lastAppliedDelta := applied env elapsedSeconds }).and (wp_run _ _)
    have hboth := wp_bind.mp hrun
    refine wp_bind.mpr (hboth.mono (fun _ e₁ hboth => ?_) fun _ e₁ hraised => ?_)
    swap
    · exact hkeeps e _ h hraised.1 False.elim
    refine wp_bind.mpr (hboth.mono (fun _ e₂ hblinked => ?_) fun _ e₂ hraised => ?_)
    swap
    · exact hkeeps e _ h hraised.1 False.elim
    have hunturned : Unturned w e₂.motion := hkeeps e _ h hblinked.1 False.elim
    have hon : RandomWalks env (applied env elapsedSeconds) e₂ → e₂.motion.OnGround w := by
      intro hrandom
      refine KeepsPlace.onGround hblinked.1 (hwalks ⟨hforward, hactive, ?_⟩)
      unfold stateAfter
      rw [hblinked.2]
      exact hrandom
    refine wp_bind.mpr ((advanceRandomAction_inPlace _).mono (fun _ e₃ hkept => ?_) fun _ e₃ hkept => ?_)
    · exact advancePhysics_grounded (hkeeps _ _ hunturned hkept hon) _
    · exact hkeeps _ _ hunturned hkept hon

/-! ## Every operation -/

/-- What keeps its place stays placed, if walks only start on the ground. -/
theorem InPlace.unturned (hkept : InPlace walks e e') (h : Unturned w e.motion)
    (hon : walks → e.motion.OnGround w) : Unturned w e'.motion :=
  ⟨h.1.kept hkept hon, hkept.turn.trans h.2⟩

/-- The window is let go where it is, on the floor or to fall. -/
theorem releaseDrag_unturned (h : Unturned w e.motion) {workspaces : Option (List Rect)}
    (hworkspaces : ∀ list ∈ workspaces, list = [w]) :
    Wp (releaseDrag env workspaces) (fun _ e' => Unturned w e'.motion)
      (fun _ e' => Unturned w e'.motion) e := by
  unfold releaseDrag
  split
  next =>
    refine wp_get_bind.mpr ?_
    split
    next => exact h
    next token htoken =>
      split
      next =>
        unfold releaseDragInRelax
        simp only [wp_bind, wp_modify, wp_onMotion, wp_get]
        refine (PetMotionModel.releaseDrag_unturned h hworkspaces).imp (fun _ m hreleased => ?_)
        split
        next => exact hreleased
        next =>
          have hasserts : Follows (OnMotion Eq) (do assertTransactionCompatible; return ActionOutcome.accepted) :=
            assertTransactionCompatible_still.bind fun _ => .pure _
          refine (hasserts _).mono (fun _ e' (hsame : m = e'.motion) => ?_) (fun _ e' (hsame : m = e'.motion) => ?_)
          · exact hsame ▸ hreleased
          · exact hsame ▸ hreleased
      next =>
        have hevent : Follows (InPlace False) (do
            let outcome ← submitNewEvent env .releaseDrag none (some token)
            if outcome = .accepted then modify fun (e : PetAnimationEngine) => { e with dragSessionToken := none }
            return outcome) := by
          refine (submitNewEvent_stays (by decide) _ _).bind fun outcome => ?_
          dsimp only
          split
          next => exact .bind (still_frame fun _ => rfl) fun _ => .pure _
          next => exact .pure _
        exact (hevent e).mono (fun _ _ hkept => hkept.unturned h False.elim)
          (fun _ _ hkept => hkept.unturned h False.elim)
  next =>
    simp only [wp_bind, wp_onMotion, wp_pure]
    exact PetMotionModel.releaseDrag_unturned h fun _ hnone => absurd hnone (Option.not_mem_none _)

/-- The operation's workspaces, where it has some, are `w` alone. The motion model's own calls a window makes are
left out, but for the drag. -/
def Operation.Within (w : Rect) : Operation → Prop
  | .advance _ workspaces | .dragTo _ workspaces => workspaces = [w]
  | .releaseDrag workspaces => ∀ list ∈ workspaces, list = [w]
  | .constrain _ | .placeForRenderLayout _ _ | .restorePosition _ _ => False
  | _ => True

/-- The operation starts a walk. -/
def StartsWalk (env : EngineEnv) (e : PetAnimationEngine) : Operation → Prop
  | .handleEvent event => EventWalks env e event
  | .requestWalk direction => WalkAllowed env e direction
  | .requestAction action source => RequestWalks env e action source
  | .resumeAutonomous _ => ResumeWalks env e
  | .handlePlaybackEvent event _ => CallbackWalks env e event
  | .advance elapsedSeconds _ => TickWalks env e elapsedSeconds
  | _ => False

/-- The operation starts a walk above the ground. -/
def WalksAloft (env : EngineEnv) (w : Rect) (e : PetAnimationEngine) (op : Operation) : Prop :=
  ¬e.motion.OnGround w ∧ StartsWalk env e op

/-- Every operation that does not start a walk above the ground keeps the pet placed. -/
theorem program_unturned (h : Unturned w e.motion) (op : Operation) (hwithin : op.Within w)
    (hwalks : ¬WalksAloft env w e op) : Wp (op.program env) (fun _ e' => Unturned w e'.motion)
      (fun _ e' => Unturned w e'.motion) e := by
  have hon : StartsWalk env e op → e.motion.OnGround w := fun hstarts => by
    by_contra haloft
    exact hwalks ⟨haloft, hstarts⟩
  have hmay : ∀ {walks : Prop} {c : Program PetAnimationEngine ActionOutcome}, (walks → StartsWalk env e op) →
      Wp c (fun _ => InPlace walks e) (fun _ => InPlace walks e) e →
      Wp ((fun _ => ()) <$> c) (fun _ e' => Unturned w e'.motion)
        (fun _ e' => Unturned w e'.motion) e := fun hstarts hc =>
    wp_map.mpr (hc.mono (fun _ _ hkept => hkept.unturned h fun hx => hon (hstarts hx))
      (fun _ _ hkept => hkept.unturned h fun hx => hon (hstarts hx)))
  have hstays : ∀ {c : Program PetAnimationEngine ActionOutcome}, Follows (InPlace False) c →
      Wp ((fun _ => ()) <$> c) (fun _ e' => Unturned w e'.motion)
        (fun _ e' => Unturned w e'.motion) e := fun hc => hmay False.elim (hc e)
  cases op with
  | handleEvent event => exact hmay id (handleEvent_inPlace event)
  | requestAction action source => exact hmay id (requestAction_inPlace action source)
  | resumeAutonomous source => exact hmay id (resumeAutonomous_inPlace source)
  | requestWalk direction => exact hmay id (requestWalk_inPlace direction)
  | handlePlaybackEvent event facing => exact hmay id (handlePlaybackEvent_inPlace event facing)
  | startAutonomous => exact hstays startAutonomous_inPlace
  | requestThinkingAnimation => exact hstays requestThinkingAnimation_inPlace
  | requestReminderAnimation => exact hstays requestReminderAnimation_inPlace
  | startDragging => exact hstays startDragging_inPlace
  | pause => exact hstays pause_inPlace
  | resume => exact hstays resume_inPlace
  | beginClosing => exact hstays beginClosing_inPlace
  | requestGracefulExit => exact hstays requestGracefulExit_still
  | containRendererFailure => exact hstays containRendererFailure_inPlace
  | recoverFailedClose =>
    have hrecovers : Follows (InPlace False) recoverFailedClose :=
      onMotion_follows PetMotionModel.recoverFailedClose_keepsPlace
    exact (hrecovers e).mono (fun _ _ hkept => hkept.unturned h False.elim)
      (fun _ _ hkept => hkept.unturned h False.elim)
  | releaseDrag workspaces => exact wp_map.mpr (releaseDrag_unturned h hwithin)
  | advance elapsedSeconds workspaces =>
    obtain rfl : workspaces = [w] := hwithin
    exact wp_map.mpr ((advance_grounded h elapsedSeconds hon).imp (fun _ _ hend => hend.1))
  | dragTo position workspaces =>
    exact wp_map.mpr (wp_onMotion.mpr (PetMotionModel.dragTo_unturned h position workspaces))
  | constrain _ => exact hwithin.elim
  | placeForRenderLayout _ _ => exact hwithin.elim
  | restorePosition _ _ => exact hwithin.elim

/-! ## Runs -/

/-- The pet walks and lands on the ground only. -/
def TreadsGround (w : Rect) (e : PetAnimationEngine) : Prop :=
  e.motion.states.motion ∈ walkMotions ∨ e.motion.states.motion = .landing → e.motion.OnGround w

/-- After the operation the pet walks or lands on the ground only, and after a tick that returns an active pet is
on the ground unless it is dragged or falls. -/
def Treads (env : EngineEnv) (w : Rect) (e : PetAnimationEngine) (op : Operation) : Prop :=
  TreadsGround w (operate env e op)
    ∧ ∀ elapsedSeconds workspaces, op = .advance elapsedSeconds workspaces →
      Wp (advance env elapsedSeconds workspaces) (fun _ e' => Grounded w e'.motion)
        (fun _ _ => True) e

theorem treadsGround_of_placed (h : PetMotionModel.Placed w e.motion) : TreadsGround w e := by
  intro htreads
  refine (h.motion.resolve_left fun haloft => ?_).2
  rcases htreads with hwalk | hlanding
  · revert haloft hwalk
    cases e.motion.states.motion <;> decide
  · rw [hlanding] at haloft
    revert haloft
    decide

/-- In a workspace that can hold the window a pet never walks or lands above the ground, as long as no operation
starts a walk there. -/
theorem treads_throughout {w : Rect} {e₀ : PetAnimationEngine} (hbuilt : Built env e₀)
    (hholds : PetMotionModel.Holds w e₀.motion.windowSize) (ops : List Operation)
    (hmeets : StepsMeet (operate env) (fun e op => op.Within w ∧ ¬WalksAloft env w e op) e₀ ops) :
    StepsMeet (operate env) (Treads env w) e₀ ops := by
  have hstart : Unturned w e₀.motion := by
    obtain ⟨position, windowSize, config, rfl⟩ := hbuilt
    exact ⟨⟨hholds.2, .inl List.mem_cons_self⟩, rfl⟩
  have hkeeps : ∀ e op, Unturned w e.motion → op.Within w ∧ ¬WalksAloft env w e op →
      Unturned w (operate env e op).motion := fun e op h hmeets =>
    Wp.stateAfter (program_unturned h op hmeets.1 hmeets.2)
  refine StepsMeet.of_invariant hkeeps (fun e op h hmeets => ⟨treadsGround_of_placed (hkeeps e op h hmeets).1, ?_⟩)
    e₀ ops hstart hmeets
  rintro elapsedSeconds workspaces rfl
  obtain rfl : workspaces = [w] := hmeets.1
  refine (advance_grounded h elapsedSeconds fun hwalks => ?_).mono (fun _ _ hend => hend.2) (fun _ _ _ => trivial)
  by_contra haloft
  exact hmeets.2 ⟨haloft, hwalks⟩

end

/-! ## A walk above the ground -/

/-- A desktop. -/
def desktop : Rect := { x := 0, y := 0, width := 1920, height := 1080, width_pos := ofNat_pos trivial, height_pos := ofNat_pos trivial }

/-- A pet on the ground of the desktop, whose Relax stands in for the drag animations. -/
def groundedEnv : EngineEnv := { steadyEnv [.idle, .walkLeft] with useRelaxMotionFallback := true }

def groundedEngine : PetAnimationEngine :=
  build groundedEnv
    { position := { x := 900, y := 980 }
      windowSize := { width := 100, height := 100, width_pos := ofNat_pos trivial, height_pos := ofNat_pos trivial } }

/-- The pet is dragged up, autonomy is resumed from the tray and the pet asked to move before the next tick. -/
def resumedAloft : List Operation :=
  [.startAutonomous, .startDragging, .dragTo { x := 900, y := 200 } [desktop], .resumeAutonomous .tray,
    .requestAction .moveLeft .user]

theorem groundedEngine_built : Built groundedEnv groundedEngine := ⟨_, _, _, rfl⟩

theorem groundedEngine_held : PetMotionModel.Holds desktop groundedEngine.motion.windowSize := by
  constructor <;> decide +kernel

/-- Resuming autonomy ends a drag without putting the pet down, and a pet that is asked to move before the next tick
walks on above the ground. -/
theorem walks_aloft :
    ¬∀ (env : EngineEnv) (w : Rect) (e₀ : PetAnimationEngine) (ops : List Operation) (elapsedSeconds : Rat),
      Built env e₀ → PetMotionModel.Holds w e₀.motion.windowSize → e₀.motion.OnGround w →
      (∀ op ∈ ops, op.Within w) →
      Wp (advance env elapsedSeconds [w]) (fun _ e' => Grounded w e'.motion) (fun _ _ => True)
        (run (operate env) e₀ ops) := by
  intro h
  have hwithin : ∀ op ∈ resumedAloft, op.Within desktop := by simp [resumedAloft, Operation.Within]
  have hends := h groundedEnv desktop groundedEngine resumedAloft (1 / 20) groundedEngine_built groundedEngine_held
    (by decide +kernel) hwithin
  obtain ⟨-, hgrounded⟩ := hends.of_returns (by decide +kernel)
  rcases hgrounded (by decide +kernel) with hdragged | hfalls | hground
  · exact absurd hdragged (by decide +kernel)
  · exact absurd hfalls (by decide +kernel)
  · exact absurd hground (by decide +kernel)

/-- A pet that stands on the ground walks there. -/
theorem walks_on_ground : StepsMeet (operate groundedEnv) (Treads groundedEnv desktop) groundedEngine
      [.startAutonomous, .requestAction .moveLeft .user, .advance (1 / 20) [desktop]] := by
  have hground : ∀ {e : PetAnimationEngine} {op : Operation}, e.motion.OnGround desktop →
      ¬WalksAloft groundedEnv desktop e op := fun hground haloft => haloft.1 hground
  refine treads_throughout groundedEngine_built groundedEngine_held _ ⟨⟨trivial, hground ?_⟩, ⟨trivial, hground ?_⟩,
    ⟨rfl, hground ?_⟩, trivial⟩
  all_goals decide +kernel

end PetAnimationEngine

end ArkClaw.Pet
