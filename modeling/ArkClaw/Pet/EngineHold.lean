import ArkClaw.Pet.EngineUnprompted

/-!
# Holds and autonomy

A hold is held, and only the scheduler acts by itself, as long as the random source starts nothing: its events
carry a caller's authority, so they displace what is held and what the scheduler plays. That the scheduler of an
autonomous pet watches what plays is an invariant of every run that nothing overtakes, from the new engine on,
which is autonomous before anything plays.
-/

namespace ArkClaw.Pet

open ArkClaw.Library

namespace PetAnimationEngine

open PetTrack0Controller (Stopped)

section

variable {env : EngineEnv} {t0 : Track0Env} {e e' : PetAnimationEngine} {event : PlaybackEvent}
  {elapsed : Rat} {workspaces : List Rect}
variable {op : Operation}

/-! ## Autonomy before anything plays -/

/-- Nothing plays, or the scheduler of an autonomous pet watches the loop that does. -/
def Guarded (env : EngineEnv) (e : PetAnimationEngine) : Prop :=
  Stopped e.track0 ∨ Watched env e

/-- What does not touch the track leaves it stopped. -/
theorem guarded_of_along {α : Type} {c : Program PetAnimationEngine α} (h : Follows (OnTrack Eq) c)
    (hstopped : Stopped e.track0) : Wp c (fun _ => Guarded env) (fun _ => Guarded env) e :=
  (h e).mono (fun _ _ h => .inl (h ▸ hstopped)) (fun _ _ h => .inl (h ▸ hstopped))

/-- On a stopped track an event is followed by nothing unwatched, unless it overtakes the scheduler. -/
theorem handleEvent_guarded {event : PetAnimationEvent} (htrack : env.track0 = some t0) (hs : Sound env t0 e)
    (hstopped : Stopped e.track0) (hcalm : ¬Overtakes env t0 e event) :
    Wp (handleEvent env event) (fun _ => Guarded env) (fun _ => Guarded env) e := by
  have hstopped₁ : Stopped (e.prepared event).track0 := (prepared_frame e event).2.symm ▸ hstopped
  have hs₁ : Sound env t0 (e.prepared event) := (prepared_keeps hs event : Keeps env t0 True True e (e.prepared event)).sound
  refine (handleEvent_spec htrack).mono (fun o e' h => ?_) (fun error e' h => .inl (h.1 ▸ hstopped₁))
  cases h with
  | cleared _ _ _ _ _ _ _ hcleared => exact .inl hcleared
  | contained _ _ _ _ _ _ _ _ hcontained => exact .inl hcontained.stopped
  | refused => exact .inl hstopped₁
  | played proposal _ request track0 hadmits _ _ _ _ hresume =>
    refine .inr (watched_of_mode fun hmode => ?_)
    obtain ⟨hautonomous, hevent⟩ := mode_of_prepared hmode hresume
    exact hcalm ⟨hautonomous, hevent, admits_prepared.mp hadmits⟩
  | resumed proposal request track0 _ _ _ hperformable hname hperforms _ hactivated =>
    obtain ⟨hstep, hexit⟩ := productionProgress_holds (show ProductionAction.relax.isProtected = false from rfl)
    have hsound : Sound env t0 { e.prepared event with
        motion := (e.prepared event).motion.committed proposal.targetState, track0
        activeProductionAction := some .relax } :=
      ⟨committed_valid _ _, hs₁.turn, hs₁.untimed, hs₁.resume,
        .inr ⟨request, _, hperforms, hname ▸ productionSequence_performed env .relax⟩⟩
    exact .inr (hactivated.keeps hsound hperformable ⟨_, hperforms.playing.progress, hstep, hexit⟩).2
  | failed _ _ _ _ hcontained => exact .inl hcontained.stopped

theorem submitNewEvent_guarded (htrack : env.track0 = some t0) (hs : Sound env t0 e)
    (hstopped : Stopped e.track0) (eventType : PetAnimationEventType)
    (facing : Option PetFacing) (inputSessionToken : Option ObjectId)
    (hcalm : ¬Overtakes env t0 e (e.newEvent eventType facing inputSessionToken)) :
    Wp (submitNewEvent env eventType facing inputSessionToken) (fun _ => Guarded env) (fun _ => Guarded env) e := by
  unfold submitNewEvent
  refine wp_bind.mpr (wp_newObject.mpr (handleEvent_guarded htrack ?_ ?_ ?_))
  · exact ⟨hs.valid, hs.turn, hs.untimed, hs.resume, hs.track⟩
  · exact hstopped
  · exact hcalm

/-- On a stopped track an explicit intent leaves no autonomous pet that plays. -/
theorem requestAction_guarded (htrack : env.track0 = some t0) (hs : Sound env t0 e)
    (hstopped : Stopped e.track0) (action : ProductionAction) (source : ActionSource) :
    Wp (requestAction env action source) (fun _ => Guarded env) (fun _ => Guarded env) e := by
  refine (requestAction_spec htrack hs action source).mono (fun o e' h => ?_) (fun error e' h => ?_)
  · obtain ⟨intent, -, hexplicit, hsubmitted⟩ := h
    cases hsubmitted with
    | continued => exact .inl hstopped
    | queued => exact .inl hstopped
    | held => exact .inl hstopped
    | refused => exact .inl hstopped
    | played =>
      refine .inr (watched_of_mode ?_)
      show intentMode intent ≠ .autonomous
      unfold intentMode
      rw [hexplicit]
      split <;> decide
    | failed _ _ _ _ _ hcontained => exact .inl hcontained.stopped
  · rw [h.2]
    exact .inl hstopped

/-- What suspends autonomy before anything else runs from a suspended pet. -/
theorem guarded_of_suspended {α : Type} {c : Program PetAnimationEngine α} {safe : Prop} (hs : Sound env t0 e)
    (hmaintains : Sound env t0 { e with executionMode := .suspended } →
      Maintains env t0 safe True c { e with executionMode := .suspended })
    (hsame : c.run e = c.run { e with executionMode := .suspended }) :
    Wp c (fun _ => Guarded env) (fun _ => Guarded env) e := by
  have h := hmaintains ⟨hs.valid, hs.turn, hs.untimed, hs.resume, hs.track⟩
  have hwatched : Watched env { e with executionMode := .suspended } := watched_of_mode (by simp)
  unfold Wp
  rw [hsame]
  exact h.mono (fun _ _ h => .inr (h.watched trivial hwatched)) (fun _ _ h => .inr (h.1.watched trivial hwatched))

section

variable (htrack : env.track0 = some t0)

include htrack

theorem resumeAutonomous_guarded (hs : Sound env t0 e) (source : ActionSource) :
    Wp (resumeAutonomous env source) (fun _ => Guarded env) (fun _ => Guarded env) e := by
  refine guarded_of_suspended hs (fun hs' => resumeAutonomous_maintains htrack hs' source) ?_
  unfold resumeAutonomous
  simp only [htrack]
  rfl

theorem containRendererFailure_guarded (hs : Sound env t0 e) :
    Wp (containRendererFailure env) (fun _ => Guarded env) (fun _ => Guarded env) e := by
  exact guarded_of_suspended hs (fun hs' => containRendererFailure_maintains htrack hs') rfl

/-- A turn leaves no autonomous pet unwatched. -/
theorem turnAtBoundary_guarded (hs : Sound env t0 e)
    (hstopped : Stopped e.track0) (direction : PetFacing) :
    Wp (turnAtBoundary env direction) (fun _ => Guarded env) (fun _ => Guarded env) e := by
  unfold turnAtBoundary
  refine wp_get_bind.mpr ?_
  split
  next =>
    simp only [htrack]
    split
    next hheld =>
      have hwatched : Watched env e := watched_of_mode (by rw [hheld]; decide)
      refine wp_bind.mpr ((recoverExplicitBoundary_maintains hs).mono (fun _ _ h => ?_) (fun _ _ h => ?_))
      · exact .inr (h.watched trivial hwatched)
      · exact .inr (h.1.watched trivial hwatched)
    next =>
      exact guarded_of_suspended hs
        (fun hs' => commitWorkspaceBoundaryTurn_maintains hs' direction) rfl
  next => exact guarded_of_along (onMotion_along _) hstopped

/-- A physical step over a stopped track leaves no autonomous pet unwatched. -/
theorem advancePhysics_guarded (hs : Sound env t0 e)
    (hstopped : Stopped e.track0) :
    Wp (advancePhysics env elapsed workspaces) (fun _ => Guarded env) (fun _ => Guarded env) e := by
  have hlanded : ∀ (previous moved : PetMotionState) (e₁ : PetAnimationEngine), Stopped e₁.track0 →
      Wp (recoverLanding env previous moved)
        (fun _ e₂ => e₂.motion = e₁.motion ∧ e₂.track0 = e₁.track0
          ∧ e₂.actionRemaining = e₁.actionRemaining ∧ e₂.autonomousResumeAction = e₁.autonomousResumeAction)
        (fun _ _ => False) e₁ := by
    intro previous moved e₁ hstopped₁
    unfold recoverLanding
    split
    next =>
      have hrelaxes : relaxes e₁.track0 = false := by simp [relaxes, hstopped₁.confirmed]
      simp only [htrack, finishRelaxMotionRecovery, wp_map, wp_bind, wp_get, hrelaxes, Bool.not_false, if_true,
        wp_setMode, wp_pure]
      exact ⟨trivial, trivial, trivial, trivial⟩
    next => exact ⟨rfl, rfl, rfl, rfl⟩
  unfold advancePhysics
  refine wp_bind.mpr ((wp_motionState (PetLayeredStateMachine.snapshot_of_valid _ hs.valid) _ _).mpr ?_)
  refine wp_bind.mpr (wp_onMotion.mpr ?_)
  refine (PetMotionModel.update_layers hs.valid elapsed workspaces).mono (fun moved motion h => ?_)
    (fun error motion _ => .inl hstopped)
  have hvalid : motion.states.Valid := by
    cases h with
    | kept hkept => exact hkept.1 ▸ hs.valid
    | turning _ _ hstates => exact hstates ▸ hs.valid
    | landed _ _ _ hat => exact hat.valid
    | rested _ _ hat => exact hat.valid
  refine wp_bind.mpr (Wp.mono (hlanded _ _ _ ?_) (fun _ e₁ h₁ => ?_) (fun _ _ h => h.elim))
  · exact hstopped
  obtain ⟨hmotion, htrack₁, hremaining, hresume⟩ := h₁
  have hstopped₁ : Stopped e₁.track0 := htrack₁ ▸ hstopped
  refine wp_bind.mpr ?_
  unfold takeTurn
  refine wp_bind.mpr (wp_onMotion.mpr ?_)
  simp only [PetMotionModel.takePendingDirectionTurn, wp_bind, wp_get, wp_set, wp_pure]
  have hlast : ∀ e₂, Guarded env e₂ →
      Wp (onMotion PetMotionModel.snapshot) (fun _ => Guarded env) (fun _ => Guarded env) e₂ :=
    fun e₂ h => wp_onMotion.mpr (wp_trivial _ (fun _ _ => h) (fun _ _ => h))
  cases e₁.motion.pendingDirectionTurn with
  | none => exact hlast _ (.inl hstopped₁)
  | some direction =>
    refine Wp.mono (turnAtBoundary_guarded htrack ?_ ?_ direction) (fun _ e₂ h => hlast e₂ h) (fun _ _ h => h)
    · refine ⟨?_, rfl, ?_, ?_, .inl ?_⟩
      · show e₁.motion.states.Valid
        rw [hmotion]
        exact hvalid
      · exact hremaining.trans_le hs.untimed
      · intro action haction
        exact hs.resume action (hresume.symm.trans haction)
      · exact hstopped₁
    · exact hstopped₁

theorem advance_guarded
    (hsequencing : sequencingEnabled t0.player.capabilities = true) (hs : Sound env t0 e)
    (hstopped : Stopped e.track0) (hcalm : ¬TickOvertakes env t0 e elapsed) :
    Wp (advance env elapsed workspaces) (fun _ => Guarded env) (fun _ => Guarded env) e := by
  have henabled := sequencingEnabled_of htrack hsequencing
  refine advance_spec hs (.inl hstopped) (fun _ => guarded_of_along (onMotion_along _) ?_) fun hforward hactive hsound => ?_
  · exact hstopped
  · obtain ⟨states, blinkElapsed, nextBlink, draws, -, hblinked⟩ := @blinked_frame env e (applied env elapsed) hs.valid
    have hstopped₁ : Stopped (blinked env (applied env elapsed) e).track0 := by
      rw [hblinked]
      exact hstopped
    -- the physical step follows whatever the random event left
    have hphysics : ∀ e₁, Sound env t0 e₁ → Guarded env e₁ →
        Wp (advancePhysics env (applied env elapsed) workspaces) (fun _ => Guarded env) (fun _ => Guarded env)
          e₁ := by
      intro e₁ hs₁ hguarded
      obtain hstopped | hwatched := hguarded
      · exact advancePhysics_guarded htrack hs₁ hstopped
      · exact (advancePhysics_maintains htrack hs₁).mono (fun _ _ h => .inr (h.watched trivial hwatched))
          (fun _ _ h => .inr (h.1.watched trivial hwatched))
    refine wp_bind.mpr (advanceRandomAction_spec henabled hsound.valid hsound.untimed
      (fun _ next => hphysics _ ?_ (.inl ?_)) (fun event hevent => ?_))
    · exact ⟨hsound.valid, hsound.turn, hsound.untimed, hsound.resume, hsound.track⟩
    · exact hstopped₁
    · have hdrawn : Sound env t0 ((blinked env (applied env elapsed) e).drawn (applied env elapsed)) :=
        ⟨hsound.valid, hsound.turn, hsound.untimed, hsound.resume, hsound.track⟩
      have hguarded : Wp (handleEvent env event) (fun _ => Guarded env) (fun _ => Guarded env)
          ((blinked env (applied env elapsed) e).drawn (applied env elapsed)) := by
        refine handleEvent_guarded htrack hdrawn ?_ fun hovertakes => ?_
        · exact hstopped₁
        · exact hcalm ⟨hforward, hactive, event, hevent, hovertakes⟩
      exact (hguarded.and (handleEvent_maintains htrack hdrawn)).mono
        (fun _ e₁ h => hphysics e₁ h.2.sound h.1) (fun _ _ h => h.1)

/-- A callback finds nothing to do on a stopped track. -/
theorem handlePlaybackEvent_guarded
    (hstopped : Stopped e.track0) (facing : Option PetFacing) :
    Wp (handlePlaybackEvent env event facing) (fun _ => Guarded env) (fun _ => Guarded env) e := by
  have hmatches : e.callbackMatchesSnapshot event = false := by
    simp [callbackMatchesSnapshot, hstopped.runner, PetSequenceRunner.eventMatchesCurrentEpoch]
  unfold handlePlaybackEvent
  simp only [htrack, wp_bind, wp_get, hmatches, Bool.not_false, if_true]
  refine (handleCompletion_foreign (by rw [hmatches]; decide) _ _).mpr ?_
  exact wp_bind.mp (assert_unchanged (.inl hstopped) _)

theorem startDragging_guarded
    (henabled : productionSequencingEnabled env = true) (hs : Sound env t0 e)
    (hstopped : Stopped e.track0) :
    Wp (startDragging env) (fun _ => Guarded env) (fun _ => Guarded env) e := by
  unfold startDragging
  rw [if_pos henabled]
  refine wp_bind.mpr (wp_newObject.mpr (wp_bind.mpr ?_))
  refine Wp.mono (submitNewEvent_guarded htrack ?_ ?_ _ none _ (not_overtakes (by simp [newEvent])))
    (fun o e₁ h => ?_) (fun _ _ h => h)
  · exact ⟨hs.valid, hs.turn, hs.untimed, hs.resume, hs.track⟩
  · exact hstopped
  · split
    next => exact wp_modify_bind.mpr h
    next => exact h

theorem releaseDrag_guarded
    (henabled : productionSequencingEnabled env = true) (hs : Sound env t0 e)
    (hstopped : Stopped e.track0) {workspaces : Option (List Rect)}
    (hcalm : ¬OvertakenBy env t0 e (.releaseDrag workspaces)) :
    Wp (releaseDrag env workspaces) (fun _ => Guarded env) (fun _ => Guarded env) e := by
  have hrelax : Follows (OnTrack Eq) (releaseDragInRelax workspaces) := by
    unfold releaseDragInRelax
    refine .bind (along_frame fun _ => rfl) fun _ => (onMotion_along _).bind fun _ => .get fun e => ?_
    split
    next => exact .pure _
    next => exact assertTransactionCompatible_along.bind fun _ => .pure _
  unfold releaseDrag
  rw [if_pos henabled]
  refine wp_get_bind.mpr ?_
  cases htoken : e.dragSessionToken with
  | none => exact .inl hstopped
  | some token =>
    cases hfallback : env.useRelaxMotionFallback with
    | true => exact guarded_of_along hrelax hstopped
    | false =>
      refine wp_bind.mpr (Wp.mono (submitNewEvent_guarded htrack hs hstopped _ none _
        fun hovertakes => hcalm ⟨token, hfallback, htoken, hovertakes⟩) (fun o e₁ h => ?_) (fun _ _ h => h))
      split
      next => exact wp_modify_bind.mpr h
      next => exact h

/-- Every operation leaves a stopped track stopped, the pet not autonomous, or the scheduler watching, unless it
overtakes the scheduler. -/
theorem program_guarded
    (hsequencing : sequencingEnabled t0.player.capabilities = true) (hs : Sound env t0 e)
    (hstopped : Stopped e.track0) (op : Operation) (hcalm : ¬OvertakenBy env t0 e op) :
    Wp (op.program env) (fun _ => Guarded env) (fun _ => Guarded env) e := by
  have henabled := sequencingEnabled_of htrack hsequencing
  have hdropped : ∀ {α : Type} {c : Program PetAnimationEngine α},
      Wp c (fun _ => Guarded env) (fun _ => Guarded env) e →
      Wp ((fun _ => ()) <$> c) (fun _ => Guarded env) (fun _ => Guarded env) e := fun h => wp_map.mpr h
  have hmotion : ∀ {α : Type} (c : Program PetMotionModel α),
      Wp (onMotion c) (fun _ => Guarded env) (fun _ => Guarded env) e :=
    fun c => guarded_of_along (onMotion_along c) hstopped
  have hevent : ∀ {c : Program PetAnimationEngine ActionOutcome} {eventType facing token},
      c = submitNewEvent env eventType facing token → ¬Overtakes env t0 e (e.newEvent eventType facing token) →
      Wp ((fun _ => ()) <$> c) (fun _ => Guarded env) (fun _ => Guarded env) e :=
    fun h hcalm => hdropped (h ▸ submitNewEvent_guarded htrack hs hstopped _ _ _ hcalm)
  cases op with
  | handleEvent event => exact hdropped (handleEvent_guarded htrack hs hstopped hcalm)
  | requestAction action source => exact hdropped (requestAction_guarded htrack hs hstopped action source)
  | resumeAutonomous source => exact hdropped (resumeAutonomous_guarded htrack hs source)
  | startAutonomous =>
    refine hdropped ?_
    unfold startAutonomous
    simp only [htrack, wp_bind, wp_get, hstopped.active, Option.isSome_none, Bool.false_eq_true, if_false]
    exact (recoverAutonomousRelax_spec hs none).mono (fun _ _ h => .inr h.watched) (fun _ _ h => h.elim)
  | requestWalk direction => exact hevent (if_pos henabled) hcalm
  | requestThinkingAnimation => exact hevent (if_pos henabled) hcalm
  | requestReminderAnimation => exact hevent (if_pos henabled) hcalm
  | startDragging => exact hdropped (startDragging_guarded htrack henabled hs hstopped)
  | releaseDrag workspaces => exact hdropped (releaseDrag_guarded htrack henabled hs hstopped hcalm)
  | pause => exact hevent (if_pos henabled) (not_overtakes (by simp [newEvent]))
  | resume => exact hevent (if_pos henabled) (not_overtakes (by simp [newEvent]))
  | beginClosing =>
    refine hdropped ?_
    unfold beginClosing
    refine wp_modify_bind.mpr ?_
    rw [if_pos henabled]
    refine submitNewEvent_guarded htrack ?_ ?_ _ none none (not_overtakes (by simp [newEvent]))
    · exact ⟨hs.valid, hs.turn, le_refl _, hs.resume, hs.track⟩
    · exact hstopped
  | recoverFailedClose => exact hmotion _
  | requestGracefulExit =>
    refine hdropped ?_
    unfold requestGracefulExit
    simp only [htrack]
    split
    next => exact .inl hstopped
    next =>
      refine wp_onTrack0.mpr ((PetTrack0Controller.cancelGracefully_idle ?_ _ _).mpr (.inl hstopped))
      rw [hstopped.runner]
  | advance elapsed workspaces => exact hdropped (advance_guarded htrack hsequencing hs hstopped hcalm)
  | containRendererFailure => exact hdropped (containRendererFailure_guarded htrack hs)
  | handlePlaybackEvent event facing => exact hdropped (handlePlaybackEvent_guarded htrack hstopped facing)
  | dragTo => exact hdropped (hmotion _)
  | constrain => exact hdropped (hmotion _)
  | placeForRenderLayout => exact hdropped (hmotion _)
  | restorePosition => exact hdropped (hmotion _)

/-- One operation keeps the guard. -/
theorem operate_guarded
    (hsequencing : sequencingEnabled t0.player.capabilities = true) (hs : Sound env t0 e) (hguarded : Guarded env e)
    (hcalm : ¬OvertakenBy env t0 e op) : Guarded env (operate env e op) := by
  obtain hstopped | hwatched := hguarded
  · exact Wp.stateAfter (program_guarded htrack hsequencing hs hstopped op hcalm)
  · exact .inr ((operate_keeps htrack hsequencing hs op).watched hcalm hwatched)

end

/-! ## Holds and autonomy -/

/-- The request is accepted and puts the pet into a hold of its action, which it was not held in already. -/
structure PutsOnHold (env : EngineEnv) (e : PetAnimationEngine) (action : ProductionAction)
    (source : ActionSource) (e₁ : PetAnimationEngine) : Prop where
  accepted : (requestAction env action source).run e = .ok .accepted e₁
  mode : e₁.executionMode = .explicitHold
  plays : e₁.activeProductionAction = some action
  anew : ¬(e.executionMode = .explicitHold ∧ e.activeProductionAction = some action
    ∧ e.track0.state.confirmedEpoch.isSome = true)

/-- What holds of a pet that holds a loop. -/
structure Holding (env : EngineEnv) (t0 : Track0Env) (e : PetAnimationEngine) : Prop where
  sound : Sound env t0 e
  mode : e.executionMode = .explicitHold
  loops : Loops e.track0
  stands : e.motion.states.motion ∈ [PetMotionState.idle, .walkingLeft, .walkingRight]

/-- A pet put on hold plays the loop of the action it was asked for. -/
theorem PutsOnHold.holding {action : ProductionAction} {source : ActionSource} {e₁ : PetAnimationEngine}
    (h : PutsOnHold env e action source e₁) (htrack : env.track0 = some t0) (hs : Sound env t0 e) :
    Holding env t0 e₁ := by
  have hmaintains : Maintains env t0 True True (requestAction env action source) e :=
    requestAction_maintains htrack hs action source
  have hsound : Sound env t0 e₁ := (hmaintains.of_run h.accepted).sound
  obtain ⟨intent, haction, hexplicit, hsubmitted⟩ := (requestAction_spec htrack hs action source).of_run h.accepted
  have hmode := h.mode
  have hactive := h.plays
  cases hsubmitted with
  | continued _ hbusy =>
    obtain hstopped | ⟨request, p, hperforms, -⟩ := hs.track
    · have hbusy : e.track0.activeRequest.isSome = true := hbusy
      rw [hstopped.active] at hbusy
      cases hbusy
    · exact absurd ⟨hmode, hactive, hperforms.playing.confirmedEpoch.2⟩ h.anew
  | queued => cases hmode
  | held _ hbusy => exact absurd ⟨hmode, hactive, hbusy⟩ h.anew
  | refused _ ho => exact absurd rfl ho
  | failed _ _ _ _ _ hcontained => exact absurd rfl hcontained.not_accepted
  | played motion track0 request _ hat _ _ _ hperforms =>
    have hloop : intent.action.isProtected = false := by
      cases hp : intent.action.isProtected with
      | false => rfl
      | true => simp [settled, intentMode, hp] at hmode
    obtain ⟨hstep, hexit⟩ := productionProgress_holds hloop
    refine ⟨hsound, hmode, ⟨_, hperforms.playing.progress, hstep, hexit⟩, ?_⟩
    show motion.states.motion ∈ _
    rw [hat.motion]
    cases intent.action <;> decide

/-- What nobody asked for leaves a held pet as it is. -/
theorem Holding.operate_playsOn (h : Holding env t0 e) (htrack : env.track0 = some t0)
    (hsequencing : sequencingEnabled t0.player.capabilities = true) (hop : op.Unprompted)
    (hrandom : ¬ActsAtRandom env t0 e op) (hedge : ¬WalksOut env e op) : PlaysOn e (operate env e op) := by
  cases op with
  | advance elapsed workspaces =>
    have hstays := advance_stays htrack hsequencing h.sound hrandom hedge
    refine Wp.stateAfter (wp_map.mpr (hstays.mono (fun _ _ h' => ?_) (fun _ _ h' => ?_)))
    · exact h'.playsOn h.stands
    · exact h'.playsOn h.stands
  | handlePlaybackEvent event facing =>
    have hheld : ∀ e', PlaysOnOrDecides env e event e' → PlaysOn e e' := by
      rintro e' (hplays | ⟨hauto, -⟩)
      · exact hplays
      · rw [h.mode] at hauto
        cases hauto
    have hdecides : Wp (handlePlaybackEvent env event facing) (fun _ => PlaysOnOrDecides env e event)
        (fun _ => PlaysOnOrDecides env e event) e :=
      handlePlaybackEvent_decides htrack h.sound (.inr h.loops) facing
    exact Wp.stateAfter (wp_map.mpr
      (hdecides.mono (fun _ e' h' => hheld e' h') (fun _ e' h' => hheld e' h')))
  | _ => exact hop.elim

/-- And so does any number of such operations. -/
theorem Holding.run_playsOn (h : Holding env t0 e) (htrack : env.track0 = some t0)
    (hsequencing : sequencingEnabled t0.player.capabilities = true) (ops : List Operation)
    (hunprompted : ∀ op ∈ ops, Operation.Unprompted op)
    (hmeets : StepsMeet (operate env) (fun e op => ¬WalksOut env e op ∧ ¬ActsAtRandom env t0 e op) e ops) :
    PlaysOn e (run (operate env) e ops) := by
  induction ops generalizing e with
  | nil => exact .refl h.sound.valid
  | cons op ops ih =>
    obtain ⟨⟨hedge, hrandom⟩, hrest⟩ := hmeets
    have hplays := h.operate_playsOn htrack hsequencing (hunprompted op List.mem_cons_self) hrandom hedge
    have hholding : Holding env t0 (operate env e op) :=
      ⟨(operate_keeps htrack hsequencing h.sound op).sound, hplays.mode.trans h.mode,
        hplays.track0.symm ▸ h.loops, hplays.layers.motion.symm ▸ h.stands⟩
    exact hplays.trans (ih hholding (fun op' hop' => hunprompted op' (List.mem_cons_of_mem op hop')) hrest)

/-- Where an unprompted operation of an autonomous pet puts another playback in the place of the confirmed one,
the scheduler decided so at a boundary of the old playback, or a walk reached the edge of the workspace. -/
def ReplacesByDecision (env : EngineEnv) (e : PetAnimationEngine) (op : Operation) : Prop :=
  op.Unprompted → e.executionMode = .autonomous →
    ∀ epoch epoch', e.track0.state.confirmedEpoch = some epoch →
      (operate env e op).track0.state.confirmedEpoch = some epoch' → epoch' ≠ epoch →
      (∃ event facing, op = .handlePlaybackEvent event facing ∧ Decides env e event (operate env e op))
        ∨ WalksOut env e op

/-- A random action of an autonomous pet overtakes the scheduler. -/
theorem actsAtRandom_overtakes (hauto : e.executionMode = .autonomous)
    (hv : e.motion.states.Valid) (h : ActsAtRandom env t0 e op) : OvertakenBy env t0 e op := by
  cases op with
  | advance elapsed workspaces =>
    obtain ⟨hforward, hactive, event, hevent, hadmits⟩ := h
    refine ⟨hforward, hactive, event, hevent, ?_, ?_, hadmits⟩
    · obtain ⟨_, _, _, _, -, hblinked⟩ := @blinked_frame env e (applied env elapsed) hv
      rw [hblinked]
      exact hauto
    · obtain ⟨-, ⟨htype, -⟩ | htype⟩ := randomEvent_kind hevent <;> rw [htype] <;> decide
  | _ => exact h.elim

theorem operate_replacesByDecision (htrack : env.track0 = some t0)
    (hsequencing : sequencingEnabled t0.player.capabilities = true) (hscheduler : env.hasScheduler = true)
    (hs : Sound env t0 e) (hguarded : Guarded env e) (hcalm : ¬OvertakenBy env t0 e op) :
    ReplacesByDecision env e op := by
  intro hop hauto epoch epoch' hepoch hepoch' hother
  by_contra hnone
  rw [not_or] at hnone
  obtain ⟨hundecided, hedge⟩ := hnone
  -- where the same playback is confirmed, or none, no other one is
  have hsame : ∀ {e' : PetAnimationEngine}, SameConfirmed e.track0 e'.track0 → operate env e op = e' → False := by
    rintro e' hconfirmed rfl
    exact hother (Option.some.inj ((hepoch'.symm.trans hconfirmed).trans hepoch))
  cases op with
  | advance elapsed workspaces =>
    have hrandom : ¬ActsAtRandom env t0 e (.advance elapsed workspaces) :=
      fun h => hcalm (actsAtRandom_overtakes hauto hs.valid h)
    have hstays : Stays e (operate env e (.advance elapsed workspaces)) :=
      Wp.stateAfter (wp_map.mpr (advance_stays htrack hsequencing hs hrandom hedge))
    exact hsame hstays.confirmed rfl
  | handlePlaybackEvent event facing =>
    have hloops : Loops e.track0 := by
      obtain hstopped | hwatched := hguarded
      · rw [hstopped.confirmed] at hepoch
        cases hepoch
      · exact (hwatched hscheduler hauto).2
    have hends : PlaysOnOrDecides env e event (operate env e (.handlePlaybackEvent event facing)) :=
      Wp.stateAfter (wp_map.mpr (handlePlaybackEvent_decides htrack hs (.inr hloops) facing))
    obtain hplays | ⟨-, hdecides | hlost⟩ := hends
    · exact hsame hplays.stays.confirmed rfl
    · exact hundecided ⟨event, facing, rfl, hdecides⟩
    · rw [hlost] at hepoch'
      cases hepoch'
  | _ => exact hop.elim

/-- A pet put on hold plays on whatever comes unprompted, as long as no tick acts at random or walks out of the
workspace; and in every run in which nothing overtakes the scheduler, an autonomous pet's playback is replaced
unprompted by the scheduler's decision or at the edge of the workspace only. -/
theorem held_and_scheduled (htrack : env.track0 = some t0)
    (hsequencing : sequencingEnabled t0.player.capabilities = true) (hscheduler : env.hasScheduler = true) :
    (∀ e action source e₁ ops, Reachable (operate env) (Built env) e → PutsOnHold env e action source e₁ →
        (∀ op ∈ ops, Operation.Unprompted op) →
        StepsMeet (operate env) (fun e op => ¬WalksOut env e op ∧ ¬ActsAtRandom env t0 e op) e₁ ops →
        PlaysOn e₁ (run (operate env) e₁ ops))
      ∧ ∀ e₀ ops, Built env e₀ → StepsMeet (operate env) (fun e op => ¬OvertakenBy env t0 e op) e₀ ops →
        StepsMeet (operate env) (ReplacesByDecision env) e₀ ops := by
  constructor
  · intro e action source e₁ ops hreach hhold hunprompted hmeets
    have hs := reachable_sound htrack hsequencing hreach
    exact (hhold.holding htrack hs).run_playsOn htrack hsequencing ops hunprompted hmeets
  · intro e₀ ops hbuilt hmeets
    have hkeeps : ∀ e op, Sound env t0 e ∧ Guarded env e → ¬OvertakenBy env t0 e op →
        Sound env t0 (operate env e op) ∧ Guarded env (operate env e op) :=
      fun e op h hcalm => ⟨(operate_keeps htrack hsequencing h.1 op).sound,
        operate_guarded htrack hsequencing h.1 h.2 hcalm⟩
    have hstart : Sound env t0 e₀ ∧ Guarded env e₀ := by
      refine ⟨built_sound hbuilt, .inl ?_⟩
      obtain ⟨_, _, _, rfl⟩ := hbuilt
      exact ⟨rfl, rfl, rfl, rfl, rfl⟩
    exact StepsMeet.of_invariant hkeeps
      (fun e op h hcalm => operate_replacesByDecision htrack hsequencing hscheduler h.1 h.2 hcalm) e₀ ops hstart hmeets

end

/-! ## A walk out of a hold -/

/-- A pet that walks or thinks of its own accord every tenth of a second. -/
def restlessEnv : EngineEnv :=
  { steadyEnv [.idle, .walkLeft, .returnIdle] with
    config := { randomActionIntervalMinSeconds := 1 / 10, randomActionIntervalMaxSeconds := 1 / 10 } }

/-- Such a pet as it is built. -/
def restlessEngine : PetAnimationEngine := build restlessEnv (steadyEngine []).motion

def wideWorkspace : Rect :=
  { x := -500, y := 0, width := 1000, height := 1000, width_pos := ofNat_pos trivial, height_pos := ofNat_pos trivial }

/-- A request seen to be accepted puts the pet on hold. -/
theorem putsOnHold_of_run {env : EngineEnv} {e : PetAnimationEngine} {action : ProductionAction}
    {source : ActionSource}
    (h : (match (requestAction env action source).run e with
      | .ok o _ => decide (o = .accepted)
      | .error _ _ => false) = true)
    (hmode : (operate env e (.requestAction action source)).executionMode = .explicitHold)
    (hplays : (operate env e (.requestAction action source)).activeProductionAction = some action)
    (hanew : e.executionMode ≠ .explicitHold) :
    PutsOnHold env e action source (operate env e (.requestAction action source)) := by
  refine ⟨?_, hmode, hplays, fun h => hanew h.1⟩
  split at h
  next o e₁ hrun =>
    obtain rfl := of_decide_eq_true h
    have hstate : operate env e (.requestAction action source) = e₁ := by
      show stateAfter ((fun _ => ()) <$> requestAction env action source) e = e₁
      have hmapped : Wp ((fun _ => ()) <$> requestAction env action source) (fun _ e' => e' = e₁)
          (fun _ e' => e' = e₁) e := wp_map.mpr (by unfold Wp; rw [hrun])
      exact hmapped.stateAfter
    rw [hstate]
    exact hrun
  next => cases h

/-- The person asks the pet to relax, and a tenth of a second later it walks off. -/
theorem random_walk_ends_hold : ¬∀ (env : EngineEnv) (t0 : Track0Env), env.track0 = some t0 →
      sequencingEnabled t0.player.capabilities = true → env.hasScheduler = true →
      (∀ e action source e₁ ops, Reachable (operate env) (Built env) e → PutsOnHold env e action source e₁ →
          (∀ op ∈ ops, Operation.Unprompted op) →
          StepsMeet (operate env) (fun e op => ¬WalksOut env e op) e₁ ops →
          PlaysOn e₁ (run (operate env) e₁ ops))
        ∧ ∀ e₀ ops, Built env e₀ → StepsMeet (operate env) (ReplacesByDecision env) e₀ ops := by
  intro h
  have hbuilt : Built restlessEnv restlessEngine := ⟨_, _, _, rfl⟩
  obtain ⟨hholds, -⟩ := h restlessEnv _ rfl rfl rfl
  have hstays : StepsMeet (operate restlessEnv) (fun e op => ¬WalksOut restlessEnv e op)
      (operate restlessEnv restlessEngine (.requestAction .relax .user)) [.advance (1 / 10) [wideWorkspace]] := by
    refine ⟨?_, trivial⟩
    rintro ⟨⟨-, hwalks⟩, -⟩
    exact absurd hwalks (by decide +kernel)
  have hplays := hholds restlessEngine .relax .user _ _ ⟨_, [], hbuilt, rfl⟩
    (putsOnHold_of_run (by decide +kernel) (by decide +kernel) (by decide +kernel) (by decide))
    (by simp [Operation.Unprompted]) hstays
  exact absurd (congrArg (·.generation) hplays.track0) (by decide +kernel)

/-- A calmer pet relaxes on, on hold and of its own accord. -/
theorem relax_held : let env := steadyEnv [.idle]
    let ticks := [Operation.advance (1 / 10) [wideWorkspace], .handlePlaybackEvent lateCallback none]
    PlaysOn (operate env (steadyEngine [.idle]) (.requestAction .relax .user))
        (run (operate env) (operate env (steadyEngine [.idle]) (.requestAction .relax .user)) ticks)
      ∧ StepsMeet (operate env) (ReplacesByDecision env) (steadyEngine [.idle]) (.startAutonomous :: ticks) := by
  intro env ticks
  have hquiet : ∀ (e : PetAnimationEngine) (P : PetAnimationEvent → Prop),
      randomEvent env (applied env (1 / 10)) (blinked env (applied env (1 / 10)) e) = none →
      ¬∃ event, randomEvent env (applied env (1 / 10)) (blinked env (applied env (1 / 10)) e) = some event
        ∧ P event := by
    rintro e P hnone ⟨event, hevent, -⟩
    rw [hnone] at hevent
    cases hevent
  obtain ⟨hholds, hscheduled⟩ := held_and_scheduled (show env.track0 = some _ from rfl) rfl rfl
  constructor
  · refine hholds _ .relax .user _ _ ⟨_, [], steadyEngine_built _, rfl⟩
      (putsOnHold_of_run (by decide +kernel) (by decide +kernel) (by decide +kernel) (by decide)) ?_
      ⟨⟨?_, ?_⟩, ⟨id, id⟩, trivial⟩
    · simp [ticks, Operation.Unprompted]
    · rintro ⟨⟨-, hwalks⟩, -⟩
      exact absurd hwalks (by decide +kernel)
    · exact fun hacts => hquiet _ _ (by decide +kernel) hacts.2.2
  · exact hscheduled _ _ (steadyEngine_built _)
      ⟨id, fun hovertakes => hquiet _ _ (by decide +kernel) hovertakes.2.2, id, trivial⟩

end PetAnimationEngine

end ArkClaw.Pet
