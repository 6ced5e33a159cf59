import ArkClaw.Pet.EngineTick
import ArkClaw.Library.Runs

/-!
# Runs of the animation engine

Any sequence of the engine's operations, with any player. Soundness is an invariant of every run. From an
accepted start of autonomy on, the layers stay compatible with the track as long as no operation separates
them, and the scheduler watches the playback that runs as long as no event overtakes it. The operations
that do either are listed by `Separates` and `OvertakenBy`.
-/

namespace ArkClaw.Pet

open ArkClaw.Library

namespace PetAnimationEngine

section

variable {env : EngineEnv} {t0 : Track0Env} {e : PetAnimationEngine} {safe calm : Prop}

/-! ## Intents and autonomy -/

/-- A request submits an explicit intent, or its source may not ask for one. -/
theorem requestAction_spec (htrack : env.track0 = some t0) (hs : Sound env t0 e) (action : ProductionAction)
    (source : ActionSource) : Wp (requestAction env action source)
      (fun o e' => ∃ intent : ActionIntent, intent.action = action ∧ intent.origin = .explicit
        ∧ Submitted t0 { e with objects := e.objects + 1 } intent o e')
      (fun error e' => error ≠ .animationCompatibility ∧ e' = { e with objects := e.objects + 1 }) e := by
  unfold requestAction
  refine wp_bind.mpr (wp_newObject.mpr ?_)
  split
  next authority =>
    simp only [htrack]
    refine (submitProductionIntent_spec ?_ none).mono (fun o e' hsubmitted => ⟨_, ?_, ?_, hsubmitted⟩)
      (fun _ _ h => h.elim)
    · exact hs.valid
    · rfl
    · rfl
  next => exact ⟨by decide, rfl⟩

/-- An explicit intent leaves nothing autonomous unwatched. -/
theorem requestAction_maintains (htrack : env.track0 = some t0) (hs : Sound env t0 e)
    (action : ProductionAction) (source : ActionSource) :
    Maintains env t0 safe calm (requestAction env action source) e := by
  have hkept : Keeps env t0 safe calm e { e with objects := e.objects + 1 } :=
    .of_frame hs rfl rfl hs.untimed rfl (.inr ⟨rfl, rfl⟩)
  refine (requestAction_spec htrack hs action source).mono (fun o e' h => ?_) (fun error e' h => ?_)
  · obtain ⟨intent, -, hexplicit, hsubmitted⟩ := h
    exact hkept.trans ((hsubmitted.keeps hkept.sound).mono (fun _ => trivial) (fun _ => hexplicit))
  · obtain ⟨herror, rfl⟩ := h
    exact ⟨hkept, fun _ _ => herror⟩

theorem startAutonomous_maintains (htrack : env.track0 = some t0) (hs : Sound env t0 e) :
    Maintains env t0 safe calm (startAutonomous env) e := by
  unfold startAutonomous
  simp only [htrack]
  refine wp_get_bind.mpr ?_
  split
  next => exact .refl hs
  next =>
    refine (recoverAutonomousRelax_spec hs none).mono (fun _ e' hr => ?_) (fun _ _ h => h.elim)
    exact hr.keeps.mono (fun _ => trivial) (fun _ => trivial)

/-- On a track that was just freed, autonomy resumes with what it can play. -/
theorem restartAutonomous_spec (htrack : env.track0 = some t0) (hs : Sound env t0 e)
    {resumeAction : Option ProductionAction} (hresume : ∀ action, resumeAction = some action →
      action.isProtected = false ∧ Performable t0 (productionSequenceByAction action)) :
    Wp (restartAutonomous env t0 resumeAction)
      (fun _ e' => Keeps env t0 True True e e'
        ∧ (PetTrack0Controller.Stopped e.track0 → Performable t0 .productionRelax → Compatible e'))
      (fun _ _ => False) e := by
  unfold restartAutonomous
  cases resumeAction with
  | none =>
    unfold startAutonomous
    simp only [htrack]
    refine wp_get_bind.mpr ?_
    split
    next hbusy => exact ⟨.refl hs, fun hstopped => absurd hbusy (by simp [hstopped.active])⟩
    next =>
      refine (recoverAutonomousRelax_spec hs none).imp (fun _ e' hr => ?_)
      exact ⟨hr.keeps, hr.freed⟩
  | some action =>
    obtain ⟨hloop, hperformable⟩ := hresume action rfl
    have hs' : Sound env t0 { e with objects := e.objects + 1 } :=
      ⟨hs.valid, hs.turn, hs.untimed, hs.resume, hs.track⟩
    refine wp_bind.mpr (wp_newObject.mpr ?_)
    refine wp_bind.mpr
      ((submitProductionIntent_spec hs'.valid none).imp (fun o e₁ hsubmitted => ?_))
    refine wp_bind.mpr
      ((settleAutonomous_spec hs' rfl hloop (by simp) hsubmitted).imp (fun _ e₂ hr => ?_))
    exact ⟨⟨hr.keeps.sound, fun _ hc => hr.keeps.compatible trivial hc, fun _ hw => hr.keeps.watched trivial hw⟩,
      fun hstopped _ => hr.freed hstopped hperformable⟩

theorem resumeAutonomous_maintains (htrack : env.track0 = some t0) (hs : Sound env t0 e)
    (source : ActionSource) :
    Maintains env t0 (Performable t0 .productionRelax) calm (resumeAutonomous env source) e := by
  have hstop : Keeps env t0 (Performable t0 .productionRelax) calm e e.interrupted :=
    .of_frame hs rfl rfl hs.untimed rfl (.inl rfl)
  unfold resumeAutonomous
  simp only [htrack]
  refine wp_get_bind.mpr ?_
  refine wp_bind.mpr ((wp_interrupt _ _).mpr ?_)
  refine wp_get_bind.mpr ?_
  split
  next =>
    refine (restartAutonomous_spec htrack hstop.sound hs.resume).mono (fun _ e' hr => ?_) (fun _ _ h => h.elim)
    exact hstop.trans (hr.1.mono (fun _ => trivial) (fun _ => trivial))
  next =>
    refine wp_bind.mpr (wp_onTrack0.mpr ?_)
    refine (PetTrack0Controller.clear_spec _).mono (fun answer track0 hcleared => ?_) (fun _ _ h => h.elim)
    obtain ⟨hstopped, hanswer⟩ := hcleared
    have hsound : Sound env t0 { e.interrupted with track0 } :=
      ⟨hs.valid, hs.turn, hs.untimed, hs.resume, .inl hstopped⟩
    obtain ⟨rfl, -⟩ | ⟨rfl, hunknown⟩ := hanswer
    · rw [if_neg (not_not.mpr rfl)]
      refine (restartAutonomous_spec htrack hsound hs.resume).mono (fun _ e' hr => ?_) (fun _ _ h => h.elim)
      exact ⟨hr.1.sound, fun hrelax _ => hr.2 hstopped hrelax,
        fun _ _ => hr.1.watched trivial (watched_of_mode (by simp [interrupted]))⟩
    · rw [if_pos (by decide)]
      have hkept : Keeps env t0 (Performable t0 .productionRelax) calm e { e.interrupted with track0 } := by
        refine ⟨hsound, fun _ _ => ?_, fun _ _ => watched_of_mode (by simp [interrupted])⟩
        exact compatible_of_unhealthy hsound.valid hstopped.desired (by simp [hunknown])
      exact (assert_maintains hsound ActionOutcome.rendererStateUnknown).after hkept

/-! ## Events under their own method -/

/-- The event an operation makes of its own. -/
def newEvent (e : PetAnimationEngine) (eventType : PetAnimationEventType) (facing : Option PetFacing := none)
    (inputSessionToken : Option ObjectId := none) : PetAnimationEvent :=
  { eventType, requestToken := .fresh e.objects, facing, inputSessionToken }

theorem submitNewEvent_maintains (htrack : env.track0 = some t0) (hs : Sound env t0 e)
    (eventType : PetAnimationEventType) (facing : Option PetFacing) (inputSessionToken : Option ObjectId) :
    Maintains env t0 safe (¬Overtakes env t0 e (e.newEvent eventType facing inputSessionToken))
      (submitNewEvent env eventType facing inputSessionToken) e := by
  have hkept : Keeps env t0 safe (¬Overtakes env t0 e (e.newEvent eventType facing inputSessionToken)) e
      { e with objects := e.objects + 1 } := .of_frame hs rfl rfl hs.untimed rfl (.inr ⟨rfl, rfl⟩)
  unfold submitNewEvent
  refine wp_bind.mpr (wp_newObject.mpr ?_)
  exact ((handleEvent_maintains htrack hkept.sound).weaken (fun _ => trivial) (fun h => h)).after hkept

/-- Only five kinds of events leave the autonomous mode on. -/
theorem not_overtakes {event : PetAnimationEvent}
    (h : event.eventType ∉ [PetAnimationEventType.startReading, .startWalking, .startThinking,
      .startReminding, .releaseDrag]) : ¬Overtakes env t0 e event := fun hovertakes => h hovertakes.2.1

theorem startDragging_maintains (htrack : env.track0 = some t0)
    (hsequencing : productionSequencingEnabled env = true) (hs : Sound env t0 e) :
    Maintains env t0 safe calm (startDragging env) e := by
  have hkept : Keeps env t0 safe calm e { e with objects := e.objects + 1 } :=
    .of_frame hs rfl rfl hs.untimed rfl (.inr ⟨rfl, rfl⟩)
  unfold startDragging
  rw [if_pos hsequencing]
  refine wp_bind.mpr (wp_newObject.mpr (Maintains.after ?_ hkept))
  refine ((submitNewEvent_maintains htrack hkept.sound _ none _).weaken id
    (fun _ => not_overtakes (by simp [newEvent]))).bind fun o e' hs' => ?_
  split
  next =>
    refine wp_modify_bind.mpr ?_
    exact .of_frame hs' rfl rfl (le_refl _) rfl (.inr ⟨rfl, rfl⟩)
  next => exact .refl hs'

/-- The sequences of an engine without drag animations show no drag. -/
theorem Performs.not_drag {c : PetTrack0Controller} {request : ActionRequest} {p : RunnerProgress}
    (h : Performs t0 c request p) (hmem : request.sequenceName ∈ performedSequences env)
    (hfallback : env.useRelaxMotionFallback = true) :
    p.step.action ≠ .dragStart ∧ p.step.action ≠ .dragLoop := by
  have hactions : ∀ name ≠ SequenceName.dragHold,
      ∀ action ∈ (sequenceCatalog name).sequence.steps.map (·.action),
        action ≠ .dragStart ∧ action ≠ .dragLoop := by
    intro name
    cases name <;> decide
  have hstep : p.step ∈ (sequenceCatalog request.sequenceName).sequence.steps :=
    h.sequence ▸ PetTrack0Controller.step_mem p
  refine hactions request.sequenceName (fun hname => ?_) _ (List.mem_map_of_mem hstep)
  simp [hname, performedSequences, dragSequence, hfallback] at hmem

/-- A release while Relax stands in for the drag animations: idle is permitted wherever the pet goes. -/
theorem releaseDragInRelax_maintains (hs : Sound env t0 e) (hfallback : env.useRelaxMotionFallback = true)
    (workspaces : Option (List Rect)) : Maintains env t0 safe calm (releaseDragInRelax workspaces) e := by
  unfold releaseDragInRelax
  have hstop : Keeps env t0 safe calm e
      { e with dragSessionToken := none, executionMode := .suspended, activeProductionAction := none } :=
    .of_frame hs rfl rfl hs.untimed rfl (.inl rfl)
  refine wp_modify_bind.mpr (Maintains.after ?_ hstop)
  have hs' := hstop.sound
  generalize { e with dragSessionToken := none, executionMode := .suspended, activeProductionAction := none }
    = e' at hs'
  refine Maintains.bind ?_ fun _ e₁ hs₁ => ?_
  · refine wp_onMotion.mpr ?_
    refine (PetMotionModel.releaseDrag_layers hs'.valid workspaces).mono (fun _ motion hreleased => ?_)
      (fun error motion hraised => ?_)
    · obtain ⟨hturn, hdrag, hends⟩ := hreleased
      have hvalid : motion.states.Valid := by
        obtain ⟨-, hat⟩ | ⟨-, hat | hat⟩ := hends <;> exact hat.valid
      refine ⟨⟨hvalid, hturn.trans hs'.turn, hs'.untimed, hs'.resume, hs'.track⟩, fun _ hc => ?_, fun _ hw => hw⟩
      obtain hstopped | ⟨request, p, hperforms, hmem⟩ := hs'.track
      · obtain ⟨hpaused, hat⟩ | ⟨hactive, hat⟩ := hends
        · exact compatible_of_inactive hvalid hstopped.desired (hat.lifecycle.trans_ne (by decide))
        · have hhealth := (hc.of_none hs'.valid hstopped.desired).resolve_right (not_not.mpr hactive)
          exact compatible_of_unhealthy hvalid hstopped.desired hhealth
      · have hdesired := hperforms.playing.desired
        obtain ⟨hactive, hpermits⟩ := hc.of_some hs'.valid hdesired
        obtain ⟨hnotstart, hnotloop⟩ := hperforms.not_drag hmem hfallback
        have hidle : p.step.action = .idle := by
          rw [hdrag] at hpermits
          cases hact : e'.motion.states.activity <;> rw [hact] at hpermits <;>
            simp_all [stateActionCompatibility]
        obtain ⟨hpaused, -⟩ | ⟨-, hat | hat⟩ := hends
        · exact absurd (hpaused.symm.trans hactive) (by decide)
        · refine compatible_of_permits hat rfl hdesired hperforms.playing.health ?_
          rw [hidle]
          decide
        · refine compatible_of_permits hat rfl hdesired hperforms.playing.health ?_
          rw [hidle]
          decide
    · exact ⟨.of_layers hs' hraised.1.1 (hraised.1.2.trans hs'.turn) rfl hs'.untimed rfl (.inr ⟨rfl, rfl⟩),
        fun _ _ => hraised.2⟩
  · refine wp_get_bind.mpr ?_
    split
    next => exact .refl hs₁
    next => exact assert_maintains hs₁ _

theorem releaseDrag_maintains (htrack : env.track0 = some t0)
    (hsequencing : productionSequencingEnabled env = true) (hs : Sound env t0 e)
    (workspaces : Option (List Rect)) : Maintains env t0 safe
      (¬∃ token, env.useRelaxMotionFallback = false ∧ e.dragSessionToken = some token
        ∧ Overtakes env t0 e (e.newEvent .releaseDrag none (some token)))
      (releaseDrag env workspaces) e := by
  unfold releaseDrag
  rw [if_pos hsequencing]
  refine wp_get_bind.mpr ?_
  cases htoken : e.dragSessionToken with
  | none => exact ⟨.refl hs, fun _ _ => by decide⟩
  | some token =>
    cases hfallback : env.useRelaxMotionFallback with
    | true => exact releaseDragInRelax_maintains hs hfallback workspaces
    | false =>
      refine ((submitNewEvent_maintains htrack hs _ none _).weaken id
        (fun hcalm hovertakes => hcalm ⟨token, rfl, rfl, hovertakes⟩)).bind fun o e' hs' => ?_
      split
      next =>
        refine wp_modify_bind.mpr ?_
        exact .of_frame hs' rfl rfl hs'.untimed rfl (.inr ⟨rfl, rfl⟩)
      next => exact .refl hs'

theorem beginClosing_maintains (htrack : env.track0 = some t0)
    (hsequencing : productionSequencingEnabled env = true) (hs : Sound env t0 e) :
    Maintains env t0 safe calm (beginClosing env) e := by
  have hkept : Keeps env t0 safe calm e { e with actionRemaining := 0 } :=
    .of_frame hs rfl rfl (le_refl _) rfl (.inr ⟨rfl, rfl⟩)
  unfold beginClosing
  refine wp_modify_bind.mpr ?_
  rw [if_pos hsequencing]
  exact ((submitNewEvent_maintains htrack hkept.sound _ none none).weaken id
    (fun _ => not_overtakes (by simp [newEvent]))).after hkept

/-! ## What the other operations do -/

/-- A graceful exit changes nothing but what the playback does at its next boundary. -/
theorem requestGracefulExit_maintains (htrack : env.track0 = some t0) (hs : Sound env t0 e) :
    Maintains env t0 safe calm (requestGracefulExit env) e := by
  unfold requestGracefulExit
  simp only [htrack]
  split
  next => exact .refl hs
  next =>
    refine wp_onTrack0.mpr ?_
    unfold PetTrack0Controller.cancel
    obtain hstopped | ⟨request, p, hperforms, hmem⟩ := hs.track
    · exact (PetTrack0Controller.cancelGracefully_idle (by rw [hstopped.runner]) _ _).mpr (.refl hs)
    · refine (PetTrack0Controller.cancelGracefully_spec hperforms.playing).mono (fun _ track0 hend => ?_)
        (fun _ _ h => h.elim)
      obtain rfl | hasked := hend
      · exact .refl hs
      · refine ⟨⟨hs.valid, hs.turn, hs.untimed, hs.resume,
          .inr ⟨request, p, ⟨hasked.playing, hperforms.sequence, hperforms.policy⟩, hmem⟩⟩, fun _ hc => ?_,
          fun _ hw hscheduler hmode => ?_⟩
        · refine hc.of_layers rfl ?_ ?_
          · exact congrArg (·.desiredAction) hasked.state
          · exact congrArg (·.health) hasked.state
        · obtain ⟨hwatches, q, hprogress, hloops⟩ := hw hscheduler hmode
          refine ⟨?_, p, hasked.playing.progress, ?_⟩
          · show SchedulerWatches _ track0.state.confirmedEpoch
            rw [hasked.state]
            exact hwatches
          · obtain rfl : p = q := Option.some.inj (hperforms.playing.progress.symm.trans hprogress)
            exact hloops

/-- A contained failure interrupts the action, resets the layers to the relaxed ones and stops the track. -/
theorem containRendererFailure_of (htrack : env.track0 = some t0) (hvalid : e.motion.states.Valid)
    {Q : ActionOutcome → PetAnimationEngine → Prop} {R : PetError → PetAnimationEngine → Prop}
    (h : ∀ outcome, Q outcome
      { e.interrupted with
        motion := e.motion.committed (e.motion.states.proposal (e.motion.states.state hvalid)
          (intentChange_resets .relax none)).targetState
        track0 := e.track0.stoppedWith t0
          (if PetTrack0Controller.clears t0 e.track0 then e.track0.state.health else .unknown) }) :
    Wp (containRendererFailure env) Q R e := by
  have hpropose := e.interrupted.motion.states.propose_eq
    (PetLayeredStateMachine.snapshot_of_valid _ hvalid) (intentChange_resets .relax none)
  unfold containRendererFailure proposeRelax
  refine wp_bind.mpr ((wp_interrupt _ _).mpr ?_)
  refine wp_bind.mpr ((wp_propose _ _ _).mpr
    ⟨fun proposal hproposal => ?_, fun error herror => absurd (hpropose.symm.trans herror) (by simp)⟩)
  obtain rfl := Except.ok.inj (hpropose.symm.trans hproposal)
  refine wp_bind.mpr ((wp_commit _ hpropose _ _).mpr ?_)
  simp only [htrack]
  exact wp_onTrack0.mpr ((PetTrack0Controller.wp_clear _ _ _).mpr (h _))

/-- A failure of the event boundary stops motion and playback; the layers of an active pet then ask a healthy
renderer for what nobody plays. -/
theorem containRendererFailure_maintains (htrack : env.track0 = some t0) (hs : Sound env t0 e) :
    Maintains env t0
      (¬(e.motion.states.lifecycle = .active ∧ e.track0.state.health = .healthy
        ∧ PetTrack0Controller.clears t0 e.track0 = true)) calm
      (containRendererFailure env) e := by
  refine containRendererFailure_of htrack hs.valid fun _ => ?_
  have hstopped := PetTrack0Controller.stopped_stoppedWith t0 e.track0
    (if PetTrack0Controller.clears t0 e.track0 then e.track0.state.health else .unknown)
  refine ⟨⟨committed_valid _ _, hs.turn, hs.untimed, hs.resume, .inl hstopped⟩, fun hsafe _ => ?_,
    fun _ _ => watched_of_mode (by simp [interrupted])⟩
  by_cases hactive : e.motion.states.lifecycle = .active
  · refine compatible_of_unhealthy (committed_valid _ _) hstopped.desired ?_
    show (if PetTrack0Controller.clears t0 e.track0 then e.track0.state.health else .unknown) ≠ .healthy
    split
    next hclears => exact fun hhealth => hsafe ⟨hactive, hhealth, hclears⟩
    next => decide
  · refine compatible_of_inactive (committed_valid _ _) hstopped.desired ?_
    exact (proposal_intent_lifecycle hs.valid .relax none).trans_ne hactive

/-- A pet that failed to close is paused: nothing was desired of it, and nothing is. -/
theorem recoverFailedClose_maintains (hs : Sound env t0 e) :
    Maintains env t0 safe calm recoverFailedClose e := by
  unfold recoverFailedClose PetMotionModel.recoverFailedClose
  refine wp_onMotion.mpr ((PetMotionModel.wp_onStates _ _ _).mpr
    ⟨fun states hrecovered => ?_, fun error herror => ⟨.refl hs, fun _ _ => ?_⟩⟩)
  · obtain ⟨hclosing, hat⟩ := PetLayeredStateMachine.recoverFailedClose_at hrecovered
    refine ⟨⟨hat.valid, hs.turn, hs.untimed, hs.resume, hs.track⟩, fun _ hc => ?_, fun _ hw => hw⟩
    obtain hstopped | ⟨request, p, hperforms, -⟩ := hs.track
    · exact compatible_of_inactive hat.valid hstopped.desired (hat.lifecycle.trans_ne (by decide))
    · exact absurd (hclosing.symm.trans (hc.of_some hs.valid hperforms.playing.desired).1) (by decide)
  · rw [PetLayeredStateMachine.recoverFailedClose_error herror]
    decide

/-- The motion model's own calls keep the layers. -/
theorem onMotion_maintains {c : Program PetMotionModel PetMotionSnapshot} (hs : Sound env t0 e)
    (h : Wp c (fun _ => PetMotionModel.KeepsLayers e.motion) (PetMotionModel.Raises e.motion) e.motion) :
    Maintains env t0 safe calm (onMotion c) e := by
  refine wp_onMotion.mpr (h.mono (fun _ motion hkept => ?_) (fun error motion hraised => ⟨?_, ?_⟩))
  · exact .of_layers hs hkept.1 (hkept.2.trans hs.turn) rfl hs.untimed rfl (.inr ⟨rfl, rfl⟩)
  · exact .of_layers hs hraised.1.1 (hraised.1.2.trans hs.turn) rfl hs.untimed rfl (.inr ⟨rfl, rfl⟩)
  · exact fun _ _ => hraised.2

/-! ## One operation -/

/-- The operation moves the layers and the track apart. -/
def Separates (env : EngineEnv) (t0 : Track0Env) (e : PetAnimationEngine) : Operation → Prop
  | .advance elapsedSeconds workspaces => TickStrands env t0 e elapsedSeconds workspaces
  | .handlePlaybackEvent event _ => StrandedBy env t0 e event
  | .containRendererFailure =>
    e.motion.states.lifecycle = .active ∧ e.track0.state.health = .healthy
      ∧ PetTrack0Controller.clears t0 e.track0 = true
  | _ => False

/-- The operation plays a sequence of its own and leaves the autonomous mode on. -/
def OvertakenBy (env : EngineEnv) (t0 : Track0Env) (e : PetAnimationEngine) : Operation → Prop
  | .handleEvent event => Overtakes env t0 e event
  | .requestWalk direction => Overtakes env t0 e (e.newEvent .startWalking (some direction))
  | .requestThinkingAnimation => Overtakes env t0 e (e.newEvent .startThinking)
  | .requestReminderAnimation => Overtakes env t0 e (e.newEvent .startReminding)
  | .releaseDrag _ =>
    ∃ token, env.useRelaxMotionFallback = false ∧ e.dragSessionToken = some token
      ∧ Overtakes env t0 e (e.newEvent .releaseDrag none (some token))
  | .advance elapsedSeconds _ => TickOvertakes env t0 e elapsedSeconds
  | _ => False

/-- What maintains the properties with a result maintains them without. -/
theorem Maintains.dropped {α : Type} {c : Program PetAnimationEngine α} (h : Maintains env t0 safe calm c e) :
    Maintains env t0 safe calm ((fun _ => ()) <$> c) e := wp_map.mpr h

/-- Every operation maintains the properties, unless it separates the layers from the track or overtakes the
scheduler. -/
theorem program_maintains (htrack : env.track0 = some t0)
    (hsequencing : sequencingEnabled t0.player.capabilities = true) (hs : Sound env t0 e) (op : Operation) :
    Maintains env t0 (Performable t0 .productionRelax ∧ ¬Separates env t0 e op) (¬OvertakenBy env t0 e op)
      (op.program env) e := by
  have henabled := sequencingEnabled_of htrack hsequencing
  have hevent : ∀ {c : Program PetAnimationEngine ActionOutcome} {eventType facing token},
      c = submitNewEvent env eventType facing token →
      Maintains env t0 (Performable t0 .productionRelax ∧ ¬Separates env t0 e op)
        (¬Overtakes env t0 e (e.newEvent eventType facing token)) ((fun _ => ()) <$> c) e :=
    fun h => h ▸ (submitNewEvent_maintains htrack hs _ _ _).dropped
  cases op with
  | handleEvent event => exact ((handleEvent_maintains htrack hs).weaken (fun _ => trivial) id).dropped
  | requestAction action source => exact (requestAction_maintains htrack hs action source).dropped
  | resumeAutonomous source =>
    exact ((resumeAutonomous_maintains htrack hs source).weaken (·.1) id).dropped
  | startAutonomous => exact (startAutonomous_maintains htrack hs).dropped
  | requestWalk direction => exact hevent (if_pos henabled)
  | requestThinkingAnimation => exact hevent (if_pos henabled)
  | requestReminderAnimation => exact hevent (if_pos henabled)
  | startDragging => exact (startDragging_maintains htrack henabled hs).dropped
  | releaseDrag workspaces => exact (releaseDrag_maintains htrack henabled hs workspaces).dropped
  | pause => exact (hevent (if_pos henabled)).weaken id (fun _ => not_overtakes (by simp [newEvent]))
  | resume => exact (hevent (if_pos henabled)).weaken id (fun _ => not_overtakes (by simp [newEvent]))
  | beginClosing => exact (beginClosing_maintains htrack henabled hs).dropped
  | recoverFailedClose => exact recoverFailedClose_maintains hs
  | requestGracefulExit => exact (requestGracefulExit_maintains htrack hs).dropped
  | advance elapsed workspaces => exact (advance_maintains htrack hsequencing hs elapsed workspaces).dropped
  | containRendererFailure =>
    exact ((containRendererFailure_maintains htrack hs).weaken (·.2) id).dropped
  | handlePlaybackEvent event facing =>
    exact ((handlePlaybackEvent_maintains htrack hs facing).weaken id (fun _ => trivial)).dropped
  | dragTo position workspaces =>
    exact (onMotion_maintains hs (PetMotionModel.dragTo_keeps hs.valid position workspaces)).dropped
  | constrain workspaces =>
    exact (onMotion_maintains hs (PetMotionModel.constrain_keeps hs.valid workspaces)).dropped
  | placeForRenderLayout position workspace =>
    exact (onMotion_maintains hs (PetMotionModel.placeForRenderLayout_keeps hs.valid position workspace)).dropped
  | restorePosition position workspaces =>
    exact (onMotion_maintains hs (PetMotionModel.restorePosition_keeps hs.valid position workspaces)).dropped

/-- The state an operation leaves has kept the properties. -/
theorem operate_keeps (htrack : env.track0 = some t0)
    (hsequencing : sequencingEnabled t0.player.capabilities = true) (hs : Sound env t0 e) (op : Operation) :
    Keeps env t0 (Performable t0 .productionRelax ∧ ¬Separates env t0 e op) (¬OvertakenBy env t0 e op) e
      (operate env e op) :=
  Wp.stateAfter ((program_maintains htrack hsequencing hs op).mono (fun _ _ h => h) (fun _ _ h => h.1))

/-! ## Runs -/

theorem built_sound (h : Built env e) : Sound env t0 e := by
  obtain ⟨position, windowSize, config, rfl⟩ := h
  exact ⟨rfl, rfl, le_refl _, fun _ h => (nomatch h), .inl ⟨rfl, rfl, rfl, rfl, rfl⟩⟩

/-- An engine whose player meets the sequencing contract is sound in every state it reaches. -/
theorem reachable_sound (htrack : env.track0 = some t0)
    (hsequencing : sequencingEnabled t0.player.capabilities = true) (h : Reachable (operate env) (Built env) e) :
    Sound env t0 e :=
  h.invariant (fun _ => built_sound) fun _ op hs => (operate_keeps htrack hsequencing hs op).sound

/-- The operation ends with the layers compatible with the track, and raises no failed assertion. -/
def Settles (env : EngineEnv) (e : PetAnimationEngine) (op : Operation) : Prop :=
  Wp (op.program env) (fun _ => Compatible)
    (fun error e' => error ≠ .animationCompatibility ∧ Compatible e') e

/-- From an accepted start of autonomy on, every operation settles as long as none separates the layers from
the track. -/
theorem settles_throughout {e₁ : PetAnimationEngine} (htrack : env.track0 = some t0)
    (hsequencing : sequencingEnabled t0.player.capabilities = true)
    (hreach : Reachable (operate env) (Built env) e)
    (hstart : (startAutonomous env).run e = .ok .accepted e₁) (ops : List Operation)
    (hops : StepsMeet (operate env) (fun e op => ¬Separates env t0 e op) e₁ ops) :
    Compatible e₁ ∧ StepsMeet (operate env) (Settles env) e₁ ops := by
  have hs := reachable_sound htrack hsequencing hreach
  have hstarted : Sound env t0 e₁ ∧ Compatible e₁ ∧ Performable t0 .productionRelax := by
    have hspec : Wp (startAutonomous env)
        (fun o e' => o = .accepted → Sound env t0 e' ∧ Compatible e' ∧ Performable t0 .productionRelax)
        (fun _ _ => False) e := by
      unfold startAutonomous
      simp only [htrack]
      refine wp_get_bind.mpr ?_
      split
      next => exact fun h => nomatch h
      next =>
        refine (recoverAutonomousRelax_spec hs none).imp (fun o e' hr ho => ?_)
        exact ⟨hr.keeps.sound, hr.accepted ho⟩
    exact hspec.of_run hstart rfl
  obtain ⟨hs₁, hc₁, hrelax⟩ := hstarted
  have hkept : ∀ e op, Sound env t0 e ∧ Compatible e → ¬Separates env t0 e op →
      Sound env t0 (operate env e op) ∧ Compatible (operate env e op) := by
    rintro e op ⟨hs, hc⟩ hsafe
    have hkeeps := operate_keeps htrack hsequencing hs op
    exact ⟨hkeeps.sound, hkeeps.compatible ⟨hrelax, hsafe⟩ hc⟩
  refine ⟨hc₁, StepsMeet.of_invariant hkept ?_ e₁ ops ⟨hs₁, hc₁⟩ hops⟩
  · rintro e op ⟨hs, hc⟩ hsafe
    refine (program_maintains htrack hsequencing hs op).mono (fun _ _ h => ?_) (fun _ _ h => ?_)
    · exact h.compatible ⟨hrelax, hsafe⟩ hc
    · exact ⟨h.2 ⟨hrelax, hsafe⟩ hc, h.1.compatible ⟨hrelax, hsafe⟩ hc⟩

end

/-! ## Layers and track moved apart -/

/-- The person opens a book. -/
def readingEvent : PetAnimationEvent := { eventType := .startReading, requestToken := .given 0 }

/-- The renderer's first numbered boundary of the reading loop. -/
def readingBoundary : PlaybackEvent :=
  { generation := 2, logicalAction := .read, physicalName := PetActionName.read.value
    playbackToken := .given 2, loopBoundary := true, boundaryIndex := some 1 }

/-- Reading, and a graceful exit asked for. The boundary goes to the scheduler, the exit plays the return to
idle over layers that still read, and the assertion raises once the playback has changed. -/
theorem numbered_exit_raises :
    ¬∀ (env : EngineEnv) (t0 : Track0Env) (e e₁ : PetAnimationEngine) (ops : List Operation),
      env.track0 = some t0 → sequencingEnabled t0.player.capabilities = true →
      Reachable (operate env) (Built env) e → (startAutonomous env).run e = .ok .accepted e₁ →
      Compatible e₁ ∧ StepsMeet (operate env) (Settles env) e₁ ops := by
  intro h
  have hsettles := (h (steadyEnv [.idle, .read, .returnIdle]) _ (steadyEngine [.idle, .read, .returnIdle]) _
    [.handleEvent readingEvent, .requestGracefulExit, .handlePlaybackEvent readingBoundary none]
    rfl rfl ⟨_, [], steadyEngine_built _, rfl⟩ rfl).2.2.2.1
  exact absurd rfl (Wp.of_raise hsettles rfl).1

/-- A walk the person asks for, a callback of a playback that is gone, and a pause all settle. -/
theorem walk_and_pause_settle : let env := steadyEnv [.idle, .walkLeft]
    let ops := [Operation.requestAction .moveLeft .user, .handlePlaybackEvent lateCallback none, .pause]
    ∃ t0 e₁, env.track0 = some t0 ∧ sequencingEnabled t0.player.capabilities = true
      ∧ (startAutonomous env).run (steadyEngine [.idle, .walkLeft]) = .ok .accepted e₁
      ∧ StepsMeet (operate env) (fun e op => ¬Separates env t0 e op) e₁ ops
      ∧ Compatible e₁ ∧ StepsMeet (operate env) (Settles env) e₁ ops := by
  have hsafe : StepsMeet (operate (steadyEnv [.idle, .walkLeft]))
      (fun e op => ¬Separates (steadyEnv [.idle, .walkLeft]) (Track0Env.steady (secondsRegistry [.idle, .walkLeft])) e op)
      (operate (steadyEnv [.idle, .walkLeft]) (steadyEngine [.idle, .walkLeft]) .startAutonomous)
      [.requestAction .moveLeft .user, .handlePlaybackEvent lateCallback none, .pause] :=
    ⟨id, fun hstrands => (nomatch hstrands.1), id, trivial⟩
  exact ⟨_, _, rfl, rfl, rfl, hsafe,
    settles_throughout rfl rfl ⟨_, [], steadyEngine_built _, rfl⟩ rfl _ hsafe⟩

/-! ## The scheduler's watch -/

section

variable {env : EngineEnv} {t0 : Track0Env} {e : PetAnimationEngine}

/-- A callback of the confirmed playback carries the generation and the token the scheduler watches for. -/
theorem SchedulerWatches.recognises (hs : Sound env t0 e)
    (h : SchedulerWatches e.autonomousSchedulerState e.track0.state.confirmedEpoch) {event : PlaybackEvent}
    (hmatches : e.callbackMatchesSnapshot event = true) : ∃ watching, e.autonomousSchedulerState = some watching
      ∧ watching.playbackGeneration.map (fun g => (g : Int)) = some event.generation
      ∧ watching.playbackToken = some event.playbackToken := by
  obtain ⟨epoch, watching, hepoch, hwatching, hgeneration, htoken⟩ := h
  obtain ⟨epoch', hepoch', hg, -, -, ht⟩ := identifies_of_matches hmatches
  obtain hstopped | ⟨request, p, hperforms, -⟩ := hs.track
  · rw [hstopped.confirmed] at hepoch
    cases hepoch
  · rw [hperforms.playing.confirmedEpoch.1, hepoch'] at hepoch
    obtain rfl := Option.some.inj hepoch
    exact ⟨watching, hwatching, by rw [hgeneration, hg]; rfl, by rw [htoken, ht]⟩

/-- Once autonomy was started, the scheduler of an autonomous pet watches the playback that runs and knows its
callbacks, as long as no event overtakes it. -/
theorem watches_throughout {e₁ : PetAnimationEngine} {o : ActionOutcome} (htrack : env.track0 = some t0)
    (hsequencing : sequencingEnabled t0.player.capabilities = true) (hscheduler : env.hasScheduler = true)
    (hreach : Reachable (operate env) (Built env) e) (hstart : (startAutonomous env).run e = .ok o e₁)
    (ho : o ≠ .rejectedDuplicate) (ops : List Operation)
    (hops : StepsMeet (operate env) (fun e op => ¬OvertakenBy env t0 e op) e₁ ops) :
    let e' := run (operate env) e₁ ops
    e'.executionMode = .autonomous →
      SchedulerWatches e'.autonomousSchedulerState e'.track0.state.confirmedEpoch
        ∧ ∀ event, e'.callbackMatchesSnapshot event = true →
            ∃ watching, e'.autonomousSchedulerState = some watching
              ∧ watching.playbackGeneration.map (fun g => (g : Int)) = some event.generation
              ∧ watching.playbackToken = some event.playbackToken := by
  have hs := reachable_sound htrack hsequencing hreach
  have hstarted : Wp (startAutonomous env)
      (fun o e' => o ≠ .rejectedDuplicate → Sound env t0 e' ∧ Watched env e') (fun _ _ => False) e := by
    unfold startAutonomous
    simp only [htrack]
    refine wp_get_bind.mpr ?_
    split
    next => exact fun h => absurd rfl h
    next =>
      refine (recoverAutonomousRelax_spec hs none).imp (fun o e' hr _ => ?_)
      exact ⟨hr.keeps.sound, hr.watched⟩
  have hkept : ∀ e op, Sound env t0 e ∧ Watched env e → ¬OvertakenBy env t0 e op →
      Sound env t0 (operate env e op) ∧ Watched env (operate env e op) := by
    rintro e op ⟨hs, hw⟩ hcalm
    have hkeeps := operate_keeps htrack hsequencing hs op
    exact ⟨hkeeps.sound, hkeeps.watched hcalm hw⟩
  obtain ⟨hs', hw'⟩ := run_induction hkept e₁ ops (hstarted.of_run hstart ho) hops
  intro e' hmode
  obtain ⟨hwatches, -⟩ := hw' hscheduler hmode
  exact ⟨hwatches, fun event => hwatches.recognises hs'⟩

end

/-- The pet starts to think of its own accord: the mode stays autonomous, and the scheduler goes on watching the
Relax the thought replaced. -/
theorem thought_overtakes :
    ¬∀ (env : EngineEnv) (t0 : Track0Env) (e : PetAnimationEngine), env.track0 = some t0 →
      sequencingEnabled t0.player.capabilities = true → env.hasScheduler = true →
      Reachable (operate env) (Built env) e → e.executionMode = .autonomous →
      SchedulerWatches e.autonomousSchedulerState e.track0.state.confirmedEpoch := by
  intro h
  obtain ⟨epoch, watching, hepoch, hwatching, hgeneration, -⟩ :=
    h (steadyEnv [.idle, .think, .returnIdle]) _
      (run (operate (steadyEnv [.idle, .think, .returnIdle])) (steadyEngine [.idle, .think, .returnIdle])
        [.startAutonomous, .requestThinkingAnimation])
      rfl rfl rfl ⟨_, _, steadyEngine_built _, rfl⟩ rfl
  cases hepoch
  cases hwatching
  cases hgeneration

/-- Dragging the pet overtakes nothing: it suspends autonomy first. -/
theorem drag_watched : let env := steadyEnv [.idle, .dragStart, .dragLoop]
    let ops := [Operation.startDragging, .resumeAutonomous .user]
    ∃ t0 e₁, env.track0 = some t0 ∧ sequencingEnabled t0.player.capabilities = true ∧ env.hasScheduler = true
      ∧ (startAutonomous env).run (steadyEngine [.idle, .dragStart, .dragLoop]) = .ok .accepted e₁
      ∧ StepsMeet (operate env) (fun e op => ¬OvertakenBy env t0 e op) e₁ ops
      ∧ (run (operate env) e₁ ops).executionMode = .autonomous
      ∧ SchedulerWatches (run (operate env) e₁ ops).autonomousSchedulerState
          (run (operate env) e₁ ops).track0.state.confirmedEpoch := by
  have hcalm : StepsMeet (operate (steadyEnv [.idle, .dragStart, .dragLoop]))
      (fun e op => ¬OvertakenBy (steadyEnv [.idle, .dragStart, .dragLoop])
        (Track0Env.steady (secondsRegistry [.idle, .dragStart, .dragLoop])) e op)
      (operate (steadyEnv [.idle, .dragStart, .dragLoop]) (steadyEngine [.idle, .dragStart, .dragLoop])
        .startAutonomous)
      [.startDragging, .resumeAutonomous .user] :=
    ⟨id, id, trivial⟩
  exact ⟨_, _, rfl, rfl, rfl, rfl, hcalm, rfl,
    (watches_throughout rfl rfl rfl ⟨_, [], steadyEngine_built _, rfl⟩ rfl (by decide) _ hcalm rfl).1⟩

end PetAnimationEngine

end ArkClaw.Pet
