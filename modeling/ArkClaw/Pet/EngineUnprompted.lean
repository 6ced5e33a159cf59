import ArkClaw.Pet.EngineCompletion

/-!
# Unprompted operations

Time passes and callbacks arrive without anybody calling the engine. What they may do to the playback is little: a
tick may let the random source start a walk or a thought, or turn a walk at the edge of the workspace, and a
callback may be the boundary at which the scheduler decides. Where none of these happens the pet plays on.
-/

namespace ArkClaw.Pet

open ArkClaw.Library
open PetTrack0Controller (Playing handleCompletion_stale Stopped)
open PetMotionModel (wp_snapshot Walks LeavesWorkspace update_layers)

namespace PetAnimationEngine

/-! ## Playing on -/

/-- The confirmed playback, the motion and the activity, and the mode are as they were. -/
structure PlaysOn (e e' : PetAnimationEngine) : Prop where
  layers : e'.motion.states.At e.motion.states.lifecycle e.motion.states.motion e.motion.states.activity
  track0 : e'.track0 = e.track0
  mode : e'.executionMode = e.executionMode
  action : e'.activeProductionAction = e.activeProductionAction

/-- Nobody calls the engine: time passes, or a callback arrives. -/
def Operation.Unprompted : Operation → Prop
  | .advance .. | .handlePlaybackEvent .. => True
  | _ => False

section

variable {env : EngineEnv} {t0 : Track0Env} {e e' e'' : PetAnimationEngine} {event : PlaybackEvent}
  {elapsed : Rat} {workspaces : List Rect}
variable {request : ActionRequest} {p : RunnerProgress}

theorem PlaysOn.of_states (hv : e.motion.states.Valid) (hstates : e'.motion.states = e.motion.states)
    (htrack : e'.track0 = e.track0) (hmode : e'.executionMode = e.executionMode)
    (haction : e'.activeProductionAction = e.activeProductionAction) : PlaysOn e e' :=
  ⟨hstates ▸ hv.at, htrack, hmode, haction⟩

theorem PlaysOn.refl (hv : e.motion.states.Valid) : PlaysOn e e := ⟨hv.at, rfl, rfl, rfl⟩

theorem PlaysOn.trans (h : PlaysOn e e') (h' : PlaysOn e' e'') : PlaysOn e e'' := by
  obtain ⟨⟨-, hlifecycle, hmotion, hactivity⟩, htrack, hmode, haction⟩ := h
  obtain ⟨hat, htrack', hmode', haction'⟩ := h'
  rw [hlifecycle, hmotion, hactivity] at hat
  exact ⟨hat, htrack'.trans htrack, hmode'.trans hmode, haction'.trans haction⟩

/-! ## The physical step -/

/-- The controller goes on confirming the same playback. -/
def SameConfirmed (c c' : PetTrack0Controller) : Prop := c'.state.confirmedEpoch = c.state.confirmedEpoch

instance : Std.Refl SameConfirmed := ⟨fun _ => rfl⟩

instance : Trans SameConfirmed SameConfirmed SameConfirmed := ⟨fun h h' => Eq.trans h' h⟩

theorem adoptActivePlayback_sameConfirmed (request : ActionRequest) :
    Follows SameConfirmed (PetTrack0Controller.adoptActivePlayback t0 request) := fun c =>
  PetTrack0Controller.adoptActivePlayback_spec.mono
    (fun _ c' h => by
      obtain ⟨-, rfl⟩ | ⟨-, -, -, rfl⟩ := h
      · rfl
      · rfl)
    (fun _ _ h => h.elim)

/-- The same playback is confirmed, and a pet that stands or walks plays on. -/
structure Stays (e e' : PetAnimationEngine) : Prop where
  confirmed : SameConfirmed e.track0 e'.track0
  playsOn : e.motion.states.motion ∈ [PetMotionState.idle, .walkingLeft, .walkingRight] → PlaysOn e e'

theorem PlaysOn.stays (h : PlaysOn e e') : Stays e e' := by
  refine ⟨?_, fun _ => h⟩
  unfold SameConfirmed
  rw [h.track0]

theorem PlaysOn.stays_trans (h : PlaysOn e e') (h' : Stays e' e'') : Stays e e'' := by
  refine ⟨Eq.trans h'.confirmed h.stays.confirmed, fun hmotion => h.trans (h'.playsOn ?_)⟩
  rw [h.layers.motion]
  exact hmotion

/-- The recovery of a landing lets the running playback run. -/
theorem recoverLanding_confirmed (htrack : env.track0 = some t0) (previous moved : PetMotionState) :
    Follows (OnTrack SameConfirmed) (recoverLanding env previous moved) := by
  unfold recoverLanding
  split
  next =>
    rw [htrack]
    exact .map _ (finishRelaxMotionRecovery_along adoptActivePlayback_sameConfirmed)
  next => exact .pure _

/-- Without a pending turn the rest of a physical step is over at once. -/
theorem takeTurn_none (hs : Sound env t0 e) {P : PetAnimationEngine → Prop}
    (hP : ∀ motion : PetMotionModel, motion.states = e.motion.states → P { e with motion }) : Wp (do
        takeTurn env
        onMotion PetMotionModel.snapshot) (fun _ => P) (fun _ => P) e := by
  unfold takeTurn PetMotionModel.takePendingDirectionTurn
  simp only [wp_bind, wp_onMotion, wp_get, wp_set, wp_pure, hs.turn]
  refine (wp_snapshot ?_ _ _).mpr ?_
  · exact hs.valid
  · exact hP _ rfl

/-- A physical step changes no playback, unless it turns a walk at the edge of the workspace. -/
theorem advancePhysics_stays (htrack : env.track0 = some t0) (hs : Sound env t0 e)
    (hedge : ¬(Walks e.motion ∧ LeavesWorkspace e.motion elapsed workspaces)) :
    Wp (advancePhysics env elapsed workspaces) (fun _ => Stays e) (fun _ => Stays e) e := by
  -- what follows an update that turned no walk
  have hrest : ∀ (motion : PetMotionModel) (moved : PetMotionState), motion.states.Valid →
      motion.pendingDirectionTurn = none →
      (e.motion.states.motion ∈ [PetMotionState.idle, .walkingLeft, .walkingRight] →
        motion.states = e.motion.states) →
      Wp (do
          recoverLanding env e.motion.states.motion moved
          takeTurn env
          onMotion PetMotionModel.snapshot) (fun _ => Stays e) (fun _ => Stays e) { e with motion } := by
    intro motion moved hv hturn hstands
    have hsound : Sound env t0 { e with motion } := ⟨hv, hturn, hs.untimed, hs.resume, hs.track⟩
    have hlanded : Wp (recoverLanding env e.motion.states.motion moved)
        (fun _ e' => Sound env t0 e' ∧ Stays e e') (fun _ e' => Sound env t0 e' ∧ Stays e e')
        { e with motion } := by
      by_cases hlands : e.motion.states.motion ∈ [PetMotionState.idle, .walkingLeft, .walkingRight]
      · have hnot : e.motion.states.motion ≠ .landing := by
          intro h
          rw [h] at hlands
          exact absurd hlands (by decide)
        unfold recoverLanding
        rw [if_neg fun h => hnot h.2.1]
        refine ⟨hsound, PlaysOn.stays (.of_states hs.valid ?_ rfl rfl rfl)⟩
        exact hstands hlands
      · refine ((recoverLanding_maintains htrack hsound _ moved).and
          (recoverLanding_confirmed htrack _ moved _)).mono (fun _ e' h => ?_) (fun _ e' h => ?_)
        · exact ⟨h.1.sound, h.2, fun h' => absurd h' hlands⟩
        · exact ⟨h.1.1.sound, h.2, fun h' => absurd h' hlands⟩
    refine wp_bind.mpr (hlanded.mono (fun _ e₁ h => ?_) (fun _ _ h => h.2))
    refine takeTurn_none h.1 fun motion hstates => ⟨h.2.confirmed, fun hmotion => ?_⟩
    exact (h.2.playsOn hmotion).trans (.of_states h.1.valid hstates rfl rfl rfl)
  have hsnapshot := PetLayeredStateMachine.snapshot_of_valid _ hs.valid
  unfold advancePhysics
  refine wp_bind.mpr ((wp_motionState hsnapshot _ _).mpr ?_)
  refine wp_bind.mpr (wp_onMotion.mpr ?_)
  refine (update_layers hs.valid elapsed workspaces).mono (fun moved motion h => ?_)
    (fun error motion hraised => ?_)
  · cases h with
    | kept hkept =>
      exact hrest motion _ (hkept.1 ▸ hs.valid) (hkept.2.trans hs.turn) fun _ => hkept.1
    | turning hwalks hleaves => exact absurd ⟨hwalks, hleaves⟩ hedge
    | landed _ hfalls _ hat hturn =>
      refine hrest motion _ hat.valid (hturn.trans hs.turn) fun hmotion => ?_
      rw [hfalls] at hmotion
      exact absurd hmotion (by decide)
    | rested _ hlands hat hturn =>
      refine hrest motion _ hat.valid (hturn.trans hs.turn) fun hmotion => ?_
      rw [hlands] at hmotion
      exact absurd hmotion (by decide)
  · refine PlaysOn.stays (.of_states hs.valid ?_ rfl rfl rfl)
    exact hraised.1.1

/-! ## The tick -/

/-- The tick starts a walk or a thought of the random source. -/
def ActsAtRandom (env : EngineEnv) (t0 : Track0Env) (e : PetAnimationEngine) : Operation → Prop
  | .advance elapsedSeconds _ =>
    let b := blinked env (applied env elapsedSeconds) e
    0 ≤ elapsedSeconds ∧ e.motion.states.lifecycle = .active
      ∧ ∃ event, randomEvent env (applied env elapsedSeconds) b = some event ∧ Admits env t0 b event
  | _ => False

/-- The tick walks out of the workspace. -/
def WalksOut (env : EngineEnv) (e : PetAnimationEngine) : Operation → Prop
  | .advance elapsedSeconds workspaces =>
    Walks e.motion
      ∧ LeavesWorkspace e.motion (applied env elapsedSeconds) workspaces
  | _ => False

/-- The random source's events interrupt nothing by force. -/
theorem random_optional {event : PetAnimationEvent} (h : randomEvent env elapsed e = some event) :
    event.eventType.isMandatoryInterruption = false := by
  obtain ⟨-, ⟨htype, -⟩ | htype⟩ := randomEvent_kind h
  · rw [htype]
    rfl
  · rw [htype]
    rfl

/-- A random event that is not admitted is refused. -/
theorem Handled.of_not_admitted {event : PetAnimationEvent} {o : ActionOutcome}
    (h : Handled env t0 e event o e') (hoptional : event.eventType.isMandatoryInterruption = false)
    (hadmits : ¬Admits env t0 e event) : e' = e := by
  cases h with
  | cleared _ _ _ hevent =>
    rcases hevent with hevent | hevent <;> rw [hevent] at hoptional <;> cases hoptional
  | contained _ _ _ _ _ hsubmits hmandatory =>
    obtain ⟨change, hchange, hpropose, -⟩ := hsubmits
    obtain ⟨-, hsame, -⟩ := e.motion.states.propose_source hpropose
    have hfall := mandatory_of_eventChange hchange (hsame.symm.trans hmandatory)
    rw [hfall] at hoptional
    cases hoptional
  | refused => rfl
  | played _ _ _ _ h => exact absurd h hadmits
  | resumed _ _ _ _ _ h => exact absurd h hadmits
  | failed _ _ _ h => exact absurd h hadmits

/-- A random action that is not admitted leaves the pet as it was. -/
theorem advanceRandomAction_playsOn (htrack : env.track0 = some t0)
    (hsequencing : sequencingEnabled t0.player.capabilities = true) (hs : Sound env t0 e)
    (hrandom : ∀ event, randomEvent env elapsed e = some event → ¬Admits env t0 e event) :
    Wp (advanceRandomAction env elapsed)
      (fun _ e' => Sound env t0 e' ∧ PlaysOn e e' ∧ e'.motion = e.motion)
      (fun _ e' => Sound env t0 e' ∧ PlaysOn e e' ∧ e'.motion = e.motion) e := by
  have henabled := sequencingEnabled_of htrack hsequencing
  have hframe : ∀ next draws objects, Sound env t0 { e with nextRandomAction := next, draws, objects }
      ∧ PlaysOn e { e with nextRandomAction := next, draws, objects } := by
    intro next draws objects
    refine ⟨⟨hs.valid, hs.turn, hs.untimed, hs.resume, hs.track⟩, .of_states hs.valid ?_ rfl rfl rfl⟩
    rfl
  refine advanceRandomAction_spec henabled hs.valid hs.untimed (fun _ next => ?_) fun event hevent => ?_
  · exact ⟨(hframe next e.draws e.objects).1, (hframe next e.draws e.objects).2, rfl⟩
  · have hoptional := random_optional hevent
    have hprepared : (e.drawn elapsed).prepared event = e.drawn elapsed := by
      unfold prepared
      rw [hoptional]
      rfl
    obtain ⟨hsound, hplays⟩ := hframe (e.nextRandomAction - elapsed) (e.draws + 1) (e.objects + 1)
    refine (handleEvent_spec htrack).mono (fun o e' hhandled => ?_) (fun error e' hraised => ?_)
    · rw [hprepared] at hhandled
      obtain rfl := hhandled.of_not_admitted hoptional fun h => hrandom event hevent (admits_drawn.mp h)
      exact ⟨hsound, hplays, rfl⟩
    · obtain rfl := hraised.1.trans hprepared
      exact ⟨hsound, hplays, rfl⟩

/-- A tick that neither acts at random nor walks out of the workspace changes no playback. -/
theorem advance_stays (htrack : env.track0 = some t0)
    (hsequencing : sequencingEnabled t0.player.capabilities = true) (hs : Sound env t0 e)
    (hrandom : ¬ActsAtRandom env t0 e (.advance elapsed workspaces))
    (hedge : ¬WalksOut env e (.advance elapsed workspaces)) :
    Wp (advance env elapsed workspaces) (fun _ => Stays e) (fun _ => Stays e) e := by
  refine advance_spec hs (PlaysOn.refl hs.valid).stays (fun hinactive => wp_onMotion.mpr ?_) fun hforward hactive hsound => ?_
  · refine (update_layers hs.valid 0 workspaces).mono (fun _ motion h => ?_)
      (fun error motion hraised => ?_)
    · refine PlaysOn.stays (.of_states hs.valid ?_ rfl rfl rfl)
      cases h with
      | kept hkept => exact hkept.1
      | turning hwalks => exact absurd hwalks.1 hinactive
      | landed hactive => exact absurd hactive hinactive
      | rested hactive => exact absurd hactive hinactive
    · refine PlaysOn.stays (.of_states hs.valid ?_ rfl rfl rfl)
      exact hraised.1.1
  · obtain ⟨states, blinkElapsed, nextBlink, draws, hat, hblinked⟩ :=
      @blinked_frame env e (applied env elapsed) hs.valid
    have hplays : PlaysOn e (blinked env (applied env elapsed) e) := by
      rw [hblinked]
      exact ⟨hat, rfl, rfl, rfl⟩
    refine wp_bind.mpr ((advanceRandomAction_playsOn htrack hsequencing hsound
      fun event hevent hadmits => hrandom ⟨hforward, hactive, event, hevent, hadmits⟩).mono
      (fun _ e₁ h => ?_) (fun _ e₁ h => (hplays.trans h.2.1).stays))
    obtain ⟨hsound₁, hplays₁, hmotion₁⟩ := h
    have hedge₁ : ¬(Walks e₁.motion
        ∧ LeavesWorkspace e₁.motion (applied env elapsed) workspaces) := by
      rintro ⟨hwalks, hleaves⟩
      rw [hmotion₁, hblinked] at hwalks hleaves
      exact hedge ⟨⟨hactive, hwalks.2.imp hat.motion.symm.trans hat.motion.symm.trans⟩, hleaves⟩
    exact (advancePhysics_stays htrack hsound₁ hedge₁).mono
      (fun _ _ h => (hplays.trans hplays₁).stays_trans h) (fun _ _ h => (hplays.trans hplays₁).stays_trans h)

/-! ## Callbacks -/

/-- What the scheduler proposes at the boundary the callback numbers. -/
def Proposes (env : EngineEnv) (e : PetAnimationEngine) (event : PlaybackEvent) (intent : ActionIntent) : Prop :=
  ∃ index state boundary decision draws, event.boundaryIndex = some index
    ∧ e.autonomousSchedulerState = some state
    ∧ AutonomousBoundaryEvent.make event.generation event.playbackToken index (env.clock e.clockReadings)
      = .ok boundary
    ∧ (AutonomousActionScheduler.evaluate env.rng state
        { now := env.clock e.clockReadings, executionMode := e.executionMode
          capabilities := [.relax, .moveLeft, .moveRight, .sit, .sleep, .special, .interact] }
        (some boundary) (.fresh e.objects)).run e.draws = .ok decision draws
    ∧ decision.intent = some intent

/-- The callback is a loop boundary of the confirmed playback, and what the scheduler proposes at it is accepted
and plays. -/
structure Decides (env : EngineEnv) (e : PetAnimationEngine) (event : PlaybackEvent) (e' : PetAnimationEngine) :
    Prop where
  boundary : event.loopBoundary = true
  confirmed : e.callbackMatchesSnapshot event = true
  accepted : ∃ intent, Proposes env e event intent ∧ e'.activeProductionAction = some intent.action
    ∧ ∃ request, e'.track0.activeRequest = some request ∧ request.origin = .autonomous
      ∧ request.sequenceName = productionSequenceByAction intent.action

/-- The pet plays on; or it is autonomous and the scheduler decided, or what it decided failed at the player. -/
def PlaysOnOrDecides (env : EngineEnv) (e : PetAnimationEngine) (event : PlaybackEvent) (e' : PetAnimationEngine) :
    Prop :=
  PlaysOn e e'
    ∨ e.executionMode = .autonomous ∧ (Decides env e event e' ∨ e'.track0.state.confirmedEpoch = none)

/-- A boundary of a loop nobody asked to leave, or another callback, changes no playback. -/
theorem handleCompletion_playsOn
    (hplaying : Playing t0 e.track0 request p) (hloop : p.step.loop = true)
    (hexit : p.sequence.loopExitIndex = none) (continuation : Option ActionRequest)
    {Q : ActionOutcome → PetTrack0Controller → Prop} {R : PetError → PetTrack0Controller → Prop}
    (hQ : ∀ o, (o = .accepted → event.loopBoundary = true) → Q o e.track0) :
    Wp (PetTrack0Controller.handleCompletion t0 event continuation) Q R e.track0 := by
  by_cases hmatches : PetTrack0Controller.Matches e.track0 event
  swap
  · exact (handleCompletion_stale (.inl hmatches) _ _).mpr (hQ _ fun h => nomatch h)
  by_cases hkind : p.step.loop = event.loopBoundary
  swap
  · exact (handleCompletion_stale (.inr ⟨p, hplaying.progress, hkind⟩) _ _).mpr
      (hQ _ fun h => nomatch h)
  have hpending : e.track0.runner.pendingGracefulExit = false := by
    rw [← Bool.not_eq_true]
    intro hpending
    obtain ⟨_, -, hsome, -⟩ := hplaying.pending hpending
    rw [hexit] at hsome
    cases hsome
  exact (PetTrack0Controller.handleCompletion_loops hplaying.progress hmatches hloop (hkind ▸ hloop) hpending
    _ _).mpr (hQ _ fun _ => hkind ▸ hloop)

/-- What the scheduler proposes plays, fails at the player, or is refused. -/
theorem submitProposal_decides {decision : AutonomousSchedulerDecision} {intent : ActionIntent} {now : Rat}
    (hs : Sound env t0 e) (hintent : decision.intent = some intent) (horigin : intent.origin = .autonomous) :
    Wp (submitProposal env t0 decision intent now)
      (fun _ e' => PlaysOn e e' ∨ (e'.activeProductionAction = some intent.action
          ∧ ∃ request, e'.track0.activeRequest = some request ∧ request.origin = .autonomous
            ∧ request.sequenceName = productionSequenceByAction intent.action)
        ∨ e'.track0.state.confirmedEpoch = none)
      (fun _ _ => False) e := by
  obtain ⟨destination, hproposed⟩ : ∃ destination, decision.proposedState = some destination := by
    have htogether := decision.together
    rw [hintent] at htogether
    exact Option.isSome_iff_exists.mp (by simpa using htogether)
  unfold submitProposal
  simp only [wp_bind, wp_get, wp_onRandom, wp_modify, wp_pure]
  refine (submitProductionIntent_spec hs.valid none).imp (fun o e₁ hsubmitted => ?_)
  -- what the scheduler is told in the end touches its own state alone
  refine Wp.mono (Q := fun _ _ => True) ?_ (fun state draws _ => ?_) (fun _ _ h => h)
  · split
    next =>
      simp only [AutonomousActionScheduler.commitAccepted, hproposed]
      exact wp_enter _ _ _ _ _ _ fun _ _ _ _ => trivial
    next =>
      simp only [AutonomousActionScheduler.reject, hproposed, wp_bind, wp_pure]
      exact AutonomousActionScheduler.wp_sampleDwell _ _ _ fun _ _ => trivial
  cases hsubmitted with
  | continued hexplicit => rw [horigin] at hexplicit; cases hexplicit
  | queued hexplicit => rw [horigin] at hexplicit; cases hexplicit
  | held hexplicit => rw [horigin] at hexplicit; cases hexplicit
  | refused =>
    left
    refine .of_states hs.valid ?_ rfl rfl rfl
    rfl
  | failed _ _ _ _ _ hcontained => exact .inr (.inr hcontained.stopped.confirmed)
  | played _ _ request _ _ _ hname hrequest hperforms =>
    exact .inr (.inl ⟨rfl, request, hperforms.playing.active, hrequest.trans horigin, hname⟩)

/-- A numbered boundary changes no playback, unless the scheduler decides at it. -/
theorem handleAutonomousBoundary_decides (hs : Sound env t0 e)
    (hplaying : Playing t0 e.track0 request p) (hloop : p.step.loop = true)
    (hexit : p.sequence.loopExitIndex = none) (hmatches : e.callbackMatchesSnapshot event = true)
    (hboundary : event.loopBoundary = true) {boundaryIndex : Int}
    (hindex : event.boundaryIndex = some boundaryIndex) :
    Wp (handleAutonomousBoundary env t0 event boundaryIndex)
      (fun handled e' => (handled = none → e' = e) ∧ PlaysOnOrDecides env e event e')
      (fun _ => PlaysOnOrDecides env e event) e := by
  unfold handleAutonomousBoundary
  simp only [wp_bind, wp_get]
  cases hstate : e.autonomousSchedulerState with
  | none => exact ⟨fun _ => rfl, .inl (.refl hs.valid)⟩
  | some state =>
    cases hscheduler : env.hasScheduler with
    | false => exact ⟨fun _ => rfl, .inl (.refl hs.valid)⟩
    | true =>
      have hplays : ∀ readings objects draws (state : Option AutonomousSchedulerState),
          PlaysOn e { e with clockReadings := readings, objects, draws, autonomousSchedulerState := state } := by
        intro readings objects draws state
        refine .of_states hs.valid ?_ rfl rfl rfl
        rfl
      simp only [Bool.not_true, Bool.false_eq_true, if_false, wp_bind, wp_readClock, wp_getOrRaise,
        wp_newObject, wp_get, wp_onRandom, wp_modify]
      refine ⟨fun boundary hmake => ?_, fun error herror => ?_⟩
      swap
      · left
        refine .of_states hs.valid ?_ rfl rfl rfl
        rfl
      refine ((evaluate_spec _ _ _ _ _ _).and (wp_run _ _)).mono (fun decision draws hdecision => ?_)
        (fun error draws _ => .inl (hplays _ _ _ _))
      obtain ⟨⟨-, -, horigin⟩, hrun⟩ := hdecision
      cases hintent : decision.intent with
      | none =>
        simp only [wp_map, wp_onTrack0]
        refine handleCompletion_playsOn hplaying hloop hexit none fun o _ => ?_
        exact ⟨fun h => absurd h (Option.some_ne_none _), .inl (hplays _ _ _ _)⟩
      | some intent =>
        have hproposes : Proposes env e event intent :=
          ⟨boundaryIndex, state, boundary, decision, draws, hindex, hstate, hmake, hrun, hintent⟩
        have hauto : e.executionMode = .autonomous := by
          by_contra hmode
          have hunheard : Wp (AutonomousActionScheduler.evaluate env.rng state
              { now := env.clock e.clockReadings, executionMode := e.executionMode
                capabilities := [.relax, .moveLeft, .moveRight, .sit, .sleep, .special, .interact] }
              (some boundary) (.fresh e.objects)) (fun decision _ => decision.intent = none) (fun _ _ => False)
              e.draws := evaluate_unheard (fun h => absurd h hmode) e.draws
          have hnone := hunheard.of_run hrun
          rw [hintent] at hnone
          cases hnone
        simp only [wp_map]
        refine (submitProposal_decides ?_ hintent (horigin intent hintent)).mono
          (fun o e' hend => ⟨fun h => absurd h (Option.some_ne_none _), ?_⟩) (fun _ _ h => h.elim)
        · exact ⟨hs.valid, hs.turn, hs.untimed, hs.resume, hs.track⟩
        · obtain hplays' | hplayed | hnone := hend
          · exact .inl ((hplays _ _ _ _).trans hplays')
          · exact .inr ⟨hauto, .inl ⟨hboundary, hmatches, intent, hproposes, hplayed⟩⟩
          · exact .inr ⟨hauto, .inr hnone⟩

/-- The assertion and the outcome that end a transaction change nothing. -/
theorem assert_unchanged {P : PetAnimationEngine → Prop} (h : P e) {α : Type} (a : α) :
    Wp (do assertTransactionCompatible; return a) (fun _ => P) (fun _ => P) e := by
  simp only [assertTransactionCompatible, PetMotionModel.state, wp_bind, wp_onMotion, wp_get, wp_getOrRaise, wp_pure]
  exact ⟨fun _ _ => ⟨fun _ _ => h, fun _ _ => h⟩, fun _ _ => h⟩

/-- A loop without an exit has no step to advance to. -/
theorem advanceSequence_playsOn (hs : Sound env t0 e)
    (hplaying : Playing t0 e.track0 request p) (hloop : p.step.loop = true)
    (hexit : p.sequence.loopExitIndex = none) (facing : Option PetFacing) :
    Wp (advanceSequence env t0 event facing) (fun _ => PlaysOn e) (fun _ => PlaysOn e) e := by
  have hnext : e.nextActionForCallback event = none := by
    simp [nextActionForCallback, hplaying.progress, hloop, hexit]
  unfold advanceSequence commitReturnIdle
  simp only [wp_bind, wp_get, hnext, ne_eq, reduceCtorEq, not_false_eq_true, if_true, wp_pure, wp_onTrack0]
  refine handleCompletion_playsOn hplaying hloop hexit none fun o haccepted => ?_
  have hnothing : ∀ facing, followCompletion env t0 (e.completesProductionProtected event)
      (e.completesMandatoryRecovery event) (e.callbackReachesIdleTerminal event) facing o = pure o := by
    intro facing
    by_cases ho : o = .accepted
    · exact followCompletion_quiet hplaying (.inl (haccepted ho)) _ _
    · exact followCompletion_not_accepted _ _ _ _ ho
  rw [hnothing, wp_pure]
  exact wp_bind.mp (assert_unchanged (PlaysOn.refl hs.valid) o)

/-- A callback changes no playback that loops, unless the scheduler decides at it. -/
theorem handlePlaybackEvent_decides (htrack : env.track0 = some t0) (hs : Sound env t0 e)
    (hloops : Stopped e.track0 ∨ Loops e.track0) (facing : Option PetFacing) :
    Wp (handlePlaybackEvent env event facing) (fun _ => PlaysOnOrDecides env e event)
      (fun _ => PlaysOnOrDecides env e event) e := by
  have hsame : PlaysOnOrDecides env e event e := .inl (.refl hs.valid)
  unfold handlePlaybackEvent
  simp only [htrack]
  refine wp_get_bind.mpr ?_
  cases hmatches : e.callbackMatchesSnapshot event with
  | false =>
    simp only [Bool.not_false, if_true]
    refine wp_bind.mpr ((handleCompletion_foreign (by rw [hmatches]; decide) _ _).mpr ?_)
    exact assert_unchanged hsame _
  | true =>
    simp only [Bool.not_true, Bool.false_eq_true, if_false]
    have hstopped : ¬Stopped e.track0 := fun hstopped => by
      simp [callbackMatchesSnapshot, hstopped.runner, PetSequenceRunner.eventMatchesCurrentEpoch] at hmatches
    obtain ⟨q, hq, hqloop, hqexit⟩ := hloops.resolve_left hstopped
    obtain ⟨request, p, hperforms, -⟩ := hs.track.resolve_left hstopped
    have hplaying := hperforms.playing
    obtain rfl := Option.some.inj (hplaying.progress.symm.trans hq)
    have hadvances : Wp (advanceSequence env t0 event facing) (fun _ => PlaysOnOrDecides env e event)
        (fun _ => PlaysOnOrDecides env e event) e :=
      (advanceSequence_playsOn hs hplaying hqloop hqexit facing).mono (fun _ _ h => .inl h) (fun _ _ h => .inl h)
    split
    next boundaryIndex hboundary hindex =>
      refine (handleAutonomousBoundary_decides hs hplaying hqloop hqexit hmatches hboundary
        hindex).bind fun handled e₁ h => ?_
      cases handled with
      | none =>
        obtain rfl := h.1 rfl
        exact hadvances
      | some o => exact assert_unchanged h.2 o
    next => exact hadvances

end

end PetAnimationEngine

end ArkClaw.Pet
