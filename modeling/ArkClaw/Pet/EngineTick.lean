import ArkClaw.Pet.EngineCallbacks

/-!
# What the engine does in a tick

A tick blinks, may let the random source ask for a walk or a thought, and takes one physical step. The blink
is computed outright, so that the event a tick asks for is known before it runs. The physical step keeps the
layers compatible with the track except where a fall lands under the animation of a release, or where a walk
the engine did not start itself turns at the edge of the workspace.
-/

namespace ArkClaw.Pet

open ArkClaw.Library
open PetLayeredStateMachine (snapshot_of_valid startBlinking_at finishBlinking_at startWalking_at
  startWalking_error targetLayers)
open PetMotionModel (wp_onStates Walks LeavesWorkspace wp_snapshot takePendingDirectionTurn update_layers)

namespace PetAnimationEngine

variable {env : EngineEnv} {t0 : Track0Env} {e : PetAnimationEngine} {elapsed : Rat}
  {workspaces : List Rect}
variable {event : PetAnimationEvent}

/-! ## The blink -/

/-- The engine as the blink of a tick leaves it. -/
def blinked (env : EngineEnv) (elapsed : Rat) (e : PetAnimationEngine) : PetAnimationEngine :=
  let interval := env.rng.uniform e.draws env.config.blinkingIntervalMinSeconds
    env.config.blinkingIntervalMaxSeconds
  let e := { e with lastAppliedDelta := elapsed }
  if e.motion.states.behaviors.blinking then
    if env.config.blinkingDurationSeconds ≤ e.blinkElapsed + elapsed then
      { e with
        motion := { e.motion with states := e.motion.states.finishBlinking }
        blinkElapsed := 0, nextBlink := interval, draws := e.draws + 1 }
    else { e with blinkElapsed := e.blinkElapsed + elapsed }
  else if 0 < e.nextBlink - elapsed then { e with nextBlink := e.nextBlink - elapsed }
  else
    match e.motion.states.startBlinking with
    | .error _ => e
    | .ok states =>
      if states.behaviors.blinking then
        { e with motion := { e.motion with states }, blinkElapsed := 0, nextBlink := e.nextBlink - elapsed }
      else { e with motion := { e.motion with states }, nextBlink := interval, draws := e.draws + 1 }

/-- The blink of an active pet. -/
theorem advanceBlink_spec (hv : e.motion.states.Valid) (hactive : e.motion.states.lifecycle = .active)
    {Q : Unit → PetAnimationEngine → Prop} {R : PetError → PetAnimationEngine → Prop}
    (hQ : Q () (blinked env elapsed e)) :
    Wp (advanceBlink env elapsed) Q R { e with lastAppliedDelta := elapsed } := by
  unfold advanceBlink
  have hsnapshot := snapshot_of_valid e.motion.states hv
  refine wp_bind.mpr
    ((@wp_motionState { e with lastAppliedDelta := elapsed } _ hsnapshot _ _).mpr ?_)
  refine wp_get_bind.mpr ?_
  unfold blinked at hQ
  simp only at hQ
  split
  next hblinking =>
    have hblinking : e.motion.states.behaviors.blinking = true := hblinking
    rw [if_pos hblinking] at hQ
    refine wp_bind.mpr (wp_set.mpr ?_)
    split
    next hover =>
      rw [if_pos hover] at hQ
      simp only [newBlinkInterval, RandomSource.drawUniform, wp_bind, wp_onMotion, wp_onStates,
        Except.ok.injEq, forall_eq', reduceCtorEq, false_implies, implies_true, and_true, wp_onRandom, wp_get,
        wp_set, wp_pure, wp_modify]
      exact hQ
    next hover =>
      rw [if_neg hover] at hQ
      exact hQ
  next hblinking =>
    have hblinking : ¬e.motion.states.behaviors.blinking = true := hblinking
    rw [if_neg hblinking] at hQ
    refine wp_bind.mpr (wp_set.mpr ?_)
    split
    next hdue =>
      rw [if_neg (not_lt.mpr hdue)] at hQ
      obtain ⟨states, hstart⟩ := PetLayeredStateMachine.startBlinking_active hactive
      have hat := startBlinking_at hv hstart
      rw [hstart] at hQ
      simp only [wp_bind, wp_onMotion, wp_onStates, hstart, Except.ok.injEq, forall_eq',
        reduceCtorEq, false_implies, implies_true, and_true]
      refine (PetMotionModel.wp_state ?_ _ _).mpr ?_
      · exact hat.valid
      · split
        next hblinks =>
          have hblinks : states.behaviors.blinking = true := hblinks
          simp only [if_pos hblinks] at hQ
          exact hQ
        next hblinks =>
          have hblinks : ¬states.behaviors.blinking = true := hblinks
          simp only [if_neg hblinks] at hQ
          simp only [newBlinkInterval, RandomSource.drawUniform, wp_bind, wp_onRandom, wp_get, wp_set, wp_pure,
            wp_modify]
          exact hQ
    next hdue =>
      rw [if_pos (not_le.mp hdue)] at hQ
      exact hQ

/-- A blink touches the behaviors, the blink's own clock, and the number of draws. -/
theorem blinked_frame (hv : e.motion.states.Valid) : ∃ states blinkElapsed nextBlink draws,
      states.At e.motion.states.lifecycle e.motion.states.motion e.motion.states.activity
      ∧ blinked env elapsed e
        = { e with
            motion := { e.motion with states }, lastAppliedDelta := elapsed, blinkElapsed, nextBlink, draws } := by
  unfold blinked
  simp only
  split
  next =>
    split
    next => exact ⟨_, _, _, _, finishBlinking_at hv, rfl⟩
    next => exact ⟨_, _, _, _, hv.at, rfl⟩
  next =>
    split
    next => exact ⟨_, _, _, _, hv.at, rfl⟩
    next =>
      split
      next => exact ⟨_, _, _, _, hv.at, rfl⟩
      next states hstart =>
        have hat := startBlinking_at hv hstart
        split <;> exact ⟨_, _, _, _, hat, rfl⟩

/-! ## The random action -/

/-- The event the tick asks for after its blink: an idle pet that only breathes and whose interval is over
walks or thinks, as the draw selects. -/
def randomEvent (env : EngineEnv) (elapsed : Rat) (e : PetAnimationEngine) : Option PetAnimationEvent :=
  if e.motion.states.motion ≠ .idle ∨ e.motion.states.behaviors ≠ { breathing := true }
      ∨ 0 < e.nextRandomAction - elapsed then none
  else
    let selection := env.rng.randrange e.draws 3
    let requestToken : ObjectId := .fresh e.objects
    if selection = 0 then some { eventType := .startWalking, requestToken, facing := some .left }
    else if selection = 1 then some { eventType := .startWalking, requestToken, facing := some .right }
    else some { eventType := .startThinking, requestToken }

/-- The engine when the random event is handled. -/
def drawn (elapsed : Rat) (e : PetAnimationEngine) : PetAnimationEngine :=
  { e with nextRandomAction := e.nextRandomAction - elapsed, draws := e.draws + 1, objects := e.objects + 1 }

/-- A random action is the handling of its event. -/
theorem advanceRandomAction_spec (hsequencing : productionSequencingEnabled env = true)
    (hv : e.motion.states.Valid) (huntimed : e.actionRemaining ≤ 0)
    {Q : Unit → PetAnimationEngine → Prop} {R : PetError → PetAnimationEngine → Prop}
    (hnone : randomEvent env elapsed e = none → ∀ next, Q () { e with nextRandomAction := next })
    (hsome : ∀ event, randomEvent env elapsed e = some event →
      Wp (handleEvent env event) (fun _ => Q ()) R (e.drawn elapsed)) :
    Wp (advanceRandomAction env elapsed) Q R e := by
  have hsnapshot := snapshot_of_valid e.motion.states hv
  unfold advanceRandomAction
  refine wp_bind.mpr ((wp_motionState hsnapshot _ _).mpr ?_)
  refine wp_get_bind.mpr ?_
  split
  next hstays =>
    have hstays := hstays.resolve_left (not_lt.mpr huntimed)
    exact hnone (if_pos (hstays.imp_right .inl)) e.nextRandomAction
  next hidle =>
    rw [not_or, not_or, not_not, not_not] at hidle
    obtain ⟨-, hmotion, hbehaviors⟩ := hidle
    have hmotion : e.motion.states.motion = .idle := hmotion
    have hbehaviors : e.motion.states.behaviors = { breathing := true } := hbehaviors
    refine wp_bind.mpr (wp_set.mpr ?_)
    split
    next hwaits => exact hnone (if_pos (.inr (.inr hwaits))) _
    next hdue =>
      have hevent : randomEvent env elapsed e = _ :=
        if_neg (by rw [hmotion, hbehaviors]; simpa using hdue)
      simp only at hevent
      simp only [requestRandomAction, RandomSource.drawRandrange, wp_bind, wp_onRandom, wp_get, wp_set, wp_pure]
      split
      next hzero =>
        rw [if_pos hzero] at hevent
        simp only [requestWalk, hsequencing, if_true, submitNewEvent, wp_bind, wp_newObject]
        exact hsome _ hevent
      next hzero =>
        rw [if_neg hzero] at hevent
        split
        next hone =>
          rw [if_pos hone] at hevent
          simp only [requestWalk, hsequencing, if_true, submitNewEvent, wp_bind, wp_newObject]
          exact hsome _ hevent
        next hone =>
          rw [if_neg hone] at hevent
          simp only [requestThinkingAnimation, hsequencing, if_true, submitNewEvent, wp_bind, wp_newObject]
          exact hsome _ hevent

/-! ## The physical step -/

/-- The fall lands while the animation of the release still plays. -/
def LandsUnderRelease (e : PetAnimationEngine) (elapsed : Rat) (workspaces : List Rect) : Prop :=
  e.motion.states.lifecycle = .active ∧ e.motion.states.motion = .falling
    ∧ e.track0.state.desiredAction = some .dragEnd ∧ PetMotionModel.ReachesGround e.motion elapsed workspaces

/-- A walk that is not a production action turns at the edge of the workspace. -/
def TurnsUnannounced (e : PetAnimationEngine) (elapsed : Rat) (workspaces : List Rect) : Prop :=
  Walks e.motion ∧ e.track0.state.health = .healthy
    ∧ ¬(e.activeProductionAction = some .moveLeft ∨ e.activeProductionAction = some .moveRight)
    ∧ LeavesWorkspace e.motion elapsed workspaces

/-- Adopting the running Relax changes its owner and enters autonomy, or suspends the pet. -/
theorem finishRelaxMotionRecovery_maintains (hs : Sound env t0 e) :
    Maintains env t0 True True (finishRelaxMotionRecovery env t0) e := by
  have hsuspended : ∀ {e' : PetAnimationEngine} {α : Type} (a : α), e'.motion = e.motion →
      e'.track0 = e.track0 → e'.actionRemaining = e.actionRemaining →
      e'.autonomousResumeAction = e.autonomousResumeAction →
      Wp (do setMode .suspended; return a) (fun _ => Keeps env t0 True True e)
        (fun error e'' => Keeps env t0 True True e e'' ∧ (True → Compatible e → error ≠ .animationCompatibility))
        e' := by
    intro e' α a hm ht hr ha
    refine wp_bind.mpr ((wp_setMode _ _ _).mpr ?_)
    exact .of_frame hs hm ht (hr ▸ hs.untimed) ha (.inl rfl)
  obtain ⟨request, hmake⟩ := make_ok .productionRelax (.fresh e.objects) e.motion.states.epoch
    (show ActionSource.scheduler ∈ sourcesByOrigin .autonomous by decide) (by decide)
  obtain ⟨hname, hclass, hprotected, -, -, -⟩ := make_policy hmake
  unfold finishRelaxMotionRecovery
  refine wp_get_bind.mpr ?_
  split
  next => exact hsuspended _ rfl rfl rfl rfl
  next =>
    refine wp_bind.mpr (wp_newObject.mpr ?_)
    refine wp_bind.mpr (wp_getOrRaise.mpr
      ⟨fun made hmade => ?_, fun error herror => absurd (hmake.symm.trans herror) (by simp)⟩)
    obtain rfl := Except.ok.inj (hmake.symm.trans hmade)
    refine wp_bind.mpr (wp_onTrack0.mpr ?_)
    refine PetTrack0Controller.adoptActivePlayback_spec.mono (fun o track0 hend => ?_) (fun _ _ h => h.elim)
    obtain ⟨ho, rfl⟩ | ⟨rfl, hpre, hadopts, rfl⟩ := hend
    · rw [if_pos ho]
      exact hsuspended _ rfl rfl rfl rfl
    · rw [if_neg (not_not.mpr rfl)]
      refine wp_modify_bind.mpr (wp_bind.mpr ?_)
      have hperformable : Performable t0 .productionRelax := hname ▸ (preflight_accepted hclass hprotected).mp hpre
      rw [hname] at hadopts
      obtain hstopped | ⟨old, p, hperforms, hmem⟩ := hs.track
      · simp [PetTrack0Controller.adopts, hstopped.active] at hadopts
      · have hplaying := hperforms.playing
        have haction : p.step.action = .idle := by
          obtain ⟨epoch, _, hconfirmed, _⟩ := hplaying.confirmed
          have hsteps : (sequenceCatalog .productionRelax).sequence.steps = [step .idle true] := rfl
          simp only [PetTrack0Controller.adopts, hplaying.active, hplaying.progress, hconfirmed, hsteps,
            decide_eq_true_eq] at hadopts
          exact hadopts.1
        have hsequence : p.sequence = (sequenceCatalog .productionRelax).sequence :=
          hperforms.sequence.trans
            (idle_sequence hmem (hperforms.sequence ▸ PetTrack0Controller.step_mem p) haction)
        have hloops : p.step.loop = true ∧ p.sequence.loopExitIndex = none := by
          have hmem : p.step ∈ (sequenceCatalog .productionRelax).sequence.steps :=
            hsequence ▸ PetTrack0Controller.step_mem p
          have hsteps : (sequenceCatalog .productionRelax).sequence.steps = [step .idle true] := rfl
          rw [hsteps, List.mem_singleton] at hmem
          exact ⟨by rw [hmem]; rfl, by rw [hsequence]; rfl⟩
        have hadopted : Performs t0 { e.track0 with activeRequest := some request } request p :=
          ⟨{ hplaying with active := rfl }, by rw [hname]; exact hsequence, hprotected⟩
        refine (activateAutonomous_spec ?_ (by decide)).mono (fun _ e' hactivated => ?_) (fun _ _ h => h.elim)
        · exact hplaying.confirmedEpoch.2
        · obtain ⟨hkept, hwatched⟩ : Keeps env t0 True False _ e' ∧ Watched env e' := hactivated.keeps
            ⟨hs.valid, hs.turn, hs.untimed, hs.resume,
              .inr ⟨request, p, hadopted, hname ▸ productionSequence_performed env .relax⟩⟩ hperformable
            ⟨p, hplaying.progress, hloops⟩
          refine (assert_maintains hkept.sound ActionOutcome.accepted).after ?_
          exact ⟨hkept.sound, fun _ hc => hkept.compatible trivial hc, fun _ _ => hwatched⟩

theorem recoverLanding_maintains (htrack : env.track0 = some t0) (hs : Sound env t0 e)
    (previousMotion motion : PetMotionState) :
    Maintains env t0 True True (recoverLanding env previousMotion motion) e := by
  unfold recoverLanding
  split
  next =>
    simp only [htrack]
    exact wp_map.mpr (finishRelaxMotionRecovery_maintains hs)
  next => exact .refl hs

/-- An explicit walk that reached the edge gives way to the autonomous Relax. -/
theorem recoverExplicitBoundary_maintains (hs : Sound env t0 e) :
    Maintains env t0 (Performable t0 .productionRelax) True (recoverExplicitBoundary env t0) e := by
  unfold recoverExplicitBoundary
  refine wp_bind.mpr ((wp_interrupt _ _).mpr ?_)
  refine wp_bind.mpr (wp_onTrack0.mpr ?_)
  refine (PetTrack0Controller.clear_spec _).mono (fun answer track0 hcleared => ?_) (fun _ _ h => h.elim)
  obtain ⟨hstopped, hanswer⟩ := hcleared
  have hsound : Sound env t0 { e.interrupted with track0 } :=
    ⟨hs.valid, hs.turn, hs.untimed, hs.resume, .inl hstopped⟩
  obtain ⟨rfl, -⟩ | ⟨rfl, hunknown⟩ := hanswer
  · rw [if_neg (not_not.mpr rfl)]
    refine (recoverAutonomousRelax_spec hsound none).mono (fun _ e' hr => ?_) (fun _ _ h => h.elim)
    exact ⟨hr.keeps.sound, fun hrelax _ => hr.freed hstopped hrelax, fun _ _ => hr.watched⟩
  · rw [if_pos (by decide)]
    refine ⟨hsound, fun _ _ => ?_, fun _ _ => watched_of_mode (by simp [interrupted])⟩
    exact compatible_of_unhealthy hsound.valid hstopped.desired (by simp [hunknown])

/-- An autonomous walk that reached the edge turns round. -/
theorem commitWorkspaceBoundaryTurn_maintains (hs : Sound env t0 e) (direction : PetFacing) :
    Maintains env t0 True True (commitWorkspaceBoundaryTurn env t0 direction) e := by
  have hloop : (if direction = .left then ProductionAction.moveLeft else .moveRight).isProtected = false := by
    split <;> rfl
  have hs₁ : Sound env t0 { e with
      pendingExplicitAction := none, resumeAfterProtected := false, executionMode := .suspended
      objects := e.objects + 1 } := ⟨hs.valid, hs.turn, hs.untimed, hs.resume, hs.track⟩
  unfold commitWorkspaceBoundaryTurn
  refine wp_bind.mpr (wp_clearProtectedContinuation.mpr ?_)
  refine wp_bind.mpr ((wp_setMode _ _ _).mpr ?_)
  refine wp_bind.mpr (wp_newObject.mpr ?_)
  refine wp_bind.mpr
    ((submitProductionIntent_spec hs₁.valid none).mono (fun o e₁ hsubmitted => ?_) (fun _ _ h => h.elim))
  have hkeeps := hsubmitted.keeps hs₁
  split
  next ho =>
    subst ho
    refine (hsubmitted.activates hs₁ hloop (by simp)).mono (fun _ e₂ hr => ?_) (fun _ _ h => h.elim)
    exact ⟨hr.keeps.sound, fun _ hc => hr.keeps.compatible trivial hc, fun _ _ => hr.watched⟩
  next ho =>
    refine ⟨hkeeps.sound, fun _ hc => hkeeps.compatible trivial hc, fun _ _ => ?_⟩
    cases hsubmitted with
    | continued => exact absurd rfl ho
    | queued => exact absurd rfl ho
    | held => exact absurd rfl ho
    | played => exact absurd rfl ho
    | refused => exact watched_of_mode (by simp)
    | failed => exact watched_of_mode (by simp [refusedByPlayer])

/-- A turn keeps the layers compatible with the track if the walk is a production action, or if nothing is
played anyway. -/
theorem turnAtBoundary_maintains (htrack : env.track0 = some t0) (hs : Sound env t0 e) (direction : PetFacing) :
    Maintains env t0
      (Performable t0 .productionRelax
        ∧ (e.track0.state.health = .healthy →
            e.activeProductionAction = some .moveLeft ∨ e.activeProductionAction = some .moveRight)) True
      (turnAtBoundary env direction) e := by
  unfold turnAtBoundary
  refine wp_get_bind.mpr ?_
  split
  next =>
    simp only [htrack]
    split
    next =>
      refine wp_bind.mpr ?_
      exact (recoverExplicitBoundary_maintains hs).weaken (fun h => h.1) id
    next => exact (commitWorkspaceBoundaryTurn_maintains hs direction).weaken (fun _ => trivial) id
  next hforeign =>
    simp only [PetMotionModel.startWalking, wp_onMotion, wp_bind, wp_onStates, wp_modify]
    refine ⟨fun states hwalk => ?_, fun error herror => ⟨.refl hs, fun _ _ => ?_⟩⟩
    · have hat := startWalking_at hs.valid hwalk
      refine ⟨⟨hat.valid, hs.turn, hs.untimed, hs.resume, hs.track⟩, fun hsafe _ => ?_, fun _ hw => hw⟩
      have hunhealthy : e.track0.state.health ≠ .healthy := fun hhealth => hforeign (hsafe.2 hhealth)
      obtain hstopped | ⟨request, p, hperforms, -⟩ := hs.track
      · exact compatible_of_unhealthy hat.valid hstopped.desired hunhealthy
      · exact absurd hperforms.playing.health hunhealthy
    · rw [startWalking_error herror]
      decide

/-- The physical step maintains the properties unless it lands under the animation of a release, or turns a
walk the engine does not own. -/
theorem advancePhysics_maintains (htrack : env.track0 = some t0) (hs : Sound env t0 e) : Maintains env t0
      (Performable t0 .productionRelax ∧ ¬LandsUnderRelease e elapsed workspaces
        ∧ ¬TurnsUnannounced e elapsed workspaces) True
      (advancePhysics env elapsed workspaces) e := by
  have hsnapshot := snapshot_of_valid e.motion.states hs.valid
  have hlast : ∀ {e' : PetAnimationEngine} {safe : Prop}, Sound env t0 e' →
      Maintains env t0 safe True (onMotion PetMotionModel.snapshot) e' := fun hs' =>
    wp_onMotion.mpr ((wp_snapshot hs'.valid _ _).mpr (.refl hs'))
  -- a step that asks for no turn ends with the recovery of a landing
  have hsettles : ∀ {previous moved : PetMotionState} {e₁ : PetAnimationEngine} {safe : Prop},
      Sound env t0 e₁ → Maintains env t0 safe True
        (do recoverLanding env previous moved; takeTurn env; onMotion PetMotionModel.snapshot) e₁ := by
    intro previous moved e₁ safe hs₁
    refine ((recoverLanding_maintains htrack hs₁ _ _).weaken (fun _ => trivial) id).bind fun _ e₂ hs₂ => ?_
    refine Maintains.bind ?_ fun _ _ hs₃ => hlast hs₃
    unfold takeTurn
    refine wp_bind.mpr (wp_onMotion.mpr ?_)
    simp only [takePendingDirectionTurn, wp_bind, wp_get, wp_set, wp_pure, hs₂.turn]
    exact .of_layers hs₂ rfl rfl rfl hs₂.untimed rfl (.inr ⟨rfl, rfl⟩)
  unfold advancePhysics
  refine wp_bind.mpr ((wp_motionState hsnapshot _ _).mpr ?_)
  refine wp_bind.mpr (wp_onMotion.mpr ?_)
  refine (update_layers hs.valid elapsed workspaces).mono (fun moved motion hmoved => ?_)
    (fun error motion hkept => ?_)
  · cases hmoved with
    | kept hkept =>
      have hkeeps : Keeps env t0 (Performable t0 .productionRelax ∧ ¬LandsUnderRelease e elapsed workspaces
          ∧ ¬TurnsUnannounced e elapsed workspaces) True e { e with motion } :=
        .of_layers hs hkept.1 (hkept.2.trans hs.turn) rfl hs.untimed rfl (.inr ⟨rfl, rfl⟩)
      exact (hsettles hkeeps.sound).after hkeeps
    | turning hwalks hleaves hstates hturn =>
      have hstill : e.motion.states.motion ≠ .landing := by
        obtain ⟨-, hmotion | hmotion⟩ := hwalks <;> rw [hmotion] <;> decide
      have hturned : Keeps env t0 (Performable t0 .productionRelax ∧ ¬LandsUnderRelease e elapsed workspaces
          ∧ ¬TurnsUnannounced e elapsed workspaces) True e
          { e with motion := { motion with pendingDirectionTurn := none } } :=
        .of_layers hs hstates rfl rfl hs.untimed rfl (.inr ⟨rfl, rfl⟩)
      unfold recoverLanding takeTurn
      rw [if_neg fun h => hstill h.2.1]
      refine wp_bind.mpr (wp_pure.mpr ?_)
      refine wp_bind.mpr (wp_bind.mpr (wp_onMotion.mpr ?_))
      simp only [takePendingDirectionTurn, wp_bind, wp_get, wp_set, wp_pure, hturn]
      refine Wp.mono (((turnAtBoundary_maintains htrack hturned.sound _).weaken (fun hsafe => ?_) id).after hturned)
        (fun _ e₂ hkeeps => (hlast hkeeps.sound).after hkeeps) (fun _ _ h => h)
      refine ⟨hsafe.1, fun hhealth => ?_⟩
      by_contra hforeign
      exact hsafe.2.2 ⟨hwalks, hhealth, hforeign, hleaves⟩
    | landed hactive hfalls hreaches hat hturn =>
      have hkeeps : Keeps env t0 (Performable t0 .productionRelax ∧ ¬LandsUnderRelease e elapsed workspaces
          ∧ ¬TurnsUnannounced e elapsed workspaces) True e { e with motion } := by
        refine ⟨⟨hat.valid, hturn.trans hs.turn, hs.untimed, hs.resume, hs.track⟩, fun hsafe hc => ?_, fun _ hw => hw⟩
        obtain hstopped | ⟨request, p, hperforms, -⟩ := hs.track
        · refine compatible_of_unhealthy hat.valid hstopped.desired ?_
          exact (hc.of_none hs.valid hstopped.desired).resolve_right (not_not.mpr hactive)
        · have hdesired := hperforms.playing.desired
          obtain ⟨-, hpermits⟩ := hc.of_some hs.valid hdesired
          rw [hfalls] at hpermits
          exact compatible_of_permits hat rfl hdesired hperforms.playing.health (permits_falling hpermits
            fun hend => hsafe.2.1 ⟨hactive, hfalls, hdesired.trans (by rw [hend]), hreaches⟩)
      exact (hsettles hkeeps.sound).after hkeeps
    | rested hactive hlands hat hturn =>
      have hkeeps : Keeps env t0 (Performable t0 .productionRelax ∧ ¬LandsUnderRelease e elapsed workspaces
          ∧ ¬TurnsUnannounced e elapsed workspaces) True e { e with motion } := by
        refine ⟨⟨hat.valid, hturn.trans hs.turn, hs.untimed, hs.resume, hs.track⟩, fun hsafe hc => ?_, fun _ hw => hw⟩
        obtain hstopped | ⟨request, p, hperforms, hmem⟩ := hs.track
        · refine compatible_of_unhealthy hat.valid hstopped.desired ?_
          exact (hc.of_none hs.valid hstopped.desired).resolve_right (not_not.mpr hactive)
        · have hdesired := hperforms.playing.desired
          obtain ⟨-, hpermits⟩ := hc.of_some hs.valid hdesired
          rw [hlands] at hpermits
          exact compatible_of_permits hat rfl hdesired hperforms.playing.health
            (permits_landing hpermits (hperforms.not_landing hmem))
      exact (hsettles hkeeps.sound).after hkeeps
  · exact ⟨.of_layers hs hkept.1.1 (hkept.1.2.trans hs.turn) rfl hs.untimed rfl (.inr ⟨rfl, rfl⟩),
      fun _ _ => hkept.2⟩

/-! ## The whole tick -/

/-- The walk of a direction. -/
def walkOf (direction : PetFacing) : PetMotionState × SequenceName :=
  match direction with
  | .left => (.walkingLeft, .walkLeft)
  | .right => (.walkingRight, .walkRight)

/-- The tick's random event starts a walk, and the walk turns at the edge in the same tick. -/
def WalksIntoEdge (env : EngineEnv) (t0 : Track0Env) (e : PetAnimationEngine) (elapsed : Rat)
    (workspaces : List Rect) : Prop :=
  ∃ event direction, randomEvent env elapsed e = some event ∧ event.facing = some direction
    ∧ Admits env t0 e event
    ∧ PetTrack0Controller.confirms t0 e.track0
        (RunnerProgress.first (sequenceCatalog (walkOf direction).2).sequence).step = true
    ∧ ¬(e.activeProductionAction = some .moveLeft ∨ e.activeProductionAction = some .moveRight)
    ∧ LeavesWorkspace
        { e.motion with
          horizontalVelocity := PetMotionModel.walkingVelocity e.motion.config (walkOf direction).1 }
        elapsed workspaces

/-- What the random source asks for: a walk in a direction, or a thought. -/
theorem randomEvent_kind (h : randomEvent env elapsed e = some event) : e.motion.states.motion = .idle
      ∧ ((event.eventType = .startWalking ∧ ∃ direction, event.facing = some direction)
        ∨ event.eventType = .startThinking) := by
  unfold randomEvent at h
  split at h
  next => cases h
  next hidle =>
    rw [not_or, not_not] at hidle
    refine ⟨hidle.1, ?_⟩
    simp only at h
    split at h
    next => obtain rfl := Option.some.inj h; exact .inl ⟨rfl, _, rfl⟩
    next =>
      split at h
      next => obtain rfl := Option.some.inj h; exact .inl ⟨rfl, _, rfl⟩
      next => obtain rfl := Option.some.inj h; exact .inr rfl

/-- The motion and the sequence an admitted random event proposes. -/
theorem Submits.random {proposal : ProposedStateTransition} {reason : CancelReason}
    {request : ActionRequest} (h : Submits env e event proposal reason request)
    (hactive : e.motion.states.lifecycle = .active) (hv : e.motion.states.Valid)
    (hkind : (event.eventType = .startWalking ∧ ∃ direction, event.facing = some direction)
      ∨ event.eventType = .startThinking) :
    (∃ direction, event.facing = some direction ∧ proposal.targetState.motion = (walkOf direction).1
        ∧ request.sequenceName = (walkOf direction).2)
      ∨ proposal.targetState.motion = .idle := by
  obtain ⟨change, hchange, hpropose, -⟩ := h
  have hmotion : ∀ (change : StateChange) (motion : PetMotionState), change.motion = some motion →
      change.lifecycle = none → e.motion.states.propose change = .ok proposal →
      proposal.targetState.motion = motion := by
    intro change motion hm hl hpropose
    have hresets : change.Resets := .inl (by rw [hm]; rfl)
    have hlifecycle : (e.motion.states.state hv).lifecycle = .active := hactive
    rw [e.motion.states.propose_eq (snapshot_of_valid _ hv) hresets] at hpropose
    obtain rfl := Except.ok.inj hpropose
    simp only [PetLayeredStateMachine.proposal, targetLayers, hm, hl, hlifecycle,
      Option.getD_none, Option.getD_some]
    split_ifs <;> rfl
  unfold eventChange at hchange
  obtain ⟨hevent, direction, hfacing⟩ | hevent := hkind
  · rw [hevent] at hchange
    simp only [hfacing] at hchange
    refine .inl ⟨direction, hfacing, ?_⟩
    cases direction <;>
      · simp only [Except.ok.injEq, Prod.mk.injEq, Option.some.injEq] at hchange
        obtain ⟨rfl, hname, -⟩ := hchange
        exact ⟨hmotion _ _ rfl rfl hpropose, hname.symm⟩
  · rw [hevent] at hchange
    simp only [Except.ok.injEq, Prod.mk.injEq, Option.some.injEq] at hchange
    obtain ⟨rfl, -, -⟩ := hchange
    exact .inr (hmotion _ _ rfl rfl hpropose)

/-- The draw changes nothing of what decides about the event. -/
theorem admits_drawn : Admits env t0 (e.drawn elapsed) event ↔ Admits env t0 e event := Iff.rfl

/-- After the random event the physical step lands under no release, and it turns no walk but one that was
just started. -/
theorem Handled.random {o : ActionOutcome} {e' : PetAnimationEngine}
    (hevent : randomEvent env elapsed e = some event) (hv : e.motion.states.Valid)
    (hactive : e.motion.states.lifecycle = .active)
    (h : Handled env t0 ((e.drawn elapsed).prepared event) event o e') :
    ¬LandsUnderRelease e' elapsed workspaces
      ∧ (TurnsUnannounced e' elapsed workspaces → WalksIntoEdge env t0 e elapsed workspaces) := by
  obtain ⟨hidle, hkind⟩ := randomEvent_kind hevent
  have hprepared : (e.drawn elapsed).prepared event = e.drawn elapsed := by
    unfold prepared
    obtain ⟨hk, -⟩ | hk := hkind <;> simp [hk, PetAnimationEventType.isMandatoryInterruption]
  rw [hprepared] at h
  cases h with
  | cleared _ _ _ hcleared =>
    obtain ⟨hk, -⟩ | hk := hkind <;> simp [hk] at hcleared
  | resumed _ _ _ _ hresume =>
    obtain ⟨hk, -⟩ | hk := hkind <;> simp [hk] at hresume
  | contained o proposal reason request track0 hsubmits hmandatory =>
    obtain ⟨change, hchange, hpropose, -⟩ := hsubmits
    have hfall := mandatory_of_eventChange hchange
      (((e.drawn elapsed).motion.states.propose_source hpropose).2.1.symm.trans hmandatory)
    obtain ⟨hk, -⟩ | hk := hkind <;> simp [hk] at hfall
  | refused =>
    refine ⟨fun hlands => ?_, fun hturns => ?_⟩
    · exact absurd (hidle.symm.trans hlands.2.1) (by decide)
    · obtain hm | hm := hturns.1.2 <;> exact absurd (hidle.symm.trans hm) (by decide)
  | failed o proposal track0 hadmits hcontained =>
    refine ⟨fun hlands => ?_, fun hturns => absurd hturns.2.1 hcontained.health⟩
    exact absurd (hcontained.stopped.desired.symm.trans hlands.2.2.1) (by simp)
  | played proposal reason request track0 hadmits hsubmits hperforms hconfirms =>
    obtain ⟨direction, hfacing, hmotion, hname⟩ | hmotion := hsubmits.random hactive hv hkind
    · refine ⟨fun hlands => ?_, fun hturns => ?_⟩
      · have hfalls : proposal.targetState.motion = .falling := hlands.2.1
        rw [hmotion] at hfalls
        cases direction <;> cases hfalls
      · rw [hname] at hconfirms
        refine ⟨event, direction, hevent, hfacing, admits_drawn.mp hadmits, hconfirms, hturns.2.2.1, ?_⟩
        rw [← hmotion]
        exact hturns.2.2.2
    · refine ⟨fun hlands => ?_, fun hturns => ?_⟩
      · exact absurd (hmotion.symm.trans hlands.2.1) (by decide)
      · obtain hm | hm := hturns.1.2 <;> exact absurd (hmotion.symm.trans hm) (by decide)

/-- The share of the elapsed time a tick applies. -/
def applied (env : EngineEnv) (elapsedSeconds : Rat) : Rat := min elapsedSeconds env.config.maximumDeltaSeconds

/-- The tick's random event plays its own sequence and leaves the autonomous mode on. -/
def TickOvertakes (env : EngineEnv) (t0 : Track0Env) (e : PetAnimationEngine) (elapsedSeconds : Rat) : Prop :=
  let b := blinked env (applied env elapsedSeconds) e
  0 ≤ elapsedSeconds ∧ e.motion.states.lifecycle = .active
    ∧ ∃ event, randomEvent env (applied env elapsedSeconds) b = some event ∧ Overtakes env t0 b event

/-- The tick moves the layers away from what the track plays: it lands under a release, or turns a walk no
production action announced, be it under way or just started. -/
def TickStrands (env : EngineEnv) (t0 : Track0Env) (e : PetAnimationEngine) (elapsedSeconds : Rat)
    (workspaces : List Rect) : Prop :=
  let elapsed := applied env elapsedSeconds
  0 ≤ elapsedSeconds ∧ e.motion.states.lifecycle = .active
    ∧ (LandsUnderRelease e elapsed workspaces ∨ TurnsUnannounced e elapsed workspaces
        ∨ WalksIntoEdge env t0 (blinked env elapsed e) elapsed workspaces)

/-- A timed action that is over has nothing to advance. -/
theorem wp_advanceAction (huntimed : e.actionRemaining ≤ 0) (Q : Unit → PetAnimationEngine → Prop)
    (R : PetError → PetAnimationEngine → Prop) : Wp (advanceAction env elapsed) Q R e ↔ Q () e := by
  unfold advanceAction
  rw [wp_bind, wp_get, if_pos huntimed, wp_pure]

/-- A tick of a sound engine: outside the active lifecycle it is a physical step of no length; inside, the random action
and the physical step follow the blink. -/
theorem advance_spec (hs : Sound env t0 e) {Q : PetMotionSnapshot → PetAnimationEngine → Prop}
    {R : PetError → PetAnimationEngine → Prop} (hback : R (.value "Elapsed animation time must not be negative.") e)
    (hrests : e.motion.states.lifecycle ≠ .active →
      Wp (onMotion (PetMotionModel.update 0 workspaces)) Q R { e with lastAppliedDelta := 0 })
    (hacts : 0 ≤ elapsed → e.motion.states.lifecycle = .active → Sound env t0 (blinked env (applied env elapsed) e) →
      Wp (do
        advanceRandomAction env (applied env elapsed)
        advancePhysics env (applied env elapsed) workspaces) Q R (blinked env (applied env elapsed) e)) :
    Wp (advance env elapsed workspaces) Q R e := by
  unfold advance
  refine wp_ite.mpr ⟨fun _ => hback, fun hforward => wp_bind.mpr ?_⟩
  refine (wp_motionState (snapshot_of_valid _ hs.valid) _ _).mpr ?_
  refine wp_ite.mpr ⟨fun hinactive => wp_modify_bind.mpr (hrests hinactive), fun hactive => ?_⟩
  have hactive : e.motion.states.lifecycle = .active := not_not.mp hactive
  refine wp_modify_bind.mpr (wp_bind.mpr ((wp_advanceAction ?_ _ _).mpr ?_))
  · exact hs.untimed
  · refine wp_bind.mpr (advanceBlink_spec hs.valid hactive (hacts (not_lt.mp hforward) hactive ?_))
    obtain ⟨_, _, _, _, hat, hblinked⟩ := @blinked_frame env e (applied env elapsed) hs.valid
    rw [hblinked]
    exact ⟨hat.valid, hs.turn, hs.untimed, hs.resume, hs.track⟩

/-- Outside the active lifecycle a tick only keeps the window in its workspace. -/
theorem update_inactive_maintains {safe calm : Prop} (hs : Sound env t0 e)
    (hinactive : e.motion.states.lifecycle ≠ .active) :
    Maintains env t0 safe calm (onMotion (PetMotionModel.update elapsed workspaces)) e := by
  refine wp_onMotion.mpr ?_
  refine (update_layers hs.valid elapsed workspaces).mono (fun _ motion hmoved => ?_)
    (fun error motion hraised => ?_)
  · cases hmoved with
    | kept hkept =>
      exact .of_layers hs hkept.1 (hkept.2.trans hs.turn) rfl hs.untimed rfl (.inr ⟨rfl, rfl⟩)
    | turning hwalks => exact absurd hwalks.1 hinactive
    | landed hactive => exact absurd hactive hinactive
    | rested hactive => exact absurd hactive hinactive
  · exact ⟨.of_layers hs hraised.1.1 (hraised.1.2.trans hs.turn) rfl hs.untimed rfl (.inr ⟨rfl, rfl⟩),
      fun _ _ => hraised.2⟩

/-- A tick maintains the properties unless it strands the layers, or its random event overtakes the
scheduler. -/
theorem advance_maintains (htrack : env.track0 = some t0)
    (hsequencing : sequencingEnabled t0.player.capabilities = true) (hs : Sound env t0 e)
    (elapsedSeconds : Rat) (workspaces : List Rect) :
    Maintains env t0 (Performable t0 .productionRelax ∧ ¬TickStrands env t0 e elapsedSeconds workspaces)
      (¬TickOvertakes env t0 e elapsedSeconds) (advance env elapsedSeconds workspaces) e := by
  refine advance_spec hs ⟨.refl hs, fun _ _ => by decide⟩ (fun hinactive => ?_) fun hforward hactive hsound => ?_
  · have hkept : Keeps env t0
        (Performable t0 .productionRelax ∧ ¬TickStrands env t0 e elapsedSeconds workspaces)
        (¬TickOvertakes env t0 e elapsedSeconds) e { e with lastAppliedDelta := 0 } :=
      .of_frame hs rfl rfl hs.untimed rfl (.inr ⟨rfl, rfl⟩)
    exact (update_inactive_maintains hkept.sound hinactive).after hkept
  · obtain ⟨states, blinkElapsed, nextBlink, draws, hat, hblinked⟩ :=
      @blinked_frame env e (applied env elapsedSeconds) hs.valid
    have hb : Keeps env t0
        (Performable t0 .productionRelax ∧ ¬TickStrands env t0 e elapsedSeconds workspaces)
        (¬TickOvertakes env t0 e elapsedSeconds) e (blinked env (applied env elapsedSeconds) e) := by
      refine ⟨hsound, ?_, ?_⟩ <;> rw [hblinked]
      · exact fun _ hc => hc.of_at hs.valid hat rfl
      · exact fun _ hw => hw
    -- what the blink and the draw leave alone decides about the physical step
    have hquiet : ∀ e₁ : PetAnimationEngine, e₁.track0 = e.track0 →
        e₁.activeProductionAction = e.activeProductionAction →
        e₁.motion = (blinked env (applied env elapsedSeconds) e).motion →
        ¬TickStrands env t0 e elapsedSeconds workspaces →
        ¬LandsUnderRelease e₁ (applied env elapsedSeconds) workspaces
          ∧ ¬TurnsUnannounced e₁ (applied env elapsedSeconds) workspaces := by
      intro e₁ ht ha hm hsafe
      rw [hblinked] at hm
      refine ⟨fun hlands => hsafe ⟨hforward, hactive, .inl ?_⟩,
        fun hturns => hsafe ⟨hforward, hactive, .inr (.inl ?_)⟩⟩
      · unfold LandsUnderRelease at hlands ⊢
        rw [hm, ht] at hlands
        exact ⟨hactive, hat.motion.symm.trans hlands.2.1, hlands.2.2⟩
      · unfold TurnsUnannounced at hturns ⊢
        rw [hm, ht, ha] at hturns
        exact ⟨⟨hactive, hturns.1.2.imp hat.motion.symm.trans hat.motion.symm.trans⟩, hturns.2⟩
    refine wp_bind.mpr (advanceRandomAction_spec (by simp [productionSequencingEnabled, htrack,
      hsequencing]) hb.sound.valid hb.sound.untimed (fun _ next => ?_) (fun event hevent => ?_))
    · have hkept : Keeps env t0
          (Performable t0 .productionRelax ∧ ¬TickStrands env t0 e elapsedSeconds workspaces)
          (¬TickOvertakes env t0 e elapsedSeconds) e
          { blinked env (applied env elapsedSeconds) e with nextRandomAction := next } :=
        hb.trans (.of_frame hb.sound rfl rfl hb.sound.untimed rfl (.inr ⟨rfl, rfl⟩))
      refine ((advancePhysics_maintains htrack hkept.sound).weaken (fun hsafe => ⟨hsafe.1, ?_⟩)
        (fun _ => trivial)).after hkept
      refine hquiet _ ?_ ?_ ?_ hsafe.2 <;> simp only [hblinked]
    · have hdrawn : Sound env t0 ((blinked env (applied env elapsedSeconds) e).drawn (applied env elapsedSeconds)) :=
        ⟨hb.sound.valid, hb.sound.turn, hb.sound.untimed, hb.sound.resume, hb.sound.track⟩
      refine (handleEvent_spec htrack).mono (fun o e₁ hhandled => ?_) (fun error e₁ hraised => ?_)
      · have hkept : Keeps env t0
            (Performable t0 .productionRelax ∧ ¬TickStrands env t0 e elapsedSeconds workspaces)
            (¬TickOvertakes env t0 e elapsedSeconds) e e₁ := by
          have hkeeps := (hhandled.keeps hdrawn).mono
            (fun _ : Performable t0 .productionRelax ∧ ¬TickStrands env t0 e elapsedSeconds workspaces => trivial)
            (fun (hcalm : ¬TickOvertakes env t0 e elapsedSeconds) hovertakes =>
              hcalm ⟨hforward, hactive, event, hevent, hovertakes⟩)
          exact ⟨hkeeps.sound, fun hsafe hc => hkeeps.compatible hsafe (hb.compatible hsafe hc),
            fun hcalm hw => hkeeps.watched hcalm (hb.watched hcalm hw)⟩
        have hedge : ¬LandsUnderRelease e₁ (applied env elapsedSeconds) workspaces
            ∧ (TurnsUnannounced e₁ (applied env elapsedSeconds) workspaces → WalksIntoEdge env t0
              (blinked env (applied env elapsedSeconds) e) (applied env elapsedSeconds) workspaces) :=
          hhandled.random hevent hb.sound.valid (by rw [hblinked]; exact hat.lifecycle.trans hactive)
        refine ((advancePhysics_maintains htrack hkept.sound).weaken (fun hsafe => ⟨hsafe.1, hedge.1, ?_⟩)
          (fun _ => trivial)).after hkept
        exact fun hturns => hsafe.2 ⟨hforward, hactive, .inr (.inr (hedge.2 hturns))⟩
      · obtain ⟨rfl, hraised⟩ := hraised
        refine ⟨?_, fun _ _ => hraised.not_compatibility⟩
        have hkeeps : Keeps env t0
            (Performable t0 .productionRelax ∧ ¬TickStrands env t0 e elapsedSeconds workspaces)
            (¬TickOvertakes env t0 e elapsedSeconds) _ _ := prepared_keeps hdrawn event
        exact ⟨hkeeps.sound, fun hsafe hc => hkeeps.compatible hsafe (hb.compatible hsafe hc),
          fun hcalm hw => hkeeps.watched hcalm (hb.watched hcalm hw)⟩

end PetAnimationEngine

end ArkClaw.Pet
