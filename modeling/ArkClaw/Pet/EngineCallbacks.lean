import ArkClaw.Pet.EngineInvariant

/-!
# What the engine does with a renderer callback

A callback of another playback changes nothing, and it is answered as stale exactly if the layers were
compatible with the track before it came. A callback of the running playback keeps the engine sound; it may
leave the pet with nothing to play, or return it to idle without telling the layers. `Strands` lists how.
-/

namespace ArkClaw.Pet

open ArkClaw.Library
open PetTrack0Controller (handleCompletion_stale Stopped clear_spec play_spec Playing PlayedOr
  handleCompletion_loops handleCompletion_exits)

namespace PetAnimationEngine

section

variable {env : EngineEnv} {t0 : Track0Env} {e e' : PetAnimationEngine} {event : PlaybackEvent}

/-! ## Callbacks of another playback -/

/-- The callback names the playback the runner has confirmed: its generation, its action, its physical name,
and its token. -/
def Identifies (e : PetAnimationEngine) (event : PlaybackEvent) : Prop :=
  ∃ epoch : ConfirmedPlaybackEpoch, e.track0.runner.confirmedEpoch = some epoch
    ∧ event.generation = epoch.generation ∧ event.logicalAction = epoch.logicalAction
    ∧ event.physicalName = epoch.physicalName ∧ event.playbackToken = epoch.playbackToken

theorem identifies_of_matches (h : e.callbackMatchesSnapshot event = true) : Identifies e event := by
  unfold callbackMatchesSnapshot PetSequenceRunner.eventMatchesCurrentEpoch at h
  split at h
  next epoch p hepoch _ =>
    simp only [decide_eq_true_eq] at h
    exact ⟨epoch, hepoch, h.1, h.2.1, h.2.2.2.1, h.2.2.2.2⟩
  next => cases h

/-- The callback is not that of the running playback. -/
theorem handleCompletion_foreign (h : ¬e.callbackMatchesSnapshot event = true)
    {continuation : Option ActionRequest} (Q : ActionOutcome → PetAnimationEngine → Prop)
    (R : PetError → PetAnimationEngine → Prop) :
    Wp (onTrack0 (PetTrack0Controller.handleCompletion t0 event continuation)) Q R e
      ↔ Q .staleCompletion e :=
  wp_onTrack0.trans (handleCompletion_stale (.inl h) _ _)

/-- A callback that does not name the confirmed playback is answered as stale and changes nothing, exactly
if the layers are compatible with the track when it comes. -/
theorem foreignCallback_iff (htrack : env.track0 = some t0) (hother : ¬Identifies e event)
    (facing : Option PetFacing) :
    Wp (handlePlaybackEvent env event facing) (fun o e' => o = .staleCompletion ∧ e' = e)
      (fun _ _ => False) e ↔ Compatible e := by
  have hforeign : ¬e.callbackMatchesSnapshot event = true := fun h => hother (identifies_of_matches h)
  have hfalse : e.callbackMatchesSnapshot event = false := by simpa using hforeign
  unfold handlePlaybackEvent
  simp only [htrack, wp_bind, wp_get, hfalse, Bool.not_false, if_true]
  rw [handleCompletion_foreign hforeign]
  cases hs : e.motion.states.snapshot with
  | ok state =>
    rw [wp_assertTransactionCompatible hs]
    exact ⟨fun h => by_contra h.2, fun h => ⟨fun _ => ⟨rfl, rfl⟩, fun hn => hn h⟩⟩
  | error error =>
    simp only [assertTransactionCompatible, PetMotionModel.state, wp_bind, wp_onMotion, wp_get,
      wp_getOrRaise, hs]
    refine ⟨fun h => (h.2 error rfl).elim, ?_⟩
    rintro ⟨state, hs', -⟩
    rw [hs] at hs'
    cases hs'

end

/-- The callback a pet receives from a playback that is gone. -/
def lateCallback : PlaybackEvent :=
  { generation := 7, logicalAction := .wave, physicalName := "Wave", playbackToken := .given 7 }

/-- A running Relax answers the late callback as stale. -/
theorem late_callback_while_relaxing : let env := steadyEnv [.idle]
    let e := operate env (steadyEngine [.idle]) .startAutonomous
    ¬Identifies e lateCallback ∧
      (Wp (handlePlaybackEvent env lateCallback none) (fun o e' => o = .staleCompletion ∧ e' = e)
        (fun _ _ => False) e ↔ Compatible e) := by
  have hother : ¬Identifies (operate (steadyEnv [.idle]) (steadyEngine [.idle]) .startAutonomous)
      lateCallback := by
    rintro ⟨epoch, hepoch, hgeneration, -⟩
    cases hepoch
    cases hgeneration
  exact ⟨hother, foreignCallback_iff rfl hother none⟩

/-- A new engine desires nothing of its healthy renderer, and the assertion takes that for a failure: the
late callback raises. -/
theorem late_callback_raises :
    ¬∀ (env : EngineEnv) (t0 : Track0Env) (e : PetAnimationEngine) (event : PlaybackEvent)
      (facing : Option PetFacing), env.track0 = some t0 → Reachable (operate env) (Built env) e →
      ¬Identifies e event →
      Wp (handlePlaybackEvent env event facing) (fun o e' => o = .staleCompletion ∧ e' = e)
        (fun _ _ => False) e := by
  intro h
  have hother : ¬Identifies (steadyEngine [.idle]) lateCallback := by
    rintro ⟨epoch, hepoch, -⟩
    cases hepoch
  exact h (steadyEnv [.idle]) _ (steadyEngine [.idle]) lateCallback none rfl
    ⟨_, [], steadyEngine_built _, rfl⟩ hother

/-! ## What follows the end of a playback -/

section

variable {env : EngineEnv} {t0 : Track0Env} {e : PetAnimationEngine}

/-- No scheduler watches: there is none, or the pet is not autonomous. -/
def Unscheduled (env : EngineEnv) (e : PetAnimationEngine) : Prop :=
  env.hasScheduler = true → e.executionMode ≠ .autonomous

/-- Without a scheduler that watches, any playback will do. -/
theorem Unscheduled.watched {e' : PetAnimationEngine} (h : Unscheduled env e) (hmode : e'.executionMode = e.executionMode := by rfl) :
    Watched env e' := fun hscheduler hautonomous => absurd (hmode.symm.trans hautonomous) (h hscheduler)

/-- What follows a protected playback, on the track it left: the waiting intent or the autonomous Relax
plays, where their sequences can. -/
theorem continueAfterProtected_spec (hs : Sound env t0 e)
    (hstopped : Stopped e.track0) (facing : Option PetFacing) :
    Wp (continueAfterProtected env t0 facing)
      (fun _ e' => Sound env t0 e' ∧ (Unscheduled env e → Watched env e') ∧
        (Performable t0 .productionRelax →
          (∀ pending, e.pendingExplicitAction = some pending →
            Performable t0 (productionSequenceByAction pending.action)) → Compatible e'))
      (fun _ _ => False) e := by
  simp only [continueAfterProtected, wp_bind, wp_get, wp_clearProtectedContinuation, wp_modify]
  cases hpending : e.pendingExplicitAction with
  | none =>
    refine (recoverAutonomousRelax_spec ?_ facing).imp (fun o e' hr => ?_)
    · exact ⟨hs.valid, hs.turn, hs.untimed, hs.resume, hs.track⟩
    · exact ⟨hr.keeps.sound, fun _ => hr.watched, fun hrelax _ => hr.freed hstopped hrelax⟩
  | some pending =>
    refine (submitProductionIntent_spec ?_ none).imp (fun o e' hsubmitted => ?_)
    · exact hs.valid
    · have hkeeps : Keeps env t0 True _ _ _ :=
        hsubmitted.keeps ⟨hs.valid, hs.turn, hs.untimed, hs.resume, hs.track⟩
      refine ⟨hkeeps.sound, fun hmode => hkeeps.watched rfl hmode.watched, fun _ hperformable => ?_⟩
      exact hsubmitted.compatible_of_stopped hs.valid hstopped (hperformable pending rfl)

/-- What follows a release, a fall, or a landing: the track is cleared, and the pet relaxes. -/
theorem continueAfterRecovery_spec (hs : ∀ track0, TrackSound env t0 track0 → Sound env t0 { e with track0 }) :
    Wp (continueAfterRecovery env t0)
      (fun _ e' => Sound env t0 e' ∧ Watched env e' ∧ (Performable t0 .productionRelax → Compatible e'))
      (fun _ _ => False) e := by
  simp only [continueAfterRecovery, wp_bind, wp_onTrack0]
  refine (clear_spec _).imp (fun answer track0 hcleared => ?_)
  obtain ⟨hstopped, ⟨rfl, -⟩ | ⟨rfl, hunknown⟩⟩ := hcleared
  · refine (recoverAutonomousRelax_spec (hs _ (.inl hstopped)) none).imp (fun o e' hr => ?_)
    exact ⟨hr.keeps.sound, hr.watched, hr.freed hstopped⟩
  · have hsound := hs _ (.inl hstopped)
    refine ⟨⟨hsound.valid, hsound.turn, hsound.untimed, hsound.resume, hsound.track⟩,
      watched_of_mode (by simp), fun _ => ?_⟩
    exact compatible_of_unhealthy hsound.valid hstopped.desired (by simp [hunknown])

/-- Idle follows a sequence that has returned to it: the layers of an idle pet permit it. -/
theorem startIdleAfterTerminal_spec (hs : Sound env t0 e) (hstopped : Stopped e.track0) :
    Wp (startIdleAfterTerminal t0)
      (fun _ e' => Sound env t0 e' ∧ (Unscheduled env e → Watched env e') ∧
        (e.motion.states.At .active .idle .none → Compatible e'))
      (fun _ _ => False) e := by
  obtain ⟨request, hmake⟩ := make_ok .idle (.fresh e.objects) e.motion.states.epoch
    (show ActionSource.lifecycle ∈ sourcesByOrigin .system by decide) (by decide)
  obtain ⟨hname, hclass, hprotected, -, -, -⟩ := make_policy hmake
  simp only [startIdleAfterTerminal, wp_bind, wp_newObject, wp_get, wp_getOrRaise, hmake, Except.ok.injEq,
    forall_eq', reduceCtorEq, false_implies, implies_true, and_true]
  split
  next hpre =>
    refine wp_onTrack0.mpr ((PetTrack0Controller.wp_containPreflightFailure _ _ _).mpr ?_)
    have hcontained := PetTrack0Controller.contained_stoppedWith t0 e.track0
      (PetTrack0Controller.clears t0 e.track0)
    refine ⟨⟨hs.valid, hs.turn, hs.untimed, hs.resume, .inl hcontained.stopped⟩, fun hmode => hmode.watched,
      fun _ => compatible_of_unhealthy hs.valid hcontained.stopped.desired hcontained.health⟩
  next hpre =>
    rw [not_not] at hpre
    refine wp_onTrack0.mpr ?_
    refine (play_spec hstopped.active hpre).imp (fun o track0 hplayed => ?_)
    obtain ⟨rfl, hplaying, -, -, -⟩ | ⟨hcontained, -⟩ := hplayed
    · refine ⟨⟨hs.valid, hs.turn, hs.untimed, hs.resume, .inr ⟨request, _, ⟨hplaying, rfl, hprotected⟩, ?_⟩⟩,
        fun hmode => hmode.watched, fun hat => ?_⟩
      · rw [hname]; simp [performedSequences]
      · refine compatible_of_permits hat rfl hplaying.desired hplaying.health ?_
        rw [hname]
        decide
    · exact ⟨⟨hs.valid, hs.turn, hs.untimed, hs.resume, .inl hcontained.stopped⟩, fun hmode => hmode.watched,
        fun _ => compatible_of_unhealthy hs.valid hcontained.stopped.desired hcontained.health⟩

end

/-! ## Callbacks of the running playback -/

/-- The callbacks of the running playback after which the pet is left with nothing to play, or plays what its
layers do not permit. -/
inductive Strands (env : EngineEnv) (t0 : Track0Env) (e : PetAnimationEngine) (event : PlaybackEvent) :
    Prop where
  /-- A numbered boundary goes to the scheduler, and the exit that was asked for plays the return to idle
  without telling the layers. -/
  | unannounced (boundaryIndex : Int) (hindex : event.boundaryIndex = some boundaryIndex)
      (hpositive : 0 < boundaryIndex) (hscheduler : env.hasScheduler = true)
      (hstate : e.autonomousSchedulerState.isSome = true) (hboundary : event.loopBoundary = true)
      (hexit : e.nextActionForCallback event = some .returnIdle)
      (hconfirms : PetTrack0Controller.confirms t0 e.track0 returnIdleStep = true)
  /-- A protected playback ends, and the explicit action that waited for it cannot play. -/
  | unperformable (pending : PendingExplicitIntent) (hcompletes : e.completesProductionProtected event = true)
      (hpending : e.pendingExplicitAction = some pending)
      (hunperformable : ¬Performable t0 (productionSequenceByAction pending.action))
  /-- A protected playback ends, and the engine no longer knows it for one. -/
  | forgotten (hcompletion : event.loopBoundary = false) (hprotected : e.activeRequestIsProtected = true)
      (hforgotten : e.activeProductionAction.any (·.isProtected) = false)

section

variable {env : EngineEnv} {t0 : Track0Env} {e : PetAnimationEngine} {event : PlaybackEvent}
  {request : ActionRequest} {p : RunnerProgress}

/-- Where the callback returns to idle, idle is committed and the request goes on under its epoch. -/
theorem commitReturnIdle_spec (hs : Sound env t0 e) (hperforms : Performs t0 e.track0 request p) :
    Wp (commitReturnIdle event)
      (fun continuation e₁ =>
        (e.nextActionForCallback event ≠ some .returnIdle ∧ continuation = some none ∧ e₁ = e)
        ∨ e.nextActionForCallback event = some .returnIdle ∧ ∃ motion : PetMotionModel,
            motion.states.At .active .idle .none
            ∧ motion.pendingDirectionTurn = e.motion.pendingDirectionTurn
            ∧ continuation = some (some { request with semanticEpoch := e.motion.states.epoch + 1 })
            ∧ e₁ = { e with motion })
      (fun error e₁ => e₁ = e ∧ (Compatible e → error ≠ .animationCompatibility)) e := by
  have hsnapshot := PetLayeredStateMachine.snapshot_of_valid e.motion.states hs.valid
  have hresets : ({ motion := some .idle, activity := some .none } : StateChange).Resets := .inl rfl
  have hpropose := e.motion.states.propose_eq hsnapshot hresets
  simp only [commitReturnIdle, wp_bind, wp_get]
  split
  next hnext => exact .inl ⟨hnext, rfl, rfl⟩
  next hnext =>
    rw [not_not] at hnext
    have hlayers : ∀ hl : e.motion.states.lifecycle = .active,
        (e.motion.states.proposal (e.motion.states.state hs.valid) hresets).targetState.motion = .idle
        ∧ (e.motion.states.proposal (e.motion.states.state hs.valid) hresets).targetState.activity = .none := by
      intro hl
      simp [PetLayeredStateMachine.proposal, PetLayeredStateMachine.targetLayers,
        PetLayeredStateMachine.state, hl]
    have hlifecycle : (e.motion.states.proposal (e.motion.states.state hs.valid) hresets).targetState.lifecycle
        = e.motion.states.lifecycle := PetLayeredStateMachine.targetLayers_lifecycle _ _
    simp only [wp_bind, wp_propose, hpropose, Except.ok.injEq, forall_eq', reduceCtorEq, false_implies,
      implies_true, and_true, wp_getOrRaise]
    refine ⟨fun _ hcompatible => ?_, fun error herror => ⟨trivial, fun hc => ?_⟩⟩
    · obtain ⟨-, hactive, -⟩ := animationCompatible_some.mp hcompatible
      have hl := hlifecycle.symm.trans hactive
      obtain ⟨hmotion, hactivity⟩ := hlayers hl
      simp only [hperforms.playing.active, wp_bind]
      refine (wp_commit _ hpropose _ _).mpr ?_
      refine .inr ⟨hnext, e.motion.committed _, ⟨committed_valid _ _, ?_, ?_, ?_⟩, rfl, rfl, rfl⟩
      · exact hactive
      · exact hmotion
      · exact hactivity
    · have hactive := (hc.of_some hs.valid hperforms.playing.desired).1
      obtain ⟨hmotion, hactivity⟩ := hlayers hactive
      have hok := animationCompatible_some.mpr
        ⟨hperforms.playing.health, hlifecycle.trans hactive, show PetActionName.returnIdle ∈
          stateActionCompatibility _ _ by rw [hmotion, hactivity]; decide⟩
      unfold AnimationCompatible at hok
      rw [hok] at herror
      cases herror

theorem followCompletion_none (facing : Option PetFacing) (o : ActionOutcome) :
    followCompletion env t0 false false false facing o = pure o := by
  simp [followCompletion]

/-- Only an accepted callback is followed by anything. -/
theorem followCompletion_not_accepted (completesProtected completesRecovery reachesIdle : Bool)
    (facing : Option PetFacing) {o : ActionOutcome} (ho : o ≠ .accepted) :
    followCompletion env t0 completesProtected completesRecovery reachesIdle facing o = pure o := by
  simp [followCompletion, ho]

/-- Nothing follows a step that neither ends a protected playback nor a recovery nor returns to idle. -/
theorem followCompletion_quiet (hplaying : Playing t0 e.track0 request p)
    (hgoes : event.loopBoundary = true
      ∨ request.sequenceName ∉ recoverySequences ∧ request.isProtected = false
        ∧ p.currentIndex + 1 ≠ p.sequence.steps.length) (facing : Option PetFacing) (completed : ActionOutcome) :
    followCompletion env t0 (e.completesProductionProtected event) (e.completesMandatoryRecovery event)
      (e.callbackReachesIdleTerminal event) facing completed = pure completed := by
  have hnone : e.completesProductionProtected event = false ∧ e.completesMandatoryRecovery event = false
      ∧ e.callbackReachesIdleTerminal event = false := by
    simp only [completesProductionProtected, completesMandatoryRecovery, callbackReachesIdleTerminal,
      activeRequestIsProtected, hplaying.active, hplaying.progress, Option.any_some]
    obtain hb | ⟨hnot, hprotected, hlast⟩ := hgoes
    · simp [hb]
    · simp only [hprotected, Bool.and_false, true_and]
      refine ⟨?_, by simp [hlast]⟩
      rw [Bool.and_eq_false_iff]
      exact .inr (decide_eq_false hnot)
  rw [hnone.1, hnone.2.1, hnone.2.2, followCompletion_none]

/-- What follows the last step of a sequence, by what the sequence ends in. -/
theorem followCompletion_last (hperforms : Performs t0 e.track0 request p)
    (hmem : request.sequenceName ∈ performedSequences env) (hl : p.step.loop = false)
    (hb : event.loopBoundary = false) (hlast : p.currentIndex + 1 = p.sequence.steps.length)
    (facing : Option PetFacing) :
    followCompletion env t0 (e.completesProductionProtected event) (e.completesMandatoryRecovery event)
        (e.callbackReachesIdleTerminal event) facing .accepted
      = match p.sequence.terminal with
        | .hold => continueAfterRecovery env t0
        | .idle => startIdleAfterTerminal t0
        | .complete =>
          if e.activeProductionAction.any (·.isProtected) then continueAfterProtected env t0 facing
          else pure .accepted := by
  have hplaying := hperforms.playing
  have hends := hperforms.last hmem hl hlast
  have hflags : e.completesProductionProtected event
        = (e.activeProductionAction.any (·.isProtected) && request.isProtected)
      ∧ e.completesMandatoryRecovery event = decide (request.sequenceName ∈ recoverySequences)
      ∧ e.callbackReachesIdleTerminal event = decide (p.sequence.terminal = .idle) := by
    simp [completesProductionProtected, completesMandatoryRecovery, callbackReachesIdleTerminal,
      activeRequestIsProtected, hplaying.active, hplaying.progress, hl, hb, hlast, recoverySequences]
  rw [hflags.1, hflags.2.1, hflags.2.2]
  cases hterminal : p.sequence.terminal with
  | hold =>
    rw [hterminal] at hends
    simp [followCompletion, hends.1, hends.2]
  | idle =>
    rw [hterminal] at hends
    simp [followCompletion, hends.1, hends.2.2]
  | complete =>
    rw [hterminal] at hends
    simp [followCompletion, hends.1, hends.2]

/-- A step that was played, or refused and contained, keeps the engine sound. The layers `motion` permit
what plays where they permit the step. -/
theorem played_keeps (e₁ : PetAnimationEngine) {c : PetTrack0Controller} {o : ActionOutcome} {pending : Bool}
    {request' : ActionRequest} {next : RunnerProgress} {track0 : PetTrack0Controller}
    (hs : ∀ track0, TrackSound env t0 track0 → Sound env t0 { e₁ with track0 })
    (hplayed : PlayedOr t0 c request' next pending o track0)
    (hsequence : next.sequence = (sequenceCatalog request'.sequenceName).sequence)
    (hpolicy : request'.isProtected = (sequenceCatalog request'.sequenceName).isProtected)
    (hmem : request'.sequenceName ∈ performedSequences env) {safe : Prop}
    (hpermits : safe → PetTrack0Controller.confirms t0 c next.step = true →
      ∃ motion activity, e₁.motion.states.At .active motion activity
        ∧ next.step.action ∈ stateActionCompatibility motion activity) :
    Sound env t0 { e₁ with track0 } ∧ (safe → Compatible { e₁ with track0 }) := by
  obtain ⟨rfl, hplaying, -, -, hconfirms⟩ | ⟨hcontained, -⟩ := hplayed
  · refine ⟨hs _ (.inr ⟨request', next, ⟨hplaying, hsequence, hpolicy⟩, hmem⟩), fun hsafe => ?_⟩
    obtain ⟨motion, activity, hat, hmem⟩ := hpermits hsafe hconfirms
    exact compatible_of_permits hat rfl hplaying.desired hplaying.health hmem
  · have hsound := hs _ (.inl hcontained.stopped)
    exact ⟨hsound, fun _ => compatible_of_unhealthy hsound.valid hcontained.stopped.desired hcontained.health⟩

/-- What the scheduler of an autonomous pet watches is a loop without an exit. -/
theorem Watched.unscheduled (h : Watched env e) (hprogress : e.track0.runner.progress = some p)
    (hleaves : p.step.loop = false ∨ p.sequence.loopExitIndex.isSome = true) : Unscheduled env e := by
  intro hscheduler hmode
  obtain ⟨-, q, hq, hloop, hexit⟩ := h hscheduler hmode
  obtain rfl : p = q := Option.some.inj (hprogress.symm.trans hq)
  obtain hl | hx := hleaves
  · rw [hl] at hloop; cases hloop
  · rw [hexit] at hx; cases hx

/-- What follows the last step of a sequence, on the track it left. -/
theorem lastStep_spec (hs : Sound env t0 e) (hperforms : Performs t0 e.track0 request p)
    (hmem : request.sequenceName ∈ performedSequences env) (hl : p.step.loop = false)
    (hb : event.loopBoundary = false) (hlast : p.currentIndex + 1 = p.sequence.steps.length)
    (facing : Option PetFacing) {track0 : PetTrack0Controller}
    (hend : if p.sequence.terminal = .hold then PetTrack0Controller.Held track0 request
      else Stopped track0 ∧ track0.state.health = .healthy) :
    Wp (followCompletion env t0 (e.completesProductionProtected event) (e.completesMandatoryRecovery event)
        (e.callbackReachesIdleTerminal event) facing .accepted)
      (fun _ => Keeps env t0 (Performable t0 .productionRelax ∧ ¬Strands env t0 e event) True e)
      (fun _ _ => False) { e with track0 } := by
  have hplaying := hperforms.playing
  have hends := hperforms.last hmem hl hlast
  have hs₁ : ∀ track0, TrackSound env t0 track0 → Sound env t0 { e with track0 } := fun _ htrack =>
    ⟨hs.valid, hs.turn, hs.untimed, hs.resume, htrack⟩
  have hunscheduled : Watched env e → Unscheduled env e := fun hw => hw.unscheduled hplaying.progress (.inl hl)
  rw [followCompletion_last hperforms hmem hl hb hlast]
  cases hterminal : p.sequence.terminal with
  | hold =>
    refine (continueAfterRecovery_spec ?_).imp (fun _ e' hr => ?_)
    · exact hs₁
    · exact ⟨hr.1, fun hsafe _ => hr.2.2 hsafe.1, fun _ _ => hr.2.1⟩
  | idle =>
    rw [hterminal] at hends hend
    obtain ⟨-, haction, -⟩ := hends
    obtain ⟨hstopped, -⟩ : Stopped track0 ∧ _ := by simpa using hend
    refine (startIdleAfterTerminal_spec (hs₁ _ (.inl hstopped)) hstopped).imp (fun _ e' hr => ?_)
    refine ⟨hr.1, fun _ hc => hr.2.2 ?_, fun _ hw => hr.2.1 (hunscheduled hw)⟩
    obtain ⟨hactive, hpermits⟩ := hc.of_some hs.valid hplaying.desired
    rw [haction] at hpermits
    obtain ⟨hmotion, hactivity⟩ := permits_returnIdle hpermits
    exact ⟨hs.valid, hactive, hmotion, hactivity⟩
  | complete =>
    rw [hterminal] at hends hend
    have hactive : e.activeRequestIsProtected = true := by
      simp [activeRequestIsProtected, hplaying.active, hends.2]
    obtain ⟨hstopped, -⟩ : Stopped track0 ∧ _ := by simpa using hend
    have hsound := hs₁ _ (.inl hstopped)
    cases hprotected : e.activeProductionAction.any (·.isProtected) with
    | true =>
      refine (continueAfterProtected_spec hsound hstopped facing).imp (fun _ e' hr => ?_)
      refine ⟨hr.1, fun hsafe _ => hr.2.2 hsafe.1 fun pending hpending => ?_, fun _ hw => hr.2.1 (hunscheduled hw)⟩
      by_contra hunperformable
      refine hsafe.2 (.unperformable pending ?_ hpending hunperformable)
      simp [completesProductionProtected, hb, hprotected, hactive]
    | false =>
      have hstrands : Strands env t0 e event := .forgotten hb hactive hprotected
      exact ⟨hsound, fun hsafe => absurd hstrands hsafe.2, fun _ hw => (hunscheduled hw).watched rfl⟩

/-- The step the callback ends is completed, and what follows it starts. `motion` holds the layers the return
to idle was committed to, or those the engine had. -/
theorem completeStep_spec (hs : Sound env t0 e) (hperforms : Performs t0 e.track0 request p)
    (hmem : request.sequenceName ∈ performedSequences env) (hmatches : e.callbackMatchesSnapshot event = true)
    {motion : PetMotionModel} {continuation : Option ActionRequest} (facing : Option PetFacing)
    (hreturns : e.nextActionForCallback event = some .returnIdle → motion.states.At .active .idle .none)
    (hstays : e.nextActionForCallback event ≠ some .returnIdle → motion = e.motion)
    (hs₁ : ∀ track0, TrackSound env t0 track0 → Sound env t0 { e with motion, track0 })
    (hcontinuation : (continuation.getD request).sequenceName = request.sequenceName
      ∧ (continuation.getD request).isProtected = request.isProtected) :
    Wp (onTrack0 (PetTrack0Controller.handleCompletion t0 event continuation))
      (fun completed e₂ => Wp (followCompletion env t0 (e.completesProductionProtected event)
          (e.completesMandatoryRecovery event) (e.callbackReachesIdleTerminal event) facing completed)
        (fun _ => Keeps env t0 (Performable t0 .productionRelax ∧ ¬Strands env t0 e event) True e)
        (fun _ _ => False) e₂)
      (fun _ _ => False) { e with motion } := by
  have hplaying := hperforms.playing
  obtain ⟨hname, hrequestProtected⟩ := hcontinuation
  have hsequence : p.sequence = (sequenceCatalog (continuation.getD request).sequenceName).sequence :=
    hname ▸ hperforms.sequence
  have hpolicy : (continuation.getD request).isProtected
      = (sequenceCatalog (continuation.getD request).sequenceName).isProtected := by
    rw [hname, hrequestProtected]; exact hperforms.policy
  have hmem' : (continuation.getD request).sequenceName ∈ performedSequences env := hname ▸ hmem
  have hwatched : p.step.loop = false ∨ p.sequence.loopExitIndex.isSome = true → Watched env e →
      Unscheduled env e := fun hleaves hw => hw.unscheduled hplaying.progress hleaves
  by_cases hkind : p.step.loop = event.loopBoundary
  swap
  · refine wp_onTrack0.mpr ((handleCompletion_stale
      (.inr ⟨p, hplaying.progress, hkind⟩) _ _).mpr ?_)
    rw [followCompletion_not_accepted _ _ _ _ (by decide)]
    have hnext : e.nextActionForCallback event ≠ some .returnIdle := by
      simp only [nextActionForCallback, hplaying.progress]
      cases hl : p.step.loop <;> cases hb : event.loopBoundary <;> simp_all
    obtain rfl := hstays hnext
    exact .refl hs
  cases hl : p.step.loop with
  | true =>
    have hb : event.loopBoundary = true := hkind ▸ hl
    cases hpending : e.track0.runner.pendingGracefulExit with
    | false =>
      refine wp_onTrack0.mpr ((handleCompletion_loops hplaying.progress hmatches hl
        hb hpending _ _).mpr ?_)
      rw [followCompletion_quiet hplaying (.inl hb)]
      have hnext : e.nextActionForCallback event ≠ some .returnIdle := by
        simp [nextActionForCallback, hplaying.progress, hl, hpending]
      obtain rfl := hstays hnext
      exact .refl hs
    | true =>
      obtain ⟨next, hsame, hexit, hwp⟩ := handleCompletion_exits continuation
        hplaying hmatches hl hb hpending
      have hstep := hperforms.exit hmem hexit
      have hnext : e.nextActionForCallback event = some .returnIdle := by
        simp [nextActionForCallback, hplaying.progress, hl, hb, hpending, hexit, hstep, returnIdleStep]
      have haction : next.step.action = .returnIdle := by
        have hget : p.sequence.steps[next.currentIndex]? = some next.step := by
          rw [← hsame]; exact List.getElem?_eq_getElem next.in_range
        rw [← Option.some.inj (hstep.symm.trans hget)]
        rfl
      refine wp_onTrack0.mpr (hwp.imp (fun o track0 hplayed => ?_))
      rw [followCompletion_quiet hplaying (.inl hb)]
      obtain ⟨hsound, hcompatible⟩ := played_keeps { e with motion } hs₁ hplayed (hsame.trans hsequence)
        hpolicy hmem' fun (_ : True) _ => ⟨.idle, .none, hreturns hnext, by rw [haction]; decide⟩
      exact ⟨hsound, fun _ _ => hcompatible trivial,
        fun _ hw => (hwatched (.inr (by rw [hexit]; rfl)) hw).watched rfl⟩
  | false =>
    have hb : event.loopBoundary = false := hkind ▸ hl
    obtain hi | hlast := Nat.lt_or_ge (p.currentIndex + 1) p.sequence.steps.length
    · obtain ⟨haction, hnot, hprotected⟩ := hperforms.next hmem hl hi
      have hnext : e.nextActionForCallback event
          = some (p.sequence.steps[p.currentIndex + 1].action) := by
        simp [nextActionForCallback, hplaying.progress, hl, hb, List.getElem?_eq_getElem hi]
      refine wp_onTrack0.mpr ((PetTrack0Controller.handleCompletion_next hplaying hmatches hl hb
        hi).imp (fun o track0 hplayed => ?_))
      rw [followCompletion_quiet hplaying (.inr ⟨hnot, hprotected, Nat.ne_of_lt hi⟩)]
      obtain ⟨hsound, hcompatible⟩ := played_keeps { e with motion } hs₁ hplayed hsequence hpolicy hmem'
        fun (hc : Compatible e) _ => by
          show ∃ motion activity, _ ∧ p.sequence.steps[p.currentIndex + 1].action ∈ _
          obtain haction | ⟨hstart, haction⟩ := haction
          · exact ⟨.idle, .none, hreturns (hnext.trans (by rw [haction])), by rw [haction]; decide⟩
          · obtain rfl := hstays (by rw [hnext, haction]; decide)
            obtain ⟨hactive, hpermits⟩ := hc.of_some hs.valid hplaying.desired
            refine ⟨_, _, ⟨hs.valid, hactive, rfl, rfl⟩, ?_⟩
            rw [hstart] at hpermits
            rw [haction]
            exact permits_dragLoop hpermits
      exact ⟨hsound, fun _ hc => hcompatible hc, fun _ hw => (hwatched (.inl hl) hw).watched rfl⟩
    · have hlast : p.currentIndex + 1 = p.sequence.steps.length := Nat.le_antisymm p.in_range hlast
      have hnext : e.nextActionForCallback event ≠ some .returnIdle := by
        simp [nextActionForCallback, hplaying.progress, hl, hb, hlast]
      obtain rfl := hstays hnext
      refine wp_onTrack0.mpr ((PetTrack0Controller.handleCompletion_finishes hplaying hmatches hl hb
        hlast).imp (fun o track0 hend => ?_))
      obtain ⟨rfl, hend⟩ := hend
      exact lastStep_spec hs hperforms hmem hl hb hlast facing hend

/-- Advancing the running sequence maintains the properties unless the callback strands the pet. -/
theorem advanceSequence_maintains (hs : Sound env t0 e) (hperforms : Performs t0 e.track0 request p)
    (hmem : request.sequenceName ∈ performedSequences env) (hmatches : e.callbackMatchesSnapshot event = true)
    (facing : Option PetFacing) :
    Maintains env t0 (Performable t0 .productionRelax ∧ ¬Strands env t0 e event) True
      (advanceSequence env t0 event facing) e := by
  unfold advanceSequence
  refine wp_get_bind.mpr ?_
  refine wp_bind.mpr ((commitReturnIdle_spec hs hperforms).mono ?_ ?_)
  · intro continuation e₁ hcommitted
    -- both ways of going on agree on the layers the step is completed over
    obtain ⟨motion, request', hreturns, hstays, hs₁, hsome, hcontinuation, rfl⟩ :
        ∃ motion : PetMotionModel, ∃ request' : Option ActionRequest,
          (e.nextActionForCallback event = some .returnIdle → motion.states.At .active .idle .none)
          ∧ (e.nextActionForCallback event ≠ some .returnIdle → motion = e.motion)
          ∧ (∀ track0, TrackSound env t0 track0 → Sound env t0 { e with motion, track0 })
          ∧ continuation = some request'
          ∧ ((request'.getD request).sequenceName = request.sequenceName
            ∧ (request'.getD request).isProtected = request.isProtected)
          ∧ e₁ = { e with motion } := by
      obtain ⟨hnext, rfl, he⟩ | ⟨hnext, motion, hat, hturn, rfl, rfl⟩ := hcommitted
      · exact ⟨e.motion, none, fun h => absurd h hnext, fun _ => rfl,
          fun _ htrack => ⟨hs.valid, hs.turn, hs.untimed, hs.resume, htrack⟩, rfl, ⟨rfl, rfl⟩, he⟩
      · exact ⟨motion, _, fun _ => hat, fun h => absurd hnext h,
          fun _ htrack => ⟨hat.valid, hturn.trans hs.turn, hs.untimed, hs.resume, htrack⟩, rfl, ⟨rfl, rfl⟩, rfl⟩
    subst hsome
    refine wp_get_bind.mpr ?_
    refine wp_bind.mpr ?_
    refine (completeStep_spec hs hperforms hmem hmatches
      (if e.completesProductionProtected event ∧ e.activeProductionAction = some .special then facing else none)
      hreturns hstays hs₁ hcontinuation).mono (fun completed e₂ hfollow => ?_) (fun _ _ h => h.elim)
    refine wp_bind.mpr (hfollow.mono (fun o e₃ hkeeps => ?_) (fun _ _ h => h.elim))
    exact (assert_maintains hkeeps.sound o).after hkeeps
  · rintro error _ ⟨rfl, herror⟩
    exact ⟨.refl hs, fun _ => herror⟩

/-! ## Boundaries the scheduler hears of -/

/-- An evaluation goes on watching the same playback; what it proposes, the scheduler proposes of its own
authority and knows the state of. -/
theorem evaluate_spec (rng : RandomSource) (state : AutonomousSchedulerState)
    (snapshot : AutonomousRuntimeSnapshot) (boundary : Option AutonomousBoundaryEvent)
    (requestToken : ObjectId) (n : Nat) :
    Wp (AutonomousActionScheduler.evaluate rng state snapshot boundary requestToken)
      (fun decision _ => decision.state.playbackGeneration = state.playbackGeneration
        ∧ decision.state.playbackToken = state.playbackToken
        ∧ ∀ intent, decision.intent = some intent → intent.origin = .autonomous)
      (fun error _ => error ≠ .animationCompatibility) n := by
  unfold AutonomousActionScheduler.evaluate
  split
  next => exact ⟨rfl, rfl, by simp⟩
  next =>
    split
    next => exact ⟨rfl, rfl, by simp⟩
    next event =>
      split
      next => exact ⟨rfl, rfl, by simp⟩
      next =>
        split
        next => exact ⟨rfl, rfl, by simp⟩
        next =>
          refine wp_bind.mpr (Wp.mono (Q := fun _ _ => True) ?_ (fun destination draws _ => ?_)
            (fun _ _ h => h))
          · unfold AutonomousActionScheduler.selectDestination
            split
            next => trivial
            next =>
              simp only
              split
              next => trivial
              next =>
                simp only [RandomSource.drawRandrange, wp_bind, wp_get, wp_set, wp_pure]
                split
                next => trivial
                next => intro h; cases h
          · unfold AutonomousActionScheduler.proposeDestination
            split
            next => exact ⟨rfl, rfl, by simp⟩
            next =>
              split
              next =>
                refine wp_bind.mpr (AutonomousActionScheduler.wp_sampleDwell rng _ _ fun _ _ => ?_)
                exact ⟨rfl, rfl, by simp⟩
              next =>
                refine ⟨rfl, rfl, fun intent hintent => ?_⟩
                rw [← Option.some.inj hintent]

/-- The scheduler hears how its proposal ended: it watches the playback that started, or goes on watching. -/
theorem submitProposal_spec {decision : AutonomousSchedulerDecision} {intent : ActionIntent} {now : Rat}
    (hs : Sound env t0 e) (hintent : decision.intent = some intent) (horigin : intent.origin = .autonomous)
    (hstate : e.autonomousSchedulerState = some decision.state) :
    Wp (submitProposal env t0 decision intent now) (fun _ => Keeps env t0 True True e) (fun _ _ => False) e := by
  obtain ⟨destination, hproposed⟩ : ∃ destination, decision.proposedState = some destination := by
    have htogether := decision.together
    rw [hintent] at htogether
    exact Option.isSome_iff_exists.mp (by simpa using htogether)
  simp only [submitProposal, wp_bind, wp_get, wp_onRandom, wp_modify, wp_pure]
  refine (submitProductionIntent_spec hs.valid none).imp (fun o e₁ hsubmitted => ?_)
  have hkeeps := hsubmitted.keeps hs
  have hkept : ∀ state draws, Watched env { e₁ with draws, autonomousSchedulerState := some state } →
      Keeps env t0 True True e { e₁ with draws, autonomousSchedulerState := some state } :=
    fun state draws hwatched =>
      ⟨⟨hkeeps.sound.valid, hkeeps.sound.turn, hkeeps.sound.untimed, hkeeps.sound.resume, hkeeps.sound.track⟩,
        fun _ hc => hkeeps.compatible trivial hc, fun _ _ => hwatched⟩
  -- a proposal that does not play is rejected, and the scheduler goes on watching
  have hrejects : o ≠ .accepted → e₁.executionMode ≠ .autonomous ∨ e₁ = e →
      Wp (AutonomousActionScheduler.reject env.rng decision now)
        (fun state draws => Keeps env t0 True True e { e₁ with draws, autonomousSchedulerState := some state })
        (fun _ _ => False) e₁.draws := by
    intro _ hends
    simp only [AutonomousActionScheduler.reject, hproposed, wp_bind]
    refine AutonomousActionScheduler.wp_sampleDwell _ _ _ fun dwell draws => ?_
    obtain hmode | rfl := hends
    · exact hkept _ _ (watched_of_mode hmode)
    · refine ⟨⟨hs.valid, hs.turn, hs.untimed, hs.resume, hs.track⟩, fun _ hc => hc, fun _ hw => ?_⟩
      intro hscheduler hmode
      obtain ⟨⟨epoch, watching, hepoch, hwatching, hgeneration, htoken⟩, hloops⟩ := hw hscheduler hmode
      rw [hstate] at hwatching
      obtain rfl := Option.some.inj hwatching
      exact ⟨⟨epoch, _, hepoch, rfl, hgeneration, htoken⟩, hloops⟩
  cases hsubmitted with
  | continued hexplicit => rw [horigin] at hexplicit; cases hexplicit
  | queued hexplicit => rw [horigin] at hexplicit; cases hexplicit
  | held hexplicit => rw [horigin] at hexplicit; cases hexplicit
  | refused _ ho =>
    have hnext := hrejects ho (.inr rfl)
    split
    next => exact absurd rfl ho
    next => exact hnext
  | failed _ motion track0 _ _ hcontained =>
    have hnext := hrejects hcontained.not_accepted (.inl (by simp [refusedByPlayer]))
    split
    next => exact absurd rfl hcontained.not_accepted
    next => exact hnext
  | played motion track0 request _ _ _ _ _ hperforms =>
    obtain ⟨epoch, hepoch⟩ := Option.isSome_iff_exists.mp hperforms.playing.confirmedEpoch.2
    have hconfirmed : (e.settled intent motion track0).track0.state.confirmedEpoch = some epoch := hepoch
    simp only [hconfirmed, AutonomousActionScheduler.commitAccepted, hproposed]
    refine wp_enter _ _ _ _ _ _ fun watching draws hgeneration htoken => hkept _ _ ?_
    intro _ hmode
    have hloop : intent.action.isProtected = false := by
      cases hp : intent.action.isProtected with
      | false => rfl
      | true => simp [settled, intentMode, hp] at hmode
    obtain ⟨hstep, hexit⟩ := productionProgress_holds hloop
    exact ⟨⟨epoch, watching, hepoch, rfl, hgeneration, htoken⟩, _, hperforms.playing.progress, hstep, hexit⟩

/-- A numbered boundary of the running playback, handed to the scheduler. -/
theorem handleAutonomousBoundary_spec (hs : Sound env t0 e) (hperforms : Performs t0 e.track0 request p)
    (hmem : request.sequenceName ∈ performedSequences env) (hmatches : e.callbackMatchesSnapshot event = true)
    (hboundary : event.loopBoundary = true) {boundaryIndex : Int}
    (hindex : event.boundaryIndex = some boundaryIndex) :
    Wp (handleAutonomousBoundary env t0 event boundaryIndex)
      (fun handled e' => (handled = none → e' = e)
        ∧ Keeps env t0 (Performable t0 .productionRelax ∧ ¬Strands env t0 e event) True e e')
      (fun error e' => Keeps env t0 (Performable t0 .productionRelax ∧ ¬Strands env t0 e event) True e e'
        ∧ error ≠ .animationCompatibility) e := by
  have hplaying := hperforms.playing
  simp only [handleAutonomousBoundary, wp_bind, wp_get]
  cases hstate : e.autonomousSchedulerState with
  | none => exact ⟨fun _ => rfl, .refl hs⟩
  | some state =>
    cases hscheduler : env.hasScheduler with
    | false => exact ⟨fun _ => rfl, .refl hs⟩
    | true =>
      simp only [Bool.not_true, Bool.false_eq_true, if_false, wp_bind, wp_readClock, wp_getOrRaise,
        wp_newObject, wp_get, wp_onRandom, wp_modify]
      refine ⟨fun boundary hmake => ?_, fun error herror => ⟨?_, ?_⟩⟩
      · have hpositive : 0 < boundaryIndex := by
          unfold AutonomousBoundaryEvent.make at hmake
          split at hmake
          next hvalid => exact hvalid.2
          next => cases hmake
        refine (evaluate_spec _ _ _ _ _ _).mono (fun decision draws hdecision => ?_) (fun error draws herror => ?_)
        · obtain ⟨hgeneration, htoken, horigin⟩ := hdecision
          have hkept : Keeps env t0 (Performable t0 .productionRelax ∧ ¬Strands env t0 e event) True e
              { e with
                clockReadings := e.clockReadings + 1, objects := e.objects + 1, draws
                autonomousSchedulerState := some decision.state } := by
            refine ⟨⟨hs.valid, hs.turn, hs.untimed, hs.resume, hs.track⟩, fun _ hc => hc, fun _ hw => ?_⟩
            intro _ hmode
            obtain ⟨⟨epoch, watching, hepoch, hwatching, hg, ht⟩, hloops⟩ := hw hscheduler hmode
            rw [hstate] at hwatching
            obtain rfl := Option.some.inj hwatching
            exact ⟨⟨epoch, _, hepoch, rfl, hgeneration.trans hg, htoken.trans ht⟩, hloops⟩
          cases hintent : decision.intent with
          | some intent =>
            simp only [wp_map]
            refine (submitProposal_spec ?_ hintent (horigin _ hintent) ?_).mono
              (fun o e' hsubmitted => ⟨fun h => absurd h (Option.some_ne_none _), hkept.trans ?_⟩) (fun _ _ h => h.elim)
            · exact hkept.sound
            · rfl
            · exact hsubmitted.mono (fun _ => trivial) id
          | none =>
            simp only [wp_map, wp_onTrack0]
            -- without a proposal the controller hears of the boundary; only a pending exit moves it
            by_cases hkind : p.step.loop = event.loopBoundary
            swap
            · refine (handleCompletion_stale (.inr ⟨p, hplaying.progress, hkind⟩) _ _).mpr ?_
              exact ⟨fun h => absurd h (Option.some_ne_none _), hkept⟩
            have hl : p.step.loop = true := hkind.trans hboundary
            cases hpending : e.track0.runner.pendingGracefulExit with
            | false =>
              refine (handleCompletion_loops hplaying.progress hmatches hl hboundary hpending
                _ _).mpr ?_
              exact ⟨fun h => absurd h (Option.some_ne_none _), hkept⟩
            | true =>
              obtain ⟨next, hsame, hexit, hwp⟩ := handleCompletion_exits none hplaying
                hmatches hl hboundary hpending
              have hstep := hperforms.exit hmem hexit
              have hget : next.step = returnIdleStep := by
                have hget : p.sequence.steps[next.currentIndex]? = some next.step := by
                  rw [← hsame]; exact List.getElem?_eq_getElem next.in_range
                exact (Option.some.inj (hstep.symm.trans hget)).symm
              refine hwp.mono (fun o track0 hplayed => ⟨fun h => absurd h (Option.some_ne_none _), ?_⟩) (fun _ _ h => h.elim)
              have hunscheduled : Watched env e → Unscheduled env e := fun hw =>
                hw.unscheduled hplaying.progress (.inr (by rw [hexit]; rfl))
              obtain ⟨hsound, hcompatible⟩ := played_keeps
                { e with
                  clockReadings := e.clockReadings + 1, objects := e.objects + 1, draws
                  autonomousSchedulerState := some decision.state }
                (fun _ htrack => ⟨hs.valid, hs.turn, hs.untimed, hs.resume, htrack⟩) hplayed
                (hsame.trans hperforms.sequence) hperforms.policy hmem
                fun (hsafe : ¬Strands env t0 e event) hconfirms => absurd
                  (.unannounced boundaryIndex hindex hpositive hscheduler (by rw [hstate]; rfl) hboundary
                    (by simp [nextActionForCallback, hplaying.progress, hl, hboundary, hpending, hexit, hstep,
                      returnIdleStep]) (hget ▸ hconfirms)) hsafe
              exact ⟨hsound, fun hsafe _ => hcompatible hsafe.2, fun _ hw => (hunscheduled hw).watched rfl⟩
        · exact ⟨.of_frame hs rfl rfl hs.untimed rfl (.inr ⟨rfl, rfl⟩), herror⟩
      · exact .of_frame hs rfl rfl hs.untimed rfl (.inr ⟨rfl, rfl⟩)
      · unfold AutonomousBoundaryEvent.make at herror
        split at herror
        next => cases herror
        next => rw [← Except.error.inj herror]; decide

/-- The condition under which a callback may be delivered: one of the running playback does not strand the
pet. -/
def StrandedBy (env : EngineEnv) (t0 : Track0Env) (e : PetAnimationEngine) (event : PlaybackEvent) : Prop :=
  e.callbackMatchesSnapshot event = true ∧ Strands env t0 e event

/-- Any callback maintains the properties unless it strands the pet. -/
theorem handlePlaybackEvent_maintains (htrack : env.track0 = some t0) (hs : Sound env t0 e)
    (facing : Option PetFacing) :
    Maintains env t0 (Performable t0 .productionRelax ∧ ¬StrandedBy env t0 e event) True
      (handlePlaybackEvent env event facing) e := by
  unfold handlePlaybackEvent
  simp only [htrack]
  refine wp_get_bind.mpr ?_
  cases hmatches : e.callbackMatchesSnapshot event with
  | false =>
    simp only [Bool.not_false, if_true]
    refine wp_bind.mpr ((handleCompletion_foreign (by rw [hmatches]; decide) _ _).mpr ?_)
    exact assert_maintains hs _
  | true =>
    simp only [Bool.not_true, Bool.false_eq_true, if_false]
    have hsafe : Performable t0 .productionRelax ∧ ¬StrandedBy env t0 e event →
        Performable t0 .productionRelax ∧ ¬Strands env t0 e event :=
      fun h => ⟨h.1, fun hstrands => h.2 ⟨hmatches, hstrands⟩⟩
    obtain hstopped | ⟨request, p, hperforms, hmem⟩ := hs.track
    · simp [callbackMatchesSnapshot, hstopped.runner, PetSequenceRunner.eventMatchesCurrentEpoch] at hmatches
    · refine Maintains.weaken ?_ hsafe id
      split
      next boundaryIndex hboundary hindex =>
        refine wp_bind.mpr ?_
        refine (handleAutonomousBoundary_spec hs hperforms hmem hmatches hboundary hindex).mono
          (fun handled e' hhandled => ?_) (fun _ _ h => ⟨h.1, fun _ _ => h.2⟩)
        obtain ⟨hnone, hkeeps⟩ := hhandled
        cases handled with
        | none =>
          obtain rfl := hnone rfl
          exact advanceSequence_maintains hs hperforms hmem hmatches facing
        | some o => exact (assert_maintains hkeeps.sound o).after hkeeps
      next => exact advanceSequence_maintains hs hperforms hmem hmatches facing

end

end PetAnimationEngine

end ArkClaw.Pet
