import ArkClaw.Pet.EngineOperations
import ArkClaw.Pet.MotionLaws
import ArkClaw.Pet.SchedulerLaws
import ArkClaw.Pet.Track0Laws

/-!
# What the engine can do with a production intent

The rules for the engine's programs, and one description of what submitting an intent can end in: the intent
was kept out, waits, plays, or failed at the player, and which parts of the state each of these leaves
alone. The results over whole runs are derived from such descriptions and unfold no operation again.
-/

namespace ArkClaw.Pet

open ArkClaw.Library
open PetLayeredStateMachine (snapshot_of_valid targetLayers valid_install propose_eq)
open PetTrack0Controller (arbitrate PlayedOr play_spec Playing Contained)

namespace PetAnimationEngine

section

variable {e : PetAnimationEngine}

theorem sequencingEnabled_of {env : EngineEnv} {t0 : Track0Env} (htrack : env.track0 = some t0)
    (hsequencing : sequencingEnabled t0.player.capabilities = true) : productionSequencingEnabled env = true := by
  simp [productionSequencingEnabled, htrack, hsequencing]

@[simp] theorem wp_onMotion {α : Type} {c : Program PetMotionModel α} {Q : α → PetAnimationEngine → Prop}
    {R : PetError → PetAnimationEngine → Prop} :
    Wp (onMotion c) Q R e ↔
      Wp c (fun a motion => Q a { e with motion }) (fun err motion => R err { e with motion }) e.motion :=
  wp_onPart

@[simp] theorem wp_onTrack0 {α : Type} {c : Program PetTrack0Controller α} {Q : α → PetAnimationEngine → Prop}
    {R : PetError → PetAnimationEngine → Prop} :
    Wp (onTrack0 c) Q R e ↔
      Wp c (fun a track0 => Q a { e with track0 }) (fun err track0 => R err { e with track0 }) e.track0 :=
  wp_onPart

@[simp] theorem wp_onRandom {α : Type} {c : Program Nat α} {Q : α → PetAnimationEngine → Prop}
    {R : PetError → PetAnimationEngine → Prop} :
    Wp (onRandom c) Q R e ↔
      Wp c (fun a draws => Q a { e with draws }) (fun err draws => R err { e with draws }) e.draws :=
  wp_onPart

@[simp] theorem wp_newObject {Q : ObjectId → PetAnimationEngine → Prop} {R : PetError → PetAnimationEngine → Prop} :
    Wp newObject Q R e ↔ Q (.fresh e.objects) { e with objects := e.objects + 1 } := Iff.rfl

@[simp] theorem wp_setMode (mode : AutonomousExecutionMode) (Q : Unit → PetAnimationEngine → Prop)
    (R : PetError → PetAnimationEngine → Prop) :
    Wp (setMode mode) Q R e ↔ Q () { e with executionMode := mode } := Iff.rfl

@[simp] theorem wp_clearProtectedContinuation {Q : Unit → PetAnimationEngine → Prop} {R : PetError → PetAnimationEngine → Prop} :
    Wp clearProtectedContinuation Q R e ↔
      Q () { e with pendingExplicitAction := none, resumeAfterProtected := false } := Iff.rfl

/-- The engine after an interruption's bookkeeping. -/
def interrupted (e : PetAnimationEngine) : PetAnimationEngine :=
  { e with
    pendingExplicitAction := none, resumeAfterProtected := false, executionMode := .suspended
    activeProductionAction := none }

@[simp] theorem wp_interrupt (Q : Unit → PetAnimationEngine → Prop)
    (R : PetError → PetAnimationEngine → Prop) : Wp interrupt Q R e ↔ Q () e.interrupted := Iff.rfl

@[simp] theorem wp_readClock (env : EngineEnv) (Q : Rat → PetAnimationEngine → Prop)
    (R : PetError → PetAnimationEngine → Prop) :
    Wp (readClock env) Q R e ↔ Q (env.clock e.clockReadings) { e with clockReadings := e.clockReadings + 1 } :=
  Iff.rfl

@[simp] theorem wp_propose (change : StateChange) (Q : ProposedStateTransition → PetAnimationEngine → Prop)
    (R : PetError → PetAnimationEngine → Prop) :
    Wp (propose change) Q R e ↔
      (∀ proposal, e.motion.states.propose change = .ok proposal → Q proposal e)
        ∧ ∀ err, e.motion.states.propose change = .error err → R err e := by
  simp only [propose, wp_bind, wp_get, wp_getOrRaise]

/-- A proposal of this very engine's layers is committed. -/
theorem wp_commit (change : StateChange) {proposal : ProposedStateTransition}
    (h : e.motion.states.propose change = .ok proposal) (Q : Unit → PetAnimationEngine → Prop)
    (R : PetError → PetAnimationEngine → Prop) :
    Wp (commit proposal) Q R e ↔ Q () { e with motion := e.motion.committed proposal.targetState } := by
  simp only [commit, wp_onMotion, PetMotionModel.wp_commitStateTransition h]

/-! ## Compatibility -/

/-- The layered state permits what Track 0 desires. -/
def Compatible (e : PetAnimationEngine) : Prop :=
  ∃ state, e.motion.states.snapshot = .ok state
    ∧ AnimationCompatible state e.track0.state.desiredAction e.track0.state.health

/-- The layers show a state. -/
theorem wp_motionState {state : PetLayeredState} (hs : e.motion.states.snapshot = .ok state)
    (Q : PetLayeredState → PetAnimationEngine → Prop) (R : PetError → PetAnimationEngine → Prop) :
    Wp (onMotion PetMotionModel.state) Q R e ↔ Q state e := by
  simp only [wp_onMotion, PetMotionModel.state, wp_bind, wp_get, wp_getOrRaise, hs, Except.ok.injEq,
    forall_eq', reduceCtorEq, false_implies, implies_true, and_true]

/-- The assertion passes, or it raises and changes nothing. -/
theorem wp_assertTransactionCompatible {state : PetLayeredState}
    (hs : e.motion.states.snapshot = .ok state) (Q : Unit → PetAnimationEngine → Prop)
    (R : PetError → PetAnimationEngine → Prop) :
    Wp assertTransactionCompatible Q R e ↔
      (Compatible e → Q () e) ∧ (¬Compatible e → R .animationCompatibility e) := by
  have hiff : Compatible e ↔
      AnimationCompatible state e.track0.state.desiredAction e.track0.state.health :=
    ⟨fun h => h.elim fun _ hshown => Except.ok.inj (hs.symm.trans hshown.1) ▸ hshown.2, fun h => ⟨state, hs, h⟩⟩
  simp only [assertTransactionCompatible, wp_bind, wp_motionState hs, wp_get, wp_getOrRaise,
    assertAnimationCompatible_eq, hiff]
  by_cases h : AnimationCompatible state e.track0.state.desiredAction e.track0.state.health
  · rw [if_pos h]
    exact ⟨fun hQ => ⟨fun _ => hQ.1 () rfl, fun hn => absurd h hn⟩,
      fun hQ => ⟨fun _ _ => hQ.1 h, fun _ herr => by cases herr⟩⟩
  · rw [if_neg h]
    exact ⟨fun hR => ⟨fun hc => absurd hc h, fun _ => hR.2 _ rfl⟩,
      fun hR => ⟨fun _ hok => (by cases hok), fun _ herr => Except.error.inj herr ▸ hR.2 h⟩⟩

/-- Where the assertion holds, it only passes. -/
theorem Compatible.asserts {Q : Unit → PetAnimationEngine → Prop} {R : PetError → PetAnimationEngine → Prop}
    (h : Compatible e) (hQ : Q () e) : Wp assertTransactionCompatible Q R e :=
  let ⟨_, hs, _⟩ := h
  (wp_assertTransactionCompatible hs Q R).mpr ⟨fun _ => hQ, fun hn => absurd h hn⟩

/-- Nothing is desired of an unhealthy renderer, so any state is compatible with it. -/
theorem compatible_of_unhealthy (hv : e.motion.states.Valid) (hnone : e.track0.state.desiredAction = none)
    (hhealth : e.track0.state.health ≠ .healthy) : Compatible e :=
  ⟨_, snapshot_of_valid _ hv, hnone ▸ animationCompatible_of_unhealthy hhealth⟩

theorem compatible_of_inactive (hv : e.motion.states.Valid) (hnone : e.track0.state.desiredAction = none)
    (hinactive : e.motion.states.lifecycle ≠ .active) : Compatible e :=
  ⟨_, snapshot_of_valid _ hv, hnone ▸ animationCompatible_of_inactive hinactive⟩

/-- A healthy active pet is compatible with the actions its layers permit. -/
theorem compatible_of_permits {lifecycle : PetLifecycleState} {motion : PetMotionState}
    {activity : PetActivityState} {action : PetActionName} (hat : e.motion.states.At lifecycle motion activity)
    (hlifecycle : lifecycle = .active) (hdesired : e.track0.state.desiredAction = some action)
    (hhealth : e.track0.state.health = .healthy)
    (hpermits : action ∈ stateActionCompatibility motion activity) : Compatible e := by
  refine ⟨_, snapshot_of_valid _ hat.valid,
    hdesired ▸ animationCompatible_some.mpr ⟨hhealth, ?_, ?_⟩⟩
  · exact hat.lifecycle.trans hlifecycle
  · show action ∈ stateActionCompatibility e.motion.states.motion e.motion.states.activity
    rwa [hat.motion, hat.activity]

/-- A compatible pet with valid layers, spelled out over the layers. -/
theorem compatible_iff (hv : e.motion.states.Valid) :
    Compatible e ↔ AnimationCompatible (e.motion.states.state hv) e.track0.state.desiredAction
      e.track0.state.health := by
  refine ⟨fun ⟨_, hs, h⟩ => ?_, fun h => ⟨_, snapshot_of_valid _ hv, h⟩⟩
  rw [snapshot_of_valid _ hv] at hs
  exact Except.ok.inj hs ▸ h

/-- Compatibility sees the layers, and of the track what is desired and how healthy the renderer is. -/
theorem Compatible.of_layers {e' : PetAnimationEngine} (h : Compatible e)
    (hstates : e'.motion.states = e.motion.states)
    (hdesired : e'.track0.state.desiredAction = e.track0.state.desiredAction)
    (hhealth : e'.track0.state.health = e.track0.state.health) : Compatible e' := by
  unfold Compatible at h ⊢
  rwa [hstates, hdesired, hhealth]

/-- Lifecycle, motion, and activity are all that compatibility sees of the layers. -/
theorem Compatible.of_at {e' : PetAnimationEngine} (h : Compatible e) (hv : e.motion.states.Valid)
    (hat : e'.motion.states.At e.motion.states.lifecycle e.motion.states.motion e.motion.states.activity)
    (htrack : e'.track0 = e.track0) : Compatible e' := by
  rw [compatible_iff hv] at h
  rw [compatible_iff hat.valid, htrack]
  cases hdesired : e.track0.state.desiredAction with
  | none =>
    rw [hdesired, animationCompatible_none] at h
    exact animationCompatible_none.mpr (h.imp_right (hat.lifecycle.trans_ne ·))
  | some action =>
    rw [hdesired, animationCompatible_some] at h
    refine animationCompatible_some.mpr ⟨h.1, hat.lifecycle.trans h.2.1, ?_⟩
    show action ∈ stateActionCompatibility e'.motion.states.motion e'.motion.states.activity
    rw [hat.motion, hat.activity]
    exact h.2.2

/-- With nothing desired, the renderer is unhealthy or the lifecycle inactive. -/
theorem Compatible.of_none (h : Compatible e) (hv : e.motion.states.Valid)
    (hnone : e.track0.state.desiredAction = none) :
    e.track0.state.health ≠ .healthy ∨ e.motion.states.lifecycle ≠ .active := by
  rw [compatible_iff hv, hnone] at h
  exact animationCompatible_none.mp h

/-- What is desired, the layers of an active pet permit. -/
theorem Compatible.of_some {action : PetActionName} (h : Compatible e) (hv : e.motion.states.Valid)
    (hsome : e.track0.state.desiredAction = some action) :
    e.motion.states.lifecycle = .active
      ∧ action ∈ stateActionCompatibility e.motion.states.motion e.motion.states.activity := by
  rw [compatible_iff hv, hsome] at h
  exact (animationCompatible_some.mp h).2

end

/-! ## Requests the catalog can play -/

section

variable {t0 : Track0Env}

/-- The controller can play the sequence: it is on Track 0, the player meets the sequencing contract, and
the registry knows the durations. -/
def Performable (t0 : Track0Env) (name : SequenceName) : Prop :=
  (sequenceCatalog name).track = 0 ∧ sequencingEnabled t0.player.capabilities = true
    ∧ t0.registry.validateSequence (sequenceCatalog name) true = .ok ()

/-- A request with the catalog's own policy passes its preflight exactly if its sequence is performable. -/
theorem preflight_accepted {request : ActionRequest}
    (hclass : request.interruptionClass = (sequenceCatalog request.sequenceName).interruptionClass)
    (hprotected : request.isProtected = (sequenceCatalog request.sequenceName).isProtected) :
    (PetTrack0Controller.preflight t0 request).outcome = .accepted ↔
      Performable t0 request.sequenceName := by
  unfold PetTrack0Controller.preflight Performable
  simp only [hclass, hprotected, ne_eq, not_true_eq_false, or_self, if_false]
  split
  next h => simp [h]
  next h =>
    split
    next hs => simp_all
    next hs =>
      split
      next herr => simp [herr]
      next hok => simp_all

/-- The request the engine makes for a sequence, where the constructor accepts it. -/
theorem make_policy {name : SequenceName} {requestToken : ObjectId} {semanticEpoch : Nat}
    {session : Option ObjectId} {origin : ActionOrigin} {source : ActionSource} {request : ActionRequest}
    (h : ActionRequest.make name (sequenceCatalog name).interruptionClass (sequenceCatalog name).isProtected
      requestToken semanticEpoch session origin source = .ok request) :
    request.sequenceName = name
      ∧ request.interruptionClass = (sequenceCatalog request.sequenceName).interruptionClass
      ∧ request.isProtected = (sequenceCatalog request.sequenceName).isProtected
      ∧ request.origin = origin ∧ request.semanticEpoch = semanticEpoch
      ∧ request.requestToken = requestToken := by
  unfold ActionRequest.make at h
  split at h
  next =>
    split at h
    next =>
      split at h
      next => cases h; exact ⟨rfl, rfl, rfl, rfl, rfl, rfl⟩
      next => cases h
    next => cases h
  next => cases h

/-- The request of a sequence that needs no input session is always made. -/
theorem make_ok (name : SequenceName) (requestToken : ObjectId) (semanticEpoch : Nat)
    {origin : ActionOrigin} {source : ActionSource} (hauthority : source ∈ sourcesByOrigin origin)
    (hclass : (sequenceCatalog name).interruptionClass ≠ .userInteraction) :
    ∃ request, ActionRequest.make name (sequenceCatalog name).interruptionClass
      (sequenceCatalog name).isProtected requestToken semanticEpoch none origin source = .ok request := by
  unfold ActionRequest.make
  rw [dif_pos hauthority, dif_pos (sequenceCatalog name).strict_protected, dif_pos (fun h => absurd h hclass)]
  exact ⟨_, rfl⟩

/-- Arbitration that admits a request over an active one asks for its replacement. -/
theorem arbitrate_mode {c : PetTrack0Controller} {request : ActionRequest} {context : ArbitrationContext}
    (hincoming : context.incomingMode = .replace) (hrunner : context.runnerAuthorizedContinuation = false)
    (hclass : request.interruptionClass ≠ .systemShutdown)
    (haccepted : (c.arbitrate request context).outcome = .accepted)
    (hactive : c.activeRequest.isSome = true) : (c.arbitrate request context).mode = some .replace := by
  obtain ⟨active, ha⟩ := Option.isSome_iff_exists.mp hactive
  unfold arbitrate PetActionArbiter.decide at haccepted ⊢
  simp only [ha, hclass, if_false, hincoming, hrunner, Bool.false_eq_true] at haccepted ⊢
  split
  next => rfl
  next h1 =>
    rw [if_neg h1] at haccepted
    split
    next h2 => rw [if_pos h2] at haccepted; cases haccepted
    next h2 =>
      rw [if_neg h2] at haccepted
      split
      next h3 => rw [if_pos h3] at haccepted; cases haccepted
      next h3 =>
        rw [if_neg h3] at haccepted
        unfold PetActionArbiter.decideEqualClass PetActionArbiter.decideMotionSafety
          PetActionArbiter.decideUserInteraction PetActionArbiter.decideNormalAction at haccepted ⊢
        grind

/-- Playing an admitted request: the player confirms its first step, or the failure is contained. -/
theorem playOrCancel_spec {e : PetAnimationEngine} {request : ActionRequest} {reason : CancelReason}
    {mode : Option CancellationMode}
    (hpre : (PetTrack0Controller.preflight t0 request).outcome = .accepted)
    (hmode : e.track0.activeRequest.isSome = true → mode = some .replace) :
    Wp (playOrCancel t0 reason mode request)
      (fun o e' => ∃ track0, e' = { e with track0 } ∧
        PlayedOr t0 e.track0 request
          (RunnerProgress.first (sequenceCatalog request.sequenceName).sequence) false o track0)
      (fun _ _ => False) e := by
  simp only [playOrCancel, wp_bind, wp_get]
  cases hactive : e.track0.activeRequest with
  | none =>
    simp only [Option.isNone_none, if_true, wp_onTrack0]
    exact (play_spec hactive hpre).imp (fun _ track0 h => ⟨track0, rfl, h⟩)
  | some active =>
    rw [hmode (by rw [hactive]; rfl)]
    simp only [Option.isNone_some, Bool.false_eq_true, if_false, wp_onTrack0, PetTrack0Controller.cancel]
    exact (PetTrack0Controller.replacePlayback_spec hpre).imp (fun _ track0 h => ⟨track0, rfl, h⟩)

end

theorem wp_arbitrationContext {e : PetAnimationEngine} {state : PetLayeredState}
    (hs : e.motion.states.snapshot = .ok state) (Q : ArbitrationContext → PetAnimationEngine → Prop)
    (R : PetError → PetAnimationEngine → Prop) :
    Wp arbitrationContext Q R e ↔ Q (contextOf state e.track0) e := by
  simp only [arbitrationContext, wp_bind, wp_motionState hs, wp_get, wp_pure]

/-! ## What a production intent can end in -/

section

variable {t0 : Track0Env} {e : PetAnimationEngine} {intent : ActionIntent}

/-- The first step of a production action's sequence. -/
def productionProgress (action : ProductionAction) : RunnerProgress :=
  RunnerProgress.first (sequenceCatalog (productionSequenceByAction action)).sequence

theorem productionProgress_step (action : ProductionAction) :
    (productionProgress action).step = step (productionTrack0Action action) action.isLoop := by
  cases action <;> rfl

/-- A request of the engine plays a step of the sequence it names, under the catalog's policy. -/
structure Performs (t0 : Track0Env) (c : PetTrack0Controller) (request : ActionRequest) (p : RunnerProgress) :
    Prop where
  playing : Playing t0 c request p
  sequence : p.sequence = (sequenceCatalog request.sequenceName).sequence
  policy : request.isProtected = (sequenceCatalog request.sequenceName).isProtected

/-- The mode a carried-out intent leaves. -/
def intentMode (intent : ActionIntent) : AutonomousExecutionMode :=
  if intent.action.isProtected then .suspended
  else if intent.origin = .explicit then .explicitHold
  else .autonomous

/-- The engine while an intent plays. -/
def settled (e : PetAnimationEngine) (intent : ActionIntent) (motion : PetMotionModel)
    (track0 : PetTrack0Controller) : PetAnimationEngine :=
  { e with
    motion, track0
    activeProductionAction := some intent.action
    executionMode := intentMode intent
    autonomousResumeAction :=
      if intentMode intent = .autonomous then some intent.action else e.autonomousResumeAction
    pendingExplicitAction := if intent.origin = .explicit then none else e.pendingExplicitAction
    resumeAfterProtected := if intent.origin = .explicit then false else e.resumeAfterProtected }

/-- The engine after the player refused an intent. -/
def refusedByPlayer (e : PetAnimationEngine) (intent : ActionIntent) (motion : PetMotionModel)
    (track0 : PetTrack0Controller) : PetAnimationEngine :=
  { e with
    motion, track0
    activeProductionAction := none
    executionMode := .suspended
    pendingExplicitAction := if intent.origin = .explicit then none else e.pendingExplicitAction
    resumeAfterProtected := if intent.origin = .explicit then false else e.resumeAfterProtected }

/-- What submitting an intent can end in. -/
inductive Submitted (t0 : Track0Env) (e : PetAnimationEngine) (intent : ActionIntent) :
    ActionOutcome → PetAnimationEngine → Prop where
  /-- A person asks for the protected action that plays already: only the queue is emptied. -/
  | continued (hexplicit : intent.origin = .explicit) (hbusy : e.track0.activeRequest.isSome = true) :
    Submitted t0 e intent .accepted { e with pendingExplicitAction := none, resumeAfterProtected := false }
  /-- An explicit intent waits behind a protected playback. -/
  | queued (hexplicit : intent.origin = .explicit) (hprotected : e.activeRequestIsProtected = true)
      (pending : PendingExplicitIntent) (hpending : pending.action = intent.action) :
    Submitted t0 e intent .accepted
      { e with
        pendingExplicitAction := some pending, resumeAfterProtected := false, executionMode := .suspended }
  /-- The held loop is asked for again. -/
  | held (hexplicit : intent.origin = .explicit) (hbusy : e.track0.state.confirmedEpoch.isSome = true) :
    Submitted t0 e intent .accepted { e with resumeAfterProtected := false }
  /-- The intent is kept out. On a free track of a healthy, active pet only an unknown duration does that. -/
  | refused (o : ActionOutcome) (ho : o ≠ .accepted)
      (hfree : e.track0.activeRequest = none → e.track0.state.health = .healthy →
        e.motion.states.lifecycle = .active → ¬Performable t0 (productionSequenceByAction intent.action)) :
    Submitted t0 e intent o e
  /-- The intent plays. -/
  | played (motion : PetMotionModel) (track0 : PetTrack0Controller) (request : ActionRequest)
      (hperformable : Performable t0 (productionSequenceByAction intent.action))
      (hat : motion.states.At .active (semanticTarget intent.action).motion
        (semanticTarget intent.action).activity)
      (hturn : motion.pendingDirectionTurn = e.motion.pendingDirectionTurn)
      (hname : request.sequenceName = productionSequenceByAction intent.action)
      (horigin : request.origin = intent.origin)
      (hperforms : Performs t0 track0 request (productionProgress intent.action)) :
    Submitted t0 e intent .accepted (e.settled intent motion track0)
  /-- The player refused it. -/
  | failed (o : ActionOutcome) (motion : PetMotionModel) (track0 : PetTrack0Controller)
      (hvalid : motion.states.Valid) (hturn : motion.pendingDirectionTurn = e.motion.pendingDirectionTurn)
      (hcontained : Contained o track0) :
    Submitted t0 e intent o (e.refusedByPlayer intent motion track0)

theorem intentChange_resets (action : ProductionAction) (facing : Option PetFacing) :
    (intentChange action facing).Resets := .inl rfl

/-- The layers an intent proposes on an active pet are those its action stands for. -/
theorem proposal_intent (hv : e.motion.states.Valid) (action : ProductionAction) (facing : Option PetFacing)
    (hactive : e.motion.states.lifecycle = .active) :
    let target := (e.motion.states.proposal (e.motion.states.state hv) (intentChange_resets action facing)).targetState
    target.lifecycle = .active ∧ target.motion = (semanticTarget action).motion
      ∧ target.activity = (semanticTarget action).activity := by
  simp only [PetLayeredStateMachine.proposal, targetLayers, intentChange,
    PetLayeredStateMachine.state, Option.getD_none, hactive, Option.getD_some, Option.isSome_some]
  cases action <;> simp [semanticTarget]

/-- An intent proposes no lifecycle of its own. -/
theorem proposal_intent_lifecycle (hv : e.motion.states.Valid) (action : ProductionAction)
    (facing : Option PetFacing) :
    (e.motion.states.proposal (e.motion.states.state hv) (intentChange_resets action facing)).targetState.lifecycle
      = e.motion.states.lifecycle := PetLayeredStateMachine.targetLayers_lifecycle _ _

/-- An intent that plays is settled: its layers permit its action. -/
theorem settleIntent_spec {request : ActionRequest} {motion : PetMotionModel} {track0 : PetTrack0Controller}
    (hat : motion.states.At .active (semanticTarget intent.action).motion
      (semanticTarget intent.action).activity)
    (hplaying : Playing t0 track0 request (productionProgress intent.action))
    {Q : ActionOutcome → PetAnimationEngine → Prop} {R : PetError → PetAnimationEngine → Prop}
    (hQ : Q .accepted { e with
      motion, track0, activeProductionAction := some intent.action, executionMode := intentMode intent
      autonomousResumeAction :=
        if intentMode intent = .autonomous then some intent.action else e.autonomousResumeAction }) :
    Wp (settleIntent intent) Q R { e with motion, track0 } := by
  have hcompatible : ∀ e' : PetAnimationEngine, e'.motion = motion → e'.track0 = track0 → Compatible e' := by
    rintro e' rfl rfl
    refine compatible_of_permits hat rfl hplaying.desired hplaying.health ?_
    rw [productionProgress_step, step_action]
    exact semanticTarget_permits intent.action
  simp only [settleIntent, wp_bind, wp_modify, wp_ite, wp_setMode]
  refine ⟨fun hp => ?_, fun hp => ⟨fun hx => ?_, fun hx => ?_⟩⟩
  · refine (hcompatible _ rfl rfl).asserts (wp_pure.mpr ?_)
    simpa [intentMode, hp] using hQ
  · refine (hcompatible _ rfl rfl).asserts (wp_pure.mpr ?_)
    simpa [intentMode, hp, hx] using hQ
  · refine (hcompatible _ rfl rfl).asserts (wp_pure.mpr ?_)
    simpa [intentMode, hp, hx] using hQ

/-- An intent the player refused is given up: a walk without an animation stops. -/
theorem failIntent_spec {o : ActionOutcome} {motion : PetMotionModel} {track0 : PetTrack0Controller}
    (hv : motion.states.Valid) (hcontained : Contained o track0)
    {Q : ActionOutcome → PetAnimationEngine → Prop} {R : PetError → PetAnimationEngine → Prop}
    (hQ : ∀ motion' : PetMotionModel, motion'.states.Valid →
      motion'.pendingDirectionTurn = motion.pendingDirectionTurn →
      Q o { e with
        motion := motion', track0, activeProductionAction := none, executionMode := .suspended }) :
    Wp (failIntent intent o) Q R { e with motion, track0 } := by
  have hcompatible : ∀ e' : PetAnimationEngine, e'.motion.states.Valid → e'.track0 = track0 →
      Compatible e' := by
    rintro e' hv' rfl
    exact compatible_of_unhealthy hv' hcontained.stopped.desired hcontained.health
  simp only [failIntent, wp_bind, wp_modify, wp_ite, proposeRelax, wp_propose]
  refine ⟨fun _ => ⟨fun proposal hpropose => ?_, fun err herr => ?_⟩, fun _ => ?_⟩
  · refine (wp_commit (intentChange .relax none) ?_ _ _).mpr ?_
    · exact hpropose
    · refine (hcompatible _ ?_ rfl).asserts (wp_pure.mpr (hQ _ ?_ rfl))
      · exact valid_install _ _ _
      · exact valid_install _ _ _
  · rw [propose_eq _ (snapshot_of_valid _ hv)
      (intentChange_resets _ _)] at herr
    cases herr
  · exact (hcompatible _ hv rfl).asserts (wp_pure.mpr (hQ _ hv rfl))

/-- An admitted intent plays or fails at the player. -/
theorem carryOutIntent_spec {proposal : ProposedStateTransition} {change : StateChange}
    {request : ActionRequest} {mode : Option CancellationMode}
    (hpropose : e.motion.states.propose change = .ok proposal)
    (hlifecycle : proposal.targetState.lifecycle = .active)
    (hmotion : proposal.targetState.motion = (semanticTarget intent.action).motion)
    (hactivity : proposal.targetState.activity = (semanticTarget intent.action).activity)
    (hname : request.sequenceName = productionSequenceByAction intent.action)
    (horigin : request.origin = intent.origin)
    (hclass : request.interruptionClass = (sequenceCatalog request.sequenceName).interruptionClass)
    (hprotected : request.isProtected = (sequenceCatalog request.sequenceName).isProtected)
    (hpre : (PetTrack0Controller.preflight t0 request).outcome = .accepted)
    (hmode : e.track0.activeRequest.isSome = true → mode = some .replace) :
    Wp (carryOutIntent t0 intent proposal request mode) (Submitted t0 e intent) (fun _ _ => False) e := by
  -- clearing the queue for an explicit intent is part of what both endings record
  have hplay : ∀ e₁ : PetAnimationEngine, e₁.motion = e.motion → e₁.track0 = e.track0 →
      e₁.settled intent = e.settled intent → e₁.refusedByPlayer intent = e.refusedByPlayer intent →
      (intent.origin = .explicit → e₁.pendingExplicitAction = none ∧ e₁.resumeAfterProtected = false) →
      Wp (do
        commit proposal
        let outcome ← playOrCancel t0 .userInterrupt mode request
        if outcome ≠ .accepted then failIntent intent outcome else settleIntent intent)
        (Submitted t0 e intent) (fun _ _ => False) e₁ := by
    intro e₁ hm ht hsettled hrefused hcleared
    refine wp_bind.mpr ((wp_commit change (hm ▸ hpropose) _ _).mpr ?_)
    refine (playOrCancel_spec hpre (by simpa only [ht] using hmode)).bind ?_
    rintro o _ ⟨track0, rfl, ⟨rfl, hplaying, -, -, -⟩ | ⟨hcontained, -⟩⟩
    · rw [if_neg (by simp)]
      rw [hname] at hplaying
      have hat : (e₁.motion.committed proposal.targetState).states.At .active
          (semanticTarget intent.action).motion (semanticTarget intent.action).activity :=
        ⟨valid_install _ _ _, hlifecycle, hmotion, hactivity⟩
      refine settleIntent_spec hat hplaying ?_
      have hplayed : Submitted t0 e intent .accepted
          (e.settled intent (e₁.motion.committed proposal.targetState) track0) :=
        .played _ track0 request (hname ▸ (preflight_accepted hclass hprotected).mp hpre) hat
          (by rw [hm]; rfl) hname horigin ⟨hplaying, by rw [hname]; rfl, hprotected⟩
      rw [← hsettled] at hplayed
      convert hplayed using 1
      unfold settled
      by_cases hx : intent.origin = .explicit
      · obtain ⟨h1, h2⟩ := hcleared hx
        simp [hx, h1, h2]
      · simp [hx]
    · rw [if_pos hcontained.not_accepted]
      refine failIntent_spec ?_ hcontained fun motion' hv' hturn => ?_
      · exact valid_install _ _ _
      · have hfailed : Submitted t0 e intent o _ := .failed o motion' track0 hv'
          (by rw [hturn, hm]; rfl) hcontained
        rw [← hrefused] at hfailed
        convert hfailed using 1
        unfold refusedByPlayer
        by_cases hx : intent.origin = .explicit
        · obtain ⟨h1, h2⟩ := hcleared hx
          simp [hx, h1, h2]
        · simp [hx]
  unfold carryOutIntent
  by_cases hx : intent.origin = .explicit
  · simp only [if_pos hx]
    refine wp_bind.mpr (wp_clearProtectedContinuation.mpr ?_)
    refine hplay _ rfl rfl ?_ ?_ (fun _ => ⟨rfl, rfl⟩) <;>
      · funext motion track0
        simp [settled, refusedByPlayer, hx]
  · simp only [if_neg hx]
    exact hplay e rfl rfl rfl rfl (fun h => absurd h hx)

/-- What submitting an intent can end in; it never raises. -/
theorem submitProductionIntent_spec (hv : e.motion.states.Valid) (facing : Option PetFacing) :
    Wp (submitProductionIntent t0 intent facing) (Submitted t0 e intent) (fun _ _ => False) e := by
  have hadmit : ∀ override : Bool,
      (override = true → e.activeRequestIsProtected = true) →
      Wp (admitIntent t0 intent facing override) (Submitted t0 e intent) (fun _ _ => False) e := by
    intro override hoverride
    have hs := snapshot_of_valid e.motion.states hv
    have hpropose := propose_eq e.motion.states hs
      (intentChange_resets intent.action facing)
    obtain ⟨request, hmake⟩ := make_ok (productionSequenceByAction intent.action) intent.requestToken
      (e.motion.states.epoch + 1) intent.authority (by cases intent.action <;> decide)
    obtain ⟨hname, hclass, hprotected, horigin, -, -⟩ := make_policy hmake
    simp only [admitIntent, wp_bind, wp_propose, hpropose, Except.ok.injEq, forall_eq', reduceCtorEq,
      false_implies, implies_true, and_true, wp_getOrRaise]
    refine ⟨fun made hmade => ?_, fun err herr => ?_⟩
    · obtain rfl : request = made := Except.ok.inj (hmake.symm.trans hmade)
      refine wp_get.mpr ?_
      split
      next hincompatible =>
        refine .refused _ (by decide) fun _ hhealth hactive _ => hincompatible ?_
        obtain ⟨hl, hm, ha⟩ := proposal_intent hv intent.action facing hactive
        refine animationCompatible_some.mpr ⟨hhealth, hl, ?_⟩
        rw [hm, ha]
        exact semanticTarget_permits intent.action
      next hcompatible =>
        rw [not_not, animationCompatible_some] at hcompatible
        have hactive : e.motion.states.lifecycle = .active := by
          rw [← proposal_intent_lifecycle hv intent.action facing]
          exact hcompatible.2.1
        obtain ⟨hl, hm, ha⟩ := proposal_intent hv intent.action facing hactive
        split
        next hpre =>
          refine .refused _ hpre fun _ _ _ hperformable => hpre ?_
          exact (preflight_accepted hclass hprotected).mpr (hname ▸ hperformable)
        next hpre =>
          rw [not_not] at hpre
          split
          next hx =>
            exact carryOutIntent_spec hpropose hl hm ha hname horigin hclass hprotected hpre fun _ => rfl
          next hx =>
            simp only [wp_bind, wp_arbitrationContext hs, wp_get]
            split
            next hdecision =>
              refine .refused _ hdecision fun hfree _ _ _ => hdecision ?_
              simp [arbitrate, PetActionArbiter.decide, hfree]
            next hdecision =>
              rw [not_not] at hdecision
              refine carryOutIntent_spec hpropose hl hm ha hname horigin hclass hprotected hpre ?_
              exact arbitrate_mode rfl rfl (hclass ▸ catalog_not_shutdown _) hdecision
    · exact absurd (hmake.symm.trans herr) (by simp)
  unfold submitProductionIntent
  refine wp_get_bind.mpr ?_
  simp only
  split
  next hcontinued =>
    simp only [wp_bind, wp_clearProtectedContinuation, wp_pure]
    obtain ⟨hprotected, hexplicit, -⟩ := of_decide_eq_true hcontinued.1
    refine .continued hexplicit ?_
    cases hactive : e.track0.activeRequest with
    | none => simp [activeRequestIsProtected, hactive] at hprotected
    | some active => rfl
  next =>
    split
    next hqueued =>
      unfold queueIntent
      split
      next hx =>
        simp only [wp_bind, wp_modify, wp_pure]
        exact .queued hx (by simpa using hqueued.1) _ rfl
      next =>
        exact .refused _ (by decide) fun hfree => by
          simp [activeRequestIsProtected, hfree] at hqueued
    next =>
      split
      next hheld =>
        simp only [wp_bind, wp_modify, wp_pure]
        exact .held hheld.1 (by simp at hheld; exact hheld.2.2.2.2)
      next => exact hadmit _ fun h => by simp at h; exact h.1

end

/-! ## Entering autonomy -/

section

variable {env : EngineEnv} {t0 : Track0Env} {e : PetAnimationEngine}

/-- The scheduler watches the playback Track 0 has confirmed. -/
def SchedulerWatches (state : Option AutonomousSchedulerState) (confirmed : Option ConfirmedPlaybackEpoch) :
    Prop :=
  ∃ epoch watching, confirmed = some epoch ∧ state = some watching
    ∧ watching.playbackGeneration = some epoch.generation
    ∧ watching.playbackToken = some epoch.playbackToken

/-- The engine after it entered autonomy with an action. -/
def Activated (env : EngineEnv) (e : PetAnimationEngine) (action : ProductionAction)
    (e' : PetAnimationEngine) : Prop :=
  ∃ watching draws clockReadings,
    e' = { e with
      executionMode := .autonomous
      autonomousResumeAction := if action.isProtected then e.autonomousResumeAction else some action
      autonomousSchedulerState := watching, draws, clockReadings }
    ∧ (env.hasScheduler = true → SchedulerWatches watching e.track0.state.confirmedEpoch)

/-- Entering autonomy touches neither the layered state nor Track 0. -/
theorem Activated.frame {action : ProductionAction} {e' : PetAnimationEngine}
    (h : Activated env e action e') : e'.motion = e.motion ∧ e'.track0 = e.track0 := by
  obtain ⟨_, _, _, rfl, -⟩ := h
  exact ⟨rfl, rfl⟩

/-- Autonomy keeps its own books: what moves, what plays, and what waits stay as they are. -/
def Bookkeeps (e e' : PetAnimationEngine) : Prop :=
  ∃ executionMode autonomousSchedulerState autonomousResumeAction draws clockReadings,
    e' = { e with executionMode, autonomousSchedulerState, autonomousResumeAction, draws, clockReadings }

instance : Std.Refl Bookkeeps := ⟨fun _ => ⟨_, _, _, _, _, rfl⟩⟩

instance : Trans Bookkeeps Bookkeeps Bookkeeps where
  trans := by
    rintro _ _ _ ⟨_, _, _, _, _, rfl⟩ ⟨_, _, _, _, _, rfl⟩
    exact ⟨_, _, _, _, _, rfl⟩

theorem setMode_bookkeeps (mode : AutonomousExecutionMode) : Follows Bookkeeps (setMode mode) :=
  fun _ => ⟨_, _, _, _, _, rfl⟩

theorem activateAutonomous_bookkeeps (action : ProductionAction) :
    Follows Bookkeeps (activateAutonomous env action) := by
  have hbooks : ∀ {f : PetAnimationEngine → PetAnimationEngine}, (∀ e, Bookkeeps e (f e)) →
      Follows Bookkeeps (modify f : Program PetAnimationEngine Unit) := .modify
  have hclock : Follows Bookkeeps (readClock env) := fun _ => ⟨_, _, _, _, _, rfl⟩
  have hdraws : ∀ c : Program Nat AutonomousSchedulerState, Follows Bookkeeps (onRandom c) := fun c e =>
    wp_onRandom.mpr (wp_trivial c (fun _ _ => ⟨_, _, _, _, _, rfl⟩) (fun _ _ => ⟨_, _, _, _, _, rfl⟩))
  -- the resume action of a loop is recorded before the scheduler is entered
  have henter : ∀ confirmed : ConfirmedPlaybackEpoch, Follows Bookkeeps (do
      if !env.hasScheduler then
        modify fun (e : PetAnimationEngine) => { e with autonomousSchedulerState := none }
      else
        let state ← getOrRaise (autonomousStateForAction action)
        let enteredAt ← readClock env
        let entered ← onRandom (AutonomousActionScheduler.enter env.rng state enteredAt
          (some confirmed.generation) (some confirmed.playbackToken))
        modify fun e => { e with autonomousSchedulerState := some entered }) := by
    intro confirmed
    split
    next => exact hbooks fun _ => ⟨_, _, _, _, _, rfl⟩
    next =>
      refine Follows.bind (.getOrRaise _) fun state => hclock.bind fun enteredAt => ?_
      exact (hdraws _).bind fun entered => hbooks fun _ => ⟨_, _, _, _, _, rfl⟩
  unfold activateAutonomous
  refine .get fun e => ?_
  cases e.track0.state.confirmedEpoch with
  | none => exact hbooks fun _ => ⟨_, _, _, _, _, rfl⟩
  | some confirmed =>
    refine (setMode_bookkeeps _).bind fun _ => ?_
    dsimp only
    split
    next => exact .bind (hbooks fun _ => ⟨_, _, _, _, _, rfl⟩) fun _ => henter confirmed
    next => exact henter confirmed

theorem settleAutonomous_bookkeeps (action : ProductionAction) (outcome : ActionOutcome) :
    Follows Bookkeeps (settleAutonomous env action outcome) := by
  unfold settleAutonomous
  split
  next => exact activateAutonomous_bookkeeps action
  next => exact setMode_bookkeeps _

theorem wp_enter (rng : RandomSource) (state : AutonomousState) (enteredAt : Rat)
    (generation : Option Nat) (token : Option ObjectId) (n : Nat)
    {Q : AutonomousSchedulerState → Nat → Prop} {R : PetError → Nat → Prop}
    (h : ∀ watching draws, watching.playbackGeneration = generation → watching.playbackToken = token →
      Q watching draws) :
    Wp (AutonomousActionScheduler.enter rng state enteredAt generation token) Q R n := by
  simp only [AutonomousActionScheduler.enter, wp_bind]
  exact AutonomousActionScheduler.wp_sampleDwell rng state n fun _ _ => h _ _ rfl rfl

/-- With a confirmed playback, autonomy is entered and the scheduler watches that playback. -/
theorem activateAutonomous_spec {action : ProductionAction}
    (hconfirmed : e.track0.state.confirmedEpoch.isSome = true) (haction : action ≠ .interact) :
    Wp (activateAutonomous env action) (fun _ => Activated env e action) (fun _ _ => False) e := by
  obtain ⟨epoch, hepoch⟩ := Option.isSome_iff_exists.mp hconfirmed
  obtain ⟨state, hstate⟩ : ∃ state, autonomousStateForAction action = .ok state := by
    cases action <;> first | exact ⟨_, rfl⟩ | exact absurd rfl haction
  -- the resume action of a loop is recorded before the scheduler is entered
  have henter : ∀ e₁ : PetAnimationEngine, e₁.track0.state.confirmedEpoch = some epoch →
      e₁ = { e with
        executionMode := .autonomous
        autonomousResumeAction := if action.isProtected then e.autonomousResumeAction else some action } →
      Wp (if !env.hasScheduler then modify fun e => { e with autonomousSchedulerState := none }
        else do
          let state ← getOrRaise (autonomousStateForAction action)
          let enteredAt ← readClock env
          let entered ← onRandom (AutonomousActionScheduler.enter env.rng state enteredAt
            (some epoch.generation) (some epoch.playbackToken))
          modify fun e => { e with autonomousSchedulerState := some entered })
        (fun _ => Activated env e action) (fun _ _ => False) e₁ := by
    rintro e₁ he₁ rfl
    cases hs : env.hasScheduler with
    | false => exact ⟨none, _, _, rfl, fun h => by rw [hs] at h; cases h⟩
    | true =>
      simp only [Bool.not_true, Bool.false_eq_true, if_false, hstate, wp_bind, wp_getOrRaise,
        Except.ok.injEq, forall_eq', reduceCtorEq, false_implies, implies_true, and_true, wp_readClock,
        wp_onRandom, wp_modify]
      refine wp_enter _ _ _ _ _ _ fun watching draws hgeneration htoken => ?_
      exact ⟨some watching, draws, _, rfl, fun _ => ⟨epoch, watching, hepoch, rfl, hgeneration, htoken⟩⟩
  simp only [activateAutonomous, wp_bind, wp_get, hepoch, wp_setMode]
  cases hp : action.isProtected with
  | true => exact henter _ hepoch (by simp [hp])
  | false => exact henter _ hepoch (by simp [hp])

end

end PetAnimationEngine

end ArkClaw.Pet
