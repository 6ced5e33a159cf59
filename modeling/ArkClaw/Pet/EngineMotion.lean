import ArkClaw.Pet.EngineUnprompted
import ArkClaw.Pet.Ground

/-!
# What the engine does to the motion model

A program of the engine touches the motion model by the transitions of its own and by the proposals it commits. A
relation of the motion model is led along by every program whose commits lead along it, and the engine commits an
intent only where it is admitted, an event only where it is admitted or mandatory.
-/

namespace ArkClaw.Pet

open ArkClaw.Library
open PetLayeredStateMachine (propose_lifecycle snapshot_lifecycle propose_source propose_motion targetLayers
  propose_eq)

namespace PetAnimationEngine

/-- The relation of the motion model, seen on the engine it belongs to. -/
def OnMotion (r : PetMotionModel → PetMotionModel → Prop) (e e' : PetAnimationEngine) : Prop := r e.motion e'.motion

theorem OnMotion.rfl {r : PetMotionModel → PetMotionModel → Prop} [Std.Refl r] {e : PetAnimationEngine} : OnMotion r e e :=
  Std.Refl.refl e.motion

/-- The two actions that walk. -/
def Moves (action : ProductionAction) : Prop := action = .moveLeft ∨ action = .moveRight

instance (action : ProductionAction) : Decidable (Moves action) := inferInstanceAs (Decidable (_ ∨ _))

section

variable {env : EngineEnv} {t0 : Track0Env} {e e' : PetAnimationEngine} {α : Type}
  {r : PetMotionModel → PetMotionModel → Prop}

instance [Std.Refl r] : Std.Refl (OnMotion r) := ⟨fun e => Std.Refl.refl e.motion⟩

instance [Trans r r r] : Trans (OnMotion r) (OnMotion r) (OnMotion r) :=
  ⟨fun {e e' e''} (h : r e.motion e'.motion) (h' : r e'.motion e''.motion) => (Trans.trans h h' : r _ _)⟩

theorem onMotion_follows {c : Program PetMotionModel α} (h : Follows r c) : Follows (OnMotion r) (onMotion c) :=
  fun e => wp_onMotion.mpr (h e.motion)

/-! ## Programs that touch no motion -/

section

variable [Std.Refl r]

theorem still_frame {f : PetAnimationEngine → PetAnimationEngine} (hmotion : ∀ e, (f e).motion = e.motion) :
    Follows (OnMotion r) (modify f : Program PetAnimationEngine Unit) :=
  .modify fun e => by
    show r e.motion (f e).motion
    rw [hmotion]
    exact Std.Refl.refl _

theorem onTrack0_still (c : Program PetTrack0Controller α) : Follows (OnMotion r) (onTrack0 c) := fun e =>
  wp_onTrack0.mpr
    (wp_trivial c (fun _ _ => Std.Refl.refl e.motion) (fun _ _ => Std.Refl.refl e.motion))

theorem onRandom_still (c : Program Nat α) : Follows (OnMotion r) (onRandom c) := fun e =>
  wp_onRandom.mpr
    (wp_trivial c (fun _ _ => Std.Refl.refl e.motion) (fun _ _ => Std.Refl.refl e.motion))

theorem newObject_still : Follows (OnMotion r) newObject := fun e => Std.Refl.refl e.motion

theorem setMode_still (mode : AutonomousExecutionMode) : Follows (OnMotion r) (setMode mode) :=
  still_frame fun _ => rfl

theorem clearProtectedContinuation_still : Follows (OnMotion r) clearProtectedContinuation :=
  still_frame fun _ => rfl

theorem interrupt_still : Follows (OnMotion r) interrupt := fun e => Std.Refl.refl e.motion

theorem state_still : Follows (OnMotion r) (onMotion PetMotionModel.state) := fun e => by
  refine wp_onMotion.mpr ((PetMotionModel.wp_shown _ _).mpr ⟨fun _ _ => ?_, fun _ _ => ?_⟩) <;>
  · exact Std.Refl.refl e.motion

theorem playOrCancel_still (reason : CancelReason) (mode : Option CancellationMode) (request : ActionRequest) :
    Follows (OnMotion r) (playOrCancel t0 reason mode request) := by
  refine .get fun e => ?_
  split
  next => exact onTrack0_still _
  next =>
    cases mode with
    | none => exact .pure _
    | some mode => exact onTrack0_still _

theorem Bookkeeps.still (h : Bookkeeps e e') : OnMotion r e e' := by
  obtain ⟨_, _, _, _, _, rfl⟩ := h
  exact Std.Refl.refl e.motion

theorem activateAutonomous_still (action : ProductionAction) :
    Follows (OnMotion r) (activateAutonomous env action) :=
  (activateAutonomous_bookkeeps action).mono fun _ _ => Bookkeeps.still

theorem settleAutonomous_still (action : ProductionAction) (outcome : ActionOutcome) :
    Follows (OnMotion r) (settleAutonomous env action outcome) :=
  (settleAutonomous_bookkeeps action outcome).mono fun _ _ => Bookkeeps.still

variable [Trans r r r]

theorem assertTransactionCompatible_still : Follows (OnMotion r) assertTransactionCompatible :=
  state_still.bind fun _ => .get fun _ => .getOrRaise _

theorem startIdleAfterTerminal_still : Follows (OnMotion r) (startIdleAfterTerminal t0) := by
  unfold startIdleAfterTerminal
  refine newObject_still.bind fun token => .get fun e => Follows.bind (.getOrRaise _) fun request => ?_
  split
  next => exact onTrack0_still _
  next => exact onTrack0_still _

/-- The recovery of a landing leaves the layers to the motion model. -/
theorem recoverLanding_still (previous moved : PetMotionState) :
    Follows (OnMotion r) (recoverLanding env previous moved) := by
  unfold recoverLanding
  split
  next =>
    cases env.track0 with
    | none => exact .pure _
    | some t0 =>
      refine .map _ ?_
      unfold finishRelaxMotionRecovery
      refine .get fun e => ?_
      split
      next => exact (setMode_still _).bind fun _ => .pure _
      next =>
        refine newObject_still.bind fun token => Follows.bind (.getOrRaise _) fun request => ?_
        refine (onTrack0_still _).bind fun adopted => ?_
        split
        next => exact (setMode_still _).bind fun _ => .pure _
        next =>
          refine .bind (still_frame fun _ => rfl) fun _ => (activateAutonomous_still _).bind fun _ => ?_
          exact assertTransactionCompatible_still.bind fun _ => .pure _
  next => exact .pure _

end

/-! ## Intents -/

/-- The request an intent makes under an epoch. -/
def intentRequest (intent : ActionIntent) (semanticEpoch : Nat) : Except PetError ActionRequest :=
  let name := productionSequenceByAction intent.action
  ActionRequest.make name (sequenceCatalog name).interruptionClass (sequenceCatalog name).isProtected
    intent.requestToken semanticEpoch none intent.origin intent.source

/-- Nothing protected is in the way of the intent, and compatibility, preflight, and arbitration admit it; a human
interface over a protected playback needs no arbitration. -/
def AdmitsIntent (t0 : Track0Env) (e : PetAnimationEngine) (intent : ActionIntent) : Prop :=
  (e.activeRequestIsProtected = true →
      intent.origin = .explicit ∧ (intent.source = .user ∨ intent.source = .tray))
    ∧ ∃ proposal request, e.motion.states.propose (intentChange intent.action none) = .ok proposal
      ∧ intentRequest intent proposal.targetEpoch = .ok request
      ∧ AnimationCompatible proposal.targetState (some (productionTrack0Action intent.action))
        e.track0.state.health
      ∧ (PetTrack0Controller.preflight t0 request).outcome = .accepted
      ∧ (e.activeRequestIsProtected = true
        ∨ (e.track0.arbitrate request (contextOf proposal.sourceState e.track0)).outcome = .accepted)

/-- An active pet with a healthy renderer whose registry can play the action. -/
def CanPlay (t0 : Track0Env) (e : PetAnimationEngine) (action : ProductionAction) : Prop :=
  e.motion.states.lifecycle = .active ∧ e.track0.state.health = .healthy
    ∧ Performable t0 (productionSequenceByAction action)

/-- What a proposal that passes compatibility and preflight was made from. -/
theorem canPlay_of_compatible {intent : ActionIntent} {facing : Option PetFacing} {proposal : ProposedStateTransition}
    {request : ActionRequest} (hpropose : e.motion.states.propose (intentChange intent.action facing) = .ok proposal)
    (hrequest : intentRequest intent proposal.targetEpoch = .ok request)
    (hcompatible : AnimationCompatible proposal.targetState (some (productionTrack0Action intent.action))
      e.track0.state.health)
    (hpre : (PetTrack0Controller.preflight t0 request).outcome = .accepted) : CanPlay t0 e intent.action := by
  obtain ⟨hhealth, hlifecycle, -⟩ := animationCompatible_some.mp hcompatible
  obtain ⟨hname, hclass, hprotected, -⟩ := make_policy hrequest
  refine ⟨?_, hhealth, hname ▸ (preflight_accepted hclass hprotected).mp hpre⟩
  have hkept : proposal.targetState.lifecycle = proposal.sourceState.lifecycle :=
    propose_lifecycle _ hpropose
  have hshown := snapshot_lifecycle (propose_source _ hpropose).1
  exact hshown.symm.trans (hkept.symm.trans hlifecycle)

/-- An intent walks, or its motion is idle. -/
theorem intentChange_motion (action : ProductionAction) (facing : Option PetFacing) :
    ∃ motion, (intentChange action facing).motion = some motion
      ∧ (motion = .idle ∨ motion ∈ walkMotions ∧ Moves action) := by
  refine ⟨_, rfl, ?_⟩
  cases action <;> decide

/-- The motion an intent proposes: idle, or a walk where the intent moves. -/
def Intends (action : ProductionAction) (proposal : ProposedStateTransition) : Prop :=
  proposal.targetState.motion = .idle ∨ proposal.targetState.motion ∈ walkMotions ∧ Moves action

theorem propose_intends {action : ProductionAction} {facing : Option PetFacing} {proposal : ProposedStateTransition}
    {states : PetLayeredStateMachine} (h : states.propose (intentChange action facing) = .ok proposal) :
    Intends action proposal := by
  obtain ⟨motion, hchange, hcases⟩ := intentChange_motion action facing
  have htarget : proposal.targetState.motion = motion := by
    rw [propose_motion h, hchange]
    rfl
  unfold Intends
  rw [htarget]
  exact hcases

/-- What follows a proposal may use where it goes. -/
theorem propose_follows [Std.Refl r] {f : ProposedStateTransition → Program PetAnimationEngine α} {change : StateChange}
    (h : ∀ proposal : ProposedStateTransition,
      proposal.targetState.motion = change.motion.getD proposal.sourceState.motion →
        proposal.targetState.lifecycle = change.lifecycle.getD proposal.sourceState.lifecycle →
        Follows (OnMotion r) (f proposal)) : Follows (OnMotion r) (propose change >>= f) := fun e =>
  wp_bind.mpr ((wp_propose _ _ _).mpr
    ⟨fun proposal hproposal => h proposal (propose_motion hproposal)
      (propose_lifecycle _ hproposal) e, fun _ _ => Std.Refl.refl e.motion⟩)

section

variable [Std.Refl r] [Trans r r r] {intent : ActionIntent}

/-- The proposals of the intent, and of the Relax that stands in for it, are committed along the relation. -/
def CommitsIntent (r : PetMotionModel → PetMotionModel → Prop) (action : ProductionAction) : Prop :=
  ∀ proposal, Intends action proposal → Follows r (PetMotionModel.commitStateTransition proposal)

theorem failIntent_follows (hcommits : CommitsIntent r intent.action) (outcome : ActionOutcome) :
    Follows (OnMotion r) (failIntent intent outcome) := by
  unfold failIntent
  refine .bind (still_frame fun _ => rfl) fun _ => ?_
  dsimp only
  split
  next =>
    refine propose_follows fun proposal hmotion _ => (onMotion_follows (hcommits proposal (.inl hmotion))).bind fun _ => ?_
    exact assertTransactionCompatible_still.bind fun _ => .pure _
  next => exact assertTransactionCompatible_still.bind fun _ => .pure _

theorem settleIntent_still : Follows (OnMotion r) (settleIntent intent) := by
  have hset : ∀ f : PetAnimationEngine → PetAnimationEngine, (∀ e, (f e).motion = e.motion) →
      Follows (OnMotion r) (do modify f; assertTransactionCompatible; return ActionOutcome.accepted) :=
    fun f hf => .bind (still_frame hf) fun _ => assertTransactionCompatible_still.bind fun _ => .pure _
  unfold settleIntent
  refine .bind (still_frame fun _ => rfl) fun _ => ?_
  dsimp only
  split
  next => exact hset _ fun _ => rfl
  next =>
    split
    next => exact hset _ fun _ => rfl
    next => exact hset _ fun _ => rfl

/-- Once the proposal is committed, the intent plays or fails. -/
theorem carryOutIntent_commits {proposal : ProposedStateTransition} {request : ActionRequest}
    {mode : Option CancellationMode} {Q : ActionOutcome → PetAnimationEngine → Prop}
    {R : PetError → PetAnimationEngine → Prop} (h : ∀ e₁ : PetAnimationEngine, e₁.motion = e.motion → Wp (do
        commit proposal
        let outcome ← playOrCancel t0 .userInterrupt mode request
        if outcome ≠ .accepted then failIntent intent outcome else settleIntent intent) Q R e₁) :
    Wp (carryOutIntent t0 intent proposal request mode) Q R e := by
  unfold carryOutIntent
  dsimp only
  split
  next =>
    refine wp_bind.mpr (wp_clearProtectedContinuation.mpr (h _ ?_))
    rfl
  next => exact h e rfl

/-- Playing an intent, and giving it up. -/
theorem playIntent_follows (hcommits : CommitsIntent r intent.action) (request : ActionRequest)
    (mode : Option CancellationMode) : Follows (OnMotion r) (do
      let outcome ← playOrCancel t0 .userInterrupt mode request
      if outcome ≠ .accepted then failIntent intent outcome else settleIntent intent) := by
  refine (playOrCancel_still _ _ _).bind fun outcome => ?_
  split
  next => exact failIntent_follows hcommits outcome
  next => exact settleIntent_still

theorem carryOutIntent_follows (hcommits : CommitsIntent r intent.action) {proposal : ProposedStateTransition}
    (hintends : Intends intent.action proposal) (request : ActionRequest) (mode : Option CancellationMode) :
    Follows (OnMotion r) (carryOutIntent t0 intent proposal request mode) := by
  refine fun e => carryOutIntent_commits fun e₁ hmotion => ?_
  have hrest : Follows (OnMotion r) (do
      commit proposal
      let outcome ← playOrCancel t0 .userInterrupt mode request
      if outcome ≠ .accepted then failIntent intent outcome else settleIntent intent) :=
    (onMotion_follows (hcommits proposal hintends)).bind fun _ => playIntent_follows hcommits request mode
  refine (hrest e₁).mono (fun _ e₂ h => ?_) (fun _ e₂ h => ?_)
  · unfold OnMotion at h ⊢
    exact hmotion ▸ h
  · unfold OnMotion at h ⊢
    exact hmotion ▸ h

/-- A submitted intent commits something only where it is admitted. -/
theorem submitProductionIntent_follows (intent : ActionIntent) (facing : Option PetFacing)
    (h : CanPlay t0 e intent.action → (facing = none → AdmitsIntent t0 e intent) → CommitsIntent r intent.action) :
    Wp (submitProductionIntent t0 intent facing) (fun _ => OnMotion r e) (fun _ => OnMotion r e) e := by
  have hrefl : OnMotion r e e := Std.Refl.refl e.motion
  have hadmit : ∀ override : Bool,
      (override = false → e.activeRequestIsProtected = false) →
      (override = true → e.activeRequestIsProtected = true ∧ intent.origin = .explicit
        ∧ (intent.source = .user ∨ intent.source = .tray)) →
      Wp (admitIntent t0 intent facing override) (fun _ => OnMotion r e) (fun _ => OnMotion r e) e := by
    intro override hfree hoverride
    have hprotected : e.activeRequestIsProtected = true →
        intent.origin = .explicit ∧ (intent.source = .user ∨ intent.source = .tray) := by
      intro hactive
      cases override with
      | false => rw [hfree rfl] at hactive; cases hactive
      | true => exact (hoverride rfl).2
    simp only [admitIntent, wp_bind, wp_propose, wp_getOrRaise]
    refine ⟨fun proposal hpropose => ⟨fun request hrequest => ?_, fun _ _ => hrefl⟩, fun _ _ => hrefl⟩
    refine wp_get.mpr ?_
    have hcarry : ∀ mode, AnimationCompatible proposal.targetState (some (productionTrack0Action intent.action))
          e.track0.state.health → (PetTrack0Controller.preflight t0 request).outcome = .accepted →
        (e.activeRequestIsProtected = true
          ∨ (e.track0.arbitrate request (contextOf proposal.sourceState e.track0)).outcome = .accepted) →
        Wp (carryOutIntent t0 intent proposal request mode) (fun _ => OnMotion r e) (fun _ => OnMotion r e) e := by
      intro mode hcompatible hpre harbitrates
      refine carryOutIntent_follows (h ?_ fun hnone => ?_) (propose_intends hpropose) _ _ e
      · exact canPlay_of_compatible hpropose hrequest hcompatible hpre
      · subst hnone
        exact ⟨hprotected, proposal, request, hpropose, hrequest, hcompatible, hpre, harbitrates⟩
    split
    next => exact hrefl
    next hcompatible =>
      split
      next => exact hrefl
      next hpre =>
        rw [not_not] at hcompatible hpre
        split
        next hx => exact hcarry _ hcompatible hpre (.inl (hoverride hx).1)
        next hx =>
          have hsource := (propose_source _ hpropose).1
          simp only [wp_bind, wp_arbitrationContext hsource, wp_get]
          split
          next => exact hrefl
          next hdecision => exact hcarry _ hcompatible hpre (.inr (not_not.mp hdecision))
  unfold submitProductionIntent
  refine wp_get_bind.mpr ?_
  dsimp only
  split
  next => exact hrefl
  next =>
    split
    next =>
      unfold queueIntent
      split
      next => exact hrefl
      next => exact hrefl
    next hqueue =>
      split
      next => exact hrefl
      next =>
        refine hadmit _ (fun hx => ?_) (fun hx => of_decide_eq_true hx)
        cases hprotected : e.activeRequestIsProtected with
        | false => rfl
        | true =>
          refine absurd ⟨hprotected, ?_⟩ hqueue
          rw [hx]
          rfl

/-- Without a human interface behind it, an admitted intent is carried out. -/
theorem submitProductionIntent_admitted {intent : ActionIntent} {Q : ActionOutcome → PetAnimationEngine → Prop}
    {R : PetError → PetAnimationEngine → Prop} (hadmits : AdmitsIntent t0 e intent) (horigin : intent.origin ≠ .explicit)
    (h : ∀ proposal request mode, e.motion.states.propose (intentChange intent.action none) = .ok proposal →
      Wp (carryOutIntent t0 intent proposal request mode) Q R e) :
    Wp (submitProductionIntent t0 intent) Q R e := by
  obtain ⟨hprotected, proposal, request, hpropose, hrequest, hcompatible, hpre, harbitrates⟩ := hadmits
  have hopen : e.activeRequestIsProtected = false := by
    by_contra hactive
    exact horigin (hprotected (Bool.not_eq_false _ ▸ hactive)).1
  have hdecision := harbitrates.resolve_left (by rw [hopen]; decide)
  have hsource := (propose_source _ hpropose).1
  unfold intentRequest at hrequest
  unfold submitProductionIntent admitIntent
  simp only [wp_bind, wp_get, hopen, horigin, Bool.false_eq_true, false_and, decide_false, if_false, wp_propose,
    hpropose, Except.ok.injEq, forall_eq', reduceCtorEq, false_implies, implies_true, and_true, wp_getOrRaise,
    hrequest, hcompatible, not_true_eq_false, hpre, ne_eq, wp_arbitrationContext hsource, hdecision]
  exact h proposal request _ hpropose

/-- The layers an active source makes of an intent are those its action stands for. -/
theorem targetLayers_intent {source : PetLayeredState} (hactive : source.lifecycle = .active) (action : ProductionAction)
    (facing : Option PetFacing) :
    (targetLayers source (intentChange action facing)).2.1 = (semanticTarget action).motion
      ∧ (targetLayers source (intentChange action facing)).2.2.2
        = (semanticTarget action).activity := by
  simp only [targetLayers, intentChange, Option.getD_none, hactive, Option.getD_some,
    Option.isSome_some]
  cases action <;> simp [semanticTarget]

/-- On a free track an intent is admitted that an active pet can play. -/
theorem admitsIntent_of_free {intent : ActionIntent} {state : PetLayeredState}
    (hs : e.motion.states.snapshot = .ok state) (hfree : e.track0.activeRequest = none)
    (hplays : CanPlay t0 e intent.action) : AdmitsIntent t0 e intent := by
  obtain ⟨hactive, hhealth, hperformable⟩ := hplays
  have hpropose := propose_eq e.motion.states hs (intentChange_resets intent.action none)
  obtain ⟨request, hmake⟩ := make_ok (productionSequenceByAction intent.action) intent.requestToken
    (e.motion.states.epoch + 1) intent.authority (by cases intent.action <;> decide)
  obtain ⟨hname, hclass, hprotected, -⟩ := make_policy hmake
  have hopen : e.activeRequestIsProtected = false := by
    unfold activeRequestIsProtected
    rw [hfree]
    rfl
  refine ⟨fun hactive => ?_, _, request, hpropose, hmake, ?_, ?_, .inr ?_⟩
  · rw [hopen] at hactive
    cases hactive
  · refine animationCompatible_some.mpr ⟨hhealth, ?_, ?_⟩
    · rw [propose_lifecycle _ hpropose]
      exact (snapshot_lifecycle hs).trans hactive
    · obtain ⟨hmotion, hactivity⟩ := targetLayers_intent
        ((snapshot_lifecycle hs).trans hactive) intent.action none
      show productionTrack0Action intent.action ∈ stateActionCompatibility _ _
      simp only [PetLayeredStateMachine.proposal, hmotion, hactivity]
      exact semanticTarget_permits intent.action
  · exact (preflight_accepted hclass hprotected).mpr (hname ▸ hperformable)
  · simp [PetTrack0Controller.arbitrate, PetActionArbiter.decide, hfree]

end

/-! ## Events -/

section

variable [Std.Refl r] [Trans r r r] {event : PetAnimationEvent}

theorem settleEvent_still (outcome : ActionOutcome) : Follows (OnMotion r) (settleEvent env event outcome) := by
  unfold settleEvent
  split
  next => exact .pure _
  next =>
    split
    next => exact setMode_still _
    next => exact .bind (still_frame fun _ => rfl) fun _ => activateAutonomous_still _

/-- The proposals of the event are committed along the relation, where it is admitted or mandatory. -/
def CommitsEvent (r : PetMotionModel → PetMotionModel → Prop) (env : EngineEnv) (t0 : Track0Env)
    (e : PetAnimationEngine) (event : PetAnimationEvent) : Prop :=
  ∀ change name reason proposal, eventChange env event = .ok (change, name, reason) →
    e.motion.states.propose change = .ok proposal → change.mandatoryForSafety = true ∨ Admits env t0 e event →
    Follows r (PetMotionModel.commitStateTransition proposal)

theorem submitEvent_follows {change : StateChange} {name : SequenceName} {reason : CancelReason}
    {proposal : ProposedStateTransition} (hcommits : CommitsEvent r env t0 e event)
    (hchange : eventChange env event = .ok (change, some name, reason))
    (hpropose : e.motion.states.propose change = .ok proposal) :
    Wp (submitEvent env t0 event proposal name reason) (fun _ => OnMotion r e) (fun _ => OnMotion r e) e := by
  have hrefl : OnMotion r e e := Std.Refl.refl e.motion
  obtain ⟨hsource, hmandatory, -⟩ := propose_source _ hpropose
  have hcontain : ∀ outcome : ActionOutcome, Follows (OnMotion r)
      (if proposal.mandatoryForSafety then containMandatoryProposal t0 proposal reason else return outcome) := by
    intro outcome
    split
    next hm =>
      refine (onMotion_follows (hcommits _ _ _ _ hchange hpropose (.inl (hmandatory ▸ hm)))).bind fun _ => ?_
      exact (onTrack0_still _).bind fun _ => assertTransactionCompatible_still.bind fun _ => .pure _
    next => exact .pure _
  unfold submitEvent
  refine wp_bind.mpr (wp_getOrRaise.mpr ⟨fun request hrequest => ?_, fun _ _ => hrefl⟩)
  obtain ⟨hname, -⟩ := make_policy hrequest
  refine wp_get_bind.mpr ?_
  dsimp only
  split
  next => exact hcontain _ e
  next hcompatible =>
    split
    next => exact hcontain _ e
    next hpre =>
      simp only [wp_bind, wp_arbitrationContext hsource, wp_get]
      split
      next => exact hrefl
      next hdecision =>
        rw [not_not] at hcompatible hpre hdecision
        have hadmits : Admits env t0 e event := by
          refine ⟨proposal, reason, request, ⟨change, hname ▸ hchange, hpropose, ?_⟩, ⟨?_, hpre⟩, hdecision⟩
          · rw [eventRequest, hname]
            exact hrequest
          · rw [hname]
            exact hcompatible
        have hcarry : Follows (OnMotion r) (carryOutEvent env t0 event proposal reason request
            (e.track0.arbitrate request (contextOf proposal.sourceState e.track0)).mode) :=
          (onMotion_follows (hcommits _ _ _ _ hchange hpropose (.inr hadmits))).bind fun _ =>
            (playOrCancel_still _ _ _).bind fun outcome => (settleEvent_still outcome).bind fun _ =>
              assertTransactionCompatible_still.bind fun _ => .pure _
        exact hcarry e

/-- An event commits something only where it is admitted or mandatory. -/
theorem handleEvent_follows (event : PetAnimationEvent)
    (hcommits : ∀ t0, env.track0 = some t0 → CommitsEvent r env t0 e event) :
    Wp (handleEvent env event) (fun _ => OnMotion r e) (fun _ => OnMotion r e) e := by
  obtain ⟨hmotion, -⟩ := prepared_frame e event
  have hfrom : ∀ e', OnMotion r (e.prepared event) e' → OnMotion r e e' := fun e' h => by
    unfold OnMotion at h ⊢
    rwa [hmotion] at h
  have hrefl : OnMotion r e (e.prepared event) := hfrom _ (Std.Refl.refl _)
  unfold handleEvent
  refine wp_bind.mpr ((wp_interruptFor _ _).mpr ?_)
  cases htrack : env.track0 with
  | none => exact hrefl
  | some t0 =>
    have hcommits : CommitsEvent r env t0 (e.prepared event) event := by
      intro change name reason proposal hchange hpropose hwhy
      refine hcommits t0 htrack _ _ _ _ hchange ?_ (hwhy.imp_right admits_prepared.mp)
      rwa [hmotion] at hpropose
    simp only [proposeEvent, wp_bind, wp_getOrRaise, wp_propose, wp_pure]
    refine ⟨?_, fun _ _ => hrefl⟩
    rintro ⟨change, name, reason⟩ hchange
    refine ⟨fun proposal hpropose => ?_, fun _ _ => hrefl⟩
    cases name with
    | none =>
      have hmandatory : change.mandatoryForSafety = true := by
        rcases (inactive_of_eventChange hchange).1 with hpause | hclosing
        · simp only [eventChange, hpause, Except.ok.injEq, Prod.mk.injEq] at hchange
          rw [← hchange.1]
        · simp only [eventChange, hclosing, Except.ok.injEq, Prod.mk.injEq] at hchange
          rw [← hchange.1]
      have hclears : Follows (OnMotion r) (do
          commit proposal
          let outcome ← onTrack0 (PetTrack0Controller.clear t0 reason)
          assertTransactionCompatible
          return outcome) :=
        (onMotion_follows (hcommits _ _ _ _ hchange hpropose (.inl hmandatory))).bind fun _ =>
          (onTrack0_still _).bind fun _ => assertTransactionCompatible_still.bind fun _ => .pure _
      exact (hclears (e.prepared event)).mono (fun _ e' => hfrom e') (fun _ e' => hfrom e')
    | some name =>
      exact (submitEvent_follows hcommits hchange hpropose).mono (fun _ e' => hfrom e') (fun _ e' => hfrom e')

end

end

end PetAnimationEngine

end ArkClaw.Pet
