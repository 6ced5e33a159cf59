import ArkClaw.Pet.EngineLaws

/-!
# What the engine can do with a semantic event

An event is kept out, contained, plays, fails at the player, or clears the track. `Handled` lists these
endings. The second half asks when an event that is not carried out leaves the engine as it was: always,
unless it is a mandatory interruption. Its bookkeeping is done before anything is decided about it.
-/

namespace ArkClaw.Pet

open ArkClaw.Library

namespace PetAnimationEngine

/-- The outcomes of an event that is not carried out. -/
def notCarriedOut : List ActionOutcome :=
  [.rejectedPriority, .rejectedDuplicate, .rejectedIncompatibleState, .invalidSequence, .registryMismatch,
    .sequencingDisabledCapability]

section

variable {t0 : Track0Env} {request : ActionRequest}

/-- A failed preflight keeps the request out. -/
theorem preflight_keepsOut (h : (PetTrack0Controller.preflight t0 request).outcome ≠ .accepted) :
    (PetTrack0Controller.preflight t0 request).outcome ∈ notCarriedOut := by
  unfold PetTrack0Controller.preflight at h ⊢
  simp only at h ⊢
  split
  next => decide
  next h1 =>
    split
    next => decide
    next h2 =>
      split
      next => decide
      next h3 =>
        split
        next => decide
        next hok => simp [h1, h2, h3, hok] at h

/-- Between requests of one class the arbiter accepts, or calls the request a duplicate or too low. -/
theorem decideEqualClass_outcome (incoming active : ActionRequest) (context : ArbitrationContext) :
    (PetActionArbiter.decideEqualClass incoming active context).outcome
      ∈ [ActionOutcome.accepted, .rejectedPriority, .rejectedDuplicate] := by
  unfold PetActionArbiter.decideEqualClass
  cases incoming.interruptionClass with
  | motionSafety => simp only [PetActionArbiter.decideMotionSafety]; split <;> decide
  | userInteraction => simp only [PetActionArbiter.decideUserInteraction]; split_ifs <;> decide
  | normalAction => simp only [PetActionArbiter.decideNormalAction]; split_ifs <;> decide
  | _ => simp

/-- A refused arbitration keeps the request out. -/
theorem arbitrate_keepsOut {c : PetTrack0Controller} {context : ArbitrationContext}
    (h : (c.arbitrate request context).outcome ≠ .accepted) :
    (c.arbitrate request context).outcome ∈ notCarriedOut := by
  have hmem : (c.arbitrate request context).outcome
      ∈ [ActionOutcome.accepted, .rejectedPriority, .rejectedDuplicate] := by
    unfold PetTrack0Controller.arbitrate PetActionArbiter.decide
    cases c.activeRequest with
    | none => simp
    | some active =>
      simp only
      split_ifs <;> first | exact decideEqualClass_outcome _ _ _ | simp
  generalize (c.arbitrate request context).outcome = o at h hmem ⊢
  cases o <;> simp_all [notCarriedOut]

end

section

variable {env : EngineEnv} {t0 : Track0Env} {e : PetAnimationEngine} {event : PetAnimationEvent}
variable {name : SequenceName} {reason : CancelReason}

/-! ## What an event submits -/

/-- The request an event makes for the sequence it proposes. -/
def eventRequest (event : PetAnimationEvent) (name : SequenceName) (semanticEpoch : Nat) :
    Except PetError ActionRequest :=
  ActionRequest.make name (sequenceCatalog name).interruptionClass (sequenceCatalog name).isProtected
    event.requestToken semanticEpoch event.inputSessionToken (eventOrigin event) (eventSource event)

/-- The event proposes a state and requests a sequence for it. -/
def Submits (env : EngineEnv) (e : PetAnimationEngine) (event : PetAnimationEvent)
    (proposal : ProposedStateTransition) (reason : CancelReason) (request : ActionRequest) : Prop :=
  ∃ change, eventChange env event = .ok (change, some request.sequenceName, reason)
    ∧ e.motion.states.propose change = .ok proposal
    ∧ eventRequest event request.sequenceName proposal.targetEpoch = .ok request

/-- The proposed state permits the sequence's first action, and the preflight accepts the request. -/
def Playable (t0 : Track0Env) (e : PetAnimationEngine) (proposal : ProposedStateTransition)
    (request : ActionRequest) : Prop :=
  AnimationCompatible proposal.targetState
      (some (RunnerProgress.first (sequenceCatalog request.sequenceName).sequence).step.action)
      e.track0.state.health
    ∧ (PetTrack0Controller.preflight t0 request).outcome = .accepted

/-- Compatibility, preflight, and arbitration all admit the event's sequence. -/
def Admits (env : EngineEnv) (t0 : Track0Env) (e : PetAnimationEngine) (event : PetAnimationEvent) : Prop :=
  ∃ proposal reason request, Submits env e event proposal reason request ∧ Playable t0 e proposal request
    ∧ (e.track0.arbitrate request (contextOf proposal.sourceState e.track0)).outcome = .accepted

/-- An event submits one request at most. -/
theorem Submits.unique {proposal proposal' : ProposedStateTransition} {reason reason' : CancelReason}
    {request request' : ActionRequest} (h : Submits env e event proposal reason request)
    (h' : Submits env e event proposal' reason' request') :
    proposal = proposal' ∧ reason = reason' ∧ request = request' := by
  obtain ⟨change, hchange, hpropose, hrequest⟩ := h
  obtain ⟨change', hchange', hpropose', hrequest'⟩ := h'
  rw [hchange] at hchange'
  simp only [Except.ok.injEq, Prod.mk.injEq, Option.some.injEq] at hchange'
  obtain ⟨rfl, hname, rfl⟩ := hchange'
  rw [hpropose] at hpropose'
  obtain rfl := Except.ok.inj hpropose'
  rw [← hname, hrequest] at hrequest'
  exact ⟨rfl, rfl, Except.ok.inj hrequest'⟩

/-- Of the events that play a sequence only a fall must go through. -/
theorem mandatory_of_eventChange {change : StateChange}
    (h : eventChange env event = .ok (change, some name, reason)) (hm : change.mandatoryForSafety = true) :
    event.eventType = .startFalling := by
  unfold eventChange at h
  cases hevent : event.eventType with
  | startFalling => rfl
  | startWalking =>
    rw [hevent] at h
    cases hfacing : event.facing with
    | none => rw [hfacing] at h; cases h
    | some facing => rw [hfacing] at h; cases facing <;> (cases h; cases hm)
  | _ => rw [hevent] at h; cases h <;> cases hm

/-- A resumed pet plays the production Relax. -/
theorem resume_of_eventChange {change : StateChange}
    (h : eventChange env event = .ok (change, some name, reason)) (hr : event.eventType = .resume) :
    name = .productionRelax := by
  unfold eventChange at h
  simp only [hr, Except.ok.injEq, Prod.mk.injEq, Option.some.injEq] at h
  exact h.2.1.symm

/-- An event without a sequence takes the pet out of the active lifecycle. -/
theorem inactive_of_eventChange {change : StateChange}
    (h : eventChange env event = .ok (change, none, reason)) :
    (event.eventType = .pause ∨ event.eventType = .beginClosing)
      ∧ ∃ lifecycle, change.lifecycle = some lifecycle ∧ lifecycle ≠ .active := by
  unfold eventChange at h
  cases hevent : event.eventType with
  | pause => rw [hevent] at h; cases h; exact ⟨.inl rfl, _, rfl, by decide⟩
  | beginClosing => rw [hevent] at h; cases h; exact ⟨.inr rfl, _, rfl, by decide⟩
  | startWalking =>
    rw [hevent] at h
    cases hfacing : event.facing with
    | none => rw [hfacing] at h; cases h
    | some facing => rw [hfacing] at h; cases facing <;> cases h
  | _ => rw [hevent] at h; cases h

/-- A mandatory interruption proposes a change that brings all the layers it needs. -/
theorem resets_of_eventChange {change : StateChange} {name : Option SequenceName}
    (h : eventChange env event = .ok (change, name, reason))
    (hm : event.eventType.isMandatoryInterruption = true) : change.Resets := by
  unfold eventChange at h
  cases hevent : event.eventType with
  | startFalling => rw [hevent] at h; cases h; exact .inl rfl
  | startDragging => rw [hevent] at h; cases h; exact .inl rfl
  | pause => rw [hevent] at h; cases h; exact .inr ⟨_, rfl, by decide⟩
  | beginClosing => rw [hevent] at h; cases h; exact .inr ⟨_, rfl, by decide⟩
  | _ => rw [hevent] at hm; cases hm

/-! ## What handling an event can end in -/

/-- What handling an event can end in, once its bookkeeping is done. -/
inductive Handled (env : EngineEnv) (t0 : Track0Env) (e : PetAnimationEngine) (event : PetAnimationEvent) :
    ActionOutcome → PetAnimationEngine → Prop where
  /-- The pet pauses or closes over a cleared track. -/
  | cleared (o : ActionOutcome) (motion : PetMotionModel) (track0 : PetTrack0Controller)
      (hevent : event.eventType = .pause ∨ event.eventType = .beginClosing)
      (hvalid : motion.states.Valid) (hinactive : motion.states.lifecycle ≠ .active)
      (hturn : motion.pendingDirectionTurn = e.motion.pendingDirectionTurn)
      (hstopped : PetTrack0Controller.Stopped track0)
      (ho : o = .cleared ∨ o = .rendererStateUnknown) :
    Handled env t0 e event o { e with motion, track0 }
  /-- A fall that cannot play happens all the same, over a cleared track. -/
  | contained (o : ActionOutcome) (proposal : ProposedStateTransition) (reason : CancelReason)
      (request : ActionRequest) (track0 : PetTrack0Controller)
      (hsubmits : Submits env e event proposal reason request)
      (hmandatory : proposal.mandatoryForSafety = true) (hunplayable : ¬Playable t0 e proposal request)
      (hcontained : PetTrack0Controller.Contained o track0) :
    Handled env t0 e event o { e with motion := e.motion.committed proposal.targetState, track0 }
  /-- The event is kept out. -/
  | refused (o : ActionOutcome) (ho : o ∈ notCarriedOut)
      (hsubmits : ∃ proposal reason request, Submits env e event proposal reason request
        ∧ (proposal.mandatoryForSafety = true → Playable t0 e proposal request))
      (hadmits : ¬Admits env t0 e event) :
    Handled env t0 e event o e
  /-- The event's sequence plays. -/
  | played (proposal : ProposedStateTransition) (reason : CancelReason) (request : ActionRequest)
      (track0 : PetTrack0Controller) (hadmits : Admits env t0 e event)
      (hsubmits : Submits env e event proposal reason request)
      (hperforms : Performs t0 track0 request
        (RunnerProgress.first (sequenceCatalog request.sequenceName).sequence))
      (hconfirms : PetTrack0Controller.confirms t0 e.track0
        (RunnerProgress.first (sequenceCatalog request.sequenceName).sequence).step = true)
      (hcompatible : Compatible { e with motion := e.motion.committed proposal.targetState, track0 })
      (hresume : event.eventType ≠ .resume) :
    Handled env t0 e event .accepted { e with motion := e.motion.committed proposal.targetState, track0 }
  /-- The pet resumes with the autonomous Relax. -/
  | resumed (proposal : ProposedStateTransition) (request : ActionRequest) (track0 : PetTrack0Controller)
      (e' : PetAnimationEngine) (hevent : event.eventType = .resume) (hadmits : Admits env t0 e event)
      (hperformable : Performable t0 .productionRelax) (hname : request.sequenceName = .productionRelax)
      (hperforms : Performs t0 track0 request (productionProgress .relax))
      (hcompatible : Compatible { e with motion := e.motion.committed proposal.targetState, track0 })
      (hactivated : Activated env
        { e with
          motion := e.motion.committed proposal.targetState, track0, activeProductionAction := some .relax }
        .relax e') :
    Handled env t0 e event .accepted e'
  /-- The player refused the event's sequence. -/
  | failed (o : ActionOutcome) (proposal : ProposedStateTransition) (track0 : PetTrack0Controller)
      (hadmits : Admits env t0 e event) (hcontained : PetTrack0Controller.Contained o track0) :
    Handled env t0 e event o
      { e with
        motion := e.motion.committed proposal.targetState, track0
        executionMode := if event.eventType = .resume then .suspended else e.executionMode }

theorem committed_valid (m : PetMotionModel) (target : PetLayeredState) : (m.committed target).states.Valid :=
  PetLayeredStateMachine.valid_install _ _ _

/-- A committed state permits what a confirmed playback of its sequence desires. -/
theorem committed_compatible {target : PetLayeredState} {motion : PetMotionModel}
    (hmotion : e.motion = motion.committed target) {action : PetActionName}
    (hdesired : e.track0.state.desiredAction = some action) (hhealth : e.track0.state.health = .healthy)
    {health : PlaybackHealth} (h : AnimationCompatible target (some action) health) : Compatible e := by
  obtain ⟨-, hl, hmem⟩ := animationCompatible_some.mp h
  refine compatible_of_permits (show e.motion.states.At .active target.motion target.activity from
    ⟨?_, ?_, ?_, ?_⟩) rfl hdesired hhealth hmem
  · rw [hmotion]; exact committed_valid _ _
  · rw [hmotion]; exact hl
  · rw [hmotion]; rfl
  · rw [hmotion]; rfl

/-- An event whose mandatory proposal cannot play is contained. -/
theorem containMandatoryProposal_spec {proposal : ProposedStateTransition} {reason reason' : CancelReason}
    {request : ActionRequest} (hsubmits : Submits env e event proposal reason request)
    (hmandatory : proposal.mandatoryForSafety = true) (hunplayable : ¬Playable t0 e proposal request) :
    Wp (containMandatoryProposal t0 proposal reason') (Handled env t0 e event) (fun _ _ => False) e := by
  obtain ⟨change, -, hpropose, -⟩ := id hsubmits
  unfold containMandatoryProposal
  refine wp_bind.mpr ((wp_commit change hpropose _ _).mpr ?_)
  refine wp_bind.mpr (wp_onTrack0.mpr ?_)
  refine (PetTrack0Controller.wp_containPreflightFailure reason' _ _).mpr ?_
  have hcontained := PetTrack0Controller.contained_stoppedWith t0 e.track0
    (PetTrack0Controller.clears t0 e.track0)
  refine wp_bind.mpr (Compatible.asserts ?_ (wp_pure.mpr ?_))
  · exact compatible_of_unhealthy (committed_valid _ _) hcontained.stopped.desired hcontained.health
  · exact .contained _ proposal reason request _ hsubmits hmandatory hunplayable hcontained

/-- An admitted event plays or fails at the player. -/
theorem carryOutEvent_spec {proposal : ProposedStateTransition}
    {request : ActionRequest} {mode : Option CancellationMode} (hadmits : Admits env t0 e event)
    (hsubmits : Submits env e event proposal reason request) (hplayable : Playable t0 e proposal request)
    (hmode : e.track0.activeRequest.isSome = true → mode = some .replace) :
    Wp (carryOutEvent env t0 event proposal reason request mode) (Handled env t0 e event)
      (fun _ _ => False) e := by
  obtain ⟨change, hchange, hpropose, hrequest⟩ := id hsubmits
  obtain ⟨-, hclass, hprotected, -, -, -⟩ := make_policy hrequest
  obtain ⟨hpermits, hpre⟩ := hplayable
  unfold carryOutEvent
  refine wp_bind.mpr ((wp_commit change hpropose _ _).mpr ?_)
  refine (playOrCancel_spec hpre ?_).bind ?_
  · exact hmode
  rintro o _ ⟨track0, rfl, ⟨rfl, hplaying, -, -, hconfirms⟩ | ⟨hcontained, -⟩⟩
  · have hcompatible : ∀ e' : PetAnimationEngine, e'.motion = e.motion.committed proposal.targetState →
        e'.track0 = track0 → Compatible e' := by
      rintro e' hm rfl
      exact committed_compatible hm hplaying.desired hplaying.health hpermits
    have hperforms : Performs t0 track0 request
        (RunnerProgress.first (sequenceCatalog request.sequenceName).sequence) :=
      ⟨hplaying, rfl, hprotected⟩
    by_cases hr : event.eventType = .resume
    · have hname := resume_of_eventChange hchange hr
      simp only [settleEvent, hr, ne_eq, not_true_eq_false, if_false, wp_bind, wp_modify]
      refine (activateAutonomous_spec ?_ (by decide)).imp ?_
      · exact hplaying.confirmedEpoch.2
      · rintro _ e' hactivated
        refine (hcompatible e' hactivated.frame.1 hactivated.frame.2).asserts ?_
        exact .resumed proposal request track0 e' hr hadmits
          (hname ▸ (preflight_accepted hclass hprotected).mp hpre) hname
          (by rw [hname] at hperforms; exact hperforms) (hcompatible _ rfl rfl) hactivated
    · simp only [settleEvent, hr, ne_eq, not_false_eq_true, if_true, wp_bind, wp_pure]
      refine (hcompatible _ rfl rfl).asserts ?_
      exact .played proposal reason request track0 hadmits hsubmits hperforms hconfirms
        (hcompatible _ rfl rfl) hr
  · have hcompatible : ∀ e' : PetAnimationEngine, e'.motion = e.motion.committed proposal.targetState →
        e'.track0 = track0 → Compatible e' := by
      rintro e' hm rfl
      exact compatible_of_unhealthy (hm ▸ committed_valid _ _) hcontained.stopped.desired hcontained.health
    have hend : Handled env t0 e event o _ := .failed o proposal track0 hadmits hcontained
    by_cases hr : event.eventType = .resume
    · simp only [settleEvent, hr, ne_eq, not_true_eq_false, if_false, hcontained.not_accepted,
        not_false_eq_true, if_true, wp_bind, wp_setMode, wp_pure]
      refine (hcompatible _ rfl rfl).asserts ?_
      simpa only [hr, if_true] using hend
    · simp only [hr, if_false] at hend
      simp only [settleEvent, hr, ne_eq, not_false_eq_true, if_true, wp_bind, wp_pure]
      exact (hcompatible _ rfl rfl).asserts hend

/-- Why an event raised: it submits no request, and a mandatory interruption raises a transition error only
over layers that show no state. -/
structure Raised (env : EngineEnv) (e : PetAnimationEngine) (event : PetAnimationEvent) (error : PetError) :
    Prop where
  not_compatibility : error ≠ .animationCompatibility
  submits_none : ∀ proposal reason request, ¬Submits env e event proposal reason request
  unreadable : event.eventType.isMandatoryInterruption = true → error = .stateTransition →
    ∃ err, e.motion.states.snapshot = .error err

/-- What submitting a proposed event can end in. -/
theorem submitEvent_spec {change : StateChange} {proposal : ProposedStateTransition}
    (hchange : eventChange env event = .ok (change, some name, reason))
    (hpropose : e.motion.states.propose change = .ok proposal) :
    Wp (submitEvent env t0 event proposal name reason) (Handled env t0 e event)
      (fun error e' => e' = e ∧ Raised env e event error) e := by
  obtain ⟨hs, hmandatory, -⟩ := e.motion.states.propose_source hpropose
  unfold submitEvent
  simp only [wp_bind, wp_getOrRaise, wp_get]
  refine ⟨fun request hrequest => ?_, fun error herror => ⟨trivial, ?_, ?_, ?_⟩⟩
  · obtain ⟨rfl, hclass, -, -, -, -⟩ := make_policy hrequest
    have hsubmits : Submits env e event proposal reason request := ⟨change, hchange, hpropose, hrequest⟩
    have hcontain : proposal.mandatoryForSafety = true → ¬Playable t0 e proposal request →
        Wp (containMandatoryProposal t0 proposal reason) (Handled env t0 e event)
          (fun error e' => e' = e ∧ Raised env e event error) e := fun hm hunplayable =>
      (containMandatoryProposal_spec hsubmits hm hunplayable).mono (fun _ _ h => h) (fun _ _ h => h.elim)
    have hrefused : ∀ o ∈ notCarriedOut,
        (proposal.mandatoryForSafety = true → Playable t0 e proposal request) →
        ¬(Playable t0 e proposal request
          ∧ (e.track0.arbitrate request (contextOf proposal.sourceState e.track0)).outcome = .accepted) →
        Handled env t0 e event o e := by
      refine fun o ho hplayable hnot => .refused o ho ⟨_, _, _, hsubmits, hplayable⟩ ?_
      rintro ⟨proposal', reason', request', hsubmits', hplayable', harbitrate⟩
      obtain ⟨rfl, rfl, rfl⟩ := hsubmits.unique hsubmits'
      exact hnot ⟨hplayable', harbitrate⟩
    split
    next hincompatible =>
      have hunplayable : ¬Playable t0 e proposal request := fun h => hincompatible h.1
      split
      next hm => exact hcontain hm hunplayable
      next hm => exact hrefused _ (by decide) (fun h => absurd h hm) fun h => hunplayable h.1
    next hcompatible =>
      rw [not_not] at hcompatible
      split
      next hpre =>
        have hunplayable : ¬Playable t0 e proposal request := fun h => hpre h.2
        split
        next hm => exact hcontain hm hunplayable
        next hm => exact hrefused _ (preflight_keepsOut hpre) (fun h => absurd h hm) fun h => hunplayable h.1
      next hpre =>
        rw [not_not] at hpre
        have hplayable : Playable t0 e proposal request := ⟨hcompatible, hpre⟩
        simp only [wp_bind, wp_arbitrationContext hs, wp_get]
        split
        next hdecision =>
          exact hrefused _ (arbitrate_keepsOut hdecision) (fun _ => hplayable) fun h => hdecision h.2
        next hdecision =>
          rw [not_not] at hdecision
          exact (carryOutEvent_spec ⟨_, _, _, hsubmits, hplayable, hdecision⟩ hsubmits hplayable
            (arbitrate_mode rfl rfl (hclass ▸ catalog_not_shutdown _) hdecision)).mono (fun _ _ h => h)
            (fun _ _ h => h.elim)
  · unfold ActionRequest.make at herror
    grind
  · rintro proposal' reason' request' hsubmits
    obtain ⟨change', hchange', hpropose', hrequest'⟩ := hsubmits
    rw [hchange] at hchange'
    simp only [Except.ok.injEq, Prod.mk.injEq, Option.some.injEq] at hchange'
    obtain ⟨rfl, rfl, -⟩ := hchange'
    obtain rfl := Except.ok.inj (hpropose.symm.trans hpropose')
    exact absurd (hrequest'.symm.trans herror) (by simp)
  · rintro - rfl
    unfold ActionRequest.make at herror
    grind

/-- The engine once a mandatory interruption has stopped it. -/
def prepared (e : PetAnimationEngine) (event : PetAnimationEvent) : PetAnimationEngine :=
  if event.eventType.isMandatoryInterruption then e.interrupted else e

theorem wp_interruptFor (Q : Unit → PetAnimationEngine → Prop) (R : PetError → PetAnimationEngine → Prop) :
    Wp (interruptFor event) Q R e ↔ Q () (e.prepared event) := by
  unfold interruptFor prepared
  split <;> rfl

theorem prepared_frame (e : PetAnimationEngine) (event : PetAnimationEvent) :
    (e.prepared event).motion = e.motion ∧ (e.prepared event).track0 = e.track0 := by
  unfold prepared
  split <;> exact ⟨rfl, rfl⟩

/-- A proposal that fails raises a transition error; one that brings all its layers fails only where there
is no state to start from. -/
theorem propose_error {m : PetLayeredStateMachine} {change : StateChange} {error : PetError}
    (h : m.propose change = .error error) :
    error = .stateTransition ∧ (change.Resets → ∃ err, m.snapshot = .error err) := by
  cases hs : m.snapshot with
  | error err =>
    unfold PetLayeredStateMachine.propose at h
    rw [hs] at h
    cases h
    exact ⟨m.snapshot_error hs, fun _ => ⟨_, rfl⟩⟩
  | ok source =>
    refine ⟨?_, fun hresets => ?_⟩
    · unfold PetLayeredStateMachine.propose at h
      rw [hs] at h
      simp only [bind, Except.bind] at h
      split at h
      next hmake => cases h; exact PetLayeredState.make_error hmake
      next => cases h
    · rw [m.propose_eq hs hresets] at h
      cases h

/-- What handling an event can end in. -/
theorem handleEvent_spec (htrack : env.track0 = some t0) :
    Wp (handleEvent env event) (Handled env t0 (e.prepared event) event)
      (fun error e' => e' = e.prepared event ∧ Raised env (e.prepared event) event error) e := by
  unfold handleEvent proposeEvent
  refine wp_bind.mpr ((wp_interruptFor _ _).mpr ?_)
  generalize e.prepared event = e
  simp only [htrack, wp_bind, wp_getOrRaise, wp_propose, wp_pure]
  have hnone : ∀ {change name reason}, eventChange env event = .ok (change, name, reason) →
      (name = none ∨ ∀ proposal, e.motion.states.propose change ≠ .ok proposal) →
      ∀ proposal reason request, ¬Submits env e event proposal reason request := by
    rintro change name reason hchange hno proposal' reason' request' ⟨change', hchange', hpropose', -⟩
    rw [hchange] at hchange'
    simp only [Except.ok.injEq, Prod.mk.injEq] at hchange'
    obtain ⟨rfl, rfl, -⟩ := hchange'
    exact hno.elim (by simp) fun hno => hno _ hpropose'
  refine ⟨?_, fun error herror => ⟨trivial, ?_, ?_, ?_⟩⟩
  · rintro ⟨change, name, reason⟩ hchange
    refine ⟨fun proposal hpropose => ?_, fun error herror => ?_⟩
    swap
    · obtain ⟨rfl, hunreadable⟩ := propose_error herror
      exact ⟨trivial, by decide, hnone hchange (.inr fun _ hok => by rw [herror] at hok; cases hok),
        fun hm _ => hunreadable (resets_of_eventChange hchange hm)⟩
    cases name with
    | some name => exact submitEvent_spec hchange hpropose
    | none =>
      obtain ⟨hevent, lifecycle, hlifecycle, hne⟩ := inactive_of_eventChange hchange
      have hinactive : proposal.targetState.lifecycle ≠ .active := by
        obtain ⟨hs, -, -⟩ := e.motion.states.propose_source hpropose
        rw [e.motion.states.propose_eq hs (.inr ⟨lifecycle, hlifecycle, hne⟩)] at hpropose
        rw [← Except.ok.inj hpropose]
        simp [PetLayeredStateMachine.proposal, PetLayeredStateMachine.targetLayers, hlifecycle, hne]
      refine wp_bind.mpr ((wp_commit change hpropose _ _).mpr ?_)
      refine wp_bind.mpr (wp_onTrack0.mpr ?_)
      refine (PetTrack0Controller.wp_clear reason _ _).mpr ?_
      have hstopped := PetTrack0Controller.stopped_stoppedWith t0 e.track0
        (if PetTrack0Controller.clears t0 e.track0 then e.track0.state.health else .unknown)
      refine wp_bind.mpr (Compatible.asserts ?_ (wp_pure.mpr ?_))
      · exact compatible_of_inactive (committed_valid _ _) hstopped.desired hinactive
      · refine .cleared _ _ _ hevent (committed_valid _ _) hinactive rfl hstopped ?_
        split
        · exact .inl rfl
        · exact .inr rfl
  · rintro rfl
    unfold eventChange at herror
    grind
  · rintro proposal' reason' request' ⟨change', hchange', -, -⟩
    rw [herror] at hchange'
    cases hchange'
  · rintro - rfl
    unfold eventChange at herror
    grind

/-! ## Events that are not carried out -/

/-- Layers, Track 0, mode, production action, waiting intent, and scheduler are as they were. -/
structure Untouched (e e' : PetAnimationEngine) : Prop where
  states : e'.motion.states = e.motion.states
  track0 : e'.track0 = e.track0
  executionMode : e'.executionMode = e.executionMode
  activeProductionAction : e'.activeProductionAction = e.activeProductionAction
  pendingExplicitAction : e'.pendingExplicitAction = e.pendingExplicitAction
  schedulerState : e'.autonomousSchedulerState = e.autonomousSchedulerState

/-- If the event is not carried out, it leaves the engine as it was. -/
def LeavesUntouched (env : EngineEnv) (e : PetAnimationEngine) (event : PetAnimationEvent) : Prop :=
  Wp (handleEvent env event) (fun o e' => o ∈ notCarriedOut → Untouched e e')
    (fun error e' => error = .stateTransition → Untouched e e') e

/-- A mandatory interruption that is not carried out: the layers show no state to propose from, or nothing
has to contain the event and it is not admitted. -/
def RefusedInterruption (env : EngineEnv) (t0 : Track0Env) (e : PetAnimationEngine)
    (event : PetAnimationEvent) : Prop :=
  event.eventType.isMandatoryInterruption = true ∧
    ((∃ error, e.motion.states.snapshot = .error error)
      ∨ (∃ proposal reason request, Submits env e event proposal reason request
          ∧ (proposal.mandatoryForSafety = true → Playable t0 e proposal request))
        ∧ ¬Admits env t0 e event)

/-- The engine is suspended, and no production action plays or waits. -/
def AtRest (e : PetAnimationEngine) : Prop :=
  e.executionMode = .suspended ∧ e.activeProductionAction = none ∧ e.pendingExplicitAction = none

/-- The bookkeeping of a mandatory interruption is lost on an engine at rest, and on no other. -/
theorem interrupted_untouched : Untouched e e.interrupted ↔ AtRest e :=
  ⟨fun h => ⟨h.executionMode.symm, h.activeProductionAction.symm, h.pendingExplicitAction.symm⟩,
    fun ⟨hmode, haction, hpending⟩ => ⟨rfl, rfl, hmode.symm, haction.symm, hpending.symm, rfl⟩⟩

/-- The bookkeeping changes nothing of what decides about the event. -/
theorem submits_prepared {proposal : ProposedStateTransition} {request : ActionRequest} :
    Submits env (e.prepared event) event proposal reason request
      ↔ Submits env e event proposal reason request := by
  simp only [Submits, (prepared_frame e event).1]

theorem playable_prepared {proposal : ProposedStateTransition} {request : ActionRequest} :
    Playable t0 (e.prepared event) proposal request ↔ Playable t0 e proposal request := by
  simp only [Playable, (prepared_frame e event).2]

theorem admits_prepared : Admits env t0 (e.prepared event) event ↔ Admits env t0 e event := by
  simp only [Admits, submits_prepared, playable_prepared, (prepared_frame e event).2]

/-- A refused interruption is not carried out, and its bookkeeping is all it leaves behind. -/
theorem refusedInterruption_spec (htrack : env.track0 = some t0) (h : RefusedInterruption env t0 e event) :
    Wp (handleEvent env event) (fun o e' => o ∈ notCarriedOut ∧ e' = e.interrupted)
      (fun error e' => error = .stateTransition ∧ e' = e.interrupted) e := by
  obtain ⟨hm, ⟨error, hs⟩ | ⟨⟨proposal, reason, request, hsubmits, hplayable⟩, hadmits⟩⟩ := h
  · have hraises : ∀ change, e.motion.states.propose change = .error .stateTransition := by
      intro change
      obtain rfl := e.motion.states.snapshot_error hs
      unfold PetLayeredStateMachine.propose
      rw [hs]
      rfl
    unfold handleEvent proposeEvent
    refine wp_bind.mpr ((wp_interruptFor _ _).mpr ?_)
    simp only [prepared, hm, if_true, htrack, wp_bind, wp_getOrRaise, wp_propose]
    refine ⟨fun change _ => ⟨fun proposal hpropose => ?_, fun error herror => ?_⟩, fun error herror => ?_⟩
    · exact absurd ((hraises change.1).symm.trans hpropose) (by simp)
    · exact ⟨(Except.error.inj ((hraises change.1).symm.trans herror)).symm, trivial⟩
    · unfold eventChange at herror
      cases hevent : event.eventType <;> simp_all [PetAnimationEventType.isMandatoryInterruption]
  · refine (handleEvent_spec htrack).mono (fun o e' hend => ?_) (fun error e' hend => ?_)
    · have hprepared : e.prepared event = e.interrupted := by simp [prepared, hm]
      cases hend with
      | refused o ho _ _ => exact ⟨ho, hprepared⟩
      | cleared _ _ _ hevent =>
        obtain ⟨change, hchange, -⟩ := hsubmits
        obtain hevent | hevent := hevent <;> simp [eventChange, hevent] at hchange
      | contained o proposal' reason' request' _ hsubmits' hmandatory hunplayable =>
        obtain ⟨rfl, rfl, rfl⟩ := (submits_prepared.mp hsubmits').unique hsubmits
        exact absurd (playable_prepared.mpr (hplayable hmandatory)) hunplayable
      | played _ _ _ _ hadmits' => exact absurd (admits_prepared.mp hadmits') hadmits
      | resumed _ _ _ _ _ hadmits' => exact absurd (admits_prepared.mp hadmits') hadmits
      | failed _ _ _ hadmits' => exact absurd (admits_prepared.mp hadmits') hadmits
    · exact absurd (submits_prepared.mpr hsubmits) (hend.2.submits_none _ _ _)

/-- An event that is not carried out leaves the engine as it was, unless it is a refused mandatory
interruption of an engine that is not at rest. -/
theorem leavesUntouched_iff (env : EngineEnv) (e : PetAnimationEngine) (event : PetAnimationEvent) :
    LeavesUntouched env e event ↔
      ∀ t0, env.track0 = some t0 → RefusedInterruption env t0 e event → AtRest e := by
  refine ⟨fun h t0 htrack hrefused => ?_, fun h => ?_⟩
  · have hboth := h.and (refusedInterruption_spec htrack hrefused)
    unfold Wp at hboth
    split at hboth
    · obtain ⟨huntouched, ho, rfl⟩ := hboth
      exact interrupted_untouched.mp (huntouched ho)
    · obtain ⟨huntouched, herror, rfl⟩ := hboth
      exact interrupted_untouched.mp (huntouched herror)
  · cases htrack : env.track0 with
    | none =>
      unfold LeavesUntouched handleEvent
      refine wp_bind.mpr ((wp_interruptFor _ _).mpr ?_)
      simp only [htrack, wp_pure]
      exact fun ho => absurd ho (by decide)
    | some t0 =>
      have hprepared : (event.eventType.isMandatoryInterruption = true → RefusedInterruption env t0 e event) →
          Untouched e (e.prepared event) := by
        intro hrefused
        unfold prepared
        split
        next hm => exact interrupted_untouched.mpr (h t0 htrack (hrefused hm))
        next => exact ⟨rfl, rfl, rfl, rfl, rfl, rfl⟩
      refine (handleEvent_spec htrack).mono (fun o e' hend ho => ?_) (fun error e' hend herror => ?_)
      · cases hend with
        | refused o _ hsubmits hadmits =>
          refine hprepared fun hm => ⟨hm, .inr ⟨?_, fun h => hadmits (admits_prepared.mpr h)⟩⟩
          simpa only [submits_prepared, playable_prepared] using hsubmits
        | cleared _ _ _ _ _ _ _ _ hcleared =>
          obtain rfl | rfl := hcleared <;> exact absurd ho (by decide)
        | contained _ _ _ _ _ _ _ _ hcontained =>
          obtain hdegraded | hdegraded := hcontained.outcome <;>
            · rw [hdegraded] at ho
              exact absurd ho (by decide)
        | played => exact absurd ho (by decide)
        | resumed => exact absurd ho (by decide)
        | failed _ _ _ _ hcontained =>
          obtain hdegraded | hdegraded := hcontained.outcome <;>
            · rw [hdegraded] at ho
              exact absurd ho (by decide)
      · obtain ⟨rfl, hraised⟩ := hend
        refine hprepared fun hm => ⟨hm, .inl ?_⟩
        have hunreadable := hraised.unreadable hm herror
        rwa [(prepared_frame e event).1] at hunreadable

end

/-! ## A drag without drag animations -/

/-- A drag the person starts. -/
def dragEvent : PetAnimationEvent :=
  { eventType := .startDragging, requestToken := .given 0, inputSessionToken := some (.given 1) }

/-- The pet relaxes autonomously, and its renderer knows no duration for the drag animations. The refused
drag leaves the Relax playing under a suspended mode. -/
theorem refused_drag_suspends : ¬∀ (env : EngineEnv) (e : PetAnimationEngine) (event : PetAnimationEvent),
      Reachable (operate env) (Built env) e → LeavesUntouched env e event := by
  intro h
  have huntouched := h (steadyEnv [.idle]) (operate (steadyEnv [.idle]) (steadyEngine [.idle]) .startAutonomous)
    dragEvent ⟨_, [.startAutonomous], steadyEngine_built _, rfl⟩
  have hmode := (Wp.of_run huntouched rfl (by decide)).executionMode
  exact absurd hmode (by decide)

end PetAnimationEngine

end ArkClaw.Pet
