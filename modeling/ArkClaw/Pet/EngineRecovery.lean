import ArkClaw.Pet.EngineClosing

/-!
# Recovery from a failed playback

A play or a clear the renderer failed leaves it degraded or unknown, and that latches: no operation of the
engine makes the renderer healthy again, and until then nothing plays. With a healthy renderer whose commands
succeed from now on, autonomy resumes, and what the person asks for after that is accepted.
-/

namespace ArkClaw.Pet

open ArkClaw.Library
open PetLayeredStateMachine (valid_install snapshot_of_valid propose_eq targetLayers)

/-! ## Commands that succeed from now on -/

namespace PetTrack0Controller

variable {t0 : Track0Env} {c c' : PetTrack0Controller}

/-- The player ends every command after generation `n` with success. -/
def Obeys (t0 : Track0Env) (n : Nat) : Prop :=
  (∀ request : PlaybackRequest, n < request.generation → (t0.player.play request).isSome = true)
    ∧ ∀ generation track mix, n < generation → t0.player.clear generation track mix = true

theorem Obeys.mono {n n' : Nat} (h : Obeys t0 n) (hle : n ≤ n') : Obeys t0 n' :=
  ⟨fun request hlt => h.1 request (lt_of_le_of_lt hle hlt),
    fun generation track mix hlt => h.2 generation track mix (lt_of_le_of_lt hle hlt)⟩

theorem Obeys.confirms (h : Obeys t0 c.generation) (step : PetActionStep) : confirms t0 c step = true :=
  h.1 _ (Nat.lt_succ_self _)

theorem Obeys.clears (h : Obeys t0 c.generation) : clears t0 c = true := h.2 _ _ _ (Nat.lt_succ_self _)

/-- The generation never goes back. -/
def Advances (c c' : PetTrack0Controller) : Prop := c.generation ≤ c'.generation

instance : Std.Refl Advances := ⟨fun _ => le_refl _⟩

instance : Trans Advances Advances Advances := ⟨fun h h' => le_trans h h'⟩

theorem invalidate_advances (onCleared : PlaybackHealth) : Follows Advances (invalidate t0 onCleared) :=
  fun _ => Nat.le_succ _

theorem deadlineForStep_advances (step : PetActionStep) : Follows Advances (deadlineForStep t0 step) := by
  have hdeadline : ∀ x : Except PetError Rat, Follows Advances (getOrRaise x) := fun x => .getOrRaise x
  unfold deadlineForStep
  cases (t0.registry.resolve step.action).sourceDurationSeconds with
  | none => exact .throw _
  | some duration => exact .bind (fun c => le_refl c.generation) fun start => hdeadline _

theorem playStep_advances (request : ActionRequest) (step : PetActionStep) :
    Follows Advances (playStep t0 request step) := by
  have hfail : Follows Advances (containFailedPlay t0) := (invalidate_advances _).bind fun _ => .pure _
  unfold playStep
  refine .bind (fun c => Nat.le_succ c.generation) fun generation => ?_
  dsimp only
  split
  next => exact .bind (.modify fun c => le_refl c.generation) fun _ => hfail
  next token htoken =>
    refine .bind (.modify fun c => le_refl c.generation) fun _ => .get fun c => ?_
    split
    next => exact hfail
    next =>
      refine .bind (.modify fun c => le_refl c.generation) fun _ => .bind ?_ fun _ => .pure _
      unfold armAfterSuccessfulPlay
      split
      next => exact .modify fun c => le_refl c.generation
      next => exact (deadlineForStep_advances step).bind fun _ => .modify fun c => le_refl c.generation

theorem play_advances (request : ActionRequest) : Follows Advances (play t0 request) := by
  unfold play
  refine .get fun c => ?_
  split
  next => exact .pure _
  next =>
    dsimp only
    split
    next =>
      refine .bind (.modify fun c => le_refl c.generation) fun _ => ?_
      unfold playDirective
      split
      next => exact playStep_advances _ _
      next => exact .pure _
    next => exact .pure _
    next => exact .pure _

theorem replacePlayback_advances (replacement : Option ActionRequest) :
    Follows Advances (replacePlayback t0 replacement) := by
  unfold replacePlayback
  cases replacement with
  | none => exact .pure _
  | some replacement =>
    dsimp only
    split
    next => exact .pure _
    next => exact .bind (.modify fun c => le_refl c.generation) fun _ => play_advances _

end PetTrack0Controller

namespace PetAnimationEngine

open PetTrack0Controller (Obeys Advances)
open PetTrack0Controller (Playing play_advances Stopped arbitrate wp_clear)

section

variable {env : EngineEnv} {t0 : Track0Env} {e e' : PetAnimationEngine} {intent : ActionIntent}
variable {request : ActionRequest}

/-- Every catalog action is bound with a duration. -/
def Bound (t0 : Track0Env) : Prop := ∀ action, (t0.registry.resolve action).sourceDurationSeconds.isSome = true

/-- With every action bound, every sequence of Track 0 can be played. -/
theorem Bound.performable (h : Bound t0) (hsequencing : sequencingEnabled t0.player.capabilities = true)
    {name : SequenceName} (hname : (sequenceCatalog name).track = 0) : Performable t0 name := by
  have htracks : ∀ s ∈ (sequenceCatalog name).sequence.steps,
      expectedTrack s.action = (sequenceCatalog name).track := by
    cases name <;> decide
  have hvalid : t0.registry.validateTrackSequence (sequenceCatalog name).track (sequenceCatalog name).sequence
      = .ok () := by
    unfold AnimationRegistry.validateTrackSequence
    refine if_neg ?_
    rw [List.any_eq_true]
    rintro ⟨s, hs, hother⟩
    rw [decide_eq_true_eq, t0.registry.tracks_expected] at hother
    exact hother (htracks s hs)
  refine ⟨hname, hsequencing, ?_⟩
  unfold AnimationRegistry.validateSequence
  simp only [hvalid, bind, Except.bind, Bool.true_and]
  refine if_neg ?_
  rw [List.any_eq_true]
  rintro ⟨s, -, hnone⟩
  have hsome := h s.action
  rw [Option.isNone_iff_eq_none] at hnone
  rw [hnone] at hsome
  cases hsome

theorem production_track (action : ProductionAction) :
    (sequenceCatalog (productionSequenceByAction action)).track = 0 := by
  cases action <;> rfl

/-! ## Admitted requests are carried out -/

/-- A player that obeys plays a request that passed its preflight. -/
theorem playOrCancel_accepts {reason : CancelReason} {mode : Option CancellationMode}
    (hobeys : Obeys t0 e.track0.generation)
    (hpre : (PetTrack0Controller.preflight t0 request).outcome = .accepted)
    (hmode : e.track0.activeRequest.isSome = true → mode = some .replace) :
    Wp (playOrCancel t0 reason mode request)
      (fun o e' => o = .accepted ∧ ∃ track0, e' = { e with track0 }
        ∧ Playing t0 track0 request
            (RunnerProgress.first (sequenceCatalog request.sequenceName).sequence)
        ∧ Obeys t0 track0.generation) (fun _ _ => False) e := by
  have hadvances : Wp (playOrCancel t0 reason mode request) (fun _ e' => Advances e.track0 e'.track0)
      (fun _ e' => Advances e.track0 e'.track0) e := by
    unfold playOrCancel
    refine wp_get_bind.mpr ?_
    split
    next => exact wp_onTrack0.mpr (play_advances _ _)
    next hbusy =>
      rw [hmode (Option.isSome_iff_ne_none.mpr (by simpa using hbusy))]
      exact wp_onTrack0.mpr (PetTrack0Controller.replacePlayback_advances (some request) e.track0)
  refine ((playOrCancel_spec hpre hmode).and hadvances).mono ?_ (fun _ _ h => h.1)
  rintro o _ ⟨⟨track0, rfl, ⟨rfl, hplaying, -⟩ | ⟨-, hrefused⟩⟩, hgeneration⟩
  · exact ⟨rfl, track0, rfl, hplaying, hobeys.mono hgeneration⟩
  · rw [hobeys.confirms] at hrefused
    cases hrefused

/-- What an intent that was carried out leaves: its playback is confirmed, and the player still obeys. -/
structure CarriedOut (t0 : Track0Env) (e : PetAnimationEngine) (intent : ActionIntent) (request : ActionRequest)
    (o : ActionOutcome) (e' : PetAnimationEngine) : Prop where
  accepted : o = .accepted
  settled : ∃ motion track0, e' = e.settled intent motion track0
    ∧ motion.states.At .active (semanticTarget intent.action).motion (semanticTarget intent.action).activity
  playing : Playing t0 e'.track0 request (productionProgress intent.action)
  obeys : Obeys t0 e'.track0.generation

/-- A player that obeys carries out an admitted intent. -/
theorem carryOutIntent_accepts {proposal : ProposedStateTransition} {change : StateChange}
    {mode : Option CancellationMode} (hobeys : Obeys t0 e.track0.generation)
    (hpropose : e.motion.states.propose change = .ok proposal)
    (hlifecycle : proposal.targetState.lifecycle = .active)
    (hmotion : proposal.targetState.motion = (semanticTarget intent.action).motion)
    (hactivity : proposal.targetState.activity = (semanticTarget intent.action).activity)
    (hname : request.sequenceName = productionSequenceByAction intent.action)
    (hpre : (PetTrack0Controller.preflight t0 request).outcome = .accepted)
    (hmode : e.track0.activeRequest.isSome = true → mode = some .replace) :
    Wp (carryOutIntent t0 intent proposal request mode) (CarriedOut t0 e intent request) (fun _ _ => False) e := by
  have hplay : ∀ e₁ : PetAnimationEngine, e₁.motion = e.motion → e₁.track0 = e.track0 →
      e₁.settled intent = e.settled intent →
      (intent.origin = .explicit → e₁.pendingExplicitAction = none ∧ e₁.resumeAfterProtected = false) →
      Wp (do
        commit proposal
        let outcome ← playOrCancel t0 .userInterrupt mode request
        if outcome ≠ .accepted then failIntent intent outcome else settleIntent intent)
        (CarriedOut t0 e intent request) (fun _ _ => False) e₁ := by
    intro e₁ hm ht hsettled hcleared
    refine wp_bind.mpr ((wp_commit change (hm ▸ hpropose) _ _).mpr ?_)
    refine (playOrCancel_accepts ?_ hpre ?_).bind ?_
    · rw [← ht] at hobeys
      exact hobeys
    · rw [← ht] at hmode
      exact hmode
    rintro o _ ⟨rfl, track0, rfl, hplaying, hobeys'⟩
    rw [if_neg (by simp)]
    rw [hname] at hplaying
    have hat : (e₁.motion.committed proposal.targetState).states.At .active
        (semanticTarget intent.action).motion (semanticTarget intent.action).activity :=
      ⟨valid_install _ _ _, hlifecycle, hmotion, hactivity⟩
    refine settleIntent_spec hat hplaying ⟨rfl, ⟨_, track0, ?_, hat⟩, hplaying, hobeys'⟩
    rw [← hsettled]
    unfold settled
    by_cases hx : intent.origin = .explicit
    · obtain ⟨hpending, hresume⟩ := hcleared hx
      simp [hx, hpending, hresume]
    · simp [hx]
  unfold carryOutIntent
  by_cases hx : intent.origin = .explicit
  · simp only [if_pos hx]
    refine wp_bind.mpr (wp_clearProtectedContinuation.mpr ?_)
    refine hplay _ rfl rfl ?_ (fun _ => ⟨rfl, rfl⟩)
    funext motion track0
    simp [settled, hx]
  · simp only [if_neg hx]
    exact hplay e rfl rfl rfl (fun h => absurd h hx)

/-- An intent over an unprotected playback is accepted where the layers are active, the renderer healthy, the
sequence playable, and the arbiter for it. -/
theorem submitProductionIntent_accepts (hv : e.motion.states.Valid) (hactive : e.motion.states.lifecycle = .active)
    (hhealth : e.track0.state.health = .healthy) (hobeys : Obeys t0 e.track0.generation)
    (hperformable : Performable t0 (productionSequenceByAction intent.action))
    (hunprotected : e.activeRequestIsProtected = false) (hmode : e.executionMode ≠ .explicitHold)
    (facing : Option PetFacing) (harbitrates : ∀ (request : ActionRequest) (context : ArbitrationContext),
      request.interruptionClass = (sequenceCatalog (productionSequenceByAction intent.action)).interruptionClass →
      request.origin = intent.origin → request.requestToken = intent.requestToken →
      context.runnerAuthorizedContinuation = false →
      (e.track0.arbitrate request context).outcome = .accepted) : Wp (submitProductionIntent t0 intent facing)
      (fun o e' => ∃ request : ActionRequest,
        request.interruptionClass = (sequenceCatalog (productionSequenceByAction intent.action)).interruptionClass
          ∧ request.isProtected = (sequenceCatalog (productionSequenceByAction intent.action)).isProtected
          ∧ request.origin = intent.origin ∧ request.requestToken = intent.requestToken
          ∧ CarriedOut t0 e intent request o e') (fun _ _ => False) e := by
  have hs := snapshot_of_valid e.motion.states hv
  have hpropose := propose_eq e.motion.states hs
    (intentChange_resets intent.action facing)
  obtain ⟨hl, hm, ha⟩ := proposal_intent hv intent.action facing hactive
  obtain ⟨request, hmake⟩ := make_ok (productionSequenceByAction intent.action) intent.requestToken
    (e.motion.states.proposal (e.motion.states.state hv) (intentChange_resets intent.action facing)).targetEpoch
    intent.authority (by cases intent.action <;> decide)
  obtain ⟨hname, hclass, hprotected, horigin, -, htoken⟩ := make_policy hmake
  have hcompatible : AnimationCompatible
      (e.motion.states.proposal (e.motion.states.state hv) (intentChange_resets intent.action facing)).targetState
      (some (productionTrack0Action intent.action)) e.track0.state.health := by
    refine animationCompatible_some.mpr ⟨hhealth, hl, ?_⟩
    rw [hm, ha]
    exact semanticTarget_permits intent.action
  have hpre : (PetTrack0Controller.preflight t0 request).outcome = .accepted :=
    (preflight_accepted hclass hprotected).mpr (hname ▸ hperformable)
  have hclass' : request.interruptionClass
      = (sequenceCatalog (productionSequenceByAction intent.action)).interruptionClass := hname ▸ hclass
  have haccepted := harbitrates request (contextOf (e.motion.states.state hv) e.track0) hclass' horigin htoken rfl
  unfold submitProductionIntent admitIntent
  simp only [wp_bind, wp_get, hunprotected, hmode, Bool.false_eq_true, false_and, and_false, decide_false,
    if_false, wp_propose, hpropose, Except.ok.injEq, reduceCtorEq, false_implies, implies_true, and_true,
    forall_eq', wp_getOrRaise, hmake, hcompatible, not_true_eq_false, hpre, ne_eq, haccepted,
    wp_arbitrationContext hs]
  refine (carryOutIntent_accepts hobeys hpropose hl hm ha hname hpre ?_).imp
    (fun o e' h => ⟨request, hclass', by rw [hprotected, hname], horigin, htoken, h⟩)
  exact arbitrate_mode rfl rfl (hclass ▸ catalog_not_shutdown _) haccepted

/-- An admitted event with a sequence of its own is accepted by a player that obeys. -/
theorem handleEvent_accepts {event : PetAnimationEvent} {proposal : ProposedStateTransition}
    {reason : CancelReason} (htrack : env.track0 = some t0)
    (hv : e.motion.states.Valid) (hobeys : Obeys t0 e.track0.generation)
    (hsubmits : Submits env e event proposal reason request) (hplayable : Playable t0 e proposal request)
    (harbitrates : (e.track0.arbitrate request (contextOf (e.motion.states.state hv) e.track0)).outcome = .accepted)
    (hkind : event.eventType ≠ .resume) :
    Wp (handleEvent env event) (fun o _ => o = .accepted) (fun _ _ => False) e := by
  obtain ⟨hmotion, htrack₀⟩ := prepared_frame e event
  rw [← submits_prepared] at hsubmits
  rw [← playable_prepared] at hplayable
  rw [← htrack₀] at hobeys harbitrates
  obtain ⟨change, hchange, hpropose, hrequest⟩ := hsubmits
  obtain ⟨-, hclass, hprotected, -, -, -⟩ := make_policy hrequest
  have hs : (e.prepared event).motion.states.snapshot = .ok (e.motion.states.state hv) := by
    rw [hmotion]
    exact snapshot_of_valid _ hv
  unfold handleEvent
  refine wp_bind.mpr ((wp_interruptFor _ _).mpr ?_)
  generalize e.prepared event = e₀ at *
  simp only [htrack, proposeEvent, hchange, wp_bind, wp_getOrRaise, Except.ok.injEq, reduceCtorEq,
    false_implies, implies_true, and_true, forall_eq', wp_propose, hpropose, wp_pure]
  unfold submitEvent
  unfold eventRequest at hrequest
  simp only [hrequest, wp_bind, wp_getOrRaise, Except.ok.injEq, reduceCtorEq, false_implies, implies_true,
    and_true, forall_eq', wp_get, hplayable.1, hplayable.2, not_true_eq_false, if_false, ne_eq,
    wp_arbitrationContext hs, harbitrates]
  unfold carryOutEvent
  refine wp_bind.mpr ((wp_commit change hpropose _ _).mpr ?_)
  refine (playOrCancel_accepts ?_ hplayable.2 ?_).bind ?_
  · exact hobeys
  · exact arbitrate_mode rfl rfl (hclass ▸ catalog_not_shutdown _) harbitrates
  rintro o _ ⟨rfl, track0, rfl, hplaying, -⟩
  simp only [settleEvent, hkind, ne_eq, not_false_eq_true, if_true, wp_bind, wp_pure]
  refine Compatible.asserts ?_ trivial
  exact committed_compatible rfl hplaying.desired hplaying.health hplayable.1

/-! ## Autonomy resumes -/

/-- An active pet that plays of the engine's own authority on a healthy renderer, with a player that obeys. -/
structure Resumed (t0 : Track0Env) (e : PetAnimationEngine) : Prop where
  valid : e.motion.states.Valid
  active : e.motion.states.lifecycle = .active
  health : e.track0.state.health = .healthy
  confirmed : e.track0.state.confirmedEpoch.isSome = true
  autonomous : e.executionMode = .autonomous
  obeys : Obeys t0 e.track0.generation
  owner : ∃ request n, e.track0.activeRequest = some request ∧ request.interruptionClass = .normalAction
    ∧ request.isProtected = false ∧ request.origin = .autonomous ∧ request.requestToken = .fresh n ∧ n < e.objects

/-- On a free track a loop enters autonomy. -/
theorem reenters (hbound : Bound t0) (hsequencing : sequencingEnabled t0.player.capabilities = true)
    (hv : e.motion.states.Valid) (hactive : e.motion.states.lifecycle = .active)
    (hhealth : e.track0.state.health = .healthy) (hstopped : Stopped e.track0)
    (hmode : e.executionMode ≠ .explicitHold) (hobeys : Obeys t0 e.track0.generation) {action : ProductionAction}
    (hloop : action.isProtected = false) : Wp (do
        let requestToken ← newObject
        let outcome ← submitProductionIntent t0
          { action, origin := .autonomous, source := .scheduler, requestToken, authority := scheduler_authority }
        settleAutonomous env action outcome
        return outcome) (fun o e' => o = .accepted ∧ Resumed t0 e') (fun _ _ => False) e := by
  have hclass : (sequenceCatalog (productionSequenceByAction action)).interruptionClass = .normalAction
      ∧ (sequenceCatalog (productionSequenceByAction action)).isProtected = false := by
    cases action <;> first | exact ⟨rfl, rfl⟩ | cases hloop
  refine wp_bind.mpr (wp_newObject.mpr ?_)
  refine (submitProductionIntent_accepts ?_ ?_ ?_ ?_
    (hbound.performable hsequencing (production_track action)) ?_ ?_ none ?_).bind ?_
  · exact hv
  · exact hactive
  · exact hhealth
  · exact hobeys
  · simp [activeRequestIsProtected, hstopped.active]
  · exact hmode
  · intro request context _ _ _ _
    simp [arbitrate, PetActionArbiter.decide, hstopped.active]
  rintro o e₁ ⟨request, hrequest, hprotected, horigin, htoken, hcarried⟩
  obtain ⟨rfl, ⟨motion, track0, rfl, hat⟩, hplaying, hobeys'⟩ := hcarried
  have hnot : action ≠ .interact := by
    rintro rfl
    cases hloop
  refine wp_bind.mpr ?_
  rw [settleAutonomous, if_pos rfl]
  refine (activateAutonomous_spec ?_ hnot).imp (fun _ e' hactivated => ?_)
  · exact hplaying.confirmedEpoch.2
  · obtain ⟨_, _, _, rfl, -⟩ := hactivated
    exact ⟨rfl, hat.valid, hat.lifecycle, hplaying.health, hplaying.confirmedEpoch.2, rfl, hobeys',
      request, e.objects, hplaying.active, hrequest.trans hclass.1, hprotected.trans hclass.2, horigin, htoken,
      Nat.lt_succ_self _⟩

/-- With a healthy renderer whose commands succeed, an active pet returns to autonomy whatever it plays. -/
theorem resumeAutonomous_accepts (htrack : env.track0 = some t0) (hbound : Bound t0)
    (hsequencing : sequencingEnabled t0.player.capabilities = true) (hs : Sound env t0 e)
    (hactive : e.motion.states.lifecycle = .active) (hhealth : e.track0.state.health = .healthy)
    (hobeys : Obeys t0 e.track0.generation) (source : ActionSource) :
    Wp (resumeAutonomous env source) (fun o e' => o = .accepted ∧ Resumed t0 e') (fun _ _ => False) e := by
  have hrestart : ∀ track0, Stopped track0 → track0.state.health = .healthy →
      Obeys t0 track0.generation →
      Wp (restartAutonomous env t0 e.autonomousResumeAction) (fun o e' => o = .accepted ∧ Resumed t0 e')
        (fun _ _ => False) { e.interrupted with track0 } := by
    intro track0 hstopped hhealth' hobeys'
    have hreenters : ∀ action : ProductionAction, action.isProtected = false → _ := fun action hloop =>
      @reenters env t0 { e.interrupted with track0 } hbound hsequencing hs.valid hactive hhealth' hstopped
        (by simp [interrupted]) hobeys' action hloop
    unfold restartAutonomous
    cases hresume : e.autonomousResumeAction with
    | some action => exact hreenters action (hs.resume action hresume).1
    | none =>
      unfold startAutonomous
      simp only [htrack]
      refine wp_get_bind.mpr ?_
      rw [if_neg (by simp [hstopped.active])]
      exact hreenters .relax rfl
  unfold resumeAutonomous
  simp only [htrack]
  refine wp_get_bind.mpr ?_
  refine wp_bind.mpr ((wp_interrupt _ _).mpr ?_)
  refine wp_get_bind.mpr ?_
  split
  next hfree =>
    refine hrestart e.track0 ?_ hhealth hobeys
    obtain hstopped | ⟨request, p, hperforms, -⟩ := hs.track
    · exact hstopped
    · have hbusy : e.track0.activeRequest.isNone = true := hfree
      rw [hperforms.playing.active] at hbusy
      cases hbusy
  next =>
    refine wp_bind.mpr (wp_onTrack0.mpr ((wp_clear _ _ _).mpr ?_))
    have hclears : PetTrack0Controller.clears t0 e.interrupted.track0 = true := hobeys.clears
    rw [hclears, if_pos rfl, if_neg (by simp), if_pos rfl]
    exact hrestart _ (PetTrack0Controller.stopped_stoppedWith t0 _ _) hhealth (hobeys.mono (Nat.le_succ _))

/-! ## What is accepted again -/

/-- Whatever action a person asks for replaces the autonomous one. -/
theorem Resumed.requestAction_accepts (h : Resumed t0 e) (htrack : env.track0 = some t0) (hbound : Bound t0)
    (hsequencing : sequencingEnabled t0.player.capabilities = true) (action : ProductionAction)
    {source : ActionSource} (hsource : source ∈ sourcesByOrigin .explicit) :
    Wp (requestAction env action source) (fun o _ => o = .accepted) (fun _ _ => False) e := by
  obtain ⟨active, n, hrequest, hclass, hunprotected, horigin, htoken, hn⟩ := h.owner
  unfold requestAction
  refine wp_bind.mpr (wp_newObject.mpr ?_)
  simp only [hsource, dite_true, htrack]
  refine (submitProductionIntent_accepts ?_ ?_ ?_ ?_
    (hbound.performable hsequencing (production_track action)) ?_ ?_ none ?_).imp
    (fun o e' hcarried => ?_)
  · exact h.valid
  · exact h.active
  · exact h.health
  · exact h.obeys
  · simp [activeRequestIsProtected, hrequest, hunprotected]
  · simp [h.autonomous]
  · intro request context hrequestClass hrequestOrigin hrequestToken hrunner
    have hnew : request.requestToken ≠ active.requestToken := by
      rw [hrequestToken, htoken]
      simp only [ne_eq, ObjectId.fresh.injEq]
      omega
    cases action <;>
      simp [arbitrate, hrequest, PetActionArbiter.decide, hrequestClass, hclass, hrunner, hnew,
        hrequestOrigin, horigin, productionSequenceByAction, sequenceCatalog, InterruptClass.rank,
        PetActionArbiter.decideEqualClass, PetActionArbiter.decideNormalAction]
  · obtain ⟨request, -, -, -, -, hcarried⟩ := hcarried
    exact hcarried.accepted

/-- A drag goes through over an autonomous action. -/
theorem Resumed.dragEvent_accepts (h : Resumed t0 e) (htrack : env.track0 = some t0) (hbound : Bound t0)
    (hsequencing : sequencingEnabled t0.player.capabilities = true) (requestToken session : ObjectId) :
    Wp (handleEvent env { eventType := .startDragging, requestToken, inputSessionToken := some session })
      (fun o _ => o = .accepted) (fun _ _ => False) e := by
  obtain ⟨active, n, hrequest, hclass, -⟩ := h.owner
  have hdrag : (sequenceCatalog (dragSequence env)).track = 0
      ∧ (sequenceCatalog (dragSequence env)).interruptionClass = .userInteraction
      ∧ (RunnerProgress.first (sequenceCatalog (dragSequence env)).sequence).step.action
          ∈ stateActionCompatibility .dragging .none := by
    unfold dragSequence
    split <;> decide
  have hresets : StateChange.Resets { motion := some .dragging } := .inl rfl
  have hpropose := e.motion.states.propose_eq (snapshot_of_valid _ h.valid) hresets
  obtain ⟨request, hmake⟩ : ∃ request,
      eventRequest { eventType := .startDragging, requestToken, inputSessionToken := some session }
        (dragSequence env) (e.motion.states.proposal (e.motion.states.state h.valid) hresets).targetEpoch
        = .ok request := by
    unfold dragSequence
    split <;> exact ⟨_, rfl⟩
  obtain ⟨hname, hrequestClass, hprotected, -⟩ := make_policy hmake
  have hlayers : (e.motion.states.proposal (e.motion.states.state h.valid) hresets).targetState.lifecycle = .active
      ∧ (e.motion.states.proposal (e.motion.states.state h.valid) hresets).targetState.motion = .dragging
      ∧ (e.motion.states.proposal (e.motion.states.state h.valid) hresets).targetState.activity = .none := by
    simp [PetLayeredStateMachine.proposal, targetLayers, PetLayeredStateMachine.state,
      h.active]
  have hsubmits : Submits env e
      { eventType := .startDragging, requestToken, inputSessionToken := some session }
      (e.motion.states.proposal (e.motion.states.state h.valid) hresets) .userInterrupt request := by
    refine ⟨_, ?_, hpropose, ?_⟩
    · rw [hname]
      rfl
    · rw [hname]
      exact hmake
  refine handleEvent_accepts htrack h.valid h.obeys hsubmits ⟨?_, ?_⟩ ?_ (by simp)
  · rw [animationCompatible_some, hlayers.1, hlayers.2.1, hlayers.2.2, hname]
    exact ⟨h.health, rfl, hdrag.2.2⟩
  · refine (preflight_accepted hrequestClass hprotected).mpr ?_
    rw [hname]
    exact hbound.performable hsequencing hdrag.1
  · rw [hname, hdrag.2.1] at hrequestClass
    simp [arbitrate, hrequest, PetActionArbiter.decide, hrequestClass, hclass,
      InterruptClass.rank]

/-- The person can take the pet up. -/
theorem Resumed.startDragging_accepts (h : Resumed t0 e) (htrack : env.track0 = some t0) (hbound : Bound t0)
    (hsequencing : sequencingEnabled t0.player.capabilities = true) :
    Wp (startDragging env) (fun o _ => o = .accepted) (fun _ _ => False) e := by
  have henabled := sequencingEnabled_of htrack hsequencing
  have h' : Resumed t0 { e with objects := e.objects + 1 + 1 } := by
    obtain ⟨active, n, hactive, hclass, hprotected, horigin, htoken, hn⟩ := h.owner
    exact ⟨h.valid, h.active, h.health, h.confirmed, h.autonomous, h.obeys, active, n, hactive, hclass,
      hprotected, horigin, htoken, by show n < e.objects + 1 + 1; omega⟩
  unfold startDragging
  rw [if_pos henabled]
  refine wp_bind.mpr (wp_newObject.mpr ?_)
  refine wp_bind.mpr (wp_bind.mpr (wp_newObject.mpr ?_))
  refine Wp.mono (h'.dragEvent_accepts htrack hbound hsequencing _ _) (fun o e' ho => ?_) (fun _ _ h => h)
  subst ho
  exact rfl

/-! ## What latches -/

/-- An unhealthy renderer stays unhealthy over every operation, and nothing plays. -/
theorem operate_unhealthy (htrack : env.track0 = some t0)
    (hsequencing : sequencingEnabled t0.player.capabilities = true) (hs : Sound env t0 e)
    (hhealth : e.track0.state.health ≠ .healthy) (op : Operation) :
    (operate env e op).track0.state.health ≠ .healthy
      ∧ Stopped (operate env e op).track0 := by
  have henabled := sequencingEnabled_of htrack hsequencing
  have hstopped : Stopped e.track0 := by
    obtain hstopped | ⟨request, p, hperforms, -⟩ := hs.track
    · exact hstopped
    · exact absurd hperforms.playing.health hhealth
  have hstays : ∀ {c : PetTrack0Controller}, StaysStopped e.track0 c →
      c.state.health ≠ .healthy ∧ Stopped c := fun h =>
    ⟨h.health.elim (fun h => h ▸ hhealth) id, h.stopped⟩
  have hb : ∀ e₁ : PetAnimationEngine, e₁.motion = e.motion → e₁.track0 = e.track0 → Barred e₁ := by
    intro e₁ hmotion htrack₁
    refine ⟨?_, ?_, ?_⟩
    · rw [hmotion]; exact hs.valid
    · rw [htrack₁]; exact hstopped
    · rw [htrack₁]; exact .inr hhealth
  cases hop : op.lifecycleEvent with
  | none =>
    by_cases hrecover : op = .recoverFailedClose
    · subst hrecover
      have hwindow : Wp recoverFailedClose (fun _ e' => e'.track0 = e.track0) (fun _ e' => e'.track0 = e.track0)
          e := wp_onMotion.mpr (wp_trivial _ (fun _ _ => rfl) (fun _ _ => rfl))
      have htrack₁ : (operate env e .recoverFailedClose).track0 = e.track0 := Wp.stateAfter hwindow
      rw [htrack₁]
      exact ⟨hhealth, hstopped⟩
    · exact hstays ((operate_lasts htrack hsequencing hs hop hrecover).stays (hb e rfl rfl))
  | some eventType =>
    refine @operate_lifecycleEvent env e henabled op eventType hop (fun e' =>
      e'.track0.state.health ≠ .healthy ∧ Stopped e'.track0)
      fun event e₁ hevent hmotion htrack₁ => ?_
    have hb₁ := hb e₁ hmotion htrack₁
    by_cases hresume : event.eventType = .resume
    · refine (handleEvent_resumes htrack hb₁ hresume).mono (fun _ e' h => ?_) (fun _ _ h => h.elim)
      rcases h with ⟨hhealthy, -⟩ | ⟨-, rfl⟩
      · rw [htrack₁] at hhealthy
        exact absurd hhealthy hhealth
      · rw [htrack₁]
        exact ⟨hhealth, hstopped⟩
    · have hclears : event.eventType = .pause ∨ event.eventType = .beginClosing := by
        have hnames := lifecycleEvent_names hop
        rw [← hevent] at hnames
        cases hkind : event.eventType <;> rw [hkind] at hnames hresume <;> first
          | exact .inl rfl
          | exact .inr rfl
          | exact absurd rfl hresume
          | cases hnames
      refine (handleEvent_clears htrack hb₁.valid hclears).mono (fun _ e' h => hstays ?_) (fun _ _ h => h.elim)
      rw [← htrack₁]
      exact h.2.2

/-- What the engine promises after failed playbacks: a paused pet resumes, and an active one returns to autonomy
and takes requests again, where the renderer is healthy and its commands succeed from now on. -/
structure Recovers (env : EngineEnv) (t0 : Track0Env) (e : PetAnimationEngine) : Prop where
  resumes : e.motion.states.lifecycle = .paused → e.track0.state.health = .healthy →
    (operate env e .resume).motion.states.lifecycle = .active
  returns : e.motion.states.lifecycle = .active → e.track0.state.health = .healthy →
    Obeys t0 e.track0.generation →
    Wp (resumeAutonomous env .user)
      (fun o e₁ => o = .accepted ∧ e₁.track0.state.confirmedEpoch.isSome = true
        ∧ e₁.track0.state.health = .healthy
        ∧ (∀ action, Wp (requestAction env action .user) (fun o _ => o = .accepted) (fun _ _ => False) e₁)
        ∧ Wp (startDragging env) (fun o _ => o = .accepted) (fun _ _ => False) e₁) (fun _ _ => False) e
  latches : e.track0.state.health ≠ .healthy → ∀ ops,
    (run (operate env) e ops).track0.state.health ≠ .healthy
      ∧ Stopped (run (operate env) e ops).track0

/-- With every catalog action bound, every reachable engine recovers where its renderer is healthy, and waits
where it is not. -/
theorem reachable_recovers (htrack : env.track0 = some t0) (hbound : Bound t0)
    (hsequencing : sequencingEnabled t0.player.capabilities = true)
    (hreach : Reachable (operate env) (Built env) e) : Recovers env t0 e := by
  obtain ⟨hs, hq⟩ := reachable_quiet htrack hsequencing hreach
  have henabled := sequencingEnabled_of htrack hsequencing
  constructor
  · intro hpaused hhealth
    refine @operate_lifecycleEvent env e henabled .resume .resume rfl
      (fun e' => e'.motion.states.lifecycle = .active) fun event e₁ hevent hmotion htrack₁ => ?_
    have hb : Barred e₁ := by
      have hbarred := hq.barred hs.valid (hpaused.trans_ne (by decide))
      refine ⟨?_, ?_, ?_⟩
      · rw [hmotion]; exact hbarred.valid
      · rw [htrack₁]; exact hbarred.stopped
      · rw [hmotion, htrack₁]; exact hbarred.bars
    refine (handleEvent_resumes htrack hb hevent).mono (fun _ e' h => ?_) (fun _ _ h => h.elim)
    rcases h with ⟨-, -, hactive⟩ | ⟨hrefused, -⟩
    · exact hactive
    · rw [htrack₁] at hrefused
      exact absurd ⟨hhealth, hbound.performable hsequencing rfl⟩ hrefused
  · intro hactive hhealth hobeys
    refine (resumeAutonomous_accepts htrack hbound hsequencing hs hactive hhealth hobeys .user).imp
      (fun o e₁ h => ?_)
    obtain ⟨ho, hresumed⟩ := h
    exact ⟨ho, hresumed.confirmed, hresumed.health,
      fun action => hresumed.requestAction_accepts htrack hbound hsequencing action (by decide),
      hresumed.startDragging_accepts htrack hbound hsequencing⟩
  · intro hhealth ops
    have hkeeps : ∀ e op, Sound env t0 e ∧ e.track0.state.health ≠ .healthy
          ∧ Stopped e.track0 →
        Sound env t0 (operate env e op) ∧ (operate env e op).track0.state.health ≠ .healthy
          ∧ Stopped (operate env e op).track0 := fun e op hinv =>
      ⟨(operate_keeps htrack hsequencing hinv.1 op).sound,
        operate_unhealthy htrack hsequencing hinv.1 hinv.2.1 op⟩
    have hstopped : Stopped e.track0 := by
      obtain hstopped | ⟨request, p, hperforms, -⟩ := hs.track
      · exact hstopped
      · exact absurd hperforms.playing.health hhealth
    exact (run_invariant hkeeps e ops ⟨hs, hhealth, hstopped⟩).2

end

/-! ## A first play that fails -/

/-- Every action bound under its own text, with a duration of one second. -/
def boundRegistry : AnimationRegistry :=
  identityRegistry (fun _ => some 1) (by
    intro a d hd
    obtain rfl := Option.some.inj hd
    norm_num)

/-- A player that refuses its very first command and obeys every other. -/
def stumblingPlayer : AnimationPlayer :=
  { AnimationPlayer.obedient with
    play := fun request => if request.generation = 1 then none else some (.given request.generation) }

def boundTrack0 (player : AnimationPlayer) : Track0Env := { Track0Env.steady boundRegistry with player }

def boundEnv (player : AnimationPlayer) : EngineEnv := { steadyEnv [] with track0 := some (boundTrack0 player) }

/-- The engine of a player as it is built, its window in the origin. -/
def boundEngine (player : AnimationPlayer) : PetAnimationEngine :=
  build (boundEnv player)
    { position := { x := 0, y := 0 }
      windowSize := { width := 100, height := 100, width_pos := ofNat_pos trivial, height_pos := ofNat_pos trivial } }

theorem boundEngine_built (player : AnimationPlayer) : Built (boundEnv player) (boundEngine player) :=
  ⟨_, _, _, rfl⟩

theorem boundTrack0_bound (player : AnimationPlayer) : Bound (boundTrack0 player) := fun _ => rfl

/-- After its first command the stumbling player obeys. -/
theorem stumbling_obeys {n : Nat} (h : 0 < n) : Obeys (boundTrack0 stumblingPlayer) n := by
  refine ⟨fun request hlt => ?_, fun _ _ _ _ => rfl⟩
  have hlater : request.generation ≠ 1 := by omega
  simp [boundTrack0, stumblingPlayer, hlater]

/-- Autonomy starts with the play that fails. A pause and a resume leave the pet paused; and without them it
refuses to return to autonomy, although no command fails any more. -/
theorem stumble_latches :
    (¬∀ (env : EngineEnv) (t0 : Track0Env) (e : PetAnimationEngine), env.track0 = some t0 → Bound t0 →
      sequencingEnabled t0.player.capabilities = true → Reachable (operate env) (Built env) e →
      e.motion.states.lifecycle = .paused → (operate env e .resume).motion.states.lifecycle = .active)
    ∧ ¬∀ (env : EngineEnv) (t0 : Track0Env) (e : PetAnimationEngine), env.track0 = some t0 → Bound t0 →
      sequencingEnabled t0.player.capabilities = true → Reachable (operate env) (Built env) e →
      e.motion.states.lifecycle = .active → e.motion.states.motion = .idle → Obeys t0 e.track0.generation →
      Wp (resumeAutonomous env .user) (fun o e₁ => o = .accepted ∧ e₁.track0.state.confirmedEpoch.isSome = true
        ∧ e₁.track0.state.health = .healthy) (fun _ _ => False) e := by
  constructor
  · intro h
    have hactive := h (boundEnv stumblingPlayer) _
      (run (operate (boundEnv stumblingPlayer)) (boundEngine stumblingPlayer) [.startAutonomous, .pause]) rfl
      (boundTrack0_bound _) rfl ⟨_, _, boundEngine_built _, rfl⟩ rfl
    exact absurd hactive (by decide)
  · intro h
    have hreturns := h (boundEnv stumblingPlayer) _
      (run (operate (boundEnv stumblingPlayer)) (boundEngine stumblingPlayer) [.startAutonomous]) rfl
      (boundTrack0_bound _) rfl ⟨_, _, boundEngine_built _, rfl⟩ rfl rfl (stumbling_obeys (by decide))
    exact absurd (hreturns.of_run rfl).1 (by decide)

/-- A pet that relaxes under a player that obeys returns to autonomy, and takes requests and drags. -/
theorem relax_recovers : let env := boundEnv .obedient
    let e := run (operate env) (boundEngine .obedient) [.startAutonomous]
    e.motion.states.lifecycle = .active ∧ e.track0.state.health = .healthy
      ∧ Obeys (boundTrack0 .obedient) e.track0.generation ∧ Recovers env (boundTrack0 .obedient) e :=
  ⟨rfl, rfl, ⟨fun _ _ => rfl, fun _ _ _ _ => rfl⟩,
    reachable_recovers rfl (boundTrack0_bound _) rfl ⟨_, _, boundEngine_built _, rfl⟩⟩

end PetAnimationEngine

end ArkClaw.Pet
