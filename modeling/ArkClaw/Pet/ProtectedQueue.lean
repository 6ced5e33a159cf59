import ArkClaw.Pet.EngineCompletion

/-!
# What an operation makes of a queued action

Behind a protected playback one explicit action may wait. A program of the engine `Waits` if it leaves a free
queue free and, behind a protected playback, either empties the queue or leaves both it and the playback alone.
Every operation does, but for the request that is queued, the release that is admitted over the playback, and the
callback that completes it.
-/

namespace ArkClaw.Pet

open ArkClaw.Library

namespace PetTrack0Controller

/-- The request and what is confirmed of it stay. -/
def KeepsPlayback (c c' : PetTrack0Controller) : Prop := c'.activeRequest = c.activeRequest ∧ c'.state = c.state

instance : Std.Refl KeepsPlayback := ⟨fun _ => ⟨rfl, rfl⟩⟩

instance : Trans KeepsPlayback KeepsPlayback KeepsPlayback :=
  ⟨fun h h' => ⟨h'.1.trans h.1, h'.2.trans h.2⟩⟩

theorem deadlineForStep_keepsPlayback {env : Track0Env} (step : PetActionStep) :
    Follows KeepsPlayback (deadlineForStep env step) := by
  have hreads : Follows KeepsPlayback (readClock env) := fun _ => ⟨rfl, rfl⟩
  unfold deadlineForStep
  split
  next => exact .throw _
  next => exact hreads.bind fun _ => .getOrRaise _

theorem cancelGracefully_keepsPlayback {env : Track0Env} : Follows KeepsPlayback (cancelGracefully env) := by
  have hmodify : ∀ f : PetTrack0Controller → PetTrack0Controller, (∀ c, KeepsPlayback c (f c)) →
      Follows KeepsPlayback (modify f : Program PetTrack0Controller PUnit) := fun f h => .modify h
  unfold cancelGracefully armCurrentLoopBoundaryWatchdog
  apply Follows.get
  intro c
  dsimp only
  refine .bind (hmodify _ fun _ => ⟨rfl, rfl⟩) fun _ => ?_
  split
  next =>
    refine .bind (.get fun c => ?_) fun _ => .pure _
    split
    next => exact hmodify _ fun _ => ⟨rfl, rfl⟩
    next =>
      split
      next => exact hmodify _ fun _ => ⟨rfl, rfl⟩
      next => exact (deadlineForStep_keepsPlayback _).bind fun _ => hmodify _ fun _ => ⟨rfl, rfl⟩
  next => exact .pure _

end PetTrack0Controller

namespace PetAnimationEngine

/-- The protected playback that runs. -/
def protectedPlayback (e : PetAnimationEngine) : Option ConfirmedPlaybackEpoch :=
  if e.activeRequestIsProtected then e.track0.state.confirmedEpoch else none

/-- A protected request is a strict one, and it does not play Relax's animation. -/
def Shielded (c : PetTrack0Controller) : Prop :=
  ∀ request, c.activeRequest = some request → request.isProtected = true →
    request.interruptionClass = .strictAction ∧ c.state.desiredAction ≠ some .idle

/-- The same action waits behind the same playback. -/
structure SameWait (e e' : PetAnimationEngine) : Prop where
  pending : e'.pendingExplicitAction = e.pendingExplicitAction
  resumes : e'.resumeAfterProtected = e.resumeAfterProtected
  request : e'.track0.activeRequest = e.track0.activeRequest
  state : e'.track0.state = e.track0.state

/-- A free queue stays free; behind a protected playback the same action waits on, unless what happens `drops` it. -/
structure Waits (drops : Prop) (e e' : PetAnimationEngine) : Prop where
  free : Free e → Free e'
  behind : Shielded e.track0 → e.activeRequestIsProtected = true → drops ∧ Free e' ∨ SameWait e e'

section

variable {env : EngineEnv} {t0 : Track0Env} {e e' e'' : PetAnimationEngine} {α : Type} {drops drops' : Prop}
variable {c : Program PetAnimationEngine α} {event : PetAnimationEvent}

theorem SameWait.refl (e : PetAnimationEngine) : SameWait e e := ⟨rfl, rfl, rfl, rfl⟩

theorem SameWait.trans (h : SameWait e e') (h' : SameWait e' e'') : SameWait e e'' :=
  ⟨h'.pending.trans h.pending, h'.resumes.trans h.resumes, h'.request.trans h.request, h'.state.trans h.state⟩

instance : Std.Refl SameWait := ⟨SameWait.refl⟩

instance : Trans SameWait SameWait SameWait := ⟨SameWait.trans⟩

theorem SameWait.free (h : SameWait e e') (hfree : Free e) : Free e' :=
  ⟨h.pending.trans hfree.1, h.resumes.trans hfree.2⟩

theorem SameWait.isProtected (h : SameWait e e') : e'.activeRequestIsProtected = e.activeRequestIsProtected := by
  unfold activeRequestIsProtected
  rw [h.request]

theorem SameWait.playback (h : SameWait e e') : e'.protectedPlayback = e.protectedPlayback := by
  unfold protectedPlayback
  rw [h.isProtected, h.state]

theorem SameWait.shielded (h : SameWait e e') (hshielded : Shielded e.track0) : Shielded e'.track0 := by
  unfold Shielded
  rw [h.request, h.state]
  exact hshielded

theorem SameWait.waits (h : SameWait e e') : Waits drops e e' := ⟨h.free, fun _ _ => .inr h⟩

theorem Waits.refl (e : PetAnimationEngine) : Waits drops e e := (SameWait.refl e).waits

theorem Waits.of_free (hdrops : drops) (h : Free e') : Waits drops e e' := ⟨fun _ => h, fun _ _ => .inl ⟨hdrops, h⟩⟩

theorem Waits.mono (h : Waits drops e e') (hdrops : drops → drops') : Waits drops' e e' :=
  ⟨h.free, fun hshielded hprotected => (h.behind hshielded hprotected).imp_left (And.imp_left hdrops)⟩

theorem Waits.trans (h : Waits drops e e') (h' : Waits drops e' e'') : Waits drops e e'' := by
  refine ⟨fun hfree => h'.free (h.free hfree), fun hshielded hprotected => ?_⟩
  rcases h.behind hshielded hprotected with ⟨hdrops, hfree⟩ | hsame
  · exact .inl ⟨hdrops, h'.free hfree⟩
  · exact (h'.behind (hsame.shielded hshielded) (hsame.isProtected.trans hprotected)).imp_right hsame.trans

instance : Std.Refl (Waits drops) := ⟨Waits.refl⟩

instance : Trans (Waits drops) (Waits drops) (Waits drops) := ⟨Waits.trans⟩

/-! ## Bookkeeping -/

theorem sameWait_frame {f : PetAnimationEngine → PetAnimationEngine} (h : ∀ e, SameWait e (f e)) :
    Follows SameWait (modify f : Program PetAnimationEngine Unit) := .modify h

theorem onMotion_sameWait (c : Program PetMotionModel α) : Follows SameWait (onMotion c) := fun _ =>
  wp_onMotion.mpr (wp_trivial c (fun _ _ => ⟨rfl, rfl, rfl, rfl⟩) (fun _ _ => ⟨rfl, rfl, rfl, rfl⟩))

theorem onRandom_sameWait (c : Program Nat α) : Follows SameWait (onRandom c) := fun _ =>
  wp_onRandom.mpr (wp_trivial c (fun _ _ => ⟨rfl, rfl, rfl, rfl⟩) (fun _ _ => ⟨rfl, rfl, rfl, rfl⟩))

theorem newObject_sameWait : Follows SameWait newObject := fun _ => ⟨rfl, rfl, rfl, rfl⟩

theorem assertTransactionCompatible_sameWait : Follows SameWait assertTransactionCompatible :=
  (onMotion_sameWait _).bind fun _ => .get fun _ => .getOrRaise _

theorem Bookkeeps.sameWait (h : Bookkeeps e e') : SameWait e e' := by
  obtain ⟨_, _, _, _, _, rfl⟩ := h
  exact ⟨rfl, rfl, rfl, rfl⟩

theorem settleAutonomous_sameWait (action : ProductionAction) (outcome : ActionOutcome) :
    Follows SameWait (settleAutonomous env action outcome) :=
  (settleAutonomous_bookkeeps action outcome).mono fun _ _ => Bookkeeps.sameWait

/-- What is bookkeeping waits. -/
theorem waits_of_same (h : Follows SameWait c) : Follows (Waits drops) c :=
  h.mono fun _ _ => SameWait.waits

/-- What frees the queue first may do anything that keeps it free. -/
theorem waits_after_interrupt (h : Follows KeepsFree c) : Follows (Waits True) (do interrupt; c) := by
  intro e
  have hfree : Free e.interrupted := ⟨rfl, rfl⟩
  refine wp_bind.mpr ((wp_interrupt _ _).mpr ?_)
  exact (h _).mono (fun _ _ hkept => .of_free trivial (hkept hfree)) (fun _ _ hkept => .of_free trivial (hkept hfree))

theorem waits_after_clear (h : Follows KeepsFree c) :
    Follows (Waits True) (do clearProtectedContinuation; c) := by
  intro e
  have hfree : Free { e with pendingExplicitAction := none, resumeAfterProtected := false } := ⟨rfl, rfl⟩
  refine wp_bind.mpr (wp_clearProtectedContinuation.mpr ?_)
  exact (h _).mono (fun _ _ hkept => .of_free trivial (hkept hfree)) (fun _ _ hkept => .of_free trivial (hkept hfree))

/-- What keeps a free queue free waits where it waits behind a shielded, protected playback. -/
theorem waits_of_free (hfree : Follows KeepsFree c)
    (h : ∀ e : PetAnimationEngine, Shielded e.track0 → e.activeRequestIsProtected = true →
      Wp c (fun _ e' => drops ∧ Free e' ∨ SameWait e e') (fun _ e' => drops ∧ Free e' ∨ SameWait e e') e) :
    Follows (Waits drops) c := by
  intro e
  by_cases hbehind : Shielded e.track0 ∧ e.activeRequestIsProtected = true
  · exact (Wp.and (hfree e) (h e hbehind.1 hbehind.2)).mono (fun _ _ hboth => ⟨hboth.1, fun _ _ => hboth.2⟩)
      (fun _ _ hboth => ⟨hboth.1, fun _ _ => hboth.2⟩)
  · exact (hfree e).mono (fun _ _ hkept => ⟨hkept, fun hg hp => absurd ⟨hg, hp⟩ hbehind⟩)
      (fun _ _ hkept => ⟨hkept, fun hg hp => absurd ⟨hg, hp⟩ hbehind⟩)

/-! ## Intents -/

/-- Behind a protected playback an intent that is not explicit is refused. -/
theorem submitProductionIntent_refuses {intent : ActionIntent} (horigin : intent.origin ≠ .explicit)
    (facing : Option PetFacing) (hprotected : e.activeRequestIsProtected = true) :
    Wp (submitProductionIntent t0 intent facing) (fun o e' => o = .rejectedPriority ∧ e' = e) (fun _ _ => False) e := by
  simp only [submitProductionIntent, wp_bind, wp_get, hprotected, horigin, false_and, and_false, decide_false,
    Bool.false_eq_true, if_false, Bool.not_false, and_self, if_true, queueIntent, dif_neg, not_false_eq_true, wp_pure]

theorem submitProductionIntent_waits {intent : ActionIntent} (horigin : intent.origin ≠ .explicit)
    (facing : Option PetFacing) : Follows (Waits drops) (submitProductionIntent t0 intent facing) := by
  refine waits_of_free (submitProductionIntent_free horigin facing) fun e _ hprotected => ?_
  refine (submitProductionIntent_refuses horigin facing hprotected).mono (fun o e' hrefused => ?_) (fun _ _ => False.elim)
  rw [hrefused.2]
  exact .inr (.refl e)

theorem recoverAutonomousRelax_waits (facing : Option PetFacing) :
    Follows (Waits drops) (recoverAutonomousRelax env t0 facing) :=
  (waits_of_same newObject_sameWait).bind fun _ =>
    (submitProductionIntent_waits (fun h => by cases h) _).bind fun _ =>
      (waits_of_same (settleAutonomous_sameWait _ _)).bind fun _ => .pure _

/-! ## Events -/

theorem interrupt_free : Follows KeepsFree interrupt := fun _ _ => ⟨rfl, rfl⟩

theorem submitEvent_free (event : PetAnimationEvent) (proposal : ProposedStateTransition) (name : SequenceName)
    (reason : CancelReason) : Follows KeepsFree (submitEvent env t0 event proposal name reason) := by
  have hassert : ∀ o : ActionOutcome, Follows KeepsFree (do assertTransactionCompatible; return o) :=
    fun o => assertTransactionCompatible_free.bind fun _ => .pure _
  have hcontain : Follows KeepsFree (containMandatoryProposal t0 proposal reason) :=
    (onMotion_free _).bind fun _ => (onTrack0_free _).bind fun _ => hassert _
  have hsettle : ∀ outcome, Follows KeepsFree (settleEvent env event outcome) := by
    intro outcome
    unfold settleEvent
    split
    next => exact .pure _
    next =>
      split
      next => exact setMode_free _
      next => exact .bind (free_frame fun _ h => h) fun _ => activateAutonomous_free _
  have hcarry : ∀ request mode, Follows KeepsFree (carryOutEvent env t0 event proposal reason request mode) :=
    fun _ _ => (onMotion_free _).bind fun _ => (playOrCancel_free _ _ _).bind fun _ => (hsettle _).bind fun _ => hassert _
  unfold submitEvent
  refine .bind (.getOrRaise _) fun request => .get fun e => ?_
  dsimp only
  split
  next =>
    split
    next => exact hcontain
    next => exact .pure _
  next =>
    split
    next =>
      split
      next => exact hcontain
      next => exact .pure _
    next =>
      refine .bind ((onMotion_free _).bind fun _ => .get fun _ => .pure _) fun context => .get fun e => ?_
      split
      next => exact .pure _
      next => exact hcarry _ _

/-- No event queues anything. -/
theorem handleEvent_free (event : PetAnimationEvent) : Follows KeepsFree (handleEvent env event) := by
  have hinterrupt : Follows KeepsFree (interruptFor event) := by
    unfold interruptFor
    split
    next => exact interrupt_free
    next => exact .pure _
  have hpropose : Follows KeepsFree (proposeEvent env event) :=
    .bind (.getOrRaise _) fun _ => (propose_free _).bind fun _ => .pure _
  unfold handleEvent
  apply hinterrupt.bind
  intro _
  cases env.track0 with
  | none => exact .pure _
  | some t0 =>
    apply hpropose.bind
    rintro ⟨proposal, sequenceName, reason⟩
    cases sequenceName with
    | none =>
      exact (onMotion_free _).bind fun _ => (onTrack0_free _).bind fun _ =>
        assertTransactionCompatible_free.bind fun _ => .pure _
    | some name => exact submitEvent_free event proposal name reason

/-- A mandatory interruption empties the queue, whatever becomes of it. -/
theorem handleEvent_empties (hmandatory : event.eventType.isMandatoryInterruption = true) :
    Wp (handleEvent env event) (fun _ e' => Free e') (fun _ e' => Free e') e := by
  have hfree : Free e.interrupted := ⟨rfl, rfl⟩
  have hfrees : Follows KeepsFree (handleEvent env event) := handleEvent_free event
  have hkept := hfrees e.interrupted
  unfold handleEvent interruptFor at hkept ⊢
  rw [if_pos hmandatory] at hkept ⊢
  refine wp_bind.mpr ((wp_interrupt _ _).mpr ?_)
  exact ((wp_interrupt _ _).mp (wp_bind.mp hkept)).mono (fun _ _ h => h hfree) (fun _ _ h => h hfree)

/-- Of the events that are no mandatory interruptions only a release has a class above the normal one. -/
theorem normal_of_eventChange {change : StateChange} {name : SequenceName}
    {reason : CancelReason} (h : eventChange env event = .ok (change, some name, reason))
    (hoptional : event.eventType.isMandatoryInterruption = false) (hrelease : event.eventType ≠ .releaseDrag) :
    (sequenceCatalog name).interruptionClass = .normalAction := by
  unfold eventChange at h
  cases hevent : event.eventType with
  | startWalking =>
    rw [hevent] at h
    cases hfacing : event.facing with
    | none => rw [hfacing] at h; cases h
    | some facing => rw [hfacing] at h; cases facing <;> (cases h; rfl)
  | releaseDrag => exact absurd hevent hrelease
  | startReading => rw [hevent] at h; cases h; rfl
  | startThinking => rw [hevent] at h; cases h; rfl
  | startReminding => rw [hevent] at h; cases h; rfl
  | resume => rw [hevent] at h; cases h; rfl
  | _ => rw [hevent] at hoptional; cases hoptional

/-- Arbitration keeps a normal request out while a shielded, protected one is active. -/
theorem arbitrate_shielded {c : PetTrack0Controller} {active request : ActionRequest} (hshielded : Shielded c)
    (hactive : c.activeRequest = some active) (hprotected : active.isProtected = true)
    (hclass : request.interruptionClass = .normalAction) (context : ArbitrationContext) :
    (c.arbitrate request context).outcome = .rejectedPriority := by
  have hstrict := (hshielded active hactive hprotected).1
  simp [PetTrack0Controller.arbitrate, PetActionArbiter.decide, hactive, hclass, hstrict, InterruptClass.rank]

theorem exists_protected (h : e.activeRequestIsProtected = true) :
    ∃ active, e.track0.activeRequest = some active ∧ active.isProtected = true := by
  unfold activeRequestIsProtected at h
  exact Option.any_eq_true _ _ |>.mp h

/-- An event that is neither a mandatory interruption nor a release changes nothing behind a shielded, protected
playback. -/
theorem handleEvent_refused (hoptional : event.eventType.isMandatoryInterruption = false)
    (hrelease : event.eventType ≠ .releaseDrag) (hshielded : Shielded e.track0)
    (hprotected : e.activeRequestIsProtected = true) :
    Wp (handleEvent env event) (fun _ => SameWait e) (fun _ => SameWait e) e := by
  unfold handleEvent interruptFor
  rw [hoptional]
  refine wp_bind.mpr (wp_pure.mpr ?_)
  cases env.track0 with
  | none => exact .refl e
  | some t0 =>
    simp only [proposeEvent, wp_bind, wp_getOrRaise, wp_propose, wp_pure]
    refine ⟨?_, fun _ _ => .refl e⟩
    rintro ⟨change, sequenceName, reason⟩ hchange
    refine ⟨fun proposal hpropose => ?_, fun _ _ => .refl e⟩
    cases sequenceName with
    | none =>
      rcases (inactive_of_eventChange hchange).1 with hevent | hevent
      · rw [hevent] at hoptional
        cases hoptional
      · rw [hevent] at hoptional
        cases hoptional
    | some name =>
      have hclass := normal_of_eventChange hchange hoptional hrelease
      have hunforced : proposal.mandatoryForSafety = false := by
        by_contra hforced
        rw [(e.motion.states.propose_source hpropose).2.1, Bool.not_eq_false] at hforced
        rw [mandatory_of_eventChange hchange hforced] at hoptional
        cases hoptional
      obtain ⟨active, hactive, hstrict⟩ := exists_protected hprotected
      simp only [submitEvent, wp_bind, wp_getOrRaise, wp_get, hunforced, Bool.false_eq_true, if_false]
      refine ⟨fun request hrequest => ?_, fun _ _ => .refl e⟩
      split
      next => exact .refl e
      next =>
        split
        next => exact .refl e
        next =>
          have hsource := (e.motion.states.propose_source hpropose).1
          have hrequestClass : request.interruptionClass = .normalAction := by
            obtain ⟨hname, hpolicy, -⟩ := make_policy hrequest
            rw [hpolicy, hname, hclass]
          rw [wp_bind, wp_arbitrationContext hsource]
          refine wp_get_bind.mpr ?_
          rw [arbitrate_shielded hshielded hactive hstrict hrequestClass]
          exact .refl e

/-- Only a mandatory interruption drops what waits. -/
theorem handleEvent_waits (hrelease : event.eventType ≠ .releaseDrag) :
    Follows (Waits (event.eventType.isMandatoryInterruption = true)) (handleEvent env event) := by
  cases hmandatory : event.eventType.isMandatoryInterruption with
  | true =>
    exact fun e => (handleEvent_empties hmandatory).mono (fun _ _ => .of_free rfl) (fun _ _ => .of_free rfl)
  | false =>
    refine waits_of_free (handleEvent_free event) fun e hshielded hprotected => ?_
    exact (handleEvent_refused hmandatory hrelease hshielded hprotected).mono (fun _ _ => .inr) (fun _ _ => .inr)

/-! ## Operations -/

theorem submitNewEvent_waits {eventType : PetAnimationEventType} (hrelease : eventType ≠ .releaseDrag)
    (facing : Option PetFacing) (inputSessionToken : Option ObjectId) :
    Follows (Waits (eventType.isMandatoryInterruption = true)) (submitNewEvent env eventType facing inputSessionToken) :=
  (waits_of_same newObject_sameWait).bind fun _ => handleEvent_waits hrelease

theorem onMotion_waits (c : Program PetMotionModel α) : Follows (Waits drops) (onMotion c) :=
  waits_of_same (onMotion_sameWait c)

theorem waits_frame {f : PetAnimationEngine → PetAnimationEngine} (h : ∀ e, SameWait e (f e)) :
    Follows (Waits drops) (modify f : Program PetAnimationEngine Unit) := waits_of_same (sameWait_frame h)

theorem assertTransactionCompatible_waits : Follows (Waits drops) assertTransactionCompatible :=
  waits_of_same assertTransactionCompatible_sameWait

theorem requestWalk_waits (direction : PetFacing) : Follows (Waits drops) (requestWalk env direction) := by
  unfold requestWalk
  split
  next => exact (submitNewEvent_waits (by decide) _ _).mono fun _ _ h => h.mono (fun hfalse => by cases hfalse)
  next =>
    exact (onMotion_waits _).bind fun _ => .bind (waits_frame fun _ => ⟨rfl, rfl, rfl, rfl⟩) fun _ => .pure _

theorem requestThinkingAnimation_waits : Follows (Waits drops) (requestThinkingAnimation env) := by
  have hrest : Follows (Waits drops) (do
      onMotion (PetMotionModel.onStates (·.startThinking))
      modify fun (e : PetAnimationEngine) => { e with actionRemaining := env.config.thinkingDurationSeconds }
      return ActionOutcome.legacyDirect) :=
    (onMotion_waits _).bind fun _ => .bind (waits_frame fun _ => ⟨rfl, rfl, rfl, rfl⟩) fun _ => .pure _
  unfold requestThinkingAnimation
  split
  next => exact (submitNewEvent_waits (by decide) _ _).mono fun _ _ h => h.mono (fun hfalse => by cases hfalse)
  next =>
    apply (onMotion_waits _).bind
    intro state
    dsimp only
    split
    next => exact (onMotion_waits _).bind fun _ => hrest
    next => exact hrest

/-- The reminder, the pause, the resume, and the close are events, or calls of the motion model. -/
theorem eventOrMotion_waits {eventType : PetAnimationEventType} (hrelease : eventType ≠ .releaseDrag)
    {legacy : Program PetAnimationEngine ActionOutcome} (hlegacy : Follows SameWait legacy) :
    Follows (Waits (eventType.isMandatoryInterruption = true))
      (if productionSequencingEnabled env then submitNewEvent env eventType else legacy) := by
  split
  next => exact submitNewEvent_waits hrelease _ _
  next => exact waits_of_same hlegacy

theorem startDragging_waits : Follows (Waits True) (startDragging env) := by
  unfold startDragging
  split
  next =>
    have hsubmits : ∀ token, Follows (Waits True) (submitNewEvent env .startDragging none (some token)) := fun token =>
      (submitNewEvent_waits (by decide) _ _).mono fun _ _ h => h.mono fun _ => trivial
    refine (waits_of_same newObject_sameWait).bind fun token => (hsubmits token).bind fun outcome => ?_
    dsimp only
    split
    next => exact .bind (waits_frame fun _ => ⟨rfl, rfl, rfl, rfl⟩) fun _ => .pure _
    next => exact .pure _
  next =>
    exact .bind (waits_frame fun _ => ⟨rfl, rfl, rfl, rfl⟩) fun _ => (onMotion_waits _).bind fun _ => .pure _

/-- While Relax stands in for the drag animations a release leaves the track to itself. -/
theorem releaseDragInRelax_waits (workspaces : Option (List Rect)) :
    Follows (Waits drops) (releaseDragInRelax workspaces) := by
  unfold releaseDragInRelax
  refine .bind (waits_frame fun _ => ⟨rfl, rfl, rfl, rfl⟩) fun _ => (onMotion_waits _).bind fun _ => .get fun e => ?_
  split
  next => exact .pure _
  next => exact assertTransactionCompatible_waits.bind fun _ => .pure _

theorem startAutonomous_waits : Follows (Waits drops) (startAutonomous env) := by
  unfold startAutonomous
  cases env.track0 with
  | none => exact .pure _
  | some t0 =>
    apply Follows.get
    intro e
    split
    next => exact .pure _
    next => exact recoverAutonomousRelax_waits _

theorem startAutonomous_free : Follows KeepsFree (startAutonomous env) := by
  have hwaits : Follows (Waits False) (startAutonomous env) := startAutonomous_waits
  exact hwaits.mono fun _ _ => Waits.free

theorem resumeAutonomous_waits (source : ActionSource) : Follows (Waits True) (resumeAutonomous env source) := by
  have hrestart : ∀ t0 resumeAction, Follows KeepsFree (restartAutonomous env t0 resumeAction) := by
    intro t0 resumeAction
    unfold restartAutonomous
    cases resumeAction with
    | none => exact startAutonomous_free
    | some action =>
      exact newObject_free.bind fun _ => (submitProductionIntent_free (fun h => by cases h) _).bind fun _ =>
        (settleAutonomous_free _ _).bind fun _ => .pure _
  unfold resumeAutonomous
  cases env.track0 with
  | none => exact .pure _
  | some t0 =>
    apply Follows.get
    intro e
    apply waits_after_interrupt
    apply Follows.get
    intro e'
    split
    next => exact hrestart _ _
    next =>
      apply (onTrack0_free _).bind
      intro answer
      split
      next => exact assertTransactionCompatible_free.bind fun _ => .pure _
      next => exact hrestart _ _

theorem containRendererFailure_waits : Follows (Waits True) (containRendererFailure env) := by
  unfold containRendererFailure
  apply waits_after_interrupt
  refine (propose_free _).bind fun proposal => (onMotion_free _).bind fun _ => ?_
  cases env.track0 with
  | none => exact .pure _
  | some t0 => exact onTrack0_free _

/-- A graceful exit changes neither the request nor what is confirmed. -/
theorem requestGracefulExit_waits : Follows (Waits drops) (requestGracefulExit env) := by
  unfold requestGracefulExit
  cases env.track0 with
  | none => exact .pure _
  | some t0 =>
    dsimp only
    split
    next => exact .pure _
    next =>
      refine waits_of_same fun e => wp_onTrack0.mpr ?_
      refine (PetTrack0Controller.cancelGracefully_keepsPlayback e.track0).mono (fun _ _ h => ?_) (fun _ _ h => ?_)
      · exact ⟨rfl, rfl, h.1, h.2⟩
      · exact ⟨rfl, rfl, h.1, h.2⟩

/-! ## The tick -/

theorem Times.sameWait (h : Times e e') : SameWait e e' := by
  obtain ⟨_, _, _, _, _, _, rfl⟩ := h
  exact ⟨rfl, rfl, rfl, rfl⟩

theorem advanceAction_sameWait (elapsed : Rat) : Follows SameWait (advanceAction env elapsed) :=
  (advanceAction_times elapsed).mono fun _ _ => Times.sameWait

theorem advanceBlink_sameWait (elapsed : Rat) : Follows SameWait (advanceBlink env elapsed) :=
  (advanceBlink_times elapsed).mono fun _ _ => Times.sameWait

theorem advanceRandomAction_waits (elapsed : Rat) : Follows (Waits drops) (advanceRandomAction env elapsed) := by
  have hasks : Follows (Waits drops) (requestRandomAction env) := by
    apply (waits_of_same (onRandom_sameWait _)).bind
    intro selection
    split
    next => exact (requestWalk_waits _).bind fun _ => .pure _
    next =>
      split
      next => exact (requestWalk_waits _).bind fun _ => .pure _
      next => exact requestThinkingAnimation_waits.bind fun _ => .pure _
  apply (onMotion_waits _).bind
  intro state e
  have hset : Waits drops e { e with nextRandomAction := e.nextRandomAction - elapsed } :=
    SameWait.waits ⟨rfl, rfl, rfl, rfl⟩
  refine wp_get_bind.mpr ?_
  split
  next => exact .refl e
  next =>
    refine wp_bind.mpr (wp_set.mpr ?_)
    split
    next => exact hset
    next => exact hasks.after hset

/-- What a shielded, protected playback shows is not Relax, so no landing adopts it. -/
theorem finishRelaxMotionRecovery_waits : Follows (Waits drops) (finishRelaxMotionRecovery env t0) := by
  apply waits_of_free
  · unfold finishRelaxMotionRecovery
    apply Follows.get
    intro e
    split
    next => exact (setMode_free _).bind fun _ => .pure _
    next =>
      refine newObject_free.bind fun token => .bind (.getOrRaise _) fun request => (onTrack0_free _).bind fun adopted => ?_
      split
      next => exact (setMode_free _).bind fun _ => .pure _
      next =>
        refine .bind (free_frame fun _ h => h) fun _ => (activateAutonomous_free _).bind fun _ => ?_
        exact assertTransactionCompatible_free.bind fun _ => .pure _
  · intro e hshielded hprotected
    obtain ⟨active, hactive, hstrict⟩ := exists_protected hprotected
    have hshown := (hshielded active hactive hstrict).2
    have hrelaxes : relaxes e.track0 = false := by simp [relaxes, hshown]
    unfold finishRelaxMotionRecovery
    refine wp_get_bind.mpr ?_
    rw [hrelaxes]
    exact .inr ⟨rfl, rfl, rfl, rfl⟩

theorem turnAtBoundary_waits (direction : PetFacing) : Follows (Waits True) (turnAtBoundary env direction) := by
  unfold turnAtBoundary
  apply Follows.get
  intro e
  split
  next =>
    cases env.track0 with
    | none =>
      dsimp only
      split
      next => exact waits_after_interrupt (.pure ())
      next => exact waits_after_clear (setMode_free _)
    | some t0 =>
      dsimp only
      split
      next =>
        refine .bind (waits_after_interrupt ?_) fun _ => .pure _
        apply (onTrack0_free _).bind
        intro answer
        split
        next => exact .pure _
        next => exact recoverAutonomousRelax_free _
      next =>
        refine waits_after_clear ((setMode_free _).bind fun _ => newObject_free.bind fun token => ?_)
        apply (submitProductionIntent_free (fun h => by cases h) _).bind
        intro outcome
        split
        next => exact activateAutonomous_free _
        next => exact .pure _
  next => exact onMotion_waits _

theorem advancePhysics_waits (elapsed : Rat) (workspaces : List Rect) :
    Follows (Waits True) (advancePhysics env elapsed workspaces) := by
  have hlanding : ∀ previous moved : PetMotionState, Follows (Waits True) (recoverLanding env previous moved) := by
    intro previous moved
    unfold recoverLanding
    split
    next =>
      cases env.track0 with
      | none => exact .pure _
      | some t0 => exact .map _ finishRelaxMotionRecovery_waits
    next => exact .pure _
  have hturn : Follows (Waits True) (takeTurn env) := by
    unfold takeTurn
    apply (onMotion_waits _).bind
    intro direction
    cases direction with
    | none => exact .pure _
    | some direction => exact turnAtBoundary_waits direction
  exact (onMotion_waits _).bind fun previous => (onMotion_waits _).bind fun moved =>
    (hlanding _ _).bind fun _ => hturn.bind fun _ => onMotion_waits _

theorem advance_waits (elapsedSeconds : Rat) (workspaces : List Rect) :
    Follows (Waits True) (advance env elapsedSeconds workspaces) := by
  unfold advance
  split
  next => exact .throw _
  next =>
    apply (onMotion_waits _).bind
    intro state
    dsimp only
    split
    next => exact .bind (waits_frame fun _ => ⟨rfl, rfl, rfl, rfl⟩) fun _ => onMotion_waits _
    next =>
      refine .bind (waits_frame fun _ => ⟨rfl, rfl, rfl, rfl⟩) fun _ => ?_
      refine (waits_of_same (advanceAction_sameWait _)).bind fun _ => ?_
      refine (waits_of_same (advanceBlink_sameWait _)).bind fun _ => (advanceRandomAction_waits _).bind fun _ => ?_
      exact advancePhysics_waits _ _

end

end PetAnimationEngine

end ArkClaw.Pet
