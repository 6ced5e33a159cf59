import ArkClaw.Pet.EngineEvents

/-!
# What the engine keeps

Three properties of an engine whose player meets the sequencing contract. `Sound` holds from the first state
on: the layers stand together, and the track is stopped or performs one of the engine's own sequences.
`Compatible` and `Watched` are what a transaction is meant to establish: the layers permit what the track
plays, and the scheduler of an autonomous pet watches the playback that runs. Here the endings of intents,
of events, and of entering autonomy are shown to keep them.
-/

namespace ArkClaw.Pet

open ArkClaw.Library

namespace PetAnimationEngine

/-! ## The sequences an engine performs -/

/-- The sequences the engine's own requests name. -/
def performedSequences (env : EngineEnv) : List SequenceName :=
  [.idle, .walkLeft, .walkRight, .think, .read, .remind, dragSequence env, .dragRelease, .fallRecovery,
    .productionRelax, .productionMoveLeft, .productionMoveRight, .productionSit, .productionSleep,
    .productionSpecial, .productionInteract]

/-- The sequences whose end the engine recovers from. -/
def recoverySequences : List SequenceName := [.dragRelease, .fallRecovery, .landing]

/-- What comes after a step of a performed sequence that does not loop: the next step returns to idle or holds
the drag, in a sequence that is neither a recovery nor protected; and a sequence that ends was a recovery,
has returned to idle, or is protected. -/
def StepEnds (name : SequenceName) (i : Fin (sequenceCatalog name).sequence.steps.length) : Prop :=
  let sequence := (sequenceCatalog name).sequence
  (sequence.steps.get i).loop = false →
    match sequence.steps[i.val + 1]? with
    | some next =>
      (next.action = .returnIdle ∨ ((sequence.steps.get i).action = .dragStart ∧ next.action = .dragLoop))
        ∧ name ∉ recoverySequences ∧ (sequenceCatalog name).isProtected = false
    | none =>
      match sequence.terminal with
      | .hold => name ∈ recoverySequences ∧ (sequenceCatalog name).isProtected = false
      | .idle =>
        name ∉ recoverySequences ∧ (sequence.steps.get i).action = .returnIdle
          ∧ (sequenceCatalog name).isProtected = false
      | .complete => name ∉ recoverySequences ∧ (sequenceCatalog name).isProtected = true

instance (name : SequenceName) (i : Fin (sequenceCatalog name).sequence.steps.length) :
    Decidable (StepEnds name i) := by
  unfold StepEnds
  simp only
  refine @instDecidableForall _ _ (inferInstanceAs (Decidable (_ = _))) ?_
  split
  · infer_instance
  · split <;> infer_instance

theorem stepEnds (env : EngineEnv) {name : SequenceName} (h : name ∈ performedSequences env)
    (i : Fin (sequenceCatalog name).sequence.steps.length) : StepEnds name i := by
  unfold performedSequences dragSequence at h
  revert i
  cases henv : env.useRelaxMotionFallback <;> rw [henv] at h <;>
    · revert name
      decide

section

variable {env : EngineEnv} {t0 : Track0Env} {c : PetTrack0Controller} {request : ActionRequest}
  {p : RunnerProgress}

/-- The exit of a loop returns to idle. -/
theorem Performs.exit (h : Performs t0 c request p) (hmem : request.sequenceName ∈ performedSequences env)
    {x : Nat} (hx : p.sequence.loopExitIndex = some x) : p.sequence.steps[x]? = some returnIdleStep := by
  rw [h.sequence] at hx ⊢
  generalize request.sequenceName = name at hx hmem ⊢
  unfold performedSequences dragSequence at hmem
  cases name <;> first
    | (obtain rfl := Option.some.inj hx; rfl)
    | (simp [sequenceCatalog, heldLoop, onceThenReturn] at hx; done)
    | (cases henv : env.useRelaxMotionFallback <;> rw [henv] at hmem <;> exact absurd hmem (by decide))

/-- The step after one that does not loop returns to idle or holds the drag. -/
theorem Performs.next (h : Performs t0 c request p) (hmem : request.sequenceName ∈ performedSequences env)
    (hl : p.step.loop = false) (hi : p.currentIndex + 1 < p.sequence.steps.length) :
    (p.sequence.steps[p.currentIndex + 1].action = .returnIdle
        ∨ (p.step.action = .dragStart ∧ p.sequence.steps[p.currentIndex + 1].action = .dragLoop))
      ∧ request.sequenceName ∉ recoverySequences ∧ request.isProtected = false := by
  have hprotected := h.policy
  obtain ⟨sequence, i, hi'⟩ := p
  obtain rfl : sequence = _ := h.sequence
  have hends := stepEnds env hmem ⟨i, hi'⟩ hl
  simp only [List.getElem?_eq_getElem hi] at hends
  rw [hprotected]
  exact hends

/-- A sequence that ends was a recovery, has returned to idle, or is protected. -/
theorem Performs.last (h : Performs t0 c request p) (hmem : request.sequenceName ∈ performedSequences env)
    (hl : p.step.loop = false) (hi : p.currentIndex + 1 = p.sequence.steps.length) :
    match p.sequence.terminal with
    | .hold => request.sequenceName ∈ recoverySequences ∧ request.isProtected = false
    | .idle =>
      request.sequenceName ∉ recoverySequences ∧ p.step.action = .returnIdle ∧ request.isProtected = false
    | .complete => request.sequenceName ∉ recoverySequences ∧ request.isProtected = true := by
  have hprotected := h.policy
  obtain ⟨sequence, i, hi'⟩ := p
  obtain rfl : sequence = _ := h.sequence
  have hends := stepEnds env hmem ⟨i, hi'⟩ hl
  have hnone : (sequenceCatalog request.sequenceName).sequence.steps[i + 1]? = none :=
    List.getElem?_eq_none (Nat.le_of_eq hi.symm)
  simp only [hnone] at hends
  rw [hprotected]
  exact hends

/-- A sequence of an engine that plays idle is the production Relax's. -/
theorem idle_sequence {name : SequenceName} (hmem : name ∈ performedSequences env) {s : PetActionStep}
    (hs : s ∈ (sequenceCatalog name).sequence.steps) (haction : s.action = .idle) :
    (sequenceCatalog name).sequence = (sequenceCatalog .productionRelax).sequence := by
  have hactions : ∀ name ≠ SequenceName.idle, name ≠ .productionRelax → name ≠ .productionMotionFallback →
      PetActionName.idle ∉ (sequenceCatalog name).sequence.steps.map (·.action) := by
    intro name
    cases name <;> decide
  by_cases hidle : name = .idle ∨ name = .productionRelax ∨ name = .productionMotionFallback
  · obtain rfl | rfl | rfl := hidle <;> rfl
  · rw [not_or, not_or] at hidle
    exact absurd (List.mem_map.mpr ⟨s, hs, haction⟩) (hactions name hidle.1 hidle.2.1 hidle.2.2)

/-- The engine never plays a landing. -/
theorem Performs.not_landing (h : Performs t0 c request p)
    (hmem : request.sequenceName ∈ performedSequences env) : p.step.action ≠ .landing := by
  intro haction
  have hactions : ∀ name ≠ SequenceName.landing,
      PetActionName.landing ∉ (sequenceCatalog name).sequence.steps.map (·.action) := by
    intro name
    cases name <;> decide
  have hstep : p.step ∈ (sequenceCatalog request.sequenceName).sequence.steps :=
    h.sequence ▸ PetTrack0Controller.step_mem p
  refine hactions request.sequenceName ?_ (List.mem_map.mpr ⟨p.step, hstep, haction⟩)
  rintro hname
  rw [hname] at hmem
  unfold performedSequences dragSequence at hmem
  split at hmem <;> exact absurd hmem (by decide)

/-- A production action that is not protected plays as a loop nothing but a cancellation ends. -/
theorem productionProgress_holds {action : ProductionAction} (h : action.isProtected = false) :
    (productionProgress action).step.loop = true
      ∧ (productionProgress action).sequence.loopExitIndex = none := by
  cases action <;> first | exact ⟨rfl, rfl⟩ | cases h

theorem productionSequence_performed (env : EngineEnv) (action : ProductionAction) :
    productionSequenceByAction action ∈ performedSequences env := by
  cases action <;> simp [performedSequences, productionSequenceByAction]

end

/-! ## The three properties -/

/-- The track is stopped or performs one of the engine's own sequences. -/
def TrackSound (env : EngineEnv) (t0 : Track0Env) (c : PetTrack0Controller) : Prop :=
  PetTrack0Controller.Stopped c
    ∨ ∃ request p, Performs t0 c request p ∧ request.sequenceName ∈ performedSequences env

/-- What holds of every state of an engine whose player meets the sequencing contract. -/
structure Sound (env : EngineEnv) (t0 : Track0Env) (e : PetAnimationEngine) : Prop where
  valid : e.motion.states.Valid
  turn : e.motion.pendingDirectionTurn = none
  untimed : e.actionRemaining ≤ 0
  resume : ∀ action, e.autonomousResumeAction = some action →
    action.isProtected = false ∧ Performable t0 (productionSequenceByAction action)
  track : TrackSound env t0 e.track0

/-- The playback is a loop that no boundary ends. -/
def Loops (c : PetTrack0Controller) : Prop :=
  ∃ p, c.runner.progress = some p ∧ p.step.loop = true ∧ p.sequence.loopExitIndex = none

/-- The scheduler of an autonomous pet watches the playback that runs, which is a loop no boundary ends. -/
def Watched (env : EngineEnv) (e : PetAnimationEngine) : Prop :=
  env.hasScheduler = true → e.executionMode = .autonomous →
    SchedulerWatches e.autonomousSchedulerState e.track0.state.confirmedEpoch ∧ Loops e.track0

/-- A pet that is not autonomous has nothing to watch. -/
theorem watched_of_mode {env : EngineEnv} {e : PetAnimationEngine} (h : e.executionMode ≠ .autonomous) :
    Watched env e := fun _ hmode => absurd hmode h

/-- What a transaction makes of the three properties: soundness is kept, and under the conditions `safe` and
`calm` so are compatibility and the scheduler's watch. -/
structure Keeps (env : EngineEnv) (t0 : Track0Env) (safe calm : Prop) (e e' : PetAnimationEngine) : Prop where
  sound : Sound env t0 e'
  compatible : safe → Compatible e → Compatible e'
  watched : calm → Watched env e → Watched env e'

/-- A transaction keeps the properties at both its ends, and what it raises under `safe` is not a failed
assertion. -/
def Maintains (env : EngineEnv) (t0 : Track0Env) (safe calm : Prop) {α : Type}
    (c : Program PetAnimationEngine α) (e : PetAnimationEngine) : Prop :=
  Wp c (fun _ => Keeps env t0 safe calm e)
    (fun error e' => Keeps env t0 safe calm e e' ∧ (safe → Compatible e → error ≠ .animationCompatibility)) e

section

variable {env : EngineEnv} {t0 : Track0Env} {safe calm : Prop} {e e' e'' : PetAnimationEngine}

theorem Keeps.refl (h : Sound env t0 e) : Keeps env t0 safe calm e e := ⟨h, fun _ h => h, fun _ h => h⟩

theorem Keeps.trans (h : Keeps env t0 safe calm e e') (h' : Keeps env t0 safe calm e' e'') :
    Keeps env t0 safe calm e e'' :=
  ⟨h'.sound, fun hs hc => h'.compatible hs (h.compatible hs hc),
    fun hs hw => h'.watched hs (h.watched hs hw)⟩

theorem Keeps.mono {safe' calm' : Prop} (h : Keeps env t0 safe calm e e') (hsafe : safe' → safe)
    (hcalm : calm' → calm) : Keeps env t0 safe' calm' e e' :=
  ⟨h.sound, fun hs => h.compatible (hsafe hs), fun hs => h.watched (hcalm hs)⟩

/-- The properties depend on the layers, the track, the mode, and the scheduler's state alone. -/
theorem Keeps.of_layers (h : Sound env t0 e) (hstates : e'.motion.states = e.motion.states)
    (hturn : e'.motion.pendingDirectionTurn = none) (htrack : e'.track0 = e.track0)
    (huntimed : e'.actionRemaining ≤ 0) (hresume : e'.autonomousResumeAction = e.autonomousResumeAction)
    (hmode : e'.executionMode = .suspended
      ∨ e'.executionMode = e.executionMode ∧ e'.autonomousSchedulerState = e.autonomousSchedulerState) :
    Keeps env t0 safe calm e e' := by
  refine ⟨⟨hstates ▸ h.valid, hturn, huntimed, hresume ▸ h.resume, htrack ▸ h.track⟩,
    fun _ hc => ?_, fun _ hw => ?_⟩
  · exact hc.of_layers hstates (by rw [htrack]) (by rw [htrack])
  · obtain hmode | ⟨hmode, hstate⟩ := hmode
    · exact watched_of_mode (by rw [hmode]; decide)
    · unfold Watched at hw ⊢
      rwa [hmode, hstate, htrack]

theorem Keeps.of_frame (h : Sound env t0 e) (hmotion : e'.motion = e.motion) (htrack : e'.track0 = e.track0)
    (huntimed : e'.actionRemaining ≤ 0) (hresume : e'.autonomousResumeAction = e.autonomousResumeAction)
    (hmode : e'.executionMode = .suspended
      ∨ e'.executionMode = e.executionMode ∧ e'.autonomousSchedulerState = e.autonomousSchedulerState) :
    Keeps env t0 safe calm e e' :=
  .of_layers h (by rw [hmotion]) (hmotion ▸ h.turn) htrack huntimed hresume hmode

theorem Maintains.weaken {safe' calm' : Prop} {α : Type} {c : Program PetAnimationEngine α}
    (h : Maintains env t0 safe calm c e) (hsafe : safe' → safe) (hcalm : calm' → calm) :
    Maintains env t0 safe' calm' c e :=
  Wp.mono h (fun _ _ hk => hk.mono hsafe hcalm)
    (fun _ _ hk => ⟨hk.1.mono hsafe hcalm, fun hs => hk.2 (hsafe hs)⟩)

/-- What follows a transaction that kept the properties need only keep them too. -/
theorem Maintains.after {α : Type} {c : Program PetAnimationEngine α}
    (h : Maintains env t0 safe calm c e') (hkept : Keeps env t0 safe calm e e') :
    Wp c (fun _ => Keeps env t0 safe calm e)
      (fun error e'' => Keeps env t0 safe calm e e'' ∧ (safe → Compatible e → error ≠ .animationCompatibility))
      e' :=
  h.mono (fun _ _ h => hkept.trans h)
    (fun _ _ h => ⟨hkept.trans h.1, fun hs hc => h.2 hs (hkept.compatible hs hc)⟩)

/-- Transactions in a row. -/
theorem Maintains.bind {α β : Type} {c : Program PetAnimationEngine α} {f : α → Program PetAnimationEngine β}
    (h : Maintains env t0 safe calm c e) (hf : ∀ a e', Sound env t0 e' → Maintains env t0 safe calm (f a) e') :
    Maintains env t0 safe calm (c >>= f) e :=
  wp_bind.mpr (h.imp (fun a e' hkept => (hf a e' hkept.sound).after hkept))

/-- The assertion and the outcome that end a transaction. -/
theorem assert_maintains (h : Sound env t0 e) {α : Type} (a : α) :
    Maintains env t0 safe calm (do assertTransactionCompatible; return a) e := by
  refine wp_bind.mpr ?_
  refine (wp_assertTransactionCompatible (PetLayeredStateMachine.snapshot_of_valid _ h.valid) _ _).mpr ?_
  exact ⟨fun _ => .refl h, fun hn => ⟨.refl h, fun _ hc => absurd hc hn⟩⟩

end

/-! ## Intents -/

section

variable {env : EngineEnv} {t0 : Track0Env} {e e' : PetAnimationEngine} {intent : ActionIntent}
  {o : ActionOutcome}

/-- An intent keeps the layers compatible with the track, and an explicit one leaves nothing autonomous
unwatched. -/
theorem Submitted.keeps (h : Submitted t0 e intent o e') (hs : Sound env t0 e) :
    Keeps env t0 True (intent.origin = .explicit) e e' := by
  cases h with
  | continued => exact .of_frame hs rfl rfl hs.untimed rfl (.inr ⟨rfl, rfl⟩)
  | queued => exact .of_frame hs rfl rfl hs.untimed rfl (.inl rfl)
  | held => exact .of_frame hs rfl rfl hs.untimed rfl (.inr ⟨rfl, rfl⟩)
  | refused => exact .refl hs
  | played motion track0 request hperformable hat hturn hname _ hperforms =>
    refine ⟨⟨hat.valid, hturn.trans hs.turn, hs.untimed, ?_, ?_⟩, fun _ _ => ?_, fun hexplicit _ => ?_⟩
    · intro action haction
      simp only [settled] at haction
      split at haction
      next hmode =>
        obtain rfl := Option.some.inj haction
        refine ⟨?_, hperformable⟩
        cases hp : intent.action.isProtected with
        | false => rfl
        | true => simp [intentMode, hp] at hmode
      next => exact hs.resume action haction
    · exact .inr ⟨request, _, hperforms, hname ▸ productionSequence_performed env intent.action⟩
    · refine compatible_of_permits hat rfl hperforms.playing.desired hperforms.playing.health ?_
      rw [productionProgress_step, step_action]
      exact semanticTarget_permits intent.action
    · refine watched_of_mode ?_
      simp only [settled, intentMode, hexplicit]
      split <;> simp
  | failed _ motion track0 hvalid hturn hcontained =>
    refine ⟨⟨hvalid, hturn.trans hs.turn, hs.untimed, hs.resume, .inl hcontained.stopped⟩, fun _ _ => ?_,
      fun _ _ => watched_of_mode (by simp [refusedByPlayer])⟩
    exact compatible_of_unhealthy hvalid hcontained.stopped.desired hcontained.health

/-- On a stopped track an intent whose sequence is performable ends compatible, whatever the layers were. -/
theorem Submitted.compatible_of_stopped (h : Submitted t0 e intent o e') (hv : e.motion.states.Valid)
    (hstopped : PetTrack0Controller.Stopped e.track0)
    (hperformable : Performable t0 (productionSequenceByAction intent.action)) : Compatible e' := by
  cases h with
  | continued _ hbusy => rw [hstopped.active] at hbusy; cases hbusy
  | queued _ hprotected => simp [activeRequestIsProtected, hstopped.active] at hprotected
  | held _ hbusy => rw [hstopped.confirmed] at hbusy; cases hbusy
  | refused _ _ hfree =>
    by_cases hhealth : e.track0.state.health = .healthy
    · by_cases hactive : e.motion.states.lifecycle = .active
      · exact absurd hperformable (hfree hstopped.active hhealth hactive)
      · exact compatible_of_inactive hv hstopped.desired hactive
    · exact compatible_of_unhealthy hv hstopped.desired hhealth
  | played motion track0 request _ hat _ _ _ hperforms =>
    refine compatible_of_permits hat rfl hperforms.playing.desired hperforms.playing.health ?_
    rw [productionProgress_step, step_action]
    exact semanticTarget_permits intent.action
  | failed _ motion track0 hvalid _ hcontained =>
    exact compatible_of_unhealthy hvalid hcontained.stopped.desired hcontained.health

/-! ## Entering autonomy -/

/-- Autonomy entered with a loop keeps the properties and is watched. -/
theorem Activated.keeps {action : ProductionAction} (h : Activated env e action e') (hs : Sound env t0 e)
    (hperformable : Performable t0 (productionSequenceByAction action)) (hloops : Loops e.track0) :
    Keeps env t0 True False e e' ∧ Watched env e' := by
  obtain ⟨_, _, _, rfl, hwatching⟩ := h
  refine ⟨⟨⟨hs.valid, hs.turn, hs.untimed, ?_, hs.track⟩, fun _ hc => hc, fun hf => hf.elim⟩,
    fun hscheduler _ => ⟨hwatching hscheduler, hloops⟩⟩
  intro action' haction'
  simp only at haction'
  split at haction'
  next => exact hs.resume action' haction'
  next hp =>
    obtain rfl := Option.some.inj haction'
    exact ⟨by simpa using hp, hperformable⟩

/-- What an autonomous intent followed by entering autonomy ends in. -/
structure Reentered (env : EngineEnv) (t0 : Track0Env) (e : PetAnimationEngine) (action : ProductionAction)
    (o : ActionOutcome) (e' : PetAnimationEngine) : Prop where
  keeps : Keeps env t0 True True e e'
  watched : Watched env e'
  freed : PetTrack0Controller.Stopped e.track0 → Performable t0 (productionSequenceByAction action) →
    Compatible e'
  accepted : o = .accepted → Compatible e' ∧ Performable t0 (productionSequenceByAction action)

/-- A loop that plays of the engine's own authority enters autonomy. -/
theorem Submitted.activates {e₀ : PetAnimationEngine} (h : Submitted t0 e₀ intent .accepted e)
    (hs : Sound env t0 e₀) (hloop : intent.action.isProtected = false) (horigin : intent.origin ≠ .explicit) :
    Wp (activateAutonomous env intent.action) (fun _ => Reentered env t0 e₀ intent.action .accepted)
      (fun _ _ => False) e := by
  have hkeeps := h.keeps hs
  cases h with
  | continued hexplicit => exact absurd hexplicit horigin
  | queued hexplicit => exact absurd hexplicit horigin
  | held hexplicit => exact absurd hexplicit horigin
  | refused _ ho => exact absurd rfl ho
  | failed _ _ _ _ _ hcontained => exact absurd rfl hcontained.not_accepted
  | played motion track0 request hperformable hat hturn hname _ hperforms =>
    obtain ⟨hstep, hexit⟩ := productionProgress_holds hloop
    have hcompatible : Compatible (e₀.settled intent motion track0) := by
      refine compatible_of_permits hat rfl hperforms.playing.desired hperforms.playing.health ?_
      rw [productionProgress_step, step_action]
      exact semanticTarget_permits intent.action
    refine (activateAutonomous_spec ?_ ?_).imp (fun _ e' hactivated => ?_)
    · exact hperforms.playing.confirmedEpoch.2
    · rintro hinteract
      rw [hinteract] at hloop
      cases hloop
    · obtain ⟨hkept, hwatched⟩ := hactivated.keeps hkeeps.sound hperformable
        ⟨_, hperforms.playing.progress, hstep, hexit⟩
      have hc' := hkept.compatible trivial hcompatible
      exact ⟨⟨hkept.sound, fun _ _ => hc', fun _ _ => hwatched⟩, hwatched, fun _ _ => hc',
        fun _ => ⟨hc', hperformable⟩⟩

theorem settleAutonomous_spec {action : ProductionAction} {e₀ : PetAnimationEngine}
    (hs : Sound env t0 e₀) (haction : intent.action = action) (hloop : action.isProtected = false)
    (horigin : intent.origin ≠ .explicit) (h : Submitted t0 e₀ intent o e) :
    Wp (settleAutonomous env action o) (fun _ => Reentered env t0 e₀ action o) (fun _ _ => False) e := by
  subst haction
  unfold settleAutonomous
  split
  next ho =>
    subst ho
    exact h.activates hs hloop horigin
  next ho =>
    have hkeeps := h.keeps hs
    have hframe : Keeps env t0 True True e { e with executionMode := .suspended } :=
      .of_frame hkeeps.sound rfl rfl hkeeps.sound.untimed rfl (.inl rfl)
    have hwatched : Watched env { e with executionMode := .suspended } := watched_of_mode (by simp)
    exact ⟨⟨hframe.sound, fun hsafe hc => hframe.compatible hsafe (hkeeps.compatible hsafe hc),
      fun _ _ => hwatched⟩, hwatched,
      fun h1 h2 => hframe.compatible trivial (h.compatible_of_stopped hs.valid h1 h2), fun h => absurd h ho⟩

/-- Relaxing autonomously keeps the properties. -/
theorem recoverAutonomousRelax_spec (hs : Sound env t0 e) (facing : Option PetFacing) :
    Wp (recoverAutonomousRelax env t0 facing) (Reentered env t0 e .relax) (fun _ _ => False) e := by
  have hs' : Sound env t0 { e with objects := e.objects + 1 } :=
    ⟨hs.valid, hs.turn, hs.untimed, hs.resume, hs.track⟩
  simp only [recoverAutonomousRelax, wp_bind, wp_newObject]
  refine (submitProductionIntent_spec hs'.valid facing).imp (fun o e₁ hsubmitted => ?_)
  refine (settleAutonomous_spec hs' rfl rfl (by simp) hsubmitted).imp (fun _ e₂ hr => ?_)
  exact ⟨⟨hr.keeps.sound, hr.keeps.compatible, hr.keeps.watched⟩, hr.watched, hr.freed, hr.accepted⟩

end

/-! ## Events -/

section

variable {env : EngineEnv} {t0 : Track0Env} {e e' : PetAnimationEngine} {event : PetAnimationEvent}
  {o : ActionOutcome}

/-- The event plays its own sequence and leaves the autonomous mode on: the scheduler goes on watching the
playback the event replaced. -/
def Overtakes (env : EngineEnv) (t0 : Track0Env) (e : PetAnimationEngine) (event : PetAnimationEvent) : Prop :=
  e.executionMode = .autonomous
    ∧ event.eventType ∈ [PetAnimationEventType.startReading, .startWalking, .startThinking, .startReminding,
        .releaseDrag]
    ∧ Admits env t0 e event

theorem prepared_keeps {safe calm : Prop} (hs : Sound env t0 e) (event : PetAnimationEvent) :
    Keeps env t0 safe calm e (e.prepared event) := by
  unfold prepared
  split
  next => exact .of_frame hs rfl rfl hs.untimed rfl (.inl rfl)
  next => exact .refl hs

/-- The sequence an event submits is one of the engine's own. -/
theorem Submits.performed {proposal : ProposedStateTransition} {reason : CancelReason}
    {request : ActionRequest} (h : Submits env e event proposal reason request) :
    request.sequenceName ∈ performedSequences env := by
  obtain ⟨change, hchange, -, -⟩ := h
  unfold eventChange at hchange
  cases hevent : event.eventType with
  | startWalking =>
    rw [hevent] at hchange
    cases hfacing : event.facing with
    | none => rw [hfacing] at hchange; cases hchange
    | some facing =>
      rw [hfacing] at hchange
      cases facing <;>
        · simp only [Except.ok.injEq, Prod.mk.injEq, Option.some.injEq] at hchange
          rw [← hchange.2.1]
          simp [performedSequences]
  | pause => rw [hevent] at hchange; simp at hchange
  | beginClosing => rw [hevent] at hchange; simp at hchange
  | _ =>
    rw [hevent] at hchange
    simp only [Except.ok.injEq, Prod.mk.injEq, Option.some.injEq] at hchange
    rw [← hchange.2.1]
    simp [performedSequences]

/-- An event that leaves the mode on is one of five. -/
theorem mode_of_prepared (hmode : (e.prepared event).executionMode = .autonomous)
    (hresume : event.eventType ≠ .resume) : e.executionMode = .autonomous
      ∧ event.eventType ∈ [PetAnimationEventType.startReading, .startWalking, .startThinking,
          .startReminding, .releaseDrag] := by
  unfold prepared at hmode
  split at hmode
  next => cases hmode
  next hm =>
    refine ⟨hmode, ?_⟩
    cases hevent : event.eventType <;>
      simp_all [PetAnimationEventType.isMandatoryInterruption]

/-- Every ending of an event keeps the properties; only an event that overtakes the scheduler's playback
leaves it unwatched. -/
theorem Handled.keeps (h : Handled env t0 (e.prepared event) event o e') (hs : Sound env t0 e) :
    Keeps env t0 True (¬Overtakes env t0 e event) e e' := by
  have hs₁ : Sound env t0 (e.prepared event) := (prepared_keeps hs event : Keeps env t0 True True e _).sound
  cases h with
  | cleared _ motion track0 hevent hvalid hinactive hturn hstopped =>
    refine ⟨⟨hvalid, hturn.trans hs₁.turn, hs₁.untimed, hs₁.resume, .inl hstopped⟩, fun _ _ => ?_,
      fun _ _ => watched_of_mode ?_⟩
    · exact compatible_of_inactive hvalid hstopped.desired hinactive
    · obtain hevent | hevent := hevent <;>
        simp [prepared, hevent, PetAnimationEventType.isMandatoryInterruption, interrupted]
  | contained _ proposal reason request track0 hsubmits hmandatory _ hcontained =>
    obtain ⟨change, hchange, hpropose, -⟩ := hsubmits
    have hevent := mandatory_of_eventChange hchange
      ((e.prepared event).motion.states.propose_source hpropose |>.2.1.symm.trans hmandatory)
    refine ⟨⟨committed_valid _ _, hs₁.turn, hs₁.untimed, hs₁.resume, .inl hcontained.stopped⟩,
      fun _ _ => ?_, fun _ _ => watched_of_mode ?_⟩
    · exact compatible_of_unhealthy (committed_valid _ _) hcontained.stopped.desired hcontained.health
    · simp [prepared, hevent, PetAnimationEventType.isMandatoryInterruption, interrupted]
  | refused => exact prepared_keeps hs event
  | played proposal reason request track0 hadmits hsubmits hperforms _ hcompatible hresume =>
    refine ⟨⟨committed_valid _ _, hs₁.turn, hs₁.untimed, hs₁.resume, .inr ⟨request, _, hperforms, ?_⟩⟩,
      fun _ _ => hcompatible, fun hcalm _ _ hmode => ?_⟩
    · exact hsubmits.performed
    · obtain ⟨hautonomous, hevent⟩ := mode_of_prepared hmode hresume
      exact absurd ⟨hautonomous, hevent, admits_prepared.mp hadmits⟩ hcalm
  | resumed proposal request track0 _ hevent hadmits hperformable hname hperforms hcompatible hactivated =>
    obtain ⟨hstep, hexit⟩ := productionProgress_holds (show ProductionAction.relax.isProtected = false from rfl)
    have hsound : Sound env t0 { e.prepared event with
        motion := (e.prepared event).motion.committed proposal.targetState, track0
        activeProductionAction := some .relax } :=
      ⟨committed_valid _ _, hs₁.turn, hs₁.untimed, hs₁.resume,
        .inr ⟨request, _, hperforms, hname ▸ productionSequence_performed env .relax⟩⟩
    obtain ⟨hkept, hwatched⟩ := hactivated.keeps hsound hperformable
      ⟨_, hperforms.playing.progress, hstep, hexit⟩
    exact ⟨hkept.sound, fun _ _ => hkept.compatible trivial hcompatible, fun _ _ => hwatched⟩
  | failed _ proposal track0 hadmits hcontained =>
    refine ⟨⟨committed_valid _ _, hs₁.turn, hs₁.untimed, hs₁.resume, .inl hcontained.stopped⟩,
      fun _ _ => ?_, fun hcalm _ _ hmode => ?_⟩
    · exact compatible_of_unhealthy (committed_valid _ _) hcontained.stopped.desired hcontained.health
    · by_cases hresume : event.eventType = .resume
      · simp [hresume] at hmode
      · simp only [hresume, if_false] at hmode
        obtain ⟨hautonomous, hevent⟩ := mode_of_prepared hmode hresume
        exact absurd ⟨hautonomous, hevent, admits_prepared.mp hadmits⟩ hcalm

/-- Handling an event maintains the properties. -/
theorem handleEvent_maintains (htrack : env.track0 = some t0) (hs : Sound env t0 e) :
    Maintains env t0 True (¬Overtakes env t0 e event) (handleEvent env event) e := by
  refine (handleEvent_spec htrack).mono (fun _ _ h => h.keeps hs) (fun error e' h => ?_)
  obtain ⟨rfl, hraised⟩ := h
  exact ⟨prepared_keeps hs event, fun _ _ => hraised.not_compatibility⟩

end

end PetAnimationEngine

end ArkClaw.Pet
