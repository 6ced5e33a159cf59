import ArkClaw.Pet.ProtectedQueue

/-!
# Runs over a queued action

A record of an engine notes which protected playback the waiting action was queued behind. What waits is
submitted once, by the callback that completes that very playback, as long as no step strands it: a release
admitted over the playback, a watchdog that stops it, or a completion the engine no longer takes for one of its own.
-/

namespace ArkClaw.Pet

open ArkClaw.Library

namespace PetTrack0Controller

/-! ## Strict requests -/

/-- A protected request has the strict class. -/
def StrictRequest (request : ActionRequest) : Prop :=
  request.isProtected = true → request.interruptionClass = .strictAction

/-- What is active, if it is protected, is strict. -/
def Strict (c : PetTrack0Controller) : Prop := ∀ request, c.activeRequest = some request → StrictRequest request

/-- What is active stays strict. -/
def KeepsStrict (c c' : PetTrack0Controller) : Prop := Strict c → Strict c'

instance : Std.Refl KeepsStrict := ⟨fun _ => id⟩

instance : Trans KeepsStrict KeepsStrict KeepsStrict := ⟨fun h h' hs => h' (h hs)⟩

section

variable {env : Track0Env} {c c' : PetTrack0Controller} {request : ActionRequest}

theorem Strict.of_none (h : c.activeRequest = none) : Strict c := fun _ hactive => by
  rw [h] at hactive
  cases hactive

theorem Strict.of_some (h : c.activeRequest = some request) (hstrict : StrictRequest request) : Strict c :=
  fun active hactive => by
    obtain rfl := Option.some.inj (h.symm.trans hactive)
    exact hstrict

theorem KeepsStrict.of_same (h : c'.activeRequest = c.activeRequest) : KeepsStrict c c' :=
  fun hstrict active hactive => hstrict active (h ▸ hactive)

/-- The catalog protects strict sequences only, and a preflight holds a request to the catalog. -/
theorem strict_of_preflight (h : (preflight env request).outcome = .accepted) : StrictRequest request := by
  have hcatalog : ∀ name : SequenceName, (sequenceCatalog name).isProtected = true →
      (sequenceCatalog name).interruptionClass = .strictAction := by
    intro name
    cases name <;> decide
  intro hprotected
  unfold preflight at h
  dsimp only at h
  split at h
  next => cases h
  next =>
    split at h
    next => cases h
    next hpolicy =>
      rw [not_or, not_not, not_not] at hpolicy
      rw [hpolicy.1]
      exact hcatalog _ (hpolicy.2 ▸ hprotected)

theorem invalidate_strict (onCleared : PlaybackHealth) : Follows KeepsStrict (invalidate env onCleared) := fun _ _ =>
  .of_none rfl

/-- A step plays under its request, or under none. -/
theorem playStep_strict (hstrict : StrictRequest request) (step : PetActionStep) :
    Follows KeepsStrict (playStep env request step) := by
  have hfails : Follows KeepsStrict (containFailedPlay env) := (invalidate_strict _).bind fun _ => .pure _
  have hmodify : ∀ f : PetTrack0Controller → PetTrack0Controller, (∀ c, KeepsStrict c (f c)) →
      Follows KeepsStrict (modify f : Program PetTrack0Controller PUnit) := fun f h => .modify h
  have hallocate : Follows KeepsStrict allocateGeneration :=
    .bind (hmodify _ fun _ => .of_same rfl) fun _ => .get fun _ => .pure _
  have harms : Follows KeepsStrict (armAfterSuccessfulPlay env step) := by
    unfold armAfterSuccessfulPlay
    split
    next => exact hmodify _ fun _ => .of_same rfl
    next =>
      refine .bind ((deadlineForStep_keepsPlayback step).mono fun _ _ h => .of_same h.1) fun deadline => ?_
      exact hmodify _ fun _ => .of_same rfl
  unfold playStep
  apply hallocate.bind
  intro generation
  dsimp only
  refine .bind (hmodify _ fun _ => .of_same rfl) fun _ => ?_
  split
  next => exact hfails
  next token _ =>
    apply Follows.get
    intro c
    split
    next => exact hfails
    next =>
      refine .bind (hmodify _ fun _ _ => .of_some rfl hstrict) fun _ => ?_
      exact harms.bind fun _ => .pure _

theorem playDirective_strict (hstrict : StrictRequest request) (directive : RunnerDirective) :
    Follows KeepsStrict (playDirective env request directive) := by
  unfold playDirective
  split
  next => exact playStep_strict hstrict _
  next => exact .pure _

theorem play_strict (request : ActionRequest) : Follows KeepsStrict (play env request) := by
  have hmodify : ∀ f : PetTrack0Controller → PetTrack0Controller, (∀ c, KeepsStrict c (f c)) →
      Follows KeepsStrict (modify f : Program PetTrack0Controller PUnit) := fun f h => .modify h
  unfold play
  apply Follows.get
  intro c
  split
  next => exact .pure _
  next =>
    dsimp only
    split
    next hpre _ =>
      refine .bind (hmodify _ fun _ => .of_same rfl) fun _ => ?_
      exact playDirective_strict (strict_of_preflight hpre) _
    next => exact .pure _
    next => exact .pure _

/-- Every command keeps what is active strict. -/
theorem commanded_keepsStrict (env : Track0Env) : PetAnimationEngine.Commanded env KeepsStrict := by
  refine ⟨play_strict, fun replacement => ?_, fun reason => ?_, fun reason => ?_, fun request => ?_⟩
  · unfold replacePlayback
    cases replacement with
    | none => exact .pure _
    | some request =>
      have hfrees : Follows KeepsStrict (modify fun c : PetTrack0Controller => { c with
          watchdogDeadline := none, runner := PetSequenceRunner.reset, activeRequest := none
          state := { health := c.state.health } } : Program PetTrack0Controller PUnit) := .modify fun _ _ => .of_none rfl
      dsimp only
      split
      next => exact .pure _
      next => exact hfrees.bind fun _ => play_strict _
  · exact .get fun _ => (invalidate_strict _).bind fun _ => .pure _
  · exact (invalidate_strict _).bind fun _ => .pure _
  · unfold adoptActivePlayback
    dsimp only
    split
    next hpre _ =>
      apply Follows.get
      intro c
      have hadopts : Follows KeepsStrict (modify fun c : PetTrack0Controller => { c with activeRequest := some request } :
          Program PetTrack0Controller PUnit) := .modify fun _ _ => .of_some rfl (strict_of_preflight hpre)
      split
      next => exact hadopts.bind fun _ => .pure _
      next => exact .pure _
    next => exact .pure _
    next => exact .pure _

/-- A callback goes on under the active request, under another epoch at most. -/
theorem handleCompletion_strict (event : PlaybackEvent) {continuation : Option ActionRequest}
    (hcontinues : PetAnimationEngine.Continues c continuation) :
    Wp (handleCompletion env event continuation) (fun _ => KeepsStrict c) (fun _ => KeepsStrict c) c := by
  by_cases hstrict : Strict c
  · have hkept : ∀ runner, KeepsStrict c { c with runner } := fun _ => .of_same rfl
    have hrequest : ∀ request, (continuation <|> c.activeRequest) = some request → StrictRequest request := by
      intro request hrequest
      cases continuation with
      | none => exact hstrict request hrequest
      | some continued =>
        obtain rfl := Option.some.inj hrequest
        obtain ⟨active, semanticEpoch, hactive, rfl⟩ := hcontinues _ rfl
        exact hstrict active hactive
    simp only [handleCompletion, wp_bind, wp_get, wp_modify]
    cases (c.runner.handleCompletion event).1 with
    | none => exact hkept _
    | some directive =>
      dsimp only
      split
      next => exact hkept _
      next =>
        split
        next =>
          simp only [finishSequence, wp_bind, wp_modify]
          split
          next => exact fun _ => .of_none rfl
          next => exact KeepsStrict.of_same rfl
        next =>
          simp only [wp_bind, wp_get]
          split
          next => exact hkept _
          next request hsome => exact (playDirective_strict (hrequest request hsome) directive).after (hkept _)
  · exact wp_trivial _ (fun _ _ h => absurd h hstrict) (fun _ _ h => absurd h hstrict)

/-! ## A player without the sequencing contract -/

/-- A stopped track stays stopped. -/
def KeepsStopped (c c' : PetTrack0Controller) : Prop := Stopped c → Stopped c'

instance : Std.Refl KeepsStopped := ⟨fun _ => id⟩

instance : Trans KeepsStopped KeepsStopped KeepsStopped := ⟨fun h h' hs => h' (h hs)⟩

theorem preflight_disabled (hdisabled : sequencingEnabled env.player.capabilities = false) (request : ActionRequest) :
    (preflight env request).outcome ≠ .accepted := by
  unfold preflight
  dsimp only
  split
  next => decide
  next =>
    split
    next => decide
    next => simp [hdisabled]

theorem invalidate_stops (onCleared : PlaybackHealth) : Follows KeepsStopped (invalidate env onCleared) := fun _ _ =>
  ⟨rfl, rfl, rfl, rfl, rfl⟩

theorem play_keepsStopped (hdisabled : sequencingEnabled env.player.capabilities = false) (request : ActionRequest) :
    Follows KeepsStopped (play env request) := by
  unfold play
  apply Follows.get
  intro c
  split
  next => exact .pure _
  next =>
    dsimp only
    split
    next hpre _ => exact absurd hpre (preflight_disabled hdisabled request)
    next => exact .pure _
    next => exact .pure _

/-- Without the contract no command starts a stopped track. -/
theorem commanded_keepsStopped (hdisabled : sequencingEnabled env.player.capabilities = false) :
    PetAnimationEngine.Commanded env KeepsStopped := by
  refine ⟨play_keepsStopped hdisabled, fun replacement => ?_, fun reason => ?_, fun reason => ?_, fun request => ?_⟩
  · unfold replacePlayback
    cases replacement with
    | none => exact .pure _
    | some request =>
      dsimp only
      rw [if_pos (preflight_disabled hdisabled request)]
      exact .pure _
  · exact .get fun _ => (invalidate_stops _).bind fun _ => .pure _
  · exact (invalidate_stops _).bind fun _ => .pure _
  · unfold adoptActivePlayback
    dsimp only
    split
    next hpre _ => exact absurd hpre (preflight_disabled hdisabled request)
    next => exact .pure _
    next => exact .pure _

/-- A callback finds nothing to advance on a stopped track. -/
theorem handleCompletion_keepsStopped (event : PlaybackEvent) (continuation : Option ActionRequest) :
    Follows KeepsStopped (handleCompletion env event continuation) := by
  intro c
  by_cases hstopped : Stopped c
  · have hstale : c.runner.handleCompletion event = (some { outcome := .staleCompletion }, c.runner) := by
      rw [hstopped.runner]
      rfl
    simp only [handleCompletion, wp_bind, wp_get, wp_modify, hstale]
    exact id
  · exact wp_trivial _ (fun _ _ h => absurd h hstopped) (fun _ _ h => absurd h hstopped)

theorem cancelGracefully_keepsStopped : Follows KeepsStopped (cancelGracefully env) := by
  intro c
  by_cases hstopped : Stopped c
  · have hinvalid : c.runner.requestGracefulExit = (.invalidSequence, c.runner) := by
      rw [hstopped.runner]
      rfl
    simp only [cancelGracefully, wp_bind, wp_get, wp_modify, hinvalid]
    exact id
  · exact wp_trivial _ (fun _ _ h => absurd h hstopped) (fun _ _ h => absurd h hstopped)

end

end PetTrack0Controller

namespace PetAnimationEngine

open PetTrack0Controller (Strict Playing finishSequence handleCompletion_stale KeepsStrict Stopped)

section

variable {env : EngineEnv} {t0 : Track0Env} {e : PetAnimationEngine}
variable {event : PlaybackEvent} {e' : PetAnimationEngine}

/-! ## What is protected -/

/-- A protected sequence never shows Relax. -/
theorem protected_not_idle {name : SequenceName} (hprotected : (sequenceCatalog name).isProtected = true) :
    ∀ s ∈ (sequenceCatalog name).sequence.steps, s.action ≠ .idle := by
  cases name <;> first | decide | cases hprotected

/-- A protected playback of the engine has one step, and frees the track when that ends. -/
theorem protected_single (env : EngineEnv) {name : SequenceName} (hmem : name ∈ performedSequences env)
    (hprotected : (sequenceCatalog name).isProtected = true) : (sequenceCatalog name).sequence.steps.length = 1
      ∧ (∀ s ∈ (sequenceCatalog name).sequence.steps, s.loop = false)
      ∧ (sequenceCatalog name).sequence.terminal = .complete := by
  have hall : ∀ name ∈ performedSequences env, (sequenceCatalog name).isProtected = true →
      (sequenceCatalog name).sequence.steps.length = 1
        ∧ (∀ s ∈ (sequenceCatalog name).sequence.steps, s.loop = false)
        ∧ (sequenceCatalog name).sequence.terminal = .complete := by
    unfold performedSequences dragSequence
    cases env.useRelaxMotionFallback <;> decide
  exact hall name hmem hprotected

theorem Sound.shielded (hs : Sound env t0 e) (hstrict : Strict e.track0) : Shielded e.track0 := by
  intro request hactive hprotected
  refine ⟨hstrict request hactive hprotected, ?_⟩
  rcases hs.track with hstopped | ⟨performed, p, hperforms, -⟩
  · rw [hstopped.active] at hactive
    cases hactive
  · obtain rfl := Option.some.inj (hperforms.playing.active.symm.trans hactive)
    rw [hperforms.playing.desired]
    intro hidle
    have hstep : p.step ∈ (sequenceCatalog performed.sequenceName).sequence.steps :=
      hperforms.sequence ▸ List.get_mem _ _
    exact protected_not_idle (hperforms.policy ▸ hprotected) _ hstep (Option.some.inj hidle)

/-- The protected playback that runs, and the only step of its sequence. -/
theorem Sound.protected (hs : Sound env t0 e) (hprotected : e.activeRequestIsProtected = true) :
    ∃ request p, Playing t0 e.track0 request p ∧ p.step.loop = false
      ∧ p.currentIndex + 1 = p.sequence.steps.length ∧ p.sequence.terminal = .complete := by
  obtain ⟨active, hactive, hpolicy⟩ := exists_protected hprotected
  rcases hs.track with hstopped | ⟨request, p, hperforms, hmem⟩
  · rw [hstopped.active] at hactive
    cases hactive
  · obtain rfl := Option.some.inj (hperforms.playing.active.symm.trans hactive)
    obtain ⟨hlength, hloop, hterminal⟩ := protected_single env hmem (hperforms.policy ▸ hpolicy)
    rw [← hperforms.sequence] at hlength hloop hterminal
    have hin := p.in_range
    exact ⟨request, p, hperforms.playing, hloop _ (List.get_mem _ _), by omega, hterminal⟩

/-! ## The completion of a protected playback -/

/-- The callback reports the end of the protected playback that runs. -/
def CompletesProtected (e : PetAnimationEngine) (event : PlaybackEvent) : Prop :=
  e.callbackMatchesSnapshot event = true ∧ event.loopBoundary = false ∧ e.activeRequestIsProtected = true

/-- The engine takes the playback for its production action's. -/
def Known (e : PetAnimationEngine) : Prop := e.activeProductionAction.any (·.isProtected) = true

/-- The engine once its protected playback has ended: the track and the queue are free. -/
def freed (e : PetAnimationEngine) : PetAnimationEngine :=
  { e with
    track0 := { e.track0 with runner := {}, watchdogDeadline := none, activeRequest := none, state := { health := .healthy } }
    pendingExplicitAction := none, resumeAfterProtected := false, activeProductionAction := none }

/-- The callback that ends a protected playback is the submission, once, of what waits behind it. -/
theorem handlePlaybackEvent_submits (htrack : env.track0 = some t0) (hs : Sound env t0 e)
    (hcompletes : CompletesProtected e event) (hknown : Known e) {pending : PendingExplicitIntent}
    (hpending : e.pendingExplicitAction = some pending) (facing : Option PetFacing)
    (Q : ActionOutcome → PetAnimationEngine → Prop) (R : PetError → PetAnimationEngine → Prop) :
    Wp (handlePlaybackEvent env event facing) Q R e ↔
      Wp (do
        let outcome ← submitProductionIntent t0 pending.intent
        assertTransactionCompatible
        return outcome) Q R e.freed := by
  obtain ⟨hmatches, hkind, hprotected⟩ := hcompletes
  obtain ⟨request, p, hplaying, hloop, hlast, hterminal⟩ := hs.protected hprotected
  have hstays : e.nextActionForCallback event = none := by
    have hnone : p.sequence.steps[p.currentIndex + 1]? = none := List.getElem?_eq_none (by omega)
    simp [nextActionForCallback, hplaying.progress, hloop, hkind, hnone]
  have hends : e.callbackReachesIdleTerminal event = false := by
    simp [callbackReachesIdleTerminal, hplaying.progress, hloop, hkind, hlast, hterminal]
  have hcompletes : e.completesProductionProtected event = true := by
    unfold Known at hknown
    simp [completesProductionProtected, hkind, hknown, hprotected]
  have hrunner : e.track0.runner.handleCompletion event =
      (some { outcome := .accepted, terminal := some .complete }, {}) := by
    have hnext : ¬p.currentIndex + 1 < p.sequence.steps.length := by omega
    have hepoch : e.track0.runner.eventMatchesCurrentEpoch event = true := hmatches
    simp [PetSequenceRunner.handleCompletion, PetSequenceRunner.nextStep, PetSequenceRunner.reset, hplaying.progress,
      hepoch, hloop, hkind, hnext, hterminal]
  unfold handlePlaybackEvent
  simp only [htrack, wp_bind, wp_get, hmatches, Bool.not_true, Bool.false_eq_true, if_false, hkind, wp_pure,
    advanceSequence, commitReturnIdle, hstays, ne_eq, reduceCtorEq, not_false_eq_true, if_true, hends, hcompletes,
    wp_onTrack0, PetTrack0Controller.handleCompletion, hrunner, wp_modify, not_true_eq_false, Option.isNone_none,
    finishSequence, true_or, true_and, and_self, followCompletion, continueAfterProtected,
    wp_clearProtectedContinuation, hpending, and_false]
  exact Iff.rfl

/-! ## Requests -/

/-- The operation asks, for somebody other than the human interface, for an action over a protected playback. -/
def queuesAction (e : PetAnimationEngine) : Operation → Bool
  | .requestAction _ source =>
    e.activeRequestIsProtected && decide (source ∈ sourcesByOrigin .explicit ∧ source ≠ .user ∧ source ≠ .tray)
  | _ => false

/-- The action waits, in the place of whatever waited before, and nothing else has changed. -/
def Queued (e : PetAnimationEngine) (action : ProductionAction) (source : ActionSource) (e' : PetAnimationEngine) : Prop :=
  ∃ pending : PendingExplicitIntent, pending.action = action ∧ pending.source = source
    ∧ e' = { e with
        objects := e.objects + 1, pendingExplicitAction := some pending, resumeAfterProtected := false
        executionMode := .suspended }

theorem requestAction_queues (htrack : env.track0 = some t0) {action : ProductionAction} {source : ActionSource}
    (hqueues : e.queuesAction (.requestAction action source) = true) :
    Wp (requestAction env action source) (fun o e' => o = .accepted ∧ Queued e action source e') (fun _ _ => False) e := by
  simp only [queuesAction, Bool.and_eq_true, decide_eq_true_eq] at hqueues
  obtain ⟨hprotected, hsource, huser, htray⟩ := hqueues
  have hactive : { e with objects := e.objects + 1 }.activeRequestIsProtected = true := hprotected
  simp only [requestAction, wp_bind, wp_newObject, dif_pos hsource, htrack, submitProductionIntent, wp_get, hactive, huser,
    htray, or_self, and_false, decide_false, Bool.false_eq_true, false_and, if_false, Bool.not_false, and_self, if_true,
    queueIntent, dif_pos, wp_modify, wp_pure]
  exact ⟨trivial, _, rfl, rfl, rfl⟩

/-- What an explicit intent that is carried out leaves is a free queue. -/
theorem carryOutIntent_empties {intent : ActionIntent} (horigin : intent.origin = .explicit)
    (proposal : ProposedStateTransition) (request : ActionRequest) (mode : Option CancellationMode) :
    Wp (carryOutIntent t0 intent proposal request mode) (fun _ => Free) (fun _ => Free) e := by
  have hfree : Free { e with pendingExplicitAction := none, resumeAfterProtected := false } := ⟨rfl, rfl⟩
  have hfrees : Follows KeepsFree (carryOutIntent t0 intent proposal request mode) := carryOutIntent_free _ _ _ _
  have hkept := hfrees { e with pendingExplicitAction := none, resumeAfterProtected := false }
  unfold carryOutIntent at hkept ⊢
  simp only [horigin, if_true] at hkept ⊢
  refine wp_bind.mpr (wp_clearProtectedContinuation.mpr ?_)
  exact (wp_clearProtectedContinuation.mp (wp_bind.mp hkept)).mono (fun _ _ h => h hfree)
    (fun _ _ h => h hfree)

/-- An explicit intent that is not queued empties the queue or changes nothing. -/
theorem submitExplicit_waits {intent : ActionIntent} (horigin : intent.origin = .explicit)
    (hhuman : e.activeRequestIsProtected = true → intent.source = .user ∨ intent.source = .tray)
    (facing : Option PetFacing) :
    Wp (submitProductionIntent t0 intent facing) (fun _ => Waits (intent.source = .user ∨ intent.source = .tray) e)
      (fun _ => Waits (intent.source = .user ∨ intent.source = .tray) e) e := by
  have hempties : ∀ e' : PetAnimationEngine, Free e' → Waits (intent.source = .user ∨ intent.source = .tray) e e' :=
    fun e' hfree => ⟨fun _ => hfree, fun _ hprotected => .inl ⟨hhuman hprotected, hfree⟩⟩
  have hadmit : ∀ override, Wp (admitIntent t0 intent facing override)
      (fun _ => Waits (intent.source = .user ∨ intent.source = .tray) e)
      (fun _ => Waits (intent.source = .user ∨ intent.source = .tray) e) e := by
    intro override
    have hcarry : ∀ proposal request mode, Wp (carryOutIntent t0 intent proposal request mode)
        (fun _ => Waits (intent.source = .user ∨ intent.source = .tray) e)
        (fun _ => Waits (intent.source = .user ∨ intent.source = .tray) e) e := fun _ _ _ =>
      (carryOutIntent_empties horigin _ _ _).mono (fun _ => hempties) (fun _ => hempties)
    simp only [admitIntent, wp_bind, wp_propose, wp_getOrRaise]
    refine ⟨fun proposal hpropose => ⟨fun request hrequest => ?_, fun _ _ => .refl e⟩, fun _ _ => .refl e⟩
    refine wp_get.mpr ?_
    split
    next => exact .refl e
    next =>
      split
      next => exact .refl e
      next =>
        split
        next => exact hcarry _ _ _
        next =>
          have hsource := (PetLayeredStateMachine.propose_source _ hpropose).1
          simp only [wp_bind, wp_arbitrationContext hsource, wp_get]
          split
          next => exact .refl e
          next => exact hcarry _ _ _
  simp only [submitProductionIntent, wp_bind, wp_get]
  split
  next =>
    exact hempties _ ⟨rfl, rfl⟩
  next hcontinued =>
    split
    next hqueued =>
      obtain ⟨hprotected, hoverride⟩ := hqueued
      simp [hprotected, horigin, hhuman hprotected] at hoverride
    next =>
      split
      next hheld =>
        refine ⟨fun hfree => ⟨hfree.1, rfl⟩, fun _ hprotected => absurd ?_ hcontinued⟩
        refine ⟨?_, hheld.2.2.2⟩
        simp [hprotected, horigin, hhuman hprotected]
      next => exact hadmit _

theorem requestAction_waits {action : ProductionAction} {source : ActionSource}
    (hunqueued : e.queuesAction (.requestAction action source) = false) :
    Wp (requestAction env action source) (fun _ => Waits (source = .user ∨ source = .tray) e)
      (fun _ => Waits (source = .user ∨ source = .tray) e) e := by
  have hobject : Waits (source = .user ∨ source = .tray) e { e with objects := e.objects + 1 } :=
    SameWait.waits ⟨rfl, rfl, rfl, rfl⟩
  simp only [requestAction, wp_bind, wp_newObject]
  split
  next hsource =>
    cases env.track0 with
    | none => exact hobject
    | some t0 =>
      refine (submitExplicit_waits rfl (fun hprotected => ?_) none).mono (fun _ _ => hobject.trans) (fun _ _ => hobject.trans)
      have hactive : e.activeRequestIsProtected = true := hprotected
      by_contra hother
      rw [not_or] at hother
      simp [queuesAction, hactive, hsource, hother] at hunqueued
  next => exact hobject

/-! ## Releases -/

/-- A release is admitted over the protected playback an action waits behind. -/
def ReleasesOver (env : EngineEnv) (t0 : Track0Env) (e : PetAnimationEngine) (event : PetAnimationEvent) : Prop :=
  event.eventType = .releaseDrag ∧ e.activeRequestIsProtected = true ∧ e.pendingExplicitAction.isSome = true
    ∧ Admits env t0 e event

/-- A release that is kept out changes nothing. -/
theorem release_sameWait (htrack : env.track0 = some t0) {event : PetAnimationEvent} (hrelease : event.eventType = .releaseDrag)
    (hadmits : ¬Admits env t0 e event) : Wp (handleEvent env event) (fun _ => SameWait e) (fun _ => SameWait e) e := by
  have hprepared : e.prepared event = e := by
    simp [prepared, hrelease, PetAnimationEventType.isMandatoryInterruption]
  have hspec : Wp (handleEvent env event) (Handled env t0 (e.prepared event) event)
      (fun error e' => e' = e.prepared event ∧ Raised env (e.prepared event) event error) e := handleEvent_spec htrack
  rw [hprepared] at hspec
  refine hspec.mono (fun o e' hend => ?_) (fun error e' hraised => ?_)
  · cases hend with
    | refused => exact .refl e
    | cleared _ _ _ hevent => rcases hevent with hevent | hevent <;> rw [hrelease] at hevent <;> cases hevent
    | contained _ _ _ _ _ hsubmits hmandatory =>
      obtain ⟨change, hchange, hpropose, -⟩ := hsubmits
      rw [(e.motion.states.propose_source hpropose).2.1] at hmandatory
      have hfalls := mandatory_of_eventChange hchange hmandatory
      rw [hrelease] at hfalls
      cases hfalls
    | played _ _ _ _ hadmitted => exact absurd hadmitted hadmits
    | resumed _ _ _ _ hevent => rw [hrelease] at hevent; cases hevent
    | failed _ _ _ hadmitted => exact absurd hadmitted hadmits
  · rw [hraised.1]
    exact .refl e

/-! ## Callbacks that end no protected playback -/

/-- The scheduler's proposals do not reach over a protected playback, and its boundaries do not end one. -/
theorem handleAutonomousBoundary_waits (hs : Sound env t0 e) (hprotected : e.activeRequestIsProtected = true)
    (hkind : event.loopBoundary = true) (boundaryIndex : Int) :
    Wp (handleAutonomousBoundary env t0 event boundaryIndex)
      (fun handled e' => (handled = none → e' = e) ∧ SameWait e e') (fun _ => SameWait e) e := by
  obtain ⟨request, p, hplaying, hloop, -⟩ := hs.protected hprotected
  simp only [handleAutonomousBoundary, wp_bind, wp_get]
  cases e.autonomousSchedulerState with
  | none => exact ⟨fun _ => rfl, .refl e⟩
  | some state =>
    dsimp only
    split
    next => exact ⟨fun _ => rfl, .refl e⟩
    next =>
      simp only [wp_bind, wp_readClock, wp_getOrRaise, wp_newObject, wp_get, wp_onRandom, wp_modify]
      refine ⟨fun boundary _ => ?_, fun _ _ => ⟨rfl, rfl, rfl, rfl⟩⟩
      refine (evaluate_spec _ _ _ _ _ _).mono (fun decision draws hdecision => ?_) (fun _ _ _ => ⟨rfl, rfl, rfl, rfl⟩)
      have hdecided : SameWait e { e with
          clockReadings := e.clockReadings + 1, objects := e.objects + 1, draws
          autonomousSchedulerState := some decision.state } := ⟨rfl, rfl, rfl, rfl⟩
      cases hintent : decision.intent with
      | none =>
        refine wp_map.mpr (wp_onTrack0.mpr ?_)
        refine (handleCompletion_stale (.inr ⟨p, hplaying.progress, ?_⟩) _ _).mpr
          ⟨fun hnone => absurd hnone (Option.some_ne_none _), hdecided⟩
        rw [hloop, hkind]
        decide
      | some intent =>
        have horigin : intent.origin ≠ .explicit := by
          rw [hdecision.2.2 intent hintent]
          decide
        refine wp_map.mpr (wp_bind.mpr ?_)
        refine (submitProductionIntent_refuses horigin none ?_).mono (fun outcome e' hrefused => ?_) (fun _ _ => False.elim)
        · exact hprotected
        · obtain ⟨-, rfl⟩ := hrefused
          refine (Follows.after ?_ hdecided).imp
            (fun _ _ hsame => ⟨fun hnone => absurd hnone (Option.some_ne_none _), hsame⟩)
          exact .get fun e' => (onRandom_sameWait _).bind fun state =>
            .bind (sameWait_frame fun _ => ⟨rfl, rfl, rfl, rfl⟩) fun _ => .pure _

/-- A callback that does not end the protected playback leaves it and what waits alone. -/
theorem handlePlaybackEvent_idles (htrack : env.track0 = some t0) (hs : Sound env t0 e)
    (hprotected : e.activeRequestIsProtected = true) (hgoes : ¬CompletesProtected e event)
    (facing : Option PetFacing) :
    Wp (handlePlaybackEvent env event facing) (fun _ => SameWait e) (fun _ => SameWait e) e := by
  have hasserts : ∀ {e' : PetAnimationEngine} (o : ActionOutcome), SameWait e e' →
      Wp (do assertTransactionCompatible; return o) (fun _ => SameWait e) (fun _ => SameWait e) e' := fun o hsame =>
    (assertTransactionCompatible_sameWait.bind fun _ => .pure o).after hsame
  unfold handlePlaybackEvent
  simp only [htrack]
  refine wp_get_bind.mpr ?_
  cases hmatches : e.callbackMatchesSnapshot event with
  | false =>
    simp only [Bool.not_false, if_true]
    refine wp_bind.mpr ((handleCompletion_foreign (by rw [hmatches]; decide) _ _).mpr ?_)
    exact hasserts _ (.refl e)
  | true =>
    have hkind : event.loopBoundary = true := by
      by_contra hkind
      exact hgoes ⟨hmatches, by simpa using hkind, hprotected⟩
    obtain ⟨request, p, hplaying, hloop, -⟩ := hs.protected hprotected
    have hadvances : Wp (advanceSequence env t0 event facing) (fun _ => SameWait e) (fun _ => SameWait e) e := by
      have hstays : e.nextActionForCallback event = none := by
        simp [nextActionForCallback, hplaying.progress, hloop, hkind]
      have hstale : ∀ Q R, Wp (PetTrack0Controller.handleCompletion t0 event none) Q R e.track0
          ↔ Q .staleCompletion e.track0 := fun Q R =>
        handleCompletion_stale (.inr ⟨p, hplaying.progress, by rw [hloop, hkind]; decide⟩) Q R
      simp only [advanceSequence, commitReturnIdle, wp_bind, wp_get, hstays, ne_eq, reduceCtorEq, not_false_eq_true,
        if_true, wp_pure, wp_onTrack0, hstale, followCompletion_not_accepted _ _ _ _ (show
          ActionOutcome.staleCompletion ≠ .accepted by decide)]
      exact wp_bind.mp (hasserts .staleCompletion (.refl e))
    simp only [Bool.not_true, Bool.false_eq_true, if_false]
    split
    next boundaryIndex _ _ =>
      refine (handleAutonomousBoundary_waits hs hprotected hkind boundaryIndex).bind fun handled e' hhandled => ?_
      cases handled with
      | none =>
        obtain rfl := hhandled.1 rfl
        exact hadvances
      | some outcome => exact hasserts outcome hhandled.2
    next => exact hadvances

/-! ## One step -/

/-- One step of an engine and its controller: an operation, or a poll of the watchdog. -/
inductive QueueStep where
  | operation (op : Operation)
  | pollWatchdog

/-- The step ends a protected playback without submitting what waits behind it and without emptying the queue: a
release is admitted over it, its completion finds an engine that no longer takes it for its own, or the watchdog
stops it. -/
def StrandsQueue (env : EngineEnv) (t0 : Track0Env) (e : PetAnimationEngine) : QueueStep → Prop
  | .operation (.handleEvent event) => ReleasesOver env t0 e event
  | .operation (.releaseDrag _) =>
    ∃ token, env.useRelaxMotionFallback = false ∧ e.dragSessionToken = some token
      ∧ ReleasesOver env t0 e (e.newEvent .releaseDrag none (some token))
  | .operation (.handlePlaybackEvent event _) =>
    CompletesProtected e event ∧ e.pendingExplicitAction.isSome = true ∧ ¬Known e
  | .pollWatchdog =>
    e.activeRequestIsProtected = true ∧ e.pendingExplicitAction.isSome = true
      ∧ ∃ deadline, e.track0.watchdogDeadline = some deadline ∧ deadline ≤ t0.clock e.track0.clockReadings
  | _ => False

/-- The operations that empty the queue: mandatory interruptions, the human interface, a fresh start of autonomy, a
renderer that failed, and a tick whose walk reached the edge. -/
def Interrupts : Operation → Prop
  | .handleEvent event => event.eventType.isMandatoryInterruption = true
  | .requestAction _ source => source = .user ∨ source = .tray
  | .startDragging | .pause | .beginClosing | .resumeAutonomous _ | .containRendererFailure | .advance _ _ => True
  | _ => False

/-- The operation may empty the queue: it interrupts, or it ends the protected playback. -/
def Empties (e : PetAnimationEngine) (op : Operation) : Prop :=
  Interrupts op ∨ ∃ event facing, op = .handlePlaybackEvent event facing ∧ CompletesProtected e event

/-- The queue is free, or an action waits behind a protected playback. -/
def Orderly (e : PetAnimationEngine) : Prop :=
  Free e ∨ e.pendingExplicitAction.isSome = true ∧ e.activeRequestIsProtected = true

/-- A free queue stays free, and what waits waits on, unless what happens `drops` it. -/
structure KeepsWaiting (drops : Prop) (e e' : PetAnimationEngine) : Prop where
  free : Free e → Free e'
  waiting : e.pendingExplicitAction.isSome = true → drops ∧ Free e' ∨ SameWait e e'

theorem SameWait.settles {drops : Prop} (h : SameWait e e') : KeepsWaiting drops e e' :=
  ⟨h.free, fun _ => .inr h⟩

theorem Waits.settles {drops drops' : Prop} (h : Waits drops e e')
    (hshielded : Shielded e.track0) (horderly : Orderly e) (hdrops : drops → drops') : KeepsWaiting drops' e e' := by
  refine ⟨h.free, fun hpending => ?_⟩
  rcases horderly with hfree | hwaits
  · rw [hfree.1] at hpending
    cases hpending
  · exact (h.behind hshielded hwaits.2).imp_left (And.imp_left hdrops)

theorem handleEvent_settles (htrack : env.track0 = some t0) (hshielded : Shielded e.track0) (horderly : Orderly e)
    {event : PetAnimationEvent} (hover : ¬ReleasesOver env t0 e event) :
    Wp (handleEvent env event) (fun _ => KeepsWaiting (event.eventType.isMandatoryInterruption = true) e)
      (fun _ => KeepsWaiting (event.eventType.isMandatoryInterruption = true) e) e := by
  by_cases hrelease : event.eventType = .releaseDrag
  · rcases horderly with hfree | ⟨hpending, hprotected⟩
    · have hnone : ∀ e' : PetAnimationEngine, KeepsFree e e' →
          KeepsWaiting (event.eventType.isMandatoryInterruption = true) e e' := fun e' hkept =>
        ⟨hkept, fun hpending => by rw [hfree.1] at hpending; cases hpending⟩
      exact (handleEvent_free event e).mono (fun _ => hnone) (fun _ => hnone)
    · have hadmits : ¬Admits env t0 e event := fun hadmits => hover ⟨hrelease, hprotected, hpending, hadmits⟩
      exact (release_sameWait htrack hrelease hadmits).mono (fun _ _ h => h.settles) (fun _ _ h => h.settles)
  · exact (handleEvent_waits hrelease e).mono (fun _ _ h => h.settles hshielded horderly id)
      (fun _ _ h => h.settles hshielded horderly id)

/-- The completion of a protected playback frees the queue. -/
theorem handlePlaybackEvent_frees (htrack : env.track0 = some t0) (hs : Sound env t0 e)
    (hcompletes : CompletesProtected e event) (hknown : Known e) (hpending : e.pendingExplicitAction.isSome = true)
    (facing : Option PetFacing) :
    Wp (handlePlaybackEvent env event facing) (fun _ => Free) (fun _ => Free) e := by
  obtain ⟨pending, hsome⟩ := Option.isSome_iff_exists.mp hpending
  have hfree : Free e.freed := ⟨rfl, rfl⟩
  refine (handlePlaybackEvent_submits htrack hs hcompletes hknown hsome facing _ _).mpr ?_
  refine wp_bind.mpr ((submitExplicit_waits rfl ?_ none).mono (fun outcome e' h => ?_)
    (fun _ _ h => h.free hfree))
  · intro hprotected
    cases hprotected
  · exact ((assertTransactionCompatible_free.bind fun _ => .pure outcome) e').mono (fun _ _ hkept => hkept (h.free hfree))
      (fun _ _ hkept => hkept (h.free hfree))

/-- What an operation that queues nothing and strands nothing does to the queue. -/
theorem program_settles (htrack : env.track0 = some t0) (hs : e.activeRequestIsProtected = true → Sound env t0 e)
    (hstrict : Strict e.track0) (horderly : Orderly e) (op : Operation)
    (hunqueued : e.queuesAction op = false) (hmeets : ¬StrandsQueue env t0 e (.operation op)) :
    Wp (op.program env) (fun _ => KeepsWaiting (Empties e op) e) (fun _ => KeepsWaiting (Empties e op) e) e := by
  have hshielded : Shielded e.track0 := fun request hactive hprotected =>
    (hs (by simp [activeRequestIsProtected, hactive, hprotected])).shielded hstrict request hactive hprotected
  have hwaits : ∀ {α : Type} {c : Program PetAnimationEngine α} {drops : Prop},
      Wp c (fun _ => Waits drops e) (fun _ => Waits drops e) e → (drops → Interrupts op) →
      Wp ((fun _ => ()) <$> c) (fun _ => KeepsWaiting (Empties e op) e) (fun _ => KeepsWaiting (Empties e op) e) e :=
    fun h hdrops => wp_map.mpr (h.mono
      (fun _ _ h => h.settles hshielded horderly fun hx => .inl (hdrops hx))
      (fun _ _ h => h.settles hshielded horderly fun hx => .inl (hdrops hx)))
  have hlegacy : ∀ c : Program PetMotionModel Unit, Follows SameWait (do
      onMotion c
      return ActionOutcome.legacyDirect) := fun c => (onMotion_sameWait c).bind fun _ => .pure _
  have hmotion : ∀ {α : Type} (c : Program PetMotionModel α),
      Wp ((fun _ => ()) <$> onMotion c) (fun _ => KeepsWaiting (Empties e op) e) (fun _ => KeepsWaiting (Empties e op) e) e :=
    fun c => wp_map.mpr ((onMotion_sameWait c e).mono (fun _ _ h => h.settles) (fun _ _ h => h.settles))
  cases op with
  | handleEvent event =>
    have hevent := handleEvent_settles htrack hshielded horderly hmeets
    exact wp_map.mpr (hevent.mono (fun _ _ h => ⟨h.free, fun hp => (h.waiting hp).imp_left (And.imp_left .inl)⟩)
      (fun _ _ h => ⟨h.free, fun hp => (h.waiting hp).imp_left (And.imp_left .inl)⟩))
  | requestAction action source => exact hwaits (requestAction_waits hunqueued) id
  | resumeAutonomous source => exact hwaits (resumeAutonomous_waits source e) fun _ => trivial
  | startAutonomous => exact hwaits (startAutonomous_waits e) False.elim
  | requestWalk direction => exact hwaits (requestWalk_waits direction e) False.elim
  | requestThinkingAnimation => exact hwaits (requestThinkingAnimation_waits e) False.elim
  | requestReminderAnimation =>
    refine hwaits (eventOrMotion_waits (by decide) ?_ e) (fun hfalse => by cases hfalse)
    exact (onMotion_sameWait _).bind fun _ => .bind (sameWait_frame fun _ => ⟨rfl, rfl, rfl, rfl⟩) fun _ => .pure _
  | startDragging => exact hwaits (startDragging_waits e) fun _ => trivial
  | pause => exact hwaits (eventOrMotion_waits (by decide) (hlegacy _) e) fun _ => trivial
  | resume => exact hwaits (eventOrMotion_waits (by decide) (hlegacy _) e) (fun hfalse => by cases hfalse)
  | beginClosing =>
    have hcloses : Follows (Waits (PetAnimationEventType.beginClosing.isMandatoryInterruption = true)) (beginClosing env) :=
      .bind (waits_frame fun _ => ⟨rfl, rfl, rfl, rfl⟩) fun _ => eventOrMotion_waits (by decide) (hlegacy _)
    exact hwaits (hcloses e) fun _ => trivial
  | recoverFailedClose =>
    exact (onMotion_sameWait _ e).mono (fun _ _ h => h.settles) (fun _ _ h => h.settles)
  | requestGracefulExit => exact hwaits (requestGracefulExit_waits e) False.elim
  | advance elapsedSeconds workspaces => exact hwaits (advance_waits elapsedSeconds workspaces e) fun _ => trivial
  | containRendererFailure => exact hwaits (containRendererFailure_waits e) fun _ => trivial
  | dragTo | constrain | placeForRenderLayout | restorePosition => exact hmotion _
  | handlePlaybackEvent event facing =>
    refine wp_map.mpr ?_
    rcases horderly with hfree | ⟨hpending, hprotected⟩
    · have hnone : ∀ e' : PetAnimationEngine, KeepsFree e e' →
          KeepsWaiting (Empties e (.handlePlaybackEvent event facing)) e e' := fun e' hkept =>
        ⟨hkept, fun hpending => by rw [hfree.1] at hpending; cases hpending⟩
      exact (handlePlaybackEvent_free event facing e).mono (fun _ => hnone) (fun _ => hnone)
    · by_cases hcompletes : CompletesProtected e event
      · have hknown : Known e := by
          by_contra hunknown
          exact hmeets ⟨hcompletes, hpending, hunknown⟩
        have hends : Empties e (.handlePlaybackEvent event facing) := .inr ⟨event, facing, rfl, hcompletes⟩
        exact (handlePlaybackEvent_frees htrack (hs hprotected) hcompletes hknown hpending facing).mono
          (fun _ _ hfree => ⟨fun _ => hfree, fun _ => .inl ⟨hends, hfree⟩⟩)
          (fun _ _ hfree => ⟨fun _ => hfree, fun _ => .inl ⟨hends, hfree⟩⟩)
      · exact (handlePlaybackEvent_idles htrack (hs hprotected) hprotected hcompletes facing).mono (fun _ _ h => h.settles)
          (fun _ _ h => h.settles)
  | releaseDrag workspaces =>
    have hobject : SameWait e { e with objects := e.objects + 1 } := ⟨rfl, rfl, rfl, rfl⟩
    have hafter : ∀ {drops drops' : Prop} {e' : PetAnimationEngine}, KeepsWaiting drops { e with objects := e.objects + 1 } e' →
        (drops → drops') → KeepsWaiting drops' e e' := fun h hdrops =>
      ⟨h.free, fun hp => (h.waiting hp).imp (And.imp_left hdrops) hobject.trans⟩
    refine wp_map.mpr ?_
    unfold releaseDrag
    split
    next =>
      refine wp_get_bind.mpr ?_
      cases htoken : e.dragSessionToken with
      | none => exact (SameWait.refl e).settles
      | some token =>
        dsimp only
        split
        next =>
          exact (releaseDragInRelax_waits workspaces e).mono (fun _ _ h => h.settles hshielded horderly False.elim)
            (fun _ _ h => h.settles hshielded horderly False.elim)
        next hanimated =>
          have hover : ¬ReleasesOver env t0 { e with objects := e.objects + 1 }
              (e.newEvent .releaseDrag none (some token)) := fun hover =>
            hmeets ⟨token, by simpa using hanimated, htoken, hover⟩
          simp only [submitNewEvent, wp_bind, wp_newObject]
          have hevent := handleEvent_settles (e := { e with objects := e.objects + 1 }) htrack hshielded horderly hover
          refine hevent.mono (fun outcome e' h => ?_) (fun _ _ h => hafter h fun hfalse => by cases hfalse)
          have hend : KeepsWaiting (Empties e (.releaseDrag workspaces)) e e' := hafter h fun hfalse => by cases hfalse
          split
          next =>
            have hframe : SameWait e' { e' with dragSessionToken := none } := ⟨rfl, rfl, rfl, rfl⟩
            exact ⟨fun hfree => hframe.free (hend.free hfree), fun hp =>
              (hend.waiting hp).imp (And.imp_right hframe.free) fun hsame => hsame.trans hframe⟩
          next => exact hend
    next =>
      have hfalls : Follows SameWait (do
          let _ ← onMotion (PetMotionModel.releaseDrag none)
          return ActionOutcome.legacyDirect) := (onMotion_sameWait _).bind fun _ => .pure _
      exact (hfalls e).mono (fun _ _ h => h.settles) (fun _ _ h => h.settles)

theorem operate_strict (htrack : env.track0 = some t0) (op : Operation) :
    KeepsStrict e.track0 (operate env e op).track0 :=
  operate_continues htrack (PetTrack0Controller.commanded_keepsStrict t0)
    (fun event _ _ hcontinues => PetTrack0Controller.handleCompletion_strict event hcontinues)
    (PetTrack0Controller.cancelGracefully_keepsPlayback.mono fun _ _ h => .of_same h.1) e op

/-- A poll before the deadline reads the clock at most; from the deadline on it stops the playback. -/
theorem pollWatchdog_spec (t0 : Track0Env) (c : PetTrack0Controller) : Wp (PetTrack0Controller.pollWatchdog t0)
      (fun _ c' => (∃ clockReadings, c' = { c with clockReadings })
        ∨ Stopped c'
          ∧ ∃ deadline, c.watchdogDeadline = some deadline ∧ deadline ≤ t0.clock c.clockReadings)
      (fun _ _ => False) c := by
  unfold PetTrack0Controller.pollWatchdog PetTrack0Controller.readClock
  simp only [wp_bind, wp_get]
  cases hdeadline : c.watchdogDeadline with
  | none => exact .inl ⟨c.clockReadings, by rw [← hdeadline]⟩
  | some deadline =>
    simp only [wp_bind, wp_get, wp_set, wp_pure]
    split
    next => exact .inl ⟨_, by rw [← hdeadline]⟩
    next hdue => exact .inr ⟨⟨rfl, rfl, rfl, rfl, rfl⟩, deadline, rfl, not_lt.mp hdue⟩

theorem TrackSound.of_reading {c : PetTrack0Controller} (h : TrackSound env t0 c) (clockReadings : Nat) :
    TrackSound env t0 { c with clockReadings } := by
  rcases h with hstopped | ⟨request, p, hperforms, hmem⟩
  · exact .inl ⟨hstopped.runner, hstopped.deadline, hstopped.active, hstopped.desired, hstopped.confirmed⟩
  · obtain ⟨⟨hactive, hprogress, hconfirmed, hdurations, hpending⟩, hsequence, hpolicy⟩ := hperforms
    exact .inr ⟨request, p, ⟨⟨hactive, hprogress, hconfirmed, hdurations, hpending⟩, hsequence, hpolicy⟩, hmem⟩

/-! ## Runs -/

/-- A step as a program. -/
def QueueStep.program (env : EngineEnv) (t0 : Track0Env) : QueueStep → Program PetAnimationEngine Unit
  | .operation op => op.program env
  | .pollWatchdog => (fun _ => ()) <$> onTrack0 (PetTrack0Controller.pollWatchdog t0)

/-- The step queues an action. -/
def queuesStep (e : PetAnimationEngine) : QueueStep → Bool
  | .operation op => e.queuesAction op
  | .pollWatchdog => false

/-- An engine, and the protected playback that ran when an action was last queued. -/
structure QueueRecord where
  engine : PetAnimationEngine
  behind : Option ConfirmedPlaybackEpoch := none

/-- Take a step and keep the record. -/
def QueueRecord.follow (env : EngineEnv) (t0 : Track0Env) (r : QueueRecord) (step : QueueStep) : QueueRecord where
  engine := stateAfter (step.program env t0) r.engine
  behind := if r.engine.queuesStep step then r.engine.protectedPlayback else r.behind

/-- The step completes the protected playback. -/
def CompletesStep (e : PetAnimationEngine) (step : QueueStep) : Prop :=
  ∃ event facing, step = .operation (.handlePlaybackEvent event facing) ∧ CompletesProtected e event

/-- The step interrupts. -/
def InterruptsStep (step : QueueStep) : Prop := ∃ op, step = .operation op ∧ Interrupts op

/-- What every step owes the queue. -/
structure KeepsQueue (env : EngineEnv) (t0 : Track0Env) (r : QueueRecord) (step : QueueStep) : Prop where
  /-- An explicit action of anybody but the human interface waits, in the place of what waited before. -/
  queued : ∀ action source, r.engine.queuesAction (.requestAction action source) = true →
    Wp (requestAction env action source) (fun o e' => o = .accepted ∧ Queued r.engine action source e')
      (fun _ _ => False) r.engine
  /-- Any other intent is refused over a protected playback. -/
  refused : r.engine.activeRequestIsProtected = true → ∀ intent facing, intent.origin ≠ .explicit →
    Wp (submitProductionIntent t0 intent facing) (fun o e' => o = .rejectedPriority ∧ e' = r.engine)
      (fun _ _ => False) r.engine
  /-- The callback that completes the playback is one submission of what waits, and it waited behind this playback. -/
  submitted : ∀ event facing pending, step = .operation (.handlePlaybackEvent event facing) →
    CompletesProtected r.engine event → r.engine.pendingExplicitAction = some pending →
      r.behind = r.engine.protectedPlayback
        ∧ (∀ Q R, Wp (handlePlaybackEvent env event facing) Q R r.engine ↔
          Wp (do
            let outcome ← submitProductionIntent t0 pending.intent
            assertTransactionCompatible
            return outcome) Q R r.engine.freed)
        ∧ (r.follow env t0 step).engine.pendingExplicitAction = none
  /-- Otherwise what waits waits on behind the same playback, unless an interruption drops it. -/
  waits : r.engine.queuesStep step = false → r.engine.pendingExplicitAction.isSome = true → ¬CompletesStep r.engine step →
    InterruptsStep step ∧ (r.follow env t0 step).engine.pendingExplicitAction = none
      ∨ (r.follow env t0 step).engine.pendingExplicitAction = r.engine.pendingExplicitAction
        ∧ (r.follow env t0 step).engine.protectedPlayback = r.engine.protectedPlayback
  /-- Where nothing waits, nothing comes to wait unless it is queued. -/
  free : r.engine.queuesStep step = false → r.engine.pendingExplicitAction = none →
    (r.follow env t0 step).engine.pendingExplicitAction = none

/-- The track is sound where the player meets the sequencing contract, and never starts where it does not. -/
def TrackHolds (env : EngineEnv) (t0 : Track0Env) (e : PetAnimationEngine) : Prop :=
  if sequencingEnabled t0.player.capabilities then Sound env t0 e else Stopped e.track0

/-- What every record keeps as long as no step strands the queue. -/
structure QueueInvariant (env : EngineEnv) (t0 : Track0Env) (r : QueueRecord) : Prop where
  track : TrackHolds env t0 r.engine
  strict : Strict r.engine.track0
  orderly : Orderly r.engine
  behind : r.engine.pendingExplicitAction.isSome = true → r.behind = r.engine.protectedPlayback

theorem TrackHolds.sound (h : TrackHolds env t0 e) (hprotected : e.activeRequestIsProtected = true) : Sound env t0 e := by
  unfold TrackHolds at h
  split at h
  next => exact h
  next => simp [activeRequestIsProtected, h.active] at hprotected

theorem operate_holds (htrack : env.track0 = some t0) (op : Operation) (h : TrackHolds env t0 e) :
    TrackHolds env t0 (operate env e op) := by
  unfold TrackHolds at h ⊢
  split at h
  next henabled =>
    rw [if_pos henabled]
    exact (operate_keeps htrack henabled h op).sound
  next hdisabled =>
    rw [if_neg hdisabled]
    have hoff : sequencingEnabled t0.player.capabilities = false := by simpa using hdisabled
    exact operate_along htrack (PetTrack0Controller.commanded_keepsStopped hoff)
      PetTrack0Controller.handleCompletion_keepsStopped PetTrack0Controller.cancelGracefully_keepsStopped e op h

/-- What a poll of the watchdog makes of the engine. -/
inductive Polled (t0 : Track0Env) (e : PetAnimationEngine) : PetAnimationEngine → Prop where
  | early (clockReadings : Nat) : Polled t0 e { e with track0 := { e.track0 with clockReadings } }
  | due (track0 : PetTrack0Controller) (deadline : Rat) (hstopped : Stopped track0)
      (hdeadline : e.track0.watchdogDeadline = some deadline) (hdue : deadline ≤ t0.clock e.track0.clockReadings) :
    Polled t0 e { e with track0 }

theorem pollWatchdog_polls (env : EngineEnv) (t0 : Track0Env) (e : PetAnimationEngine) :
    Polled t0 e (stateAfter (QueueStep.program env t0 .pollWatchdog) e) := by
  apply Wp.stateAfter
  refine wp_map.mpr (wp_onTrack0.mpr ((pollWatchdog_spec t0 e.track0).mono (fun _ c' h => ?_)
    (fun _ _ => False.elim)))
  rcases h with ⟨clockReadings, rfl⟩ | ⟨hstopped, deadline, hdeadline, hdue⟩
  · exact .early clockReadings
  · exact .due c' deadline hstopped hdeadline hdue

theorem TrackHolds.polled (h : TrackHolds env t0 e) (hpolled : Polled t0 e e') : TrackHolds env t0 e' := by
  unfold TrackHolds at h ⊢
  split at h
  next henabled =>
    rw [if_pos henabled]
    cases hpolled with
    | early clockReadings => exact ⟨h.valid, h.turn, h.untimed, h.resume, h.track.of_reading clockReadings⟩
    | due track0 _ hstopped => exact ⟨h.valid, h.turn, h.untimed, h.resume, .inl hstopped⟩
  next hdisabled =>
    rw [if_neg hdisabled]
    cases hpolled with
    | early => exact ⟨h.runner, h.deadline, h.active, h.desired, h.confirmed⟩
    | due _ _ hstopped => exact hstopped

theorem Polled.strict (h : Polled t0 e e') : KeepsStrict e.track0 e'.track0 := by
  cases h with
  | early => exact .of_same rfl
  | due _ _ hstopped => exact fun _ => .of_none hstopped.active

/-- A poll that strands nothing leaves the queue alone. -/
theorem Polled.settles (h : Polled t0 e e') (horderly : Orderly e)
    (hmeets : ¬StrandsQueue env t0 e .pollWatchdog) : KeepsWaiting False e e' := by
  cases h with
  | early => exact SameWait.settles ⟨rfl, rfl, rfl, rfl⟩
  | due _ deadline _ hdeadline hdue =>
    refine ⟨id, fun hpending => ?_⟩
    rcases horderly with hfree | hwaits
    · rw [hfree.1] at hpending
      cases hpending
    · exact absurd ⟨hwaits.2, hpending, deadline, hdeadline, hdue⟩ hmeets

/-- What a step that queues nothing and strands nothing does to the queue. -/
theorem step_settles (htrack : env.track0 = some t0) (h : TrackHolds env t0 e)
    (hstrict : Strict e.track0) (horderly : Orderly e) (step : QueueStep)
    (hunqueued : e.queuesStep step = false) (hmeets : ¬StrandsQueue env t0 e step) :
    KeepsWaiting (InterruptsStep step ∨ CompletesStep e step) e (stateAfter (step.program env t0) e) := by
  cases step with
  | operation op =>
    have hop : KeepsWaiting (Empties e op) e (operate env e op) :=
      (program_settles htrack h.sound hstrict horderly op hunqueued hmeets).stateAfter
    refine ⟨hop.free, fun hpending => (hop.waiting hpending).imp_left (And.imp_left fun hempties => ?_)⟩
    rcases hempties with hinterrupts | ⟨event, facing, rfl, hcompletes⟩
    · exact .inl ⟨op, rfl, hinterrupts⟩
    · exact .inr ⟨event, facing, rfl, hcompletes⟩
  | pollWatchdog =>
    have hpoll := (pollWatchdog_polls env t0 e).settles horderly hmeets
    exact ⟨hpoll.free, fun hpending => (hpoll.waiting hpending).imp_left fun hdrops => hdrops.1.elim⟩

theorem KeepsWaiting.orderly {drops : Prop} (h : KeepsWaiting drops e e')
    (horderly : Orderly e) : Orderly e' := by
  rcases horderly with hfree | ⟨hpending, hprotected⟩
  · exact .inl (h.free hfree)
  · rcases h.waiting hpending with ⟨-, hfree⟩ | hsame
    · exact .inl hfree
    · exact .inr ⟨by rw [hsame.pending]; exact hpending, by rw [hsame.isProtected]; exact hprotected⟩

/-- A queued action waits behind the playback that runs. -/
theorem queued_step (htrack : env.track0 = some t0) {step : QueueStep} (hqueues : e.queuesStep step = true) :
    (stateAfter (step.program env t0) e).pendingExplicitAction.isSome = true
      ∧ (stateAfter (step.program env t0) e).track0 = e.track0 ∧ e.activeRequestIsProtected = true := by
  cases step with
  | pollWatchdog => cases hqueues
  | operation op =>
    cases op with
    | requestAction action source =>
      have hprotected : e.activeRequestIsProtected = true := by
        simp only [queuesStep, queuesAction, Bool.and_eq_true] at hqueues
        exact hqueues.1
      have hqueued : ∃ o, o = ActionOutcome.accepted ∧ Queued e action source
          (stateAfter (QueueStep.program env t0 (.operation (.requestAction action source))) e) := by
        refine ⟨.accepted, rfl, Wp.stateAfter (wp_map.mpr ?_)⟩
        exact (requestAction_queues htrack hqueues).mono (fun _ _ h => h.2) (fun _ _ => False.elim)
      obtain ⟨-, -, pending, -, -, hend⟩ := hqueued
      rw [hend]
      exact ⟨rfl, rfl, hprotected⟩
    | _ => cases hqueues

theorem follow_keeps (htrack : env.track0 = some t0) (r : QueueRecord) (step : QueueStep) (h : QueueInvariant env t0 r)
    (hmeets : ¬StrandsQueue env t0 r.engine step) : QueueInvariant env t0 (r.follow env t0 step) := by
  have htracked : TrackHolds env t0 (r.follow env t0 step).engine
      ∧ Strict (r.follow env t0 step).engine.track0 := by
    cases step with
    | operation op => exact ⟨operate_holds htrack op h.track, operate_strict htrack op h.strict⟩
    | pollWatchdog =>
      have hpolled := pollWatchdog_polls env t0 r.engine
      exact ⟨h.track.polled hpolled, hpolled.strict h.strict⟩
  cases hqueues : r.engine.queuesStep step with
  | true =>
    obtain ⟨hpending, htrack0, hprotected⟩ := queued_step htrack hqueues
    have hsame : (r.follow env t0 step).engine.activeRequestIsProtected = true := by
      unfold activeRequestIsProtected at hprotected ⊢
      unfold QueueRecord.follow
      rw [htrack0]
      exact hprotected
    refine ⟨htracked.1, htracked.2, .inr ⟨hpending, hsame⟩, fun _ => ?_⟩
    have hbehind : (r.follow env t0 step).behind = r.engine.protectedPlayback := by simp [QueueRecord.follow, hqueues]
    rw [hbehind, protectedPlayback, protectedPlayback, hprotected, hsame]
    simp only [QueueRecord.follow, htrack0]
  | false =>
    have hbehind : (r.follow env t0 step).behind = r.behind := by simp [QueueRecord.follow, hqueues]
    have hsettles := step_settles htrack h.track h.strict h.orderly step hqueues hmeets
    refine ⟨htracked.1, htracked.2, hsettles.orderly h.orderly, fun hpending => ?_⟩
    rw [hbehind]
    rcases h.orderly with hfree | hwaits
    · have hstill := (hsettles.free hfree).1
      unfold QueueRecord.follow at hpending
      rw [hstill] at hpending
      cases hpending
    · rcases hsettles.waiting hwaits.1 with ⟨-, hfree⟩ | hsame
      · unfold QueueRecord.follow at hpending
        rw [hfree.1] at hpending
        cases hpending
      · exact (h.behind hwaits.1).trans hsame.playback.symm

theorem QueueInvariant.gives (htrack : env.track0 = some t0) (r : QueueRecord) (step : QueueStep)
    (h : QueueInvariant env t0 r) (hmeets : ¬StrandsQueue env t0 r.engine step) : KeepsQueue env t0 r step where
  queued _ _ hqueues := requestAction_queues htrack hqueues
  refused hprotected _ facing horigin := submitProductionIntent_refuses horigin facing hprotected
  submitted event facing pending hstep hcompletes hpending := by
    subst hstep
    have hsome : r.engine.pendingExplicitAction.isSome = true := by rw [hpending]; rfl
    have hsound := h.track.sound hcompletes.2.2
    have hknown : Known r.engine := by
      by_contra hunknown
      exact hmeets ⟨hcompletes, hsome, hunknown⟩
    refine ⟨h.behind hsome, handlePlaybackEvent_submits htrack hsound hcompletes hknown hpending facing, ?_⟩
    have hfrees := handlePlaybackEvent_frees htrack hsound hcompletes hknown hsome facing
    have hfree : Free (r.follow env t0 (.operation (.handlePlaybackEvent event facing))).engine :=
      Wp.stateAfter (wp_map.mpr hfrees)
    exact hfree.1
  waits hunqueued hpending hgoes := by
    rcases (step_settles htrack h.track h.strict h.orderly step hunqueued hmeets).waiting hpending with
      ⟨hends, hfree⟩ | hsame
    · exact .inl ⟨hends.resolve_right hgoes, hfree.1⟩
    · exact .inr ⟨hsame.pending, hsame.playback⟩
  free hunqueued hpending := by
    rcases h.orderly with hfree | hwaits
    · exact ((step_settles htrack h.track h.strict h.orderly step hunqueued hmeets).free hfree).1
    · rw [hpending] at hwaits
      cases hwaits.1

/-- In every run of an engine as it is built, as long as no step strands what waits, a protected playback is left to
itself, and what waits behind it is submitted once, by the callback that completes it. -/
theorem queue_throughout (htrack : env.track0 = some t0) {e₀ : PetAnimationEngine} (hbuilt : Built env e₀)
    (steps : List QueueStep)
    (hmeets : StepsMeet (QueueRecord.follow env t0) (fun r step => ¬StrandsQueue env t0 r.engine step) ⟨e₀, none⟩ steps) :
    StepsMeet (QueueRecord.follow env t0) (KeepsQueue env t0) ⟨e₀, none⟩ steps := by
  have hstart : QueueInvariant env t0 ⟨e₀, none⟩ := by
    have hsound : Sound env t0 e₀ := built_sound hbuilt
    obtain ⟨position, windowSize, config, rfl⟩ := hbuilt
    refine ⟨?_, .of_none rfl, .inl ⟨rfl, rfl⟩, fun hpending => by cases hpending⟩
    unfold TrackHolds
    split
    next => exact hsound
    next => exact ⟨rfl, rfl, rfl, rfl, rfl⟩
  exact StepsMeet.of_invariant (follow_keeps htrack) (QueueInvariant.gives htrack) _ steps hstart hmeets

end

/-! ## An action that outlives its playback -/

/-- The source whose every draw is the highest it may be. -/
def highest : RandomSource where
  uniform _ _ maximum := maximum
  randrange _ stop := stop - 1
  uniform_mem _ _ _ h := ⟨h, le_refl _⟩
  randrange_lt _ _ h := by omega

/-- A pet whose dwell times pass between any two readings of the clock, and that takes the last choice it has. -/
def eagerEnv : EngineEnv :=
  { steadyEnv [.idle, .wave, .sitIdle, .dragEnd] with rng := highest, clock := fun n => 100 * n }

def eagerEngine : PetAnimationEngine := build eagerEnv (steadyEngine []).motion

/-- The callback of the playback a player that numbers its tokens has started. -/
def playbackOf (generation : Nat) (logicalAction : PetActionName) (physicalName : String)
    (boundaryIndex : Option Int := none) : PlaybackEvent where
  generation := generation
  logicalAction := logicalAction
  physicalName := physicalName
  playbackToken := .given generation
  loopBoundary := boundaryIndex.isSome
  boundaryIndex := boundaryIndex

/-- A sit is queued behind a wave, a release replaces the wave, and the pet relaxes until it waves of its own accord. -/
def releasedWave : List QueueStep :=
  [.operation .startAutonomous, .operation (.requestAction .special .user), .operation (.requestAction .sit .agent),
    .operation (.handleEvent { eventType := .releaseDrag, requestToken := .given 77, inputSessionToken := some (.given 78) }),
    .operation (.handlePlaybackEvent (playbackOf 3 .dragEnd "drag_end") none),
    .operation (.handlePlaybackEvent (playbackOf 5 .idle "idle" (some 1)) none)]

/-- A release is no mandatory interruption: it ends the protected playback and leaves the queue, and what waited is
submitted at the end of a later playback. -/
theorem stale_action_submitted :
    ¬∀ (env : EngineEnv) (t0 : Track0Env) (e₀ : PetAnimationEngine) (steps : List QueueStep) (event : PlaybackEvent)
      (facing : Option PetFacing), env.track0 = some t0 → Built env e₀ →
      let r := run (QueueRecord.follow env t0) ⟨e₀, none⟩ steps
      CompletesProtected r.engine event → r.engine.pendingExplicitAction.isSome = true →
      (operate env r.engine (.handlePlaybackEvent event facing)).activeProductionAction
        = r.engine.pendingExplicitAction.map (·.action) →
      r.behind = r.engine.protectedPlayback := by
  intro h
  have hsame := h eagerEnv (Track0Env.steady (secondsRegistry [.idle, .wave, .sitIdle, .dragEnd])) eagerEngine releasedWave
    (playbackOf 6 .wave "wave") none rfl ⟨_, _, _, rfl⟩ ⟨by decide +kernel, by decide +kernel, by decide +kernel⟩
    (by decide +kernel) (by decide +kernel)
  exact absurd (congrArg (Option.map (·.generation)) hsame) (by decide +kernel)

/-- The wave ends of its own accord, and the sit that waited behind it plays. -/
theorem waiting_action_submitted : let env := steadyEnv [.idle, .wave, .sitIdle]
    let t0 := Track0Env.steady (secondsRegistry [.idle, .wave, .sitIdle])
    StepsMeet (QueueRecord.follow env t0) (KeepsQueue env t0) ⟨steadyEngine [.idle, .wave, .sitIdle], none⟩
      [.operation .startAutonomous, .operation (.requestAction .special .user), .operation (.requestAction .sit .agent),
        .pollWatchdog, .operation (.handlePlaybackEvent (playbackOf 2 .wave "wave") none)] := by
  intro env t0
  refine queue_throughout rfl (steadyEngine_built _) _ ⟨id, id, id, ?_, ?_, trivial⟩
  · rintro ⟨-, -, deadline, hdeadline, hdue⟩
    have hlater : (0 : Rat) < deadline := by
      have hwatched : ∀ d ∈ (run (QueueRecord.follow env t0) ⟨steadyEngine [.idle, .wave, .sitIdle], none⟩
          [.operation .startAutonomous, .operation (.requestAction .special .user),
            .operation (.requestAction .sit .agent)]).engine.track0.watchdogDeadline, (0 : Rat) < d := by
        decide +kernel
      exact hwatched deadline hdeadline
    exact absurd hdue (not_le.mpr hlater)
  · rintro ⟨-, -, hunknown⟩
    apply hunknown
    unfold Known
    decide +kernel

end PetAnimationEngine

end ArkClaw.Pet
