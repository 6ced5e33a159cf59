import ArkClaw.Pet.Track0
import ArkClaw.Library.Runs

/-!
# What Track 0 can do

A controller is stopped, plays one step of one request, or holds the last pose of a finished sequence.
Each operation is described once by how it moves between the three, and no later proof unfolds it again.
-/

namespace ArkClaw.Pet

open ArkClaw.Library

namespace PetTrack0Controller

/-- Nothing plays and nothing is desired. -/
structure Stopped (c : PetTrack0Controller) : Prop where
  runner : c.runner = {}
  deadline : c.watchdogDeadline = none
  active : c.activeRequest = none
  desired : c.state.desiredAction = none
  confirmed : c.state.confirmedEpoch = none

/-- The player confirmed the step `p` of the request, and every step of its sequence has a duration. A
graceful exit is pending only on the way to a loop that has an exit. -/
structure Playing (env : Track0Env) (c : PetTrack0Controller) (request : ActionRequest) (p : RunnerProgress) :
    Prop where
  active : c.activeRequest = some request
  progress : c.runner.progress = some p
  confirmed : ∃ epoch : ConfirmedPlaybackEpoch,
    c.runner.confirmedEpoch = some epoch
      ∧ c.state = { desiredAction := some p.step.action, confirmedEpoch := some epoch, health := .healthy }
      ∧ epoch.logicalAction = p.step.action
      ∧ epoch.physicalName = (env.registry.resolve p.step.action).physicalName
  durations : ∀ s ∈ p.sequence.steps,
    (env.registry.resolve s.action).sourceDurationSeconds.isSome = true
  pending : c.runner.pendingGracefulExit = true →
    ∃ loopIndex ∈ p.sequence.loopIndex, p.sequence.loopExitIndex.isSome = true ∧ p.currentIndex ≤ loopIndex

/-- A finished sequence whose last pose is held until the track is cleared. -/
structure Held (c : PetTrack0Controller) (request : ActionRequest) : Prop where
  runner : c.runner = {}
  deadline : c.watchdogDeadline = none
  active : c.activeRequest = some request
  confirmed : ∃ epoch : ConfirmedPlaybackEpoch,
    c.state = { desiredAction := some epoch.logicalAction, confirmedEpoch := some epoch, health := .healthy }

/-- The three states a controller can be in. -/
inductive Status (env : Track0Env) (c : PetTrack0Controller) : Prop where
  | stopped (h : Stopped c)
  | playing (request : ActionRequest) (p : RunnerProgress) (h : Playing env c request p)
  | held (request : ActionRequest) (h : Held c request)

/-- A failed play, contained: stopped, and the renderer no longer healthy. -/
structure Contained (o : ActionOutcome) (c : PetTrack0Controller) : Prop where
  outcome : o = .playbackDegraded ∨ o = .rendererStateUnknown
  stopped : Stopped c
  health : c.state.health ≠ .healthy

theorem Contained.not_accepted {o : ActionOutcome} {c : PetTrack0Controller} (h : Contained o c) :
    o ≠ .accepted := by
  obtain ho | ho := h.outcome <;> rw [ho] <;> decide

section

variable {env : Track0Env} {c : PetTrack0Controller} {request : ActionRequest} {p : RunnerProgress}

theorem Playing.health (h : Playing env c request p) : c.state.health = .healthy := by
  obtain ⟨_, _, hs, _⟩ := h.confirmed
  rw [hs]

theorem Playing.desired (h : Playing env c request p) : c.state.desiredAction = some p.step.action := by
  obtain ⟨_, _, hs, _⟩ := h.confirmed
  rw [hs]

theorem Playing.confirmedEpoch (h : Playing env c request p) :
    c.state.confirmedEpoch = c.runner.confirmedEpoch ∧ c.state.confirmedEpoch.isSome = true := by
  obtain ⟨_, hr, hs, _⟩ := h.confirmed
  rw [hs, hr]
  exact ⟨rfl, rfl⟩

/-- The step of a progress is one of its sequence. -/
theorem step_mem (p : RunnerProgress) : p.step ∈ p.sequence.steps := List.get_mem _ _

/-! ## Clearing -/

/-- How the player ends the next clear command. -/
def clears (env : Track0Env) (c : PetTrack0Controller) : Bool := env.player.clear (c.generation + 1) 0 0

/-- The controller after the player was asked to clear: the answer decides the health. -/
def stoppedWith (env : Track0Env) (c : PetTrack0Controller) (health : PlaybackHealth) : PetTrack0Controller :=
  { generation := c.generation + 1, state := { health }, clockReadings := c.clockReadings
    commands := c.commands ++ [.clear (c.generation + 1) (clears env c)] }

theorem stopped_stoppedWith (env : Track0Env) (c : PetTrack0Controller) (health : PlaybackHealth) :
    Stopped (c.stoppedWith env health) := ⟨rfl, rfl, rfl, rfl, rfl⟩

theorem wp_invalidate (onCleared : PlaybackHealth) (Q : Bool → PetTrack0Controller → Prop)
    (R : PetError → PetTrack0Controller → Prop) : Wp (invalidate env onCleared) Q R c ↔
      Q (clears env c) (c.stoppedWith env (if clears env c then onCleared else .unknown)) := Iff.rfl

/-- `clear` keeps the health where the player obeys and is unsure of it where the player raises. -/
theorem wp_clear (reason : CancelReason) (Q : ActionOutcome → PetTrack0Controller → Prop)
    (R : PetError → PetTrack0Controller → Prop) : Wp (clear env reason) Q R c ↔
      Q (if clears env c then .cleared else .rendererStateUnknown)
        (c.stoppedWith env (if clears env c then c.state.health else .unknown)) := Iff.rfl

/-- A cleared track is stopped; where the player raised, the health is unknown. -/
theorem clear_spec (reason : CancelReason) : Wp (clear env reason)
      (fun o c' => Stopped c' ∧ (o = .cleared ∧ c'.state.health = c.state.health
        ∨ o = .rendererStateUnknown ∧ c'.state.health = .unknown))
      (fun _ _ => False) c := by
  refine (wp_clear reason _ _).mpr ⟨stopped_stoppedWith env c _, ?_⟩
  cases clears env c with
  | true => exact .inl ⟨rfl, rfl⟩
  | false => exact .inr ⟨rfl, rfl⟩

theorem wp_containPreflightFailure (reason : CancelReason) (Q : ActionOutcome → PetTrack0Controller → Prop)
    (R : PetError → PetTrack0Controller → Prop) : Wp (containPreflightFailure env reason) Q R c ↔
      Q (if clears env c then .playbackDegraded else .rendererStateUnknown)
        (c.stoppedWith env (if clears env c then .degraded else .unknown)) := Iff.rfl

/-- A containment ends stopped and not healthy. -/
theorem contained_stoppedWith (env : Track0Env) (c : PetTrack0Controller) (cleared : Bool) :
    Contained (if cleared then .playbackDegraded else .rendererStateUnknown)
      (c.stoppedWith env (if cleared then .degraded else .unknown)) := by
  cases cleared with
  | true => exact ⟨.inl rfl, stopped_stoppedWith env c _, by simp [stoppedWith]⟩
  | false => exact ⟨.inr rfl, stopped_stoppedWith env c _, by simp [stoppedWith]⟩

/-! ## Playing a step -/

/-- A step with a known duration has a deadline. -/
theorem wp_deadlineForStep {step : PetActionStep} {Q : Rat → PetTrack0Controller → Prop}
    {R : PetError → PetTrack0Controller → Prop}
    (hd : (env.registry.resolve step.action).sourceDurationSeconds.isSome = true)
    (hQ : ∀ deadline, Q deadline { c with clockReadings := c.clockReadings + 1 }) :
    Wp (deadlineForStep env step) Q R c := by
  obtain ⟨d, hd⟩ := Option.isSome_iff_exists.mp hd
  have hpos := (env.registry.resolve step.action).duration_pos d hd
  simp only [deadlineForStep, hd, wp_bind, readClock, wp_get, wp_set, wp_pure, wp_getOrRaise,
    WatchdogPolicy.deadline, if_neg (not_le.mpr hpos), if_neg (not_le.mpr step.speed_pos)]
  exact ⟨fun a _ => hQ a, fun e he => by cases he⟩

/-- The player confirms the step if it is commanded next. -/
def confirms (env : Track0Env) (c : PetTrack0Controller) (step : PetActionStep) : Bool :=
  (env.player.play (playbackRequest env (c.generation + 1) step)).isSome

/-- What playing the step `p` of a request from `c` ends in: the player confirmed it, a step that does not
loop has a deadline, or the player refused it and the failure was contained. -/
def PlayedOr (env : Track0Env) (c : PetTrack0Controller) (request : ActionRequest) (p : RunnerProgress)
    (pending : Bool) (o : ActionOutcome) (c' : PetTrack0Controller) : Prop :=
  (o = .accepted ∧ Playing env c' request p ∧ c'.runner.pendingGracefulExit = pending
    ∧ (c'.watchdogDeadline.isSome = !p.step.loop) ∧ confirms env c p.step = true)
  ∨ (Contained o c' ∧ confirms env c p.step = false)

/-- Playing the runner's current step: the player confirms it, or the failure is contained. -/
theorem playStep_spec (p : RunnerProgress) (hp : c.runner.progress = some p)
    (hd : ∀ s ∈ p.sequence.steps, (env.registry.resolve s.action).sourceDurationSeconds.isSome = true)
    (hpending : c.runner.pendingGracefulExit = true →
      ∃ loopIndex ∈ p.sequence.loopIndex,
        p.sequence.loopExitIndex.isSome = true ∧ p.currentIndex ≤ loopIndex) :
    Wp (playStep env request p.step) (PlayedOr env c request p c.runner.pendingGracefulExit)
      (fun _ _ => False) c := by
  unfold playStep
  simp only [allocateGeneration, wp_bind, wp_modify, wp_get, wp_pure]
  split
  next hrefused => exact .inr ⟨contained_stoppedWith env _ _, by simp [confirms, hrefused]⟩
  next token hplayed =>
    have hconfirms : confirms env c p.step = true := by simp [confirms, hplayed]
    have hname : (playbackRequest env (c.generation + 1) p.step).physicalName ≠ "" :=
      (playbackRequest env (c.generation + 1) p.step).physical_nonempty
    simp only [wp_bind, wp_get, PetSequenceRunner.acceptPlayback, hp, ne_eq, not_true_eq_false, if_false,
      dif_pos hname, wp_modify, wp_pure, armAfterSuccessfulPlay]
    cases hl : p.step.loop with
    | true =>
      simp only [if_true, wp_modify]
      exact .inl ⟨rfl, ⟨rfl, rfl, ⟨_, rfl, rfl, rfl, rfl⟩, hd, hpending⟩, rfl, by rw [hl]; rfl, hconfirms⟩
    | false =>
      simp only [Bool.false_eq_true, if_false, wp_bind, wp_modify]
      refine wp_deadlineForStep (hd _ (step_mem p)) fun deadline => ?_
      exact .inl ⟨rfl, ⟨rfl, rfl, ⟨_, rfl, rfl, rfl, rfl⟩, hd, hpending⟩, rfl, by rw [hl]; rfl, hconfirms⟩

/-! ## Preflight and play -/

/-- A preflight is accepted exactly with the catalog's own policy, an enabled player, and durations for
every step. -/
theorem durations_of_preflight (h : (preflight env request).outcome = .accepted) :
    (preflight env request).entry = some (sequenceCatalog request.sequenceName)
      ∧ ∀ s ∈ (sequenceCatalog request.sequenceName).sequence.steps,
          (env.registry.resolve s.action).sourceDurationSeconds.isSome = true := by
  unfold preflight at h ⊢
  simp only at h ⊢
  split at h
  next => cases h
  next htrack =>
    rw [if_neg htrack]
    split at h
    next => cases h
    next hpolicy =>
      rw [if_neg hpolicy]
      split at h
      next => cases h
      next henabled =>
        rw [if_neg henabled]
        split at h
        next => cases h
        next hv => exact ⟨rfl, AnimationRegistry.duration_of_validateSequence hv⟩

/-- A preflighted request starts on a free track. -/
theorem play_spec (hfree : c.activeRequest = none) (hpre : (preflight env request).outcome = .accepted) :
    Wp (play env request)
      (PlayedOr env c request (RunnerProgress.first (sequenceCatalog request.sequenceName).sequence) false)
      (fun _ _ => False) c := by
  obtain ⟨hentry, hd⟩ := durations_of_preflight hpre
  unfold play
  simp only [wp_bind, wp_get, hfree, Option.isSome_none, Bool.false_eq_true, if_false, hpre, hentry,
    PetSequenceRunner.start, wp_modify, playDirective]
  exact playStep_spec (RunnerProgress.first _) rfl hd (fun h => by cases h)

/-- A request that fails its preflight, or meets a busy track, changes nothing. -/
theorem play_rejected (h : c.activeRequest.isSome = true ∨ (preflight env request).outcome ≠ .accepted) :
    Wp (play env request) (fun o c' => o ≠ .accepted ∧ c' = c) (fun _ _ => False) c := by
  unfold play
  simp only [wp_bind, wp_get]
  split
  next => exact ⟨by decide, rfl⟩
  next hfree =>
    have hpre := h.resolve_left hfree
    split
    next heq _ => exact absurd heq hpre
    next heq _ => exact absurd heq hpre
    next => exact ⟨hpre, rfl⟩

/-- Replacing by a preflighted request never leaves the old playback behind. -/
theorem replacePlayback_spec (hpre : (preflight env request).outcome = .accepted) :
    Wp (replacePlayback env (some request))
      (PlayedOr env c request (RunnerProgress.first (sequenceCatalog request.sequenceName).sequence) false)
      (fun _ _ => False) c := by
  simp only [replacePlayback, hpre, ne_eq, not_true_eq_false, if_false, wp_bind, wp_modify]
  exact play_spec rfl hpre

theorem replacePlayback_rejected {replacement : Option ActionRequest}
    (h : ∀ r ∈ replacement, (preflight env r).outcome ≠ .accepted) :
    Wp (replacePlayback env replacement) (fun o c' => o ≠ .accepted ∧ c' = c) (fun _ _ => False) c := by
  cases replacement with
  | none => exact ⟨by decide, rfl⟩
  | some r =>
    have hr := h r rfl
    simp only [replacePlayback, ne_eq, hr, not_false_eq_true, if_true, wp_pure]
    exact ⟨trivial, trivial⟩

/-- Adoption gives the running playback another owner, or changes nothing. -/
theorem adoptActivePlayback_spec : Wp (adoptActivePlayback env request)
      (fun o c' => o ≠ .accepted ∧ c' = c
        ∨ o = .accepted ∧ (preflight env request).outcome = .accepted
          ∧ adopts env c (sequenceCatalog request.sequenceName) = true
          ∧ c' = { c with activeRequest := some request })
      (fun _ _ => False) c := by
  unfold adoptActivePlayback
  by_cases hpre : (preflight env request).outcome = .accepted
  · obtain ⟨hentry, -⟩ := durations_of_preflight hpre
    simp only [hpre, hentry, wp_bind, wp_get]
    split
    next hadopts => exact .inr ⟨rfl, trivial, hadopts, rfl⟩
    next => exact .inl ⟨by decide, rfl⟩
  · simp only
    split
    next heq _ => exact absurd heq hpre
    next heq _ => exact absurd heq hpre
    next => exact .inl ⟨hpre, rfl⟩

/-! ## Graceful exits -/

/-- An exit was asked for that can still be reached: the same playback goes on, and its boundary is armed if it
has come to its loop. -/
structure ExitAsked (env : Track0Env) (c : PetTrack0Controller) (request : ActionRequest) (p : RunnerProgress)
    (c' : PetTrack0Controller) : Prop where
  playing : Playing env c' request p
  state : c'.state = c.state
  armed : c'.watchdogDeadline.isSome = p.step.loop
  first : c.runner.pendingGracefulExit = false
  reachable : ∃ loopIndex ∈ p.sequence.loopIndex, p.sequence.loopExitIndex.isSome = true ∧ p.currentIndex ≤ loopIndex

/-- Without a sequence there is no exit to ask for. -/
theorem cancelGracefully_idle (h : c.runner.progress = none) (Q : ActionOutcome → PetTrack0Controller → Prop)
    (R : PetError → PetTrack0Controller → Prop) : Wp (cancelGracefully env) Q R c ↔ Q .invalidSequence c := by
  unfold cancelGracefully PetSequenceRunner.requestGracefulExit
  simp only [wp_bind, wp_get, h, wp_modify]
  rfl

/-- An exit is asked for, or the request for it is refused and changes nothing. -/
theorem cancelGracefully_spec (h : Playing env c request p) :
    Wp (cancelGracefully env) (fun _ c' => c' = c ∨ ExitAsked env c request p c') (fun _ _ => False) c := by
  unfold cancelGracefully PetSequenceRunner.requestGracefulExit
  simp only [wp_bind, wp_get, h.progress, wp_modify]
  split
  next loopIndex exitIndex hl he =>
    by_cases hafter : loopIndex < p.currentIndex
    · rw [if_pos hafter]; exact .inl rfl
    rw [if_neg hafter]
    cases hpending : c.runner.pendingGracefulExit with
    | true => exact .inl rfl
    | false =>
      have hexit : ∃ loopIndex ∈ p.sequence.loopIndex,
          p.sequence.loopExitIndex.isSome = true ∧ p.currentIndex ≤ loopIndex :=
        ⟨loopIndex, hl, by rw [he]; rfl, not_lt.mp hafter⟩
      simp only [Bool.false_eq_true, if_false, if_true, armCurrentLoopBoundaryWatchdog, wp_bind, wp_get]
      cases hloop : p.step.loop with
      | false =>
        simp only [Bool.not_false, if_true, wp_modify]
        exact .inr ⟨⟨h.active, rfl, h.confirmed, h.durations, fun _ => hexit⟩, rfl, by rw [hloop]; rfl,
          hpending, hexit⟩
      | true =>
        simp only [Bool.not_true, Bool.false_eq_true, if_false, wp_bind]
        refine wp_deadlineForStep (h.durations _ (step_mem p)) fun deadline => ?_
        exact .inr ⟨⟨h.active, rfl, h.confirmed, h.durations, fun _ => hexit⟩, rfl, by rw [hloop]; rfl,
          hpending, hexit⟩
  next => exact .inl rfl

/-! ## Callbacks -/

/-- The callback is that of the step the runner waits for. -/
def Matches (c : PetTrack0Controller) (event : PlaybackEvent) : Prop :=
  c.runner.eventMatchesCurrentEpoch event = true

/-- A callback of another playback, or of the wrong kind for the current step, changes nothing. -/
theorem handleCompletion_stale {event : PlaybackEvent} {continuation : Option ActionRequest}
    (h : ¬Matches c event ∨ ∃ p, c.runner.progress = some p ∧ p.step.loop ≠ event.loopBoundary)
    (Q : ActionOutcome → PetTrack0Controller → Prop) (R : PetError → PetTrack0Controller → Prop) :
    Wp (handleCompletion env event continuation) Q R c ↔ Q .staleCompletion c := by
  have hrun : c.runner.handleCompletion event = (some { outcome := .staleCompletion }, c.runner) := by
    unfold PetSequenceRunner.handleCompletion
    cases hp : c.runner.progress with
    | none => rfl
    | some p =>
      simp only
      split
      next => rfl
      next hm =>
        obtain h | ⟨p', hp', hne⟩ := h
        · exact absurd (by unfold Matches; simpa using hm) h
        · obtain rfl : p = p' := by rw [hp] at hp'; exact Option.some.inj hp'
          cases hl : p.step.loop <;> cases hb : event.loopBoundary <;> simp_all
  simp only [handleCompletion, wp_bind, wp_get, hrun, wp_modify, ne_eq, reduceCtorEq, not_false_eq_true,
    if_true, wp_pure]

section

variable {event : PlaybackEvent} {continuation : Option ActionRequest}

/-- The boundary of a loop nobody asked to leave changes nothing. -/
theorem handleCompletion_loops (hp : c.runner.progress = some p) (hm : Matches c event)
    (hl : p.step.loop = true) (hb : event.loopBoundary = true) (hpending : c.runner.pendingGracefulExit = false)
    (Q : ActionOutcome → PetTrack0Controller → Prop) (R : PetError → PetTrack0Controller → Prop) :
    Wp (handleCompletion env event continuation) Q R c ↔ Q .accepted c := by
  unfold Matches at hm
  simp only [handleCompletion, PetSequenceRunner.handleCompletion, hp, hm, hl, hb, hpending, wp_bind,
    wp_get, wp_modify, wp_pure, Bool.not_true, Bool.false_eq_true, if_false, if_true, Bool.not_false]

/-- The boundary of a loop with a pending exit plays the exit step. -/
theorem handleCompletion_exits (continuation : Option ActionRequest) (h : Playing env c request p)
    (hm : Matches c event) (hl : p.step.loop = true) (hb : event.loopBoundary = true)
    (hpending : c.runner.pendingGracefulExit = true) :
    ∃ next : RunnerProgress, next.sequence = p.sequence ∧ p.sequence.loopExitIndex = some next.currentIndex
      ∧ Wp (handleCompletion env event continuation)
          (PlayedOr env c (continuation.getD request) next false) (fun _ _ => False) c := by
  obtain ⟨_, _, hexit, _⟩ := h.pending hpending
  obtain ⟨exitIndex, hexit⟩ := Option.isSome_iff_exists.mp hexit
  let next : RunnerProgress :=
    { sequence := p.sequence, currentIndex := exitIndex
      in_range := p.sequence.exit_in_range exitIndex hexit }
  refine ⟨next, rfl, hexit, ?_⟩
  have hleave : c.runner.leaveLoop p =
      ({ outcome := .accepted, nextIndex := some exitIndex, step := some next.step },
        { progress := some next }) := by
    unfold PetSequenceRunner.leaveLoop
    split
    next hnone => rw [hexit] at hnone; cases hnone
    next i hi => obtain rfl : exitIndex = i := by rw [hexit] at hi; exact Option.some.inj hi
                 rfl
  unfold Matches at hm
  have hrequest : (continuation <|> c.activeRequest) = some (continuation.getD request) := by
    cases continuation <;> simp [h.active]
  simp only [handleCompletion, PetSequenceRunner.handleCompletion, h.progress, hm, hl, hb, hpending, hleave,
    wp_bind, wp_get, wp_modify, Bool.not_true, Bool.false_eq_true, if_false, if_true, ne_eq,
    not_true_eq_false, Option.isNone_some, hrequest, playDirective]
  exact playStep_spec next rfl h.durations (fun h => by cases h)

/-- The completion of a step that is not the last plays the next one. -/
theorem handleCompletion_next (h : Playing env c request p) (hm : Matches c event)
    (hl : p.step.loop = false) (hb : event.loopBoundary = false)
    (hnext : p.currentIndex + 1 < p.sequence.steps.length) : Wp (handleCompletion env event continuation)
      (PlayedOr env c (continuation.getD request)
        { p with currentIndex := p.currentIndex + 1, in_range := hnext }
        c.runner.pendingGracefulExit)
      (fun _ _ => False) c := by
  unfold Matches at hm
  have hrequest : (continuation <|> c.activeRequest) = some (continuation.getD request) := by
    cases continuation <;> simp [h.active]
  simp only [handleCompletion, PetSequenceRunner.handleCompletion, PetSequenceRunner.nextStep, h.progress, hm,
    hl, hb, dif_pos hnext, wp_bind, wp_get, wp_modify, Bool.not_true, Bool.false_eq_true, if_false, ne_eq,
    not_true_eq_false, Option.isNone_some, hrequest, playDirective]
  refine playStep_spec { p with currentIndex := p.currentIndex + 1, in_range := hnext } rfl h.durations
    fun hpending => ?_
  -- the loop a pending exit waits for is not behind a step that does not loop
  obtain ⟨loopIndex, hloop, hexit, hle⟩ := h.pending hpending
  refine ⟨loopIndex, hloop, hexit, ?_⟩
  have hloops := p.sequence.loop_loops loopIndex hloop
  have hne : p.currentIndex ≠ loopIndex := by
    intro heq
    subst heq
    have : p.sequence.steps[p.currentIndex]? = some p.step := List.getElem?_eq_getElem p.in_range
    rw [this] at hloops
    simp [hl] at hloops
  show p.currentIndex + 1 ≤ loopIndex
  omega

/-- The completion of the last step frees the track, or holds its pose where the terminal says so. -/
theorem handleCompletion_finishes (h : Playing env c request p) (hm : Matches c event)
    (hl : p.step.loop = false) (hb : event.loopBoundary = false)
    (hlast : p.currentIndex + 1 = p.sequence.steps.length) : Wp (handleCompletion env event continuation)
      (fun o c' => o = .accepted ∧
        if p.sequence.terminal = .hold then Held c' request
        else Stopped c' ∧ c'.state.health = .healthy)
      (fun _ _ => False) c := by
  unfold Matches at hm
  have hnot : ¬p.currentIndex + 1 < p.sequence.steps.length := by omega
  obtain ⟨epoch, _, hs, haction, _⟩ := h.confirmed
  simp only [handleCompletion, PetSequenceRunner.handleCompletion, PetSequenceRunner.nextStep, h.progress, hm,
    hl, hb, dif_neg hnot, wp_bind, wp_get, wp_modify, Bool.not_true, Bool.false_eq_true, if_false, ne_eq,
    not_true_eq_false, Option.isNone_none, if_true, finishSequence, wp_pure]
  cases ht : p.sequence.terminal with
  | hold =>
    simp only [reduceCtorEq, Option.some.injEq, or_self, if_false, wp_pure, true_and, if_true]
    exact ⟨rfl, rfl, h.active, epoch, by simp [hs, haction]⟩
  | complete =>
    simp only [true_or, if_true, wp_modify, reduceCtorEq, if_false, true_and]
    exact ⟨⟨rfl, rfl, rfl, rfl, rfl⟩, trivial⟩
  | idle =>
    simp only [or_true, if_true, wp_modify, reduceCtorEq, if_false, true_and]
    exact ⟨⟨rfl, rfl, rfl, rfl, rfl⟩, trivial⟩

end

end

end PetTrack0Controller

end ArkClaw.Pet
