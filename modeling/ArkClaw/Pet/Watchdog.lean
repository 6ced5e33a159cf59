import ArkClaw.Pet.Track0Laws

/-!
# Runs of the Track 0 controller, and its watchdog

Any sequence of controller operations, with any player. The watchdog has to be armed whenever progress
depends on a callback: a confirmed step that does not loop, or a loop with a graceful exit pending. A run
keeps that as long as no graceful exit is asked for during the lead-in of a loop; one asked for there
disarms the watchdog of the running step.
-/

namespace ArkClaw.Pet

open ArkClaw.Library

namespace PetTrack0Controller

/-- A controller as it is built. -/
def built : PetTrack0Controller := {}

/-- The operations of a controller. -/
inductive Operation where
  | play (request : ActionRequest)
  | cancel (reason : CancelReason) (mode : CancellationMode) (replacement : Option ActionRequest)
  | clear (reason : CancelReason)
  | adoptActivePlayback (request : ActionRequest)
  | containPreflightFailure (reason : CancelReason)
  | handleCompletion (event : PlaybackEvent) (continuationRequest : Option ActionRequest)
  | pollWatchdog

/-- The program of an operation, its outcome dropped. -/
def Operation.program (env : Track0Env) : Operation → Program PetTrack0Controller Unit
  | .play request => (fun _ => ()) <$> PetTrack0Controller.play env request
  | .cancel reason mode replacement =>
    (fun _ => ()) <$> PetTrack0Controller.cancel env reason mode replacement
  | .clear reason => (fun _ => ()) <$> PetTrack0Controller.clear env reason
  | .adoptActivePlayback request => (fun _ => ()) <$> PetTrack0Controller.adoptActivePlayback env request
  | .containPreflightFailure reason =>
    (fun _ => ()) <$> PetTrack0Controller.containPreflightFailure env reason
  | .handleCompletion event continuation =>
    (fun _ => ()) <$> PetTrack0Controller.handleCompletion env event continuation
  | .pollWatchdog => (fun _ => ()) <$> PetTrack0Controller.pollWatchdog env

/-- The state an operation leaves behind. -/
def operate (env : Track0Env) (c : PetTrack0Controller) (op : Operation) : PetTrack0Controller :=
  stateAfter (op.program env) c

/-- The progress of the active request depends on a callback: the confirmed step does not loop, or it
loops with a graceful exit pending. -/
def AwaitsCallback (c : PetTrack0Controller) : Prop :=
  ∃ p, c.runner.progress = some p ∧ c.runner.confirmedEpoch.isSome = true
    ∧ (p.step.loop = false ∨ c.runner.pendingGracefulExit = true)

/-- The current step leads in to a loop whose exit may still be asked for. -/
def LeadsIn (c : PetTrack0Controller) : Prop :=
  ∃ p, c.runner.progress = some p ∧ p.step.loop = false ∧ c.runner.pendingGracefulExit = false
    ∧ ∃ loopIndex ∈ p.sequence.loopIndex, p.sequence.loopExitIndex.isSome = true ∧ p.currentIndex ≤ loopIndex

/-- No graceful exit is asked for during a lead-in. -/
def ExitsInLoop (c : PetTrack0Controller) : Operation → Prop
  | .cancel _ .gracefulExit _ => ¬LeadsIn c
  | _ => True

/-- The invariant of a run without exits asked for during a lead-in. -/
structure Watched (env : Track0Env) (c : PetTrack0Controller) : Prop where
  status : Status env c
  armed : ∀ p, c.runner.progress = some p →
    p.step.loop = false ∨ c.runner.pendingGracefulExit = true → c.watchdogDeadline.isSome = true
  pending_loops : ∀ p, c.runner.progress = some p →
    c.runner.pendingGracefulExit = true → p.step.loop = true

section

variable {env : Track0Env} {c : PetTrack0Controller} {request : ActionRequest} {p : RunnerProgress}

/-- A runner without a sequence needs no watchdog. -/
theorem Watched.of_no_progress (hstatus : Status env c) (hrunner : c.runner = {}) : Watched env c := by
  have hnone : ∀ p, c.runner.progress ≠ some p := by simp [hrunner]
  exact ⟨hstatus, fun p hp _ => absurd hp (hnone p), fun p hp _ => absurd hp (hnone p)⟩

theorem Stopped.watched (h : Stopped c) : Watched env c := .of_no_progress (.stopped h) h.runner

theorem Held.watched (h : Held c request) : Watched env c := .of_no_progress (.held request h) h.runner

/-- A play without a pending exit arms what it has to. -/
theorem PlayedOr.watched {o : ActionOutcome} {c₀ : PetTrack0Controller}
    (h : PlayedOr env c₀ request p false o c) : Watched env c := by
  obtain ⟨_, hplaying, hpending, harmed, _⟩ | ⟨hfailed, _⟩ := h
  · refine ⟨.playing request p hplaying, fun q hq hneeds => ?_, fun q _ hq => ?_⟩
    · obtain rfl : p = q := Option.some.inj (hplaying.progress.symm.trans hq)
      rw [hpending] at hneeds
      rw [harmed, hneeds.resolve_right (by decide)]
      rfl
    · rw [hpending] at hq
      cases hq
  · exact hfailed.stopped.watched

/-- Both ends of a run that never raises. -/
theorem both_ends {σ α : Type} {x : Program σ α} {P : σ → Prop} {Q : α → σ → Prop} {s : σ}
    (h : Wp x Q (fun _ _ => False) s) (hQ : ∀ a s', Q a s' → P s') :
    Wp ((fun _ => ()) <$> x) (fun _ => P) (fun _ => P) s := by
  rw [wp_map]
  exact h.mono hQ (fun _ _ hf => hf.elim)

/-- Asking for a graceful exit during a loop arms its boundary; a refused request changes nothing. -/
theorem cancelGracefully_watched (h : Watched env c) (hin : ¬LeadsIn c) :
    Wp (cancelGracefully env) (fun _ => Watched env) (fun _ _ => False) c := by
  obtain hs | ⟨request, p, hplaying⟩ | ⟨_, hheld⟩ := h.status
  · exact (cancelGracefully_idle (by rw [hs.runner]) _ _).mpr h
  · refine (cancelGracefully_spec hplaying).imp (fun _ c' hend => ?_)
    obtain hsame | hasked := hend
    · exact hsame ▸ h
    have hloop : p.step.loop = true := by
      by_contra hnot
      exact hin ⟨p, hplaying.progress, by simpa using hnot, hasked.first, hasked.reachable⟩
    refine ⟨.playing request p hasked.playing, fun q _ _ => by rw [hasked.armed, hloop], fun q hq _ => ?_⟩
    obtain rfl : p = q := Option.some.inj (hasked.playing.progress.symm.trans hq)
    exact hloop
  · exact (cancelGracefully_idle (by rw [hheld.runner]) _ _).mpr h

/-- A callback advances the sequence and arms the step it starts. -/
theorem handleCompletion_watched (h : Watched env c) (event : PlaybackEvent)
    (continuation : Option ActionRequest) :
    Wp (handleCompletion env event continuation) (fun _ => Watched env) (fun _ _ => False) c := by
  by_cases hm : Matches c event
  · obtain hs | ⟨request, p, hplaying⟩ | ⟨_, hheld⟩ := h.status
    · exact absurd hm (by simp [Matches, hs.runner, PetSequenceRunner.eventMatchesCurrentEpoch])
    · by_cases hkind : p.step.loop = event.loopBoundary
      · cases hl : p.step.loop with
        | true =>
          have hb : event.loopBoundary = true := hkind ▸ hl
          cases hpending : c.runner.pendingGracefulExit with
          | false => exact (handleCompletion_loops hplaying.progress hm hl hb hpending _ _).mpr h
          | true =>
            obtain ⟨next, _, _, hwp⟩ := handleCompletion_exits continuation hplaying hm hl hb hpending
            exact hwp.imp (fun _ _ hplayed => hplayed.watched)
        | false =>
          have hb : event.loopBoundary = false := hkind ▸ hl
          have hpending : c.runner.pendingGracefulExit = false := by
            by_contra hp
            have := h.pending_loops p hplaying.progress (by simpa using hp)
            rw [hl] at this
            cases this
          obtain hnext | hlast := Nat.lt_or_ge (p.currentIndex + 1) p.sequence.steps.length
          · refine (handleCompletion_next hplaying hm hl hb hnext).imp (fun _ _ hplayed => ?_)
            rw [hpending] at hplayed
            exact hplayed.watched
          · have hlast : p.currentIndex + 1 = p.sequence.steps.length :=
              Nat.le_antisymm p.in_range hlast
            refine (handleCompletion_finishes hplaying hm hl hb hlast).imp (fun _ c' hend => ?_)
            obtain ⟨_, hend⟩ := hend
            split at hend
            next => exact hend.watched
            next => exact hend.1.watched
      · exact (handleCompletion_stale (.inr ⟨p, hplaying.progress, hkind⟩) _ _).mpr h
    · exact absurd hm (by simp [Matches, hheld.runner, PetSequenceRunner.eventMatchesCurrentEpoch])
  · exact (handleCompletion_stale (.inl hm) _ _).mpr h

/-- Adoption changes the owner of a playback and nothing else. -/
theorem adoptActivePlayback_watched (h : Watched env c) (request : ActionRequest) :
    Wp (adoptActivePlayback env request) (fun _ => Watched env) (fun _ _ => False) c := by
  refine adoptActivePlayback_spec.imp (fun o c' hend => ?_)
  obtain ⟨-, rfl⟩ | ⟨-, -, hadopts, rfl⟩ := hend
  · exact h
  · obtain hs | ⟨old, p, hplaying⟩ | ⟨_, hheld⟩ := h.status
    · simp [adopts, hs.active] at hadopts
    · exact ⟨.playing request p { hplaying with active := rfl }, h.armed, h.pending_loops⟩
    · simp [adopts, hheld.runner] at hadopts

/-- One operation keeps the invariant unless it asks for an exit during a lead-in. -/
theorem operate_watched (h : Watched env c) (op : Operation) (hop : ExitsInLoop c op) :
    Watched env (operate env c op) := by
  refine Wp.stateAfter ?_
  have hcontained : ∀ cleared health, Watched env (c.stoppedWith env (if cleared = true then health else .unknown)) :=
    fun cleared health => (stopped_stoppedWith env c _).watched
  cases op with
  | play request =>
    by_cases hrej : c.activeRequest.isSome = true ∨ (preflight env request).outcome ≠ .accepted
    · exact both_ends (play_rejected hrej) fun _ _ h' => h'.2 ▸ h
    · rw [not_or, not_not] at hrej
      exact both_ends (play_spec (by simpa using hrej.1) hrej.2) fun _ _ h' => h'.watched
  | cancel reason mode replacement =>
    cases mode with
    | gracefulExit => exact both_ends (cancelGracefully_watched h hop) fun _ _ h' => h'
    | immediateClear => exact both_ends ((wp_clear reason (fun _ => Watched env) _).mpr (hcontained _ _)) fun _ _ h' => h'
    | replace =>
      by_cases hrej : ∀ r ∈ replacement, (preflight env r).outcome ≠ .accepted
      · exact both_ends (replacePlayback_rejected hrej) fun _ _ h' => h'.2 ▸ h
      · simp only [not_forall, not_not] at hrej
        obtain ⟨r, rfl, hpre⟩ := hrej
        exact both_ends (replacePlayback_spec hpre) fun _ _ h' => h'.watched
  | clear reason =>
    exact both_ends ((wp_clear reason (fun _ => Watched env) _).mpr (hcontained _ _)) fun _ _ h' => h'
  | adoptActivePlayback request => exact both_ends (adoptActivePlayback_watched h request) fun _ _ h' => h'
  | containPreflightFailure reason =>
    exact both_ends ((wp_containPreflightFailure reason (fun _ => Watched env) _).mpr (hcontained _ _))
      fun _ _ h' => h'
  | handleCompletion event continuation =>
    exact both_ends (handleCompletion_watched h event continuation) fun _ _ h' => h'
  | pollWatchdog =>
    suffices hpoll : Wp (pollWatchdog env) (fun _ => Watched env) (fun _ _ => False) c from
      both_ends hpoll fun _ _ h' => h'
    unfold pollWatchdog
    simp only [wp_bind, wp_get]
    split
    next => exact h
    next deadline _ =>
      have hread : Watched env { c with clockReadings := c.clockReadings + 1 } := by
        obtain ⟨hstatus, harmed, hpending⟩ := h
        refine ⟨?_, harmed, hpending⟩
        obtain hs | ⟨request, p, hplaying⟩ | ⟨request, hheld⟩ := hstatus
        · exact .stopped { hs with }
        · exact .playing request p { hplaying with }
        · exact .held request { hheld with }
      simp only [readClock, wp_bind, wp_get, wp_set, wp_pure]
      split
      next => exact hread
      next => exact (stopped_stoppedWith env _ _).watched

end

/-- At its deadline the watchdog stops the playback. -/
theorem pollWatchdog_contains (env : Track0Env) {c : PetTrack0Controller} {deadline : Rat}
    (hd : c.watchdogDeadline = some deadline) (hdue : deadline ≤ env.clock c.clockReadings) :
    Wp (pollWatchdog env) (fun o c' => o = some .callbackTimeout ∧ Stopped c') (fun _ _ => False) c := by
  simp only [pollWatchdog, wp_bind, wp_get, hd, readClock, wp_set, wp_pure, if_neg (not_lt.mpr hdue)]
  exact ⟨trivial, stopped_stoppedWith env _ _⟩

/-- In every run that asks for graceful exits only during a loop, a callback that must come has an armed
deadline, and polling the watchdog from that deadline on contains its loss. -/
theorem lost_callback_contained (env : Track0Env) (ops : List Operation)
    (hops : StepsMeet (operate env) ExitsInLoop built ops) : AwaitsCallback (run (operate env) built ops) →
      ∃ deadline, (run (operate env) built ops).watchdogDeadline = some deadline ∧
        (deadline ≤ env.clock (run (operate env) built ops).clockReadings →
          Wp (pollWatchdog env) (fun o c' => o = some .callbackTimeout ∧ Stopped c') (fun _ _ => False)
            (run (operate env) built ops)) := by
  have hinit : Watched env built := Stopped.watched ⟨rfl, rfl, rfl, rfl, rfl⟩
  have hkeeps : ∀ c op, Watched env c → ExitsInLoop c op → Watched env (operate env c op) :=
    fun _ op h hop => operate_watched h op hop
  have hinv := run_induction hkeeps built ops hinit hops
  rintro ⟨p, hp, _, hneeds⟩
  obtain ⟨deadline, hd⟩ := Option.isSome_iff_exists.mp (hinv.armed p hp hneeds)
  exact ⟨deadline, hd, pollWatchdog_contains env hd⟩

/-! ## A graceful exit during the lead-in -/

/-- A request for the sitting sequence, whose first step leads in to its loop. -/
def sitRequest : ActionRequest :=
  { sequenceName := .sit, interruptionClass := .normalAction, isProtected := false
    requestToken := .given 0, semanticEpoch := 0, strict_protected := (sequenceCatalog .sit).strict_protected, user_session := by simp }

/-- Sitting down, interrupted by a graceful exit while the pet is still on its way down. -/
def exitOnTheWayDown : List Operation :=
  [.play sitRequest, .cancel .userInterrupt .gracefulExit none]

/-- The confirmed step must complete, and no deadline is armed for it. -/
theorem exit_on_the_way_down_disarms :
    ¬∀ (env : Track0Env) (ops : List Operation), AwaitsCallback (run (operate env) built ops) →
      ∃ deadline, (run (operate env) built ops).watchdogDeadline = some deadline := by
  intro h
  obtain ⟨deadline, hd⟩ := h (Track0Env.steady (secondsRegistry PetActionName.all)) exitOnTheWayDown
    ⟨⟨(sequenceCatalog .sit).sequence, 0, by decide⟩, rfl, rfl, .inl rfl⟩
  cases hd

/-- The renderer has shown the pet sitting down. -/
def satDown : PlaybackEvent :=
  { generation := 1, logicalAction := .sitDown, physicalName := PetActionName.sitDown.value
    playbackToken := .given 1 }

/-- The condition is met by asking once the pet sits, and the exit then waits for a boundary. -/
theorem lost_callback_contained_sitting : let env := Track0Env.steady (secondsRegistry PetActionName.all)
    let ops := [Operation.play sitRequest, .handleCompletion satDown none, .cancel .userInterrupt .gracefulExit none]
    StepsMeet (operate env) ExitsInLoop built ops ∧ AwaitsCallback (run (operate env) built ops) ∧
      ∃ deadline, (run (operate env) built ops).watchdogDeadline = some deadline ∧
        (deadline ≤ env.clock (run (operate env) built ops).clockReadings →
          Wp (pollWatchdog env) (fun o c' => o = some .callbackTimeout ∧ Stopped c') (fun _ _ => False)
            (run (operate env) built ops)) := by
  intro env ops
  have hops : StepsMeet (operate env) ExitsInLoop built ops := by
    refine ⟨trivial, trivial, ?_, trivial⟩
    rintro ⟨p, hp, hl, -⟩
    cases hp
    cases hl
  have hawaits : AwaitsCallback (run (operate env) built ops) :=
    ⟨⟨(sequenceCatalog .sit).sequence, 1, by decide⟩, rfl, rfl, .inr rfl⟩
  exact ⟨hops, hawaits, lost_callback_contained env ops hops hawaits⟩

end PetTrack0Controller

end ArkClaw.Pet
