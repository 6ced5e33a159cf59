import ArkClaw.Pet.Watchdog

/-!
# What holds of the Track 0 controller in every run

Whatever the player answers, the controller stays in one of its three states. The generations of the commands it
gave grow, and the epoch it has confirmed is that of its last command.
-/

namespace ArkClaw.Pet

open ArkClaw.Library

/-- The last play that returned a token, with that token. -/
def lastSuccessfulPlay (commands : List PlayerCommand) : Option (PlaybackRequest × ObjectId) :=
  commands.reverse.findSome? fun
    | .play request token => token.map (request, ·)
    | .clear _ _ => none

namespace PetTrack0Controller

/-- Request, runner, state and commands of a controller fit together. -/
structure Consistent (c : PetTrack0Controller) : Prop where
  active_iff : c.activeRequest.isSome = true ↔
    c.state.confirmedEpoch.isSome = true ∧ c.state.desiredAction.isSome = true
  confirmed_iff : c.state.confirmedEpoch.isSome = true ↔ c.state.desiredAction.isSome = true
  confirmed : ∀ epoch, c.state.confirmedEpoch = some epoch → ∃ request,
    lastSuccessfulPlay c.commands = some (request, epoch.playbackToken) ∧
      request.logicalAction = epoch.logicalAction ∧ request.generation = epoch.generation
  runner : c.runner.progress.isSome = true → c.runner.confirmedEpoch = c.state.confirmedEpoch
  unhealthy : c.state.health ≠ .healthy →
    c.state.desiredAction = none ∧ c.state.confirmedEpoch = none ∧ c.activeRequest = none
  increasing : c.commands.Pairwise fun a b => a.generation < b.generation

/-- Every command has a generation of its own. -/
structure Ordered (c : PetTrack0Controller) : Prop where
  increasing : c.commands.Pairwise fun a b => a.generation < b.generation
  bounded : ∀ command ∈ c.commands, command.generation ≤ c.generation

/-- The confirmed epoch is that of the last command. -/
structure Logged (c : PetTrack0Controller) : Prop extends Ordered c where
  confirmed : ∀ epoch, c.state.confirmedEpoch = some epoch → ∃ request,
    c.commands.getLast? = some (.play request (some epoch.playbackToken)) ∧
      request.logicalAction = epoch.logicalAction ∧ request.generation = epoch.generation

/-- From a log in order to a log in order. -/
def KeepsLog (c c' : PetTrack0Controller) : Prop := Logged c → Logged c'

instance : Std.Refl KeepsLog := ⟨fun _ => id⟩

instance : Trans KeepsLog KeepsLog KeepsLog := ⟨fun h h' hc => h' (h hc)⟩

section

variable {env : Track0Env} {c c' : PetTrack0Controller} {request : ActionRequest} {p : RunnerProgress}

/-! ## The log -/

theorem Logged.of_same (h : Logged c) (hcommands : c'.commands = c.commands) (hgeneration : c'.generation = c.generation)
    (hstate : c'.state.confirmedEpoch = c.state.confirmedEpoch ∨ c'.state.confirmedEpoch = none) : Logged c' := by
  constructor
  · constructor
    · rw [hcommands]
      exact h.increasing
    · rw [hcommands, hgeneration]
      exact h.bounded
  · intro epoch hepoch
    rw [hcommands]
    rcases hstate with hsame | hnone
    · exact h.confirmed epoch (hsame ▸ hepoch)
    · rw [hnone] at hepoch
      cases hepoch

/-- The next command has a generation that no command before it had. -/
theorem Ordered.command (h : Ordered c) {command : PlayerCommand} (hgeneration : command.generation = c.generation + 1)
    (hcommands : c'.commands = c.commands ++ [command]) (hgeneration' : c'.generation = c.generation + 1) :
    Ordered c' := by
  constructor
  · rw [hcommands, List.pairwise_append]
    refine ⟨h.increasing, List.pairwise_singleton _ _, ?_⟩
    intro earlier hearlier last hlast
    rw [List.mem_singleton.mp hlast, hgeneration]
    exact Nat.lt_succ_of_le (h.bounded earlier hearlier)
  · intro other hother
    rw [hcommands] at hother
    rw [hgeneration']
    rcases List.mem_append.mp hother with hearlier | hlast
    · exact Nat.le_succ_of_le (h.bounded other hearlier)
    · rw [List.mem_singleton.mp hlast, hgeneration]

theorem Ordered.stoppedWith (h : Ordered c) (health : PlaybackHealth) : Logged (c.stoppedWith env health) :=
  ⟨h.command rfl rfl rfl, fun _ hepoch => by cases hepoch⟩

theorem modify_keepsLog {f : PetTrack0Controller → PetTrack0Controller} (hcommands : ∀ c, (f c).commands = c.commands)
    (hgeneration : ∀ c, (f c).generation = c.generation)
    (hstate : ∀ c, (f c).state.confirmedEpoch = c.state.confirmedEpoch ∨ (f c).state.confirmedEpoch = none) :
    Follows KeepsLog (modify f : Program PetTrack0Controller PUnit) :=
  .modify fun c h => h.of_same (hcommands c) (hgeneration c) (hstate c)

theorem deadlineForStep_keepsLog (step : PetActionStep) : Follows KeepsLog (deadlineForStep env step) := by
  have hdeadline : ∀ x : Except PetError Rat, Follows KeepsLog (getOrRaise x) := fun x => .getOrRaise x
  unfold deadlineForStep
  cases (env.registry.resolve step.action).sourceDurationSeconds with
  | none => exact .throw _
  | some duration =>
    refine .bind ?_ fun _ => hdeadline _
    intro c h
    exact h.of_same rfl rfl (Or.inl rfl)

theorem armAfterSuccessfulPlay_keepsLog (step : PetActionStep) : Follows KeepsLog (armAfterSuccessfulPlay env step) := by
  unfold armAfterSuccessfulPlay
  split
  · exact modify_keepsLog (fun _ => rfl) (fun _ => rfl) (fun _ => Or.inl rfl)
  · exact (deadlineForStep_keepsLog step).bind fun _ =>
      modify_keepsLog (fun _ => rfl) (fun _ => rfl) (fun _ => Or.inl rfl)

/-- What the runner accepts is the epoch of the command. -/
theorem acceptPlayback_epoch {r runner : PetSequenceRunner} {generation : Nat} {logicalAction : PetActionName}
    {physicalName : String} {token : ObjectId} {epoch : ConfirmedPlaybackEpoch}
    (h : r.acceptPlayback generation logicalAction physicalName token = .ok (epoch, runner)) :
    epoch.generation = generation ∧ epoch.logicalAction = logicalAction ∧ epoch.playbackToken = token := by
  unfold PetSequenceRunner.acceptPlayback at h
  split at h
  · cases h
  · split at h
    · cases h
    · split at h
      · obtain ⟨rfl, rfl⟩ := Prod.mk.inj (Except.ok.inj h)
        exact ⟨rfl, rfl, rfl⟩
      · cases h

theorem playStep_keepsLog (request : ActionRequest) (step : PetActionStep) :
    Follows KeepsLog (playStep env request step) := by
  intro c
  unfold playStep
  simp only [allocateGeneration, wp_bind, wp_modify, wp_get, wp_pure]
  -- whatever the player answers, the command has a generation of its own
  have hgiven : ∀ {c' : PetTrack0Controller} {answer : Option ObjectId}, c'.generation = c.generation + 1 →
      c'.commands = c.commands ++ [.play (playbackRequest env (c.generation + 1) step) answer] →
      Logged c → Ordered c' := fun hgeneration hcommands h =>
    h.toOrdered.command rfl hcommands hgeneration
  split
  next => exact fun h => (hgiven rfl rfl h).stoppedWith _
  next token hanswer =>
    simp only [wp_bind, wp_get]
    split
    next => exact fun h => (hgiven rfl rfl h).stoppedWith _
    next epoch runner haccepted =>
      obtain ⟨hgeneration, haction, rfl⟩ := acceptPlayback_epoch haccepted
      have harm : Follows KeepsLog (armAfterSuccessfulPlay env step) := armAfterSuccessfulPlay_keepsLog step
      have harm := harm.bind fun _ => .pure ActionOutcome.accepted
      refine wp_modify_bind.mpr ((harm _).mono ?_ ?_)
      all_goals
        intro _ c' hkeeps h
        apply hkeeps
        refine ⟨hgiven rfl rfl h, ?_⟩
        intro epoch' hepoch
        obtain rfl : epoch = epoch' := Option.some.inj hepoch
        refine ⟨playbackRequest env (c.generation + 1) step, ?_, haction.symm, hgeneration.symm⟩
        rw [← hanswer]
        exact List.getLast?_concat

theorem playDirective_keepsLog (request : ActionRequest) (directive : RunnerDirective) :
    Follows KeepsLog (playDirective env request directive) := by
  unfold playDirective
  split
  · exact playStep_keepsLog request _
  · exact .pure _

theorem play_keepsLog (request : ActionRequest) : Follows KeepsLog (play env request) := by
  unfold play
  refine .get fun c => ?_
  split
  · exact .pure _
  · dsimp only
    split
    · refine .bind (modify_keepsLog (fun _ => rfl) (fun _ => rfl) (fun _ => Or.inl rfl)) fun _ => ?_
      exact playDirective_keepsLog request _
    · exact .pure _
    · exact .pure _

theorem replacePlayback_keepsLog (replacement : Option ActionRequest) :
    Follows KeepsLog (replacePlayback env replacement) := by
  unfold replacePlayback
  split
  · exact .pure _
  · dsimp only
    split
    · exact .pure _
    · refine .bind (modify_keepsLog (fun _ => rfl) (fun _ => rfl) (fun _ => Or.inr rfl)) fun _ => ?_
      exact play_keepsLog _

theorem cancelGracefully_keepsLog : Follows KeepsLog (cancelGracefully env) := by
  have hmodify : ∀ f : PetTrack0Controller → PetTrack0Controller, (∀ c, (f c).commands = c.commands) →
      (∀ c, (f c).generation = c.generation) → (∀ c, (f c).state = c.state) →
      Follows KeepsLog (modify f : Program PetTrack0Controller PUnit) := fun f hcommands hgeneration hstate =>
    modify_keepsLog hcommands hgeneration fun c => Or.inl (by rw [hstate])
  unfold cancelGracefully armCurrentLoopBoundaryWatchdog
  refine .get fun c => ?_
  dsimp only
  refine .bind (hmodify _ (fun _ => rfl) (fun _ => rfl) (fun _ => rfl)) fun _ => ?_
  split
  · refine .bind (.get fun c => ?_) fun _ => .pure _
    split
    · exact hmodify _ (fun _ => rfl) (fun _ => rfl) (fun _ => rfl)
    · split
      · exact hmodify _ (fun _ => rfl) (fun _ => rfl) (fun _ => rfl)
      · exact (deadlineForStep_keepsLog _).bind fun _ => hmodify _ (fun _ => rfl) (fun _ => rfl) (fun _ => rfl)
  · exact .pure _

theorem adoptActivePlayback_keepsLog (request : ActionRequest) : Follows KeepsLog (adoptActivePlayback env request) := by
  unfold adoptActivePlayback
  dsimp only
  split
  · refine .get fun c => ?_
    split
    · exact .bind (modify_keepsLog (fun _ => rfl) (fun _ => rfl) (fun _ => Or.inl rfl)) fun _ => .pure _
    · exact .pure _
  · exact .pure _
  · exact .pure _

theorem handleCompletion_keepsLog (event : PlaybackEvent) (continuation : Option ActionRequest) :
    Follows KeepsLog (handleCompletion env event continuation) := by
  unfold handleCompletion finishSequence
  refine .get fun c => ?_
  dsimp only
  refine .bind (modify_keepsLog (fun _ => rfl) (fun _ => rfl) (fun _ => Or.inl rfl)) fun _ => ?_
  split
  · exact .pure _
  · split
    · exact .pure _
    · split
      · refine .bind (.bind (modify_keepsLog (fun _ => rfl) (fun _ => rfl) (fun _ => Or.inl rfl)) fun _ => ?_)
          fun _ => .pure _
        split
        · exact modify_keepsLog (fun _ => rfl) (fun _ => rfl) (fun _ => Or.inr rfl)
        · exact .pure _
      · refine .get fun c => ?_
        split
        · exact .pure _
        · exact playDirective_keepsLog _ _

theorem invalidate_keepsLog (onCleared : PlaybackHealth) : Follows KeepsLog (invalidate env onCleared) :=
  fun _ => (wp_invalidate _ _ _).mpr fun h => h.toOrdered.stoppedWith _

theorem pollWatchdog_keepsLog : Follows KeepsLog (pollWatchdog env) := by
  unfold pollWatchdog
  refine .get fun c => ?_
  split
  · exact .pure _
  · refine .bind (fun c h => h.of_same rfl rfl (Or.inl rfl)) fun now => ?_
    split
    · exact .pure _
    · exact (invalidate_keepsLog _).bind fun _ => .pure _

/-- Every operation keeps the log in order. -/
theorem operate_logged (h : Logged c) (op : Operation) : Logged (operate env c op) := by
  suffices hkeeps : Follows KeepsLog (op.program env) from hkeeps.stateAfter c h
  cases op with
  | play request => exact (play_keepsLog request).map _
  | cancel reason mode replacement =>
    cases mode with
    | gracefulExit => exact cancelGracefully_keepsLog.map _
    | immediateClear => exact (Follows.get fun c => (invalidate_keepsLog _).bind fun _ => .pure _).map _
    | replace => exact (replacePlayback_keepsLog replacement).map _
  | clear reason => exact (Follows.get fun c => (invalidate_keepsLog _).bind fun _ => .pure _).map _
  | adoptActivePlayback request => exact (adoptActivePlayback_keepsLog request).map _
  | containPreflightFailure reason => exact ((invalidate_keepsLog _).bind fun _ => .pure _).map _
  | handleCompletion event continuation => exact (handleCompletion_keepsLog event continuation).map _
  | pollWatchdog => exact pollWatchdog_keepsLog.map _

/-! ## The three states -/

theorem PlayedOr.status {o : ActionOutcome} {c₀ : PetTrack0Controller} {pending : Bool}
    (h : PlayedOr env c₀ request p pending o c) : Status env c := by
  rcases h with ⟨_, hplaying, _⟩ | ⟨hcontained, _⟩
  · exact .playing request p hplaying
  · exact .stopped hcontained.stopped

theorem cancelGracefully_status (h : Status env c) :
    Wp (cancelGracefully env) (fun _ => Status env) (fun _ _ => False) c := by
  cases h with
  | stopped hstopped => exact (cancelGracefully_idle (by rw [hstopped.runner]) _ _).mpr (.stopped hstopped)
  | playing request p hplaying =>
    refine (cancelGracefully_spec hplaying).imp ?_
    intro _ c' hend
    rcases hend with rfl | hasked
    · exact .playing request p hplaying
    · exact .playing request p hasked.playing
  | held request hheld => exact (cancelGracefully_idle (by rw [hheld.runner]) _ _).mpr (.held request hheld)

theorem handleCompletion_status (h : Status env c) (event : PlaybackEvent) (continuation : Option ActionRequest) :
    Wp (handleCompletion env event continuation) (fun _ => Status env) (fun _ _ => False) c := by
  by_cases hmatches : Matches c event
  · cases h with
    | stopped hstopped => exact absurd hmatches (by simp [Matches, hstopped.runner, PetSequenceRunner.eventMatchesCurrentEpoch])
    | held _ hheld => exact absurd hmatches (by simp [Matches, hheld.runner, PetSequenceRunner.eventMatchesCurrentEpoch])
    | playing request p hplaying =>
      by_cases hkind : p.step.loop = event.loopBoundary
      · cases hloop : p.step.loop with
        | true =>
          have hboundary : event.loopBoundary = true := hkind ▸ hloop
          cases hpending : c.runner.pendingGracefulExit with
          | false =>
            exact (handleCompletion_loops hplaying.progress hmatches hloop hboundary hpending _ _).mpr
              (.playing request p hplaying)
          | true =>
            obtain ⟨next, _, _, hexits⟩ := handleCompletion_exits continuation hplaying hmatches hloop hboundary hpending
            exact hexits.imp (fun _ _ hplayed => hplayed.status)
        | false =>
          have hboundary : event.loopBoundary = false := hkind ▸ hloop
          rcases Nat.lt_or_ge (p.currentIndex + 1) p.sequence.steps.length with hnext | hlast
          · exact (handleCompletion_next hplaying hmatches hloop hboundary hnext).imp
              (fun _ _ hplayed => hplayed.status)
          · refine (handleCompletion_finishes hplaying hmatches hloop hboundary
              (Nat.le_antisymm p.in_range hlast)).imp ?_
            intro _ c' hend
            obtain ⟨_, hend⟩ := hend
            split at hend
            · exact .held request hend
            · exact .stopped hend.1
      · exact (handleCompletion_stale (Or.inr ⟨p, hplaying.progress, hkind⟩) _ _).mpr (.playing request p hplaying)
  · exact (handleCompletion_stale (Or.inl hmatches) _ _).mpr h

theorem adoptActivePlayback_status (h : Status env c) (request : ActionRequest) :
    Wp (adoptActivePlayback env request) (fun _ => Status env) (fun _ _ => False) c := by
  refine adoptActivePlayback_spec.imp ?_
  intro o c' hend
  rcases hend with ⟨-, rfl⟩ | ⟨-, -, hadopts, rfl⟩
  · exact h
  · cases h with
    | stopped hstopped => simp [adopts, hstopped.active] at hadopts
    | playing old p hplaying => exact .playing request p { hplaying with active := rfl }
    | held _ hheld => simp [adopts, hheld.runner] at hadopts

theorem pollWatchdog_status (h : Status env c) :
    Wp (pollWatchdog env) (fun _ => Status env) (fun _ _ => False) c := by
  unfold pollWatchdog
  simp only [wp_bind, wp_get]
  split
  · exact h
  · have hread : Status env { c with clockReadings := c.clockReadings + 1 } := by
      cases h with
      | stopped hstopped => exact .stopped { hstopped with }
      | playing request p hplaying => exact .playing request p { hplaying with }
      | held request hheld => exact .held request { hheld with }
    simp only [readClock, wp_bind, wp_get, wp_set, wp_pure]
    split
    · exact hread
    · exact .stopped (stopped_stoppedWith env _ _)

/-- Every operation ends in one of the three states, and none raises. -/
theorem operate_status (h : Status env c) (op : Operation) : Status env (operate env c op) := by
  refine Wp.stateAfter ?_
  cases op with
  | play request =>
    by_cases hrejected : c.activeRequest.isSome = true ∨ (preflight env request).outcome ≠ .accepted
    · exact both_ends (play_rejected hrejected) fun _ _ hend => hend.2 ▸ h
    · rw [not_or, not_not] at hrejected
      exact both_ends (play_spec (by simpa using hrejected.1) hrejected.2) fun _ _ hplayed => hplayed.status
  | cancel reason mode replacement =>
    cases mode with
    | gracefulExit => exact both_ends (cancelGracefully_status h) fun _ _ hend => hend
    | immediateClear => exact both_ends (clear_spec reason) fun _ _ hend => .stopped hend.1
    | replace =>
      by_cases hrejected : ∀ r ∈ replacement, (preflight env r).outcome ≠ .accepted
      · exact both_ends (replacePlayback_rejected hrejected) fun _ _ hend => hend.2 ▸ h
      · simp only [not_forall, not_not] at hrejected
        obtain ⟨r, rfl, haccepted⟩ := hrejected
        exact both_ends (replacePlayback_spec haccepted) fun _ _ hplayed => hplayed.status
  | clear reason => exact both_ends (clear_spec reason) fun _ _ hend => .stopped hend.1
  | adoptActivePlayback request => exact both_ends (adoptActivePlayback_status h request) fun _ _ hend => hend
  | containPreflightFailure reason =>
    have hcontained : Wp (containPreflightFailure env reason) (fun _ => Status env) (fun _ _ => False) c :=
      (wp_containPreflightFailure reason _ _).mpr (.stopped (stopped_stoppedWith env c _))
    exact both_ends hcontained fun _ _ hend => hend
  | handleCompletion event continuation =>
    exact both_ends (handleCompletion_status h event continuation) fun _ _ hend => hend
  | pollWatchdog => exact both_ends (pollWatchdog_status h) fun _ _ hend => hend

/-! ## Every run -/

theorem Status.consistent (h : Status env c) (hlogged : Logged c) : Consistent c := by
  have hconfirmed : ∀ epoch, c.state.confirmedEpoch = some epoch → ∃ request,
      lastSuccessfulPlay c.commands = some (request, epoch.playbackToken) ∧
        request.logicalAction = epoch.logicalAction ∧ request.generation = epoch.generation := by
    intro epoch hepoch
    obtain ⟨request, hlast, hfacts⟩ := hlogged.confirmed epoch hepoch
    refine ⟨request, ?_, hfacts⟩
    rw [List.getLast?_eq_head?_reverse] at hlast
    obtain ⟨rest, hreverse⟩ := List.head?_eq_some_iff.mp hlast
    rw [lastSuccessfulPlay, hreverse]
    rfl
  cases h with
  | stopped hstopped =>
    refine ⟨?_, ?_, hconfirmed, ?_, ?_, hlogged.increasing⟩
    · simp [hstopped.active, hstopped.confirmed]
    · simp [hstopped.confirmed, hstopped.desired]
    · intro hprogress
      rw [hstopped.runner] at hprogress
      cases hprogress
    · exact fun _ => ⟨hstopped.desired, hstopped.confirmed, hstopped.active⟩
  | playing request p hplaying =>
    obtain ⟨hsame, hsome⟩ := hplaying.confirmedEpoch
    refine ⟨?_, ?_, hconfirmed, fun _ => hsame.symm, ?_, hlogged.increasing⟩
    · simp [hplaying.active, hsome, hplaying.desired]
    · simp [hsome, hplaying.desired]
    · exact fun hunhealthy => absurd hplaying.health hunhealthy
  | held request hheld =>
    obtain ⟨epoch, hstate⟩ := hheld.confirmed
    refine ⟨?_, ?_, hconfirmed, ?_, ?_, hlogged.increasing⟩
    · simp [hheld.active, hstate]
    · simp [hstate]
    · intro hprogress
      rw [hheld.runner] at hprogress
      cases hprogress
    · intro hunhealthy
      rw [hstate] at hunhealthy
      exact absurd rfl hunhealthy

end

/-- Whatever the player answers, request, runner, state and commands fit together after every run, and the commands'
generations grow. -/
theorem operations_consistent (env : Track0Env) (ops : List Operation) : Consistent (run (operate env) built ops) := by
  have hkeeps : ∀ c op, Status env c ∧ Logged c → Status env (operate env c op) ∧ Logged (operate env c op) :=
    fun _ op h => ⟨operate_status h.1 op, operate_logged h.2 op⟩
  have hbuilt : Status env built ∧ Logged built :=
    ⟨.stopped ⟨rfl, rfl, rfl, rfl, rfl⟩, ⟨.nil, by simp [built]⟩, by simp [built]⟩
  obtain ⟨hstatus, hlogged⟩ := run_invariant hkeeps built ops hbuilt
  exact hstatus.consistent hlogged

end PetTrack0Controller

end ArkClaw.Pet
