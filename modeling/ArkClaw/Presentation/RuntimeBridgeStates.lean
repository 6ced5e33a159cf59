import ArkClaw.Presentation.RuntimeShutdownRuns

/-!
# The state of the bridge and the stage of its thread

`finished` is the last signal of the thread. The bridge is starting, ready or closing exactly while the thread runs or
its end is still to be handled; so a shutdown requested then is answered when the thread's end is handled, if not before.

`Turns` is what a step of the platform means to those who wait for `shutdown_finished`.
-/

namespace ArkClaw.Presentation.Runtime

open ArkClaw.Library ArkClaw.Autostart

/-- `QThread.isRunning`. -/
def Stage.isRunning : Stage → Bool
  | .idle | .finished => false
  | _ => true

/-- The event loop is gone, or was never there. -/
def Stage.Bare : Stage → Prop
  | .stopping _ false | .reporting _ | .returning | .finished => True
  | _ => False

theorem Signal.Relays.ne_finished {signal : Signal} (h : signal.Relays) : signal ≠ .finished := by
  rintro rfl
  exact h

/-! ## The last signal -/

namespace RuntimeThread

variable {t u : RuntimeThread}

/-- `finished` is the last signal, and emitted exactly when the thread has finished. -/
structure Announces (t : RuntimeThread) : Prop where
  bare : t.stage.Bare → t.hasLoop = false
  idle : t.stage = .idle → t.signals = []
  last : ∃ before, .finished ∉ before ∧ t.signals = before ++ if t.stage = .finished then [.finished] else []

/-- The worker goes on, and does not say that it has finished. -/
structure Continues (t u : RuntimeThread) : Prop where
  running : u.stage.isRunning = true
  bare : u.stage.Bare → u.hasLoop = false
  finished : .finished ∈ u.signals → .finished ∈ t.signals

theorem Continues.of_same (hsignals : u.signals = t.signals) (hrunning : u.stage.isRunning = true)
    (hbare : u.stage.Bare → u.hasLoop = false) : Continues t u where
  running := hrunning
  bare := hbare
  finished := hsignals ▸ id

theorem Continues.of_emits {signal : Signal} (hsignals : u.signals = t.signals ++ [signal])
    (hother : signal ≠ .finished) (hrunning : u.stage.isRunning = true) (hbare : u.stage.Bare → u.hasLoop = false) :
    Continues t u where
  running := hrunning
  bare := hbare
  finished hmem := by
    rw [hsignals] at hmem
    rcases List.mem_append.mp hmem with hold | hnew
    · exact hold
    · exact absurd (List.mem_singleton.mp hnew).symm hother

/-- Relays before a step change nothing of what it does. -/
theorem Continues.after {v : RuntimeThread} (hu : Silent t u) (h : Continues u v) : Continues t v where
  running := h.running
  bare := h.bare
  finished hmem := by
    obtain ⟨relayed, hsignals, hrelays⟩ := hu.signals
    have hbefore := h.finished hmem
    rw [hsignals] at hbefore
    rcases List.mem_append.mp hbefore with hold | hrelay
    · exact hold
    · exact absurd rfl (hrelays _ hrelay).ne_finished

theorem settle_continues (c : RuntimeThreadCommand) (startup : Bool) (result : RuntimeCommandResult) :
    Continues t (t.settle c startup result) := by
  unfold RuntimeThread.settle
  split
  next =>
    split
    next => exact .of_same rfl rfl False.elim
    next => exact .of_emits rfl nofun rfl False.elim
  next =>
    split
    next =>
      split
      next => exact .of_same rfl rfl False.elim
      next => exact .of_emits rfl nofun rfl False.elim
    next => exact .of_emits rfl nofun rfl False.elim

theorem execute_continues {c : RuntimeThreadCommand} (startup : Bool) (a : Answer)
    (hactive : t.activeCommand.map (·.commandId) = some c.commandId) : Continues t (t.execute c startup a) := by
  obtain ⟨u, hu, ⟨outcome, _, _, heq⟩ | ⟨result, heq⟩⟩ := execute_ends c startup a hactive
  · rw [heq]
    exact Continues.after hu (.of_same rfl rfl False.elim)
  · rw [heq]
    exact Continues.after hu (settle_continues c startup result)

/-- A worker that has not returned goes on. -/
theorem advance_continues (hs : t.Sound) (hbare : t.stage.Bare → t.hasLoop = false) (a : Answer)
    (hrunning : t.stage.isRunning = true) (hstays : t.stage ≠ .returning) : Continues t (t.advance a) := by
  unfold RuntimeThread.advance
  split
  next hstage =>
    rw [hstage] at hrunning
    cases hrunning
  next hstage =>
    rw [hstage] at hrunning
    cases hrunning
  next hstage =>
    have hnone : t.hasLoop = false := hs.ordered.early (by rw [hstage]; trivial)
    split <;> exact .of_same rfl rfl fun _ => hnone
  next =>
    split
    next => exact .of_same rfl rfl False.elim
    next => exact .of_same rfl rfl False.elim
  next =>
    split
    next =>
      unfold RuntimeThread.enter
      cases t.startupShutdown <;> exact .of_same rfl rfl False.elim
    next => exact .of_same rfl rfl False.elim
  next =>
    split
    next => exact .of_emits rfl nofun rfl False.elim
    next => exact .of_same rfl rfl False.elim
  next hstage =>
    split
    next =>
      unfold RuntimeThread.take
      split
      next => exact .of_same rfl hrunning hbare
      next => exact .of_same rfl rfl False.elim
    next => exact .of_same rfl rfl False.elim
  next c startup hstage =>
    have howes := hs.answered
    unfold Answered at howes
    rw [hstage] at howes
    exact execute_continues startup a howes.2.2
  next => exact .of_same rfl rfl False.elim
  next => exact .of_same rfl rfl False.elim
  next outcome hasLoop hstage =>
    cases hasLoop with
    | true => exact .of_same rfl rfl False.elim
    | false => exact .of_same rfl rfl fun _ => hbare (by rw [hstage]; trivial)
  next => exact .of_same rfl rfl fun _ => rfl
  next hstage => exact .of_emits rfl nofun rfl fun _ => hbare (by rw [hstage]; trivial)
  next hstage => exact absurd hstage hstays

theorem observe_bare (hnone : t.hasLoop = false) (events : List (RuntimeEvent × Payload)) : t.observe events = t := by
  unfold RuntimeThread.observe
  rw [hnone]
  rfl

/-- A step of the worker: nothing, as the thread does not run, or the worker goes on, or it has finished. -/
theorem work_cases (hs : t.Sound) (h : t.Announces) (a : Answer) : t.stage.isRunning = false ∧ t.work a = t ∨
      t.stage.isRunning = true ∧ t.stage ≠ .returning ∧ Continues t (t.work a) ∨
      t.stage = .returning ∧ t.work a = { t.emit .finished with stage := .finished } := by
  by_cases hreturns : t.stage = .returning
  · refine .inr (.inr ⟨hreturns, ?_⟩)
    unfold RuntimeThread.work
    rw [observe_bare (h.bare (by rw [hreturns]; trivial))]
    unfold RuntimeThread.advance
    rw [hreturns]
  cases hrunning : t.stage.isRunning with
  | true =>
    refine .inr (.inl ⟨rfl, hreturns, ?_⟩)
    obtain ⟨hobserved, hstage, _⟩ := observe_silent t a.events
    have hsound : (t.observe a.events).Sound :=
      ⟨hs.ordered.observe _, hs.answered.observe _, hobserved.toAgrees.bars.gated hs.gated⟩
    refine Continues.after hobserved (advance_continues hsound ?_ a (hstage ▸ hrunning) (hstage ▸ hreturns))
    rw [hstage, hobserved.hasLoop]
    exact h.bare
  | false =>
    refine .inl ⟨rfl, ?_⟩
    have hends : t.stage = .idle ∨ t.stage = .finished := by
      cases hstage : t.stage <;> simp_all [Stage.isRunning]
    rcases hends with hidle | hfinished
    · unfold RuntimeThread.work
      rw [observe_bare (hs.ordered.early (by rw [hidle]; trivial))]
      unfold RuntimeThread.advance
      rw [hidle]
    · unfold RuntimeThread.work
      rw [observe_bare (h.bare (by rw [hfinished]; trivial))]
      unfold RuntimeThread.advance
      rw [hfinished]

theorem ne_finished_of_running {stage : Stage} (hrunning : stage.isRunning = true) : stage ≠ .finished := by
  rintro rfl
  cases hrunning

theorem ne_idle_of_running {stage : Stage} (hrunning : stage.isRunning = true) : stage ≠ .idle := by
  rintro rfl
  cases hrunning

/-- Before its end the thread has not said that it has finished. -/
theorem Announces.not_finished (h : t.Announces) (hstage : t.stage ≠ .finished) : .finished ∉ t.signals := by
  obtain ⟨before, hbefore, hsignals⟩ := h.last
  rw [if_neg hstage, List.append_nil] at hsignals
  exact hsignals ▸ hbefore

theorem Announces.of_running (hrunning : t.stage.isRunning = true) (hbare : t.stage.Bare → t.hasLoop = false)
    (hfinished : .finished ∉ t.signals) : t.Announces where
  bare := hbare
  idle hidle := absurd hidle (ne_idle_of_running hrunning)
  last := by
    refine ⟨t.signals, hfinished, ?_⟩
    rw [if_neg (ne_finished_of_running hrunning), List.append_nil]

theorem Announces.work (hs : t.Sound) (h : t.Announces) (a : Answer) : (t.work a).Announces := by
  rcases work_cases hs h a with ⟨_, hsame⟩ | ⟨hrunning, _, hcontinues⟩ | ⟨hreturns, heq⟩
  · rw [hsame]
    exact h
  · refine .of_running hcontinues.running hcontinues.bare fun hmem => ?_
    exact h.not_finished (ne_finished_of_running hrunning) (hcontinues.finished hmem)
  · rw [heq]
    refine ⟨fun _ => h.bare (by rw [hreturns]; trivial), nofun, t.signals, ?_, rfl⟩
    exact h.not_finished (by rw [hreturns]; exact nofun)

/-- Another thread's call leaves the stage and the signals. -/
structure Undisturbed (t u : RuntimeThread) : Prop where
  stage : u.stage = t.stage
  signals : u.signals = t.signals
  loop : u.hasLoop = t.hasLoop

theorem Undisturbed.of_eq (h : u = t) : Undisturbed t u := by
  subst h
  exact ⟨rfl, rfl, rfl⟩

theorem Undisturbed.announces (hu : Undisturbed t u) (h : t.Announces) : u.Announces where
  bare := by
    rw [hu.stage, hu.loop]
    exact h.bare
  idle := by
    rw [hu.stage, hu.signals]
    exact h.idle
  last := by
    rw [hu.stage, hu.signals]
    exact h.last

theorem submit_undisturbed (t : RuntimeThread) (c : RuntimeThreadCommand) : Undisturbed t (t.submit c).2 := by
  unfold RuntimeThread.submit
  split <;> exact ⟨rfl, rfl, rfl⟩

theorem requestShutdown_undisturbed (t : RuntimeThread) (c : RuntimeThreadCommand) :
    Undisturbed t (t.requestShutdown c).2 := by
  unfold RuntimeThread.requestShutdown
  split
  next => exact ⟨rfl, rfl, rfl⟩
  next =>
    split
    next => exact ⟨rfl, rfl, rfl⟩
    next =>
      split
      next => split <;> exact ⟨rfl, rfl, rfl⟩
      next => split <;> exact ⟨rfl, rfl, rfl⟩

theorem Undisturbed.requestShutdown (h : u = t) (c : RuntimeThreadCommand) :
    Undisturbed t (u.requestShutdown c).2 := by
  subst h
  exact u.requestShutdown_undisturbed c

end RuntimeThread

/-! ## The bridge -/

/-- `shutdown_finished`, with its success. -/
def BridgeSignal.finish : BridgeSignal → Option Bool
  | .shutdownFinished success _ => some success
  | _ => none

namespace QtRuntimeBridge

variable {s s' s'' : QtRuntimeBridge} {commandId : CommandId}

/-- How the shutdowns that were reported finished. -/
def finishes (s : QtRuntimeBridge) : List Bool := s.emitted.filterMap BridgeSignal.finish

/-- The runtime starts, is there or closes. -/
def Active (s : QtRuntimeBridge) : Prop := s.state = .starting ∨ s.state = .ready ∨ s.state = .closing

theorem finishes_emit (s : QtRuntimeBridge) (signal : BridgeSignal) :
    (s.emit signal).finishes = s.finishes ++ signal.finish.toList := by
  unfold finishes emit
  rw [List.filterMap_append]
  cases h : signal.finish <;> simp [h]

/-- Nothing changes for those who wait for a shutdown. -/
structure Keeps (s s' : QtRuntimeBridge) : Prop where
  state : s'.state = s.state
  shutdown : s'.shutdownCommandId = s.shutdownCommandId
  finishes : s'.finishes = s.finishes
  thread : s'.thread = s.thread

theorem Keeps.refl (s : QtRuntimeBridge) : Keeps s s := ⟨rfl, rfl, rfl, rfl⟩

theorem Keeps.trans (h : Keeps s s') (h' : Keeps s' s'') : Keeps s s'' :=
  ⟨h'.state.trans h.state, h'.shutdown.trans h.shutdown, h'.finishes.trans h.finishes, h'.thread.trans h.thread⟩

/-- A signal that is no `shutdown_finished`. -/
theorem Keeps.emit (h : Keeps s s') (signal : BridgeSignal) (hother : signal.finish = none) :
    Keeps s (s'.emit signal) where
  state := h.state
  shutdown := h.shutdown
  finishes := by
    rw [finishes_emit, hother, Option.toList_none, List.append_nil]
    exact h.finishes
  thread := h.thread

theorem forget_keeps (s : QtRuntimeBridge) (commandId : CommandId) : Keeps s (s.forget commandId) :=
  ⟨rfl, rfl, rfl, rfl⟩

theorem failCommand_keeps (s : QtRuntimeBridge) (commandId : CommandId) (safeCode safeMessage : String) :
    Keeps s (s.failCommand commandId safeCode safeMessage) := by
  unfold failCommand
  split
  next => exact .refl s
  next => exact (forget_keeps s commandId).emit (.commandFailed commandId safeCode safeMessage) rfl

theorem completeCommand_keeps (s : QtRuntimeBridge) (j : Journal) (commandId : CommandId) :
    Keeps s (s.completeCommand j commandId) := by
  unfold completeCommand
  split
  next => exact .refl s
  next =>
    split
    next =>
      exact (forget_keeps s commandId).emit (.commandFailed commandId "autostart_diagnostic_journal_failed"
        "The autostart diagnostic journal failed safely.") rfl
    next => exact (forget_keeps s commandId).emit (.commandCompleted commandId) rfl

/-! ### Methods -/

/-- The bridge is closed, and reports a success. -/
structure Closes (s s' : QtRuntimeBridge) : Prop where
  state : s'.state = .closed
  shutdown : s'.shutdownCommandId = s.shutdownCommandId
  finishes : s'.finishes = s.finishes ++ [true]
  thread : s'.thread = s.thread

/-- What a call means to those who wait for a shutdown. -/
inductive Calls (s s' : QtRuntimeBridge) : Prop
  | quiet (state : s'.state = s.state) (shutdown : s'.shutdownCommandId = s.shutdownCommandId)
      (finishes : s'.finishes = s.finishes) (thread : s.thread.Undisturbed s'.thread)
  | starts (new : s.state = .new) (state : s'.state = .starting) (shutdown : s'.shutdownCommandId = s.shutdownCommandId)
      (finishes : s'.finishes = s.finishes) (thread : s'.thread = s.thread.start)
  | startFails (new : s.state = .new) (state : s'.state = .failed)
      (shutdown : s'.shutdownCommandId = s.shutdownCommandId) (finishes : s'.finishes = s.finishes)
      (thread : s'.thread = s.thread)
  | requests (active : s.Active) (state : s'.state = .closing) (shutdown : s'.shutdownCommandId ≠ none)
      (finishes : s'.finishes = s.finishes) (thread : s.thread.Undisturbed s'.thread)
  | closes (ended : s.state = .new ∨ s.state = .closed) (closes : Closes s s')

theorem Keeps.calls (h : Keeps s s') : Calls s s' := .quiet h.state h.shutdown h.finishes (.of_eq h.thread)

theorem newCommandId_keeps (s : QtRuntimeBridge) : Keeps s s.newCommandId.2 := ⟨rfl, rfl, rfl, rfl⟩

theorem submit_calls (h : Keeps s s') (j : Journal) (c : RuntimeThreadCommand) : Calls s (s'.submit j c) := by
  have hfails : ∀ safeCode safeMessage, Calls s (s'.failCommand c.commandId safeCode safeMessage) :=
    fun safeCode safeMessage => (h.trans (failCommand_keeps s' _ safeCode safeMessage)).calls
  unfold submit
  split
  next => exact hfails _ _
  next => exact hfails _ _
  next => exact hfails _ _
  next => exact hfails _ _
  next => exact hfails _ _
  next =>
    split
    next => exact hfails _ _
    next =>
      split
      next => exact hfails _ _
      next => exact .quiet h.state h.shutdown h.finishes (h.thread ▸ s'.thread.submit_undisturbed c)

theorem send_calls (s : QtRuntimeBridge) (j : Journal) (command : CommandId → RuntimeThreadCommand) :
    Calls s (s.send j command).2 := submit_calls (newCommandId_keeps s) j _

theorem sendChecked_calls (s : QtRuntimeBridge) (j : Journal) (texts : List Text) (message : String)
    (command : CommandId → RuntimeThreadCommand) : Calls s (s.sendChecked j texts message command).2 := by
  unfold sendChecked
  simp only
  split
  next => exact ((newCommandId_keeps s).trans (failCommand_keeps _ _ _ _)).calls
  next => exact submit_calls (newCommandId_keeps s) j _

theorem sendAutostart_calls (s : QtRuntimeBridge) (j : Journal) (operationId : Text)
    (origin : AutostartOperationOrigin) (requested : Option Bool) (revision : Nat)
    (command : CommandId → RuntimeThreadCommand) :
    Calls s (s.sendAutostart j operationId origin requested revision command).2 := by
  have hkeeps : ∀ contexts, Keeps s { s.newCommandId.2 with autostartContexts := contexts } :=
    fun _ => ⟨rfl, rfl, rfl, rfl⟩
  exact submit_calls (hkeeps _) j _

theorem startRuntime_calls (s : QtRuntimeBridge) (raises : Bool) : Calls s (s.startRuntime raises).2 := by
  unfold startRuntime
  simp only
  split
  next => exact ((newCommandId_keeps s).trans (failCommand_keeps _ _ _ _)).calls
  next hnew =>
    have hstate : s.state = .new := not_not.mp hnew
    split
    next =>
      have hfailed := failCommand_keeps { s.newCommandId.2 with state := .failed, startCommandId := none }
        (.issued s.nextId) "runtime_start_failed" "The runtime thread could not be started safely."
      exact .startFails hstate hfailed.state hfailed.shutdown hfailed.finishes hfailed.thread
    next => exact .starts hstate rfl rfl rfl rfl

theorem finishes_shutdownFinished (s : QtRuntimeBridge) (success : Bool) (safeCode : String) :
    (s.emit (.shutdownFinished success safeCode)).finishes = s.finishes ++ [success] :=
  finishes_emit s (.shutdownFinished success safeCode)

/-- A runtime that was never started is closed at once, and one that is closed already says so. -/
theorem shutdown_closes (h : s.state = .new ∨ s.state = .closed) (j : Journal) (cancelActive : Bool) :
    Closes s (s.shutdown j cancelActive).2 := by
  have hcompletes : ∀ (u : QtRuntimeBridge) (safeCode : String), u.state = .closed →
      u.shutdownCommandId = s.shutdownCommandId → u.finishes = s.finishes → u.thread = s.thread →
      Closes s ((u.completeCommand j (.issued s.nextId)).emit (.shutdownFinished true safeCode)) := by
    intro u safeCode hstate hshutdown hfinishes hthread
    have hkeeps := completeCommand_keeps u j (.issued s.nextId)
    refine ⟨hkeeps.state.trans hstate, hkeeps.shutdown.trans hshutdown, ?_, hkeeps.thread.trans hthread⟩
    rw [finishes_shutdownFinished, hkeeps.finishes, hfinishes]
  show Closes s (s.newCommandId.2.shutdownAs j (.issued s.nextId) cancelActive)
  unfold shutdownAs
  rcases h with hnew | hclosed
  · rw [show s.newCommandId.2.state = .new from hnew]
    exact hcompletes { s.newCommandId.2 with state := .closed } "none" rfl rfl rfl rfl
  · rw [show s.newCommandId.2.state = .closed from hclosed]
    exact hcompletes s.newCommandId.2 "runtime_already_closed" hclosed rfl rfl rfl

/-- A runtime that has failed answers with a failure of the command, and no `shutdown_finished`. -/
theorem shutdown_failed (h : s.state = .failed) (j : Journal) (cancelActive : Bool) :
    Keeps s (s.shutdown j cancelActive).2 := by
  show Keeps s (s.newCommandId.2.shutdownAs j (.issued s.nextId) cancelActive)
  unfold shutdownAs
  rw [show s.newCommandId.2.state = .failed from h]
  exact (newCommandId_keeps s).trans (failCommand_keeps s.newCommandId.2 _ _ _)

theorem shutdownAs_active (h : s.Active) (j : Journal) (commandId : CommandId) (cancelActive : Bool) :
    s.shutdownAs j commandId cancelActive =
      if s.shutdownCommandId ≠ none then
        s.failCommand commandId "shutdown_in_progress" "Runtime shutdown is already in progress."
      else
        { s.emit .runtimeClosing with state := .closing, shutdownCommandId := some commandId }.requestThreadShutdown
          { commandId, type := .shutdown, cancelActive } := by
  unfold shutdownAs
  rcases h with hstate | hstate | hstate <;> rw [hstate]

/-- While the runtime starts, is there or closes, the bridge waits for a shutdown once it was called. -/
theorem shutdown_active (h : s.Active) (j : Journal) (cancelActive : Bool) :
    s.shutdownCommandId ≠ none ∧ Keeps s (s.shutdown j cancelActive).2 ∨
      (s.shutdown j cancelActive).2.state = .closing ∧ (s.shutdown j cancelActive).2.shutdownCommandId ≠ none ∧
        (s.shutdown j cancelActive).2.finishes = s.finishes ∧
        s.thread.Undisturbed (s.shutdown j cancelActive).2.thread := by
  have hactive : s.newCommandId.2.Active := h
  have heq : (s.shutdown j cancelActive).2 = s.newCommandId.2.shutdownAs j (.issued s.nextId) cancelActive := rfl
  rw [heq, shutdownAs_active hactive]
  split
  next hwaits => exact .inl ⟨hwaits, (newCommandId_keeps s).trans (failCommand_keeps s.newCommandId.2 _ _ _)⟩
  next =>
    refine .inr ⟨rfl, Option.some_ne_none _, ?_, s.thread.requestShutdown_undisturbed _⟩
    exact ((newCommandId_keeps s).emit .runtimeClosing rfl).finishes

theorem shutdown_calls (s : QtRuntimeBridge) (j : Journal) (cancelActive : Bool) :
    Calls s (s.shutdown j cancelActive).2 := by
  have hactive : s.Active → Calls s (s.shutdown j cancelActive).2 := by
    intro h
    rcases shutdown_active h j cancelActive with ⟨_, hkeeps⟩ | ⟨hstate, hshutdown, hfinishes, hthread⟩
    · exact hkeeps.calls
    · exact .requests h hstate hshutdown hfinishes hthread
  have hnew : s.state = .new ∨ s.state = .closed → Calls s (s.shutdown j cancelActive).2 :=
    fun h => .closes h (shutdown_closes h j cancelActive)
  cases hstate : s.state with
  | new => exact hnew (.inl hstate)
  | closed => exact hnew (.inr hstate)
  | failed => exact (shutdown_failed hstate j cancelActive).calls
  | starting => exact hactive (.inl hstate)
  | ready => exact hactive (.inr (.inl hstate))
  | closing => exact hactive (.inr (.inr hstate))

theorem call_calls (s : QtRuntimeBridge) (j : Journal) (c : Call) : Calls s (s.call j c).2 := by
  cases c with
  | startRuntime raises => exact startRuntime_calls s raises
  | cancelActiveTurn | requestSnapshot | requestProviderSettings => exact send_calls s j _
  | requestAutostart _ _ _ | setAutostartEnabled _ _ _ _ => exact sendAutostart_calls s j _ _ _ _ _
  | shutdown cancelActive => exact shutdown_calls s j cancelActive
  | _ => exact sendChecked_calls s j _ _ _

/-! ### Signals of the thread -/

/-- What a signal before the last means to those who wait for a shutdown. -/
inductive Handles (s s' : QtRuntimeBridge) : Prop
  | quiet (active : s.Active → s'.Active) (closing : s.state = .closing → s'.state = .closing)
      (shutdown : s'.shutdownCommandId = s.shutdownCommandId) (finishes : s'.finishes = s.finishes)
      (thread : s.thread.Undisturbed s'.thread)
  | refuses (state : s'.state = s.state) (shutdown : s'.shutdownCommandId = none)
      (finishes : s'.finishes = s.finishes ++ [false]) (thread : s'.thread = s.thread)

/-- The last signal: the bridge is closed or failed, and says so. -/
structure Finishes (success : Bool) (s s' : QtRuntimeBridge) : Prop where
  state : s'.state = if success then .closed else .failed
  shutdown : s'.shutdownCommandId = none
  finishes : s'.finishes = s.finishes ++ [success]
  thread : s'.thread = s.thread

theorem Keeps.handles (h : Keeps s s') : Handles s s' :=
  .quiet (fun hactive => (show s'.state = _ ∨ _ from h.state ▸ hactive)) (fun hclosing => h.state.trans hclosing)
    h.shutdown h.finishes (.of_eq h.thread)

theorem completeStart_keeps (s : QtRuntimeBridge) (j : Journal) : Keeps s (s.completeStart j) := by
  unfold completeStart
  split
  next => exact .refl s
  next commandId _ =>
    have h := completeCommand_keeps s j commandId
    exact ⟨h.state, h.shutdown, h.finishes, h.thread⟩

theorem failStart_keeps (s : QtRuntimeBridge) (safeCode safeMessage : String) :
    Keeps s (s.failStart safeCode safeMessage) := by
  unfold failStart
  split
  next => exact .refl s
  next commandId _ =>
    have h := failCommand_keeps s commandId safeCode safeMessage
    exact ⟨h.state, h.shutdown, h.finishes, h.thread⟩

theorem failAll_keeps (safeCode safeMessage : String) (ids : List CommandId) : ∀ s : QtRuntimeBridge,
    Keeps s (ids.foldl (fun s commandId => s.failCommand commandId safeCode safeMessage) s) := by
  induction ids with
  | nil => exact Keeps.refl
  | cons commandId ids ih => exact fun s => (failCommand_keeps s commandId safeCode safeMessage).trans (ih _)

theorem failAllPending_keeps (s : QtRuntimeBridge) (safeCode safeMessage : String) :
    Keeps s (s.failAllPending safeCode safeMessage) := failAll_keeps safeCode safeMessage s.pendingCommandIds s

theorem onWorkerReady_handles (s : QtRuntimeBridge) (j : Journal) (snapshot : Payload) :
    Handles s (s.onWorkerReady j snapshot) := by
  unfold onWorkerReady
  split
  next =>
    unfold rejectWorker
    have h := failStart_keeps { s with
      state := .closing
      protocolFailure := some ("runtime_bootstrap_failed", "The runtime returned an invalid startup snapshot.") }
      "runtime_bootstrap_failed" "The runtime returned an invalid startup snapshot."
    refine .quiet (fun _ => .inr (.inr h.state)) (fun _ => h.state) h.shutdown h.finishes ?_
    exact .requestShutdown h.thread _
  next =>
    split
    next hstarting =>
      have hemits : Keeps { s with state := .ready }
          ((({ s with state := .ready }.emit .runtimeReady).emit .runtimeStateChanged).emit .providerLifecycleChanged) :=
        (((Keeps.refl _).emit .runtimeReady rfl).emit .runtimeStateChanged rfl).emit .providerLifecycleChanged rfl
      have h := hemits.trans (completeStart_keeps _ j)
      refine .quiet (fun _ => .inr (.inl h.state)) (fun hclosing => ?_) h.shutdown h.finishes (.of_eq h.thread)
      rw [hstarting] at hclosing
      cases hclosing
    next => exact (Keeps.refl s).handles

theorem onCommandResult_handles (s : QtRuntimeBridge) (j : Journal) (commandId : CommandId) (success : Bool)
    (safeCode safeMessage : String) : Handles s (s.onCommandResult j commandId success safeCode safeMessage) := by
  unfold onCommandResult
  split
  next => exact (Keeps.refl s).handles
  next =>
    split
    next => exact (completeCommand_keeps s j commandId).handles
    next =>
      split
      next =>
        have h := failCommand_keeps ({ s with shutdownCommandId := none }.emit (.shutdownFinished false safeCode))
          commandId safeCode safeMessage
        refine .refuses h.state h.shutdown (h.finishes.trans ?_) h.thread
        exact finishes_shutdownFinished _ false safeCode
      next => exact (failCommand_keeps s commandId safeCode safeMessage).handles

theorem relayRuntimeEvent_keeps (s : QtRuntimeBridge) (value : Option RuntimeEvent) :
    Keeps s (s.relayRuntimeEvent value) := by
  unfold relayRuntimeEvent
  split
  next => exact .refl s
  next => split <;> first | exact (Keeps.refl s).emit _ rfl | exact .refl s

theorem handle_handles (s : QtRuntimeBridge) (j : Journal) {signal : Signal} (hlast : signal ≠ .finished) :
    Handles s (s.handle j signal) := by
  cases signal with
  | workerReady snapshot => exact onWorkerReady_handles s j snapshot
  | runtimeEvent value => exact (relayRuntimeEvent_keeps s value).handles
  | snapshot value =>
    show Handles s (s.relaySnapshot value)
    unfold relaySnapshot
    split
    next => exact (Keeps.refl s).handles
    next => exact (((Keeps.refl s).emit .runtimeStateChanged rfl).emit .providerLifecycleChanged rfl).handles
  | providerSettings commandId value =>
    show Handles s (s.relayProviderSettings commandId value)
    unfold relayProviderSettings
    split
    next => exact (Keeps.refl s).handles
    next => exact ((Keeps.refl s).emit (.providerSettingsChanged commandId) rfl).handles
  | autostartState commandId value =>
    show Handles s (s.relayAutostartState commandId value)
    unfold relayAutostartState
    split
    next => exact (Keeps.refl s).handles
    next =>
      split
      next snapshot => exact ((Keeps.refl s).emit (.autostartStateChanged commandId snapshot) rfl).handles
      next => exact (Keeps.refl s).handles
  | commandResult commandId success safeCode safeMessage =>
    exact onCommandResult_handles s j commandId success safeCode safeMessage
  | shutdownOutcome outcome => exact Keeps.handles ⟨rfl, rfl, rfl, rfl⟩
  | finished => exact absurd rfl hlast

theorem answerOutcome_keeps (s : QtRuntimeBridge) (j : Journal) (outcome : ThreadExitOutcome) :
    Keeps s (s.answerOutcome j outcome) := by
  unfold answerOutcome
  split
  next =>
    cases outcome.commandId with
    | none => exact failAllPending_keeps s _ _
    | some commandId => exact (completeCommand_keeps s j commandId).trans (failAllPending_keeps _ _ _)
  next =>
    cases outcome.commandId with
    | none => split <;> exact failAllPending_keeps s _ _
    | some commandId =>
      split <;> exact (failCommand_keeps s commandId _ _).trans (failAllPending_keeps _ _ _)

theorem onThreadFinished_finishes (s : QtRuntimeBridge) (j : Journal) :
    ∃ success, Finishes success s (s.onThreadFinished j) := by
  have hfails : ∀ (u : QtRuntimeBridge) (safeCode safeMessage : String), u.finishes = s.finishes → u.thread = s.thread →
      Finishes false s (u.fail safeCode safeMessage) := by
    intro u safeCode safeMessage hfinishes hthread
    have h := failAllPending_keeps { u with state := .failed } safeCode safeMessage
    refine ⟨h.state, rfl, ?_, h.thread.trans hthread⟩
    exact (finishes_shutdownFinished _ false safeCode).trans (congrArg (· ++ [false]) (h.finishes.trans hfinishes))
  have hends : ∀ (u : QtRuntimeBridge) (outcome : ThreadExitOutcome), u.finishes = s.finishes → u.thread = s.thread →
      Finishes outcome.success s (u.endWith outcome) := by
    intro u outcome hfinishes hthread
    refine ⟨rfl, rfl, ?_, hthread⟩
    exact (finishes_shutdownFinished _ _ outcome.safeCode).trans (congrArg (· ++ [outcome.success]) hfinishes)
  unfold onThreadFinished
  simp only
  split
  next => exact ⟨false, hfails _ _ _ rfl rfl⟩
  next => exact ⟨false, hfails _ _ _ rfl rfl⟩
  next outcome _ _ =>
    refine ⟨outcome.success, ?_⟩
    unfold finish
    split
    next =>
      have h := failAllPending_keeps
        { s with shutdownOutcome := none, protocolFailure := none, state := .failed } outcome.safeCode
        outcome.safeMessage
      exact hends _ outcome h.finishes h.thread
    next =>
      have h := (completeStart_keeps { s with shutdownOutcome := none, protocolFailure := none } j).trans
        (answerOutcome_keeps _ j outcome)
      exact hends _ outcome h.finishes h.thread

theorem Active.ne_new (h : s.Active) : s.state ≠ .new := by
  rcases h with hstate | hstate | hstate <;> rw [hstate] <;> nofun

theorem Active.ne_closed (h : s.Active) : s.state ≠ .closed := by
  rcases h with hstate | hstate | hstate <;> rw [hstate] <;> nofun

theorem Active.of_state (h : s.Active) (hstate : s'.state = s.state) : s'.Active := by
  unfold Active
  rw [hstate]
  exact h

end QtRuntimeBridge

/-! ## Bridge and thread -/

namespace RuntimeThread

variable {t : RuntimeThread}

/-- Nothing follows `finished`. -/
theorem Announces.drop_last (h : t.Announces) {handled : Nat} (hle : handled + 1 ≤ t.signals.length)
    (hnext : .finished ∈ t.signals) {rest : List Signal} (hdrop : t.signals.drop handled = .finished :: rest) :
    t.stage = .finished ∧ rest = [] := by
  have hstage : t.stage = .finished := by
    by_contra hother
    exact h.not_finished hother hnext
  refine ⟨hstage, ?_⟩
  obtain ⟨before, hbefore, hsignals⟩ := h.last
  rw [if_pos hstage] at hsignals
  rw [hsignals, List.length_append, List.length_singleton] at hle
  rw [hsignals, List.drop_append_of_le_length (by omega)] at hdrop
  cases hbegin : before.drop handled with
  | nil =>
    rw [hbegin] at hdrop
    exact (List.cons.inj hdrop).2.symm
  | cons signal signals =>
    rw [hbegin] at hdrop
    have hmem : Signal.finished ∈ before.drop handled := by
      rw [hbegin, (List.cons.inj hdrop).1]
      exact List.mem_cons_self
    exact absurd (List.mem_of_mem_drop hmem) hbefore

/-- While anything is to be handled of a thread that does not run, `finished` is. -/
theorem Announces.finished_mem (h : t.Announces) (hrunning : t.stage.isRunning = false) {handled : Nat}
    (hle : handled + 1 ≤ t.signals.length) : .finished ∈ t.signals.drop handled := by
  have hstage : t.stage = .finished := by
    cases hstage : t.stage with
    | idle =>
      rw [h.idle hstage] at hle
      cases hle
    | finished => rfl
    | _ =>
      rw [hstage] at hrunning
      cases hrunning
  obtain ⟨before, hbefore, hsignals⟩ := h.last
  rw [if_pos hstage] at hsignals
  rw [hsignals, List.length_append, List.length_singleton] at hle
  rw [hsignals, List.drop_append_of_le_length (by omega)]
  exact List.mem_append_right _ List.mem_cons_self

end RuntimeThread

namespace Platform

open QtRuntimeBridge RuntimeThread

variable {p : Platform}

/-- The thread runs, or its end is still to be handled. -/
def Alive (p : Platform) : Prop := p.bridge.thread.stage.isRunning = true ∨ .finished ∈ p.unhandled

/-- The bridge waits for a shutdown, or the thread's end is still to be handled: `shutdown_finished` is to come. -/
def Awaits (p : Platform) : Prop := p.bridge.shutdownCommandId ≠ none ∨ .finished ∈ p.unhandled

instance : Decidable p.Awaits := inferInstanceAs (Decidable (_ ∨ _))

structure Staged (p : Platform) : Prop where
  linked : p.Linked
  announces : p.bridge.thread.Announces
  active : p.bridge.Active ↔ p.Alive
  unstarted : p.bridge.state = .new → p.bridge.thread.stage = .idle
  waits : p.bridge.shutdownCommandId ≠ none → p.bridge.state = .closing

/-- What a step of the platform means to those who wait for `shutdown_finished`. -/
inductive Turns (p p' : Platform) : Prop
  | quiet (finishes : p'.bridge.finishes = p.bridge.finishes) (awaits : p.Awaits → p'.Awaits)
      (closed : p'.bridge.state = .closed ↔ p.bridge.state = .closed)
      (new : p'.bridge.state = .new → p.bridge.state = .new)
  | ended (success : Bool) (finishes : p'.bridge.finishes = p.bridge.finishes ++ [success])
      (state : p'.bridge.state = .closed ↔ success = true) (closed : p.bridge.state = .closed → success = true)
      (new : p'.bridge.state ≠ .new) (running : success = true → p'.bridge.thread.stage.isRunning = false)

theorem Staged.call (h : p.Staged) (j : Journal) (c : Call) :
    (p.step (.call j c)).Staged ∧ Turns p (p.step (.call j c)) := by
  have hlinked := h.linked.step (.call j c)
  have hcalls := call_calls p.bridge j c
  generalize hbridge : (p.bridge.call j c).2 = bridge at hcalls
  have heq : p.step (.call j c) = { p with bridge } := congrArg (fun bridge => { p with bridge }) hbridge
  rw [heq] at hlinked ⊢
  have halive : p.bridge.thread.Undisturbed bridge.thread → (Alive { p with bridge } ↔ p.Alive) := by
    intro hthread
    unfold Alive unhandled
    rw [hthread.stage, hthread.signals]
  have hawaits : bridge.shutdownCommandId = p.bridge.shutdownCommandId → bridge.thread.signals = p.bridge.thread.signals →
      p.Awaits → Awaits { p with bridge } := by
    intro hshutdown hsignals hawaits
    unfold Awaits unhandled
    rw [hshutdown, hsignals]
    exact hawaits
  have hinactive : ¬p.bridge.Active → p.bridge.shutdownCommandId = none := by
    intro hnot
    by_contra hsome
    exact hnot (.inr (.inr (h.waits hsome)))
  cases hcalls with
  | quiet hstate hshutdown hfinishes hthread =>
    refine ⟨⟨hlinked, hthread.announces h.announces, ?_, fun hnew => ?_, ?_⟩,
      .quiet hfinishes (hawaits hshutdown hthread.signals) ?_ ?_⟩
    · rw [halive hthread, ← h.active]
      unfold Active
      rw [hstate]
    · exact hthread.stage.trans (h.unstarted (hstate ▸ hnew))
    · rw [hshutdown, hstate]
      exact h.waits
    · rw [hstate]
    · rw [hstate]
      exact id
  | starts hnew hstate hshutdown hfinishes hthread =>
    have hidle := h.unstarted hnew
    have hstarted : bridge.thread = { p.bridge.thread with stage := .opening } := by
      rw [hthread]
      exact if_pos hidle
    have hnone : .finished ∉ p.bridge.thread.signals := by
      rw [h.announces.idle hidle]
      exact List.not_mem_nil
    refine ⟨⟨hlinked, ?_, ?_, fun hnew' => ?_, ?_⟩, .quiet hfinishes (hawaits hshutdown (by rw [hstarted])) ?_ ?_⟩
    · rw [hstarted]
      exact .of_running rfl False.elim hnone
    · refine ⟨fun _ => .inl ?_, fun _ => .inl hstate⟩
      show bridge.thread.stage.isRunning = true
      rw [hstarted]
      rfl
    · rw [hstate] at hnew'
      cases hnew'
    · rw [hshutdown, hinactive fun hactive => hactive.ne_new hnew]
      exact fun hsome => absurd rfl hsome
    · rw [hstate, hnew]
      exact ⟨nofun, nofun⟩
    · rw [hstate]
      exact nofun
  | startFails hnew hstate hshutdown hfinishes hthread =>
    have hnot : ¬p.bridge.Active := fun hactive => hactive.ne_new hnew
    refine ⟨⟨hlinked, hthread ▸ h.announces, ?_, fun hnew' => ?_, ?_⟩,
      .quiet hfinishes (hawaits hshutdown (by rw [hthread])) ?_ ?_⟩
    · rw [halive (.of_eq hthread), ← h.active]
      refine ⟨fun hactive => ?_, fun hactive => absurd hactive hnot⟩
      unfold Active at hactive
      rw [hstate] at hactive
      rcases hactive with hthis | hthis | hthis <;> cases hthis
    · rw [hstate] at hnew'
      cases hnew'
    · rw [hshutdown, hinactive hnot]
      exact fun hsome => absurd rfl hsome
    · rw [hstate, hnew]
      exact ⟨nofun, nofun⟩
    · rw [hstate]
      exact nofun
  | requests hactive hstate hshutdown hfinishes hthread =>
    refine ⟨⟨hlinked, hthread.announces h.announces, ?_, fun hnew' => ?_, fun _ => hstate⟩,
      .quiet hfinishes (fun _ => .inl hshutdown) ?_ ?_⟩
    · rw [halive hthread, ← h.active]
      exact ⟨fun _ => hactive, fun _ => .inr (.inr hstate)⟩
    · rw [hstate] at hnew'
      cases hnew'
    · rw [hstate]
      exact ⟨nofun, fun hclosed => absurd hclosed hactive.ne_closed⟩
    · rw [hstate]
      exact nofun
  | closes hended hcloses =>
    have hnot : ¬p.bridge.Active := fun hactive => hended.elim hactive.ne_new hactive.ne_closed
    have hnotAlive : ¬p.Alive := fun hthis => hnot (h.active.mpr hthis)
    refine ⟨⟨hlinked, hcloses.thread ▸ h.announces, ?_, fun hnew' => ?_, ?_⟩,
      .ended true hcloses.finishes ?_ (fun _ => rfl) ?_ fun _ => ?_⟩
    · rw [halive (.of_eq hcloses.thread), ← h.active]
      refine ⟨fun hactive => absurd hcloses.state hactive.ne_closed, fun hactive => absurd hactive hnot⟩
    · rw [hcloses.state] at hnew'
      cases hnew'
    · rw [hcloses.shutdown, hinactive hnot]
      exact fun hsome => absurd rfl hsome
    · exact ⟨fun _ => rfl, fun _ => hcloses.state⟩
    · rw [hcloses.state]
      exact nofun
    · show bridge.thread.stage.isRunning = false
      rw [hcloses.thread]
      exact Bool.eq_false_iff.mpr fun hrunning => hnotAlive (.inl hrunning)

/-- The worker's steps do not touch the bridge. -/
theorem Staged.work (h : p.Staged) (a : Answer) : (p.step (.work a)).Staged ∧ Turns p (p.step (.work a)) := by
  have hlinked := h.linked.step (.work a)
  have hannounces := h.announces.work h.linked.sound a
  obtain ⟨new, hpasses⟩ := work_passes h.linked.sound a
  have hunhandled : (p.step (.work a)).unhandled = p.unhandled ++ new := by
    show (p.bridge.thread.work a).signals.drop p.handled = _
    rw [hpasses.signals, List.drop_append_of_le_length h.linked.handled]
    rfl
  have hawaits : p.Awaits → (p.step (.work a)).Awaits := by
    rintro (hshutdown | hfinished)
    · exact .inl hshutdown
    · exact .inr (hunhandled ▸ List.mem_append_left _ hfinished)
  have hturns : Turns p (p.step (.work a)) := .quiet rfl hawaits Iff.rfl id
  have hactive : p.bridge.thread.stage.isRunning = true → p.bridge.Active := fun hrunning => h.active.mpr (.inl hrunning)
  rcases work_cases h.linked.sound h.announces a with ⟨_, hsame⟩ | ⟨hrunning, _, hcontinues⟩ | ⟨hreturns, heq⟩
  · have hstep : p.step (.work a) = p :=
      congrArg (fun thread => { p with bridge := { p.bridge with thread } }) hsame
    rw [hstep] at hturns ⊢
    exact ⟨h, hturns⟩
  · refine ⟨⟨hlinked, hannounces, ?_, fun hnew => ?_, h.waits⟩, hturns⟩
    · exact ⟨fun _ => .inl hcontinues.running, fun _ => hactive hrunning⟩
    · exact absurd hnew (hactive hrunning).ne_new
  · have hrunning : p.bridge.thread.stage.isRunning = true := by
      rw [hreturns]
      rfl
    have hemits : .finished ∈ (p.step (.work a)).unhandled := by
      show _ ∈ (p.bridge.thread.work a).signals.drop p.handled
      rw [heq]
      show Signal.finished ∈ (p.bridge.thread.signals ++ [Signal.finished]).drop p.handled
      rw [List.drop_append_of_le_length h.linked.handled]
      exact List.mem_append_right _ List.mem_cons_self
    refine ⟨⟨hlinked, hannounces, ?_, fun hnew => ?_, h.waits⟩, hturns⟩
    · exact ⟨fun _ => .inr hemits, fun _ => hactive hrunning⟩
    · exact absurd hnew (hactive hrunning).ne_new

/-- While there is a signal to handle, the bridge is active. -/
theorem Staged.active_of_next (h : p.Staged) (hle : p.handled + 1 ≤ p.bridge.thread.signals.length) :
    p.bridge.Active := by
  refine h.active.mpr ?_
  cases hrunning : p.bridge.thread.stage.isRunning with
  | true => exact .inl hrunning
  | false => exact .inr (h.announces.finished_mem hrunning hle)

theorem Staged.handleNext (h : p.Staged) (j : Journal) :
    (p.step (.handleNext j)).Staged ∧ Turns p (p.step (.handleNext j)) := by
  have hlinked := h.linked.step (.handleNext j)
  change (p.handleNext j).Linked at hlinked
  show (p.handleNext j).Staged ∧ Turns p (p.handleNext j)
  rcases handleNext_cases p j with hsame | ⟨signal, hmem, hunhandled, hle, heq⟩
  · rw [hsame]
    exact ⟨h, .quiet rfl id Iff.rfl id⟩
  have hactive := h.active_of_next hle
  rw [heq] at hlinked ⊢
  by_cases hlast : signal = .finished
  · subst hlast
    obtain ⟨hstage, hrest⟩ := h.announces.drop_last hle hmem hunhandled
    obtain ⟨success, hfinishes⟩ := onThreadFinished_finishes p.bridge j
    change Finishes success p.bridge (p.bridge.handle j .finished) at hfinishes
    generalize p.bridge.handle j .finished = bridge at hfinishes hlinked ⊢
    have hrunning : bridge.thread.stage.isRunning = false := by
      rw [hfinishes.thread, hstage]
      rfl
    have hnone : unhandled { bridge, handled := p.handled + 1 } = [] := by
      show bridge.thread.signals.drop (p.handled + 1) = []
      rw [hfinishes.thread]
      exact hrest
    have hended : bridge.state = .closed ∨ bridge.state = .failed := by
      rw [hfinishes.state]
      cases success <;> simp
    refine ⟨⟨hlinked, hfinishes.thread ▸ h.announces, ?_, fun hnew => ?_, fun hsome => absurd hfinishes.shutdown hsome⟩,
      .ended success hfinishes.finishes ?_ (fun hclosed => absurd hclosed hactive.ne_closed) ?_ fun _ => hrunning⟩
    · constructor
      · rintro (hstate | hstate | hstate) <;> rcases hended with hthis | hthis <;> rw [hthis] at hstate <;> cases hstate
      · rintro (hthis | hthis)
        · change bridge.thread.stage.isRunning = true at hthis
          rw [hrunning] at hthis
          cases hthis
        · rw [hnone] at hthis
          cases hthis
    · rcases hended with hthis | hthis <;> rw [hthis] at hnew <;> cases hnew
    · rw [hfinishes.state]
      cases success <;> simp
    · rcases hended with hthis | hthis <;> rw [hthis] <;> nofun
  · have hhandles := handle_handles p.bridge j hlast
    generalize p.bridge.handle j signal = bridge at hhandles hlinked ⊢
    have hthread : p.bridge.thread.Undisturbed bridge.thread := by
      cases hhandles with
      | quiet _ _ _ _ hthread => exact hthread
      | refuses _ _ _ hthread => exact .of_eq hthread
    have hrest : Signal.finished ∈ p.unhandled → .finished ∈ unhandled { bridge, handled := p.handled + 1 } := by
      intro hfinished
      show _ ∈ bridge.thread.signals.drop (p.handled + 1)
      rw [hunhandled] at hfinished
      rw [hthread.signals]
      exact (List.mem_cons.mp hfinished).resolve_left fun hthis => hlast hthis.symm
    have halive : Alive { bridge, handled := p.handled + 1 } := by
      rcases h.active.mp hactive with hrunning | hfinished
      · exact .inl (show bridge.thread.stage.isRunning = true from hthread.stage ▸ hrunning)
      · exact .inr (hrest hfinished)
    have hstaged : bridge.Active → (bridge.shutdownCommandId ≠ none → bridge.state = .closing) →
        Staged { bridge, handled := p.handled + 1 } := fun hactive' hwaits =>
      ⟨hlinked, hthread.announces h.announces, ⟨fun _ => halive, fun _ => hactive'⟩,
        fun hnew => absurd hnew hactive'.ne_new, hwaits⟩
    cases hhandles with
    | quiet hkeeps hclosing hshutdown hfinishes _ =>
      have hactive' := hkeeps hactive
      refine ⟨hstaged hactive' fun hsome => hclosing (h.waits (hshutdown ▸ hsome)), .quiet hfinishes ?_ ?_ ?_⟩
      · rintro (hsome | hfinished)
        · exact .inl (hshutdown ▸ hsome)
        · exact .inr (hrest hfinished)
      · exact ⟨fun hclosed => absurd hclosed hactive'.ne_closed, fun hclosed => absurd hclosed hactive.ne_closed⟩
      · exact fun hnew => absurd hnew hactive'.ne_new
    | refuses hstate hshutdown hfinishes _ =>
      have hactive' : bridge.Active := hactive.of_state hstate
      refine ⟨hstaged hactive' fun hsome => absurd hshutdown hsome,
        .ended false hfinishes ?_ (fun hclosed => absurd hclosed hactive.ne_closed) hactive'.ne_new nofun⟩
      exact ⟨fun hclosed => absurd hclosed hactive'.ne_closed, nofun⟩

theorem Staged.step (h : p.Staged) (e : PlatformEvent) : (p.step e).Staged ∧ Turns p (p.step e) := by
  cases e with
  | call j c => exact h.call j c
  | work a => exact h.work a
  | handleNext j => exact h.handleNext j

theorem unstarted_staged (service : AutostartService) (hasJournal : Bool) :
    (unstarted service hasJournal).Staged where
  linked := unstarted_linked service hasJournal
  announces := ⟨False.elim, fun _ => rfl, [], List.not_mem_nil, rfl⟩
  active := by
    refine ⟨?_, ?_⟩
    · rintro (hstate | hstate | hstate) <;> cases hstate
    · rintro (hrunning | hfinished)
      · cases hrunning
      · cases hfinished
  unstarted _ := rfl
  waits hsome := absurd rfl hsome

/-! ### A shutdown that is called -/

/-- A shutdown of a runtime that starts, is there or closes is waited for, and nothing is reported yet. -/
theorem shutdown_awaits (hactive : p.bridge.Active) (j : Journal) (cancelActive : Bool) :
    (p.step (.call j (.shutdown cancelActive))).Awaits ∧
      (p.step (.call j (.shutdown cancelActive))).bridge.finishes = p.bridge.finishes := by
  rcases shutdown_active hactive j cancelActive with ⟨hwaits, hkeeps⟩ | ⟨_, hwaits, hfinishes, _⟩
  · exact ⟨.inl (hkeeps.shutdown ▸ hwaits), hkeeps.finishes⟩
  · exact ⟨.inl hwaits, hfinishes⟩

/-- A runtime that has failed is not waited for. -/
theorem Staged.not_awaits (h : p.Staged) (hfailed : p.bridge.state = .failed) : ¬p.Awaits := by
  rintro (hsome | hfinished)
  · have hclosing := h.waits hsome
    rw [hfailed] at hclosing
    cases hclosing
  · rcases h.active.mpr (.inr hfinished) with hstate | hstate | hstate <;> rw [hfailed] at hstate <;> cases hstate

end Platform

end ArkClaw.Presentation.Runtime
