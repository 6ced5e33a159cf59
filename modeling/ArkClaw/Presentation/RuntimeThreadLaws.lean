import ArkClaw.Presentation.RuntimeThread

/-!
# What the steps of the runtime thread keep

Two invariants. `Ordered`: what was executed, what was requested before the start and what the queue holds are, in this
order, what was accepted, until the loop is taken away. `Answered`: every executed command but the last has its result,
and the last has it or is owed it by the stage the worker is at. `Bars` is what a step of the worker does to the
commands the thread accepts.
-/

namespace ArkClaw.Presentation.Runtime

open ArkClaw.Library

/-! ## What the signals say -/

/-- The command a signal is the result of. -/
def Signal.answer : Signal → Option CommandId
  | .commandResult commandId _ _ _ => some commandId
  | .shutdownOutcome outcome => outcome.commandId
  | _ => none

def Signal.outcome : Signal → Option ThreadExitOutcome
  | .shutdownOutcome outcome => some outcome
  | _ => none

/-- What a command or an event of the runtime may emit before the command has its result. -/
def Signal.Relays : Signal → Prop
  | .runtimeEvent _ | .snapshot _ | .providerSettings _ _ | .autostartState _ _ => True
  | _ => False

/-- Before the runtime is there. -/
def Stage.Early : Stage → Prop
  | .idle | .opening | .attaching | .bootstrapping => True
  | _ => False

/-- The dispatcher runs, or the shutdown that was requested before the start. -/
def Stage.Works : Stage → Prop
  | .publishing | .waiting | .executing _ _ | .retrying | .leaving _ => True
  | _ => False

/-- The thread has stopped accepting, for good. -/
def Stage.Over : Stage → Prop
  | .finalizing _ | .reporting _ | .returning | .finished => True
  | _ => False

namespace RuntimeThread

variable (t : RuntimeThread)

/-- The results the thread has reported, by their commands. -/
def answers : List CommandId := t.signals.filterMap Signal.answer

def outcomes : List ThreadExitOutcome := t.signals.filterMap Signal.outcome

def executedIds : List CommandId := t.executed.map (·.commandId)

def acceptedIds : List CommandId := t.accepted.map (·.commandId)

/-- The commands accepted and not lost, in the order in which they are executed. -/
def held : List RuntimeThreadCommand := t.executed ++ t.startupShutdown.toList ++ t.queue

structure Ordered : Prop where
  order : t.held <+: t.accepted
  whole : t.hasLoop = true ∨ t.closing = false ∨ t.stage.Early → t.held = t.accepted
  startup : t.startupShutdown ≠ none → t.hasLoop = false ∧ t.closing = true
  bare : t.hasLoop = false → t.queue = []
  works : t.stage.Works → t.hasLoop = true
  early : t.stage.Early → t.hasLoop = false
  ended : t.stage.Over → t.closing = true ∧ t.shutdownInFlight = true

/-- What the worker owes at its stage. -/
def Owes : Stage → Prop
  | .idle | .opening | .attaching | .bootstrapping =>
    t.executedIds = [] ∧ t.answers = [] ∧ t.outcomes = [] ∧ t.activeCommand = none
  | .publishing | .waiting => t.executedIds = t.answers ∧ t.outcomes = [] ∧ t.activeCommand = none
  | .retrying => t.executedIds = t.answers ∧ t.outcomes = []
  | .executing command _ =>
    t.executedIds = t.answers ++ [command.commandId] ∧ t.outcomes = [] ∧
      t.activeCommand.map (·.commandId) = some command.commandId
  | .leaving outcome | .stopping outcome _ | .finalizing outcome | .reporting outcome =>
    t.answers ++ outcome.commandId.toList <+: t.executedIds ∧ t.outcomes = []
  | .returning | .finished => t.answers <+: t.executedIds ∧ t.outcomes.length = 1

def Answered : Prop := t.Owes t.stage

/-! ## What executing a command can do -/

variable {t} {u : RuntimeThread}
variable {c : RuntimeThreadCommand}

/-- Two threads agree on their commands. -/
structure Agrees (t u : RuntimeThread) : Prop where
  accepted : u.accepted = t.accepted
  executed : u.executed = t.executed
  startupShutdown : u.startupShutdown = t.startupShutdown
  queue : u.queue = t.queue
  hasLoop : u.hasLoop = t.hasLoop
  closing : u.closing = t.closing
  shutdownInFlight : u.shutdownInFlight = t.shutdownInFlight
  ready : u.ready = t.ready

theorem Agrees.trans {v : RuntimeThread} (h : Agrees t u) (h' : Agrees u v) : Agrees t v where
  accepted := h'.accepted.trans h.accepted
  executed := h'.executed.trans h.executed
  startupShutdown := h'.startupShutdown.trans h.startupShutdown
  queue := h'.queue.trans h.queue
  hasLoop := h'.hasLoop.trans h.hasLoop
  closing := h'.closing.trans h.closing
  shutdownInFlight := h'.shutdownInFlight.trans h.shutdownInFlight
  ready := h'.ready.trans h.ready

/-- They agree on the results and outcomes they have reported as well. -/
structure Silent (t u : RuntimeThread) : Prop extends Agrees t u where
  signals : ∃ relayed, u.signals = t.signals ++ relayed ∧ ∀ signal ∈ relayed, signal.Relays

theorem Silent.refl (t : RuntimeThread) : Silent t t :=
  ⟨⟨rfl, rfl, rfl, rfl, rfl, rfl, rfl, rfl⟩, [], by simp, fun _ h => by cases h⟩

theorem Silent.same {v : RuntimeThread} (h : Silent t u) (hv : Agrees u v) (hsignals : v.signals = u.signals) :
    Silent t v :=
  ⟨h.toAgrees.trans hv, hsignals ▸ h.signals⟩

theorem Silent.relay (h : Silent t u) {signal : Signal} (hs : signal.Relays) : Silent t (u.emit signal) := by
  obtain ⟨relayed, hsignals, hrelays⟩ := h.signals
  refine ⟨⟨h.accepted, h.executed, h.startupShutdown, h.queue, h.hasLoop, h.closing, h.shutdownInFlight, h.ready⟩,
    relayed ++ [signal], ?_, fun x hx => ?_⟩
  · show u.signals ++ [signal] = _
    rw [hsignals, List.append_assoc]
  · rcases List.mem_append.mp hx with hold | hnew
    · exact hrelays x hold
    · rw [List.mem_singleton.mp hnew]
      exact hs

/-- Relays are neither results nor outcomes. -/
theorem filterMap_relays {α : Type} {f : Signal → Option α} (hf : ∀ signal : Signal, signal.Relays → f signal = none)
    {relayed : List Signal} (h : ∀ signal ∈ relayed, signal.Relays) (signals : List Signal) :
    (signals ++ relayed).filterMap f = signals.filterMap f := by
  rw [List.filterMap_append, List.filterMap_eq_nil_iff.mpr fun signal hmem => hf signal (h signal hmem), List.append_nil]

theorem Silent.answers (h : Silent t u) : u.answers = t.answers := by
  obtain ⟨relayed, hsignals, hrelays⟩ := h.signals
  unfold RuntimeThread.answers
  rw [hsignals]
  refine filterMap_relays (fun signal hs => ?_) hrelays t.signals
  cases signal <;> first | rfl | exact hs.elim

theorem Silent.outcomes (h : Silent t u) : u.outcomes = t.outcomes := by
  obtain ⟨relayed, hsignals, hrelays⟩ := h.signals
  unfold RuntimeThread.outcomes
  rw [hsignals]
  refine filterMap_relays (fun signal hs => ?_) hrelays t.signals
  cases signal <;> first | rfl | exact hs.elim

theorem publishProviderSettings_silent (c : RuntimeThreadCommand) (h : Handling) :
    Silent t (t.publishProviderSettings c h).1 ∧ (t.publishProviderSettings c h).1.activeCommand = t.activeCommand := by
  unfold publishProviderSettings
  split
  next => exact ⟨Silent.refl t, rfl⟩
  next => exact ⟨(Silent.refl t).relay trivial, rfl⟩

theorem executeCommand_silent (c : RuntimeThreadCommand) (h : Handling) :
    Silent t (t.executeCommand c h).1 ∧ (t.executeCommand c h).1.activeCommand = t.activeCommand := by
  have hpublish : ∀ (u : RuntimeThread) snapshot result, Silent t u →
      Silent t (u.publishAutostart c snapshot result h).1 := fun u _ _ hu => hu.relay trivial
  have hsame : ∀ service, Silent t { t with autostartService := service } :=
    fun _ => (Silent.refl t).same ⟨rfl, rfl, rfl, rfl, rfl, rfl, rfl, rfl⟩ rfl
  unfold executeCommand
  split
  case h_1 =>
    split
    next => exact ⟨Silent.refl t, rfl⟩
    next => split <;> exact ⟨Silent.refl t, rfl⟩
  case h_12 =>
    unfold requestAutostart
    split
    next => exact ⟨Silent.refl t, rfl⟩
    next => exact ⟨hpublish _ _ _ (hsame _), rfl⟩
  case h_13 =>
    unfold setAutostart
    split
    next => exact ⟨Silent.refl t, rfl⟩
    next => exact ⟨hpublish _ _ _ (hsame _), rfl⟩
  all_goals first | exact ⟨Silent.refl t, rfl⟩ | exact publishProviderSettings_silent c h

/-- An exit outcome of an exception: it names the active command or none. -/
theorem cancelledExitOutcome_failure (t : RuntimeThread) : t.cancelledExitOutcome.success = false ∧
    (t.cancelledExitOutcome.commandId = t.activeCommand.map (·.commandId)) := by
  unfold cancelledExitOutcome
  split
  next hnone => exact ⟨rfl, by rw [hnone]; rfl⟩
  next command hsome => split <;> exact ⟨rfl, by rw [hsome]; rfl⟩

/-- An exception ends the run with a failure of the active command, or of none. -/
theorem escape_cases (t : RuntimeThread) (raised : Raised) (exitOutcome : ThreadExitOutcome)
    (hfailure : exitOutcome.success = false) (hnone : exitOutcome.commandId = none) :
    ∃ outcome : ThreadExitOutcome, outcome.success = false ∧
      (outcome.commandId = none ∨ outcome.commandId = t.activeCommand.map (·.commandId)) ∧
      t.escape raised exitOutcome = { t with stage := .stopping outcome true } := by
  obtain ⟨hcancelled, hid⟩ := cancelledExitOutcome_failure t
  unfold escape
  split
  next => exact ⟨_, hcancelled, .inr hid, rfl⟩
  next => exact ⟨_, hfailure, .inl hnone, rfl⟩

theorem release_silent (h : Silent t u) (startup : Bool) : Silent t (u.release startup) ∧
    (u.release startup).activeCommand.map (·.commandId) = u.activeCommand.map (·.commandId) := by
  refine ⟨h.same ⟨rfl, rfl, rfl, rfl, rfl, rfl, rfl, rfl⟩ rfl, ?_⟩
  cases startup <;> simp [release, RuntimeThreadCommand.clearSensitive, Function.comp_def]

/-- What a command at its end comes to: an exception, or its result. -/
def Ends (t : RuntimeThread) (c : RuntimeThreadCommand) (startup : Bool) (t' : RuntimeThread) : Prop :=
  ∃ u, Silent t u ∧
    ((∃ outcome : ThreadExitOutcome, outcome.success = false ∧
        (outcome.commandId = none ∨ outcome.commandId = some c.commandId) ∧
        t' = { u with stage := .stopping outcome true }) ∨
      ∃ result, t' = u.settle c startup result)

theorem escape_ends (startup : Bool) (raised : Raised) (h : Silent t u)
    (hid : u.activeCommand = none ∨ u.activeCommand.map (·.commandId) = some c.commandId) :
    Ends t c startup (u.escape raised threadFailed) := by
  obtain ⟨outcome, hfailure, hcommand, heq⟩ := escape_cases u raised threadFailed rfl rfl
  refine ⟨u, h, .inl ⟨outcome, hfailure, ?_, heq⟩⟩
  rcases hid with hnone | hsome
  · left
    simpa [hnone] using hcommand
  · rwa [hsome] at hcommand

theorem conclude_ends (startup : Bool) (result : RuntimeCommandResult) (a : Answer)
    (h : Silent t u) (hid : u.activeCommand.map (·.commandId) = some c.commandId) :
    Ends t c startup (u.conclude c startup result a) := by
  have hsilent : Silent t { u with activeCommand := if startup then none else u.activeCommand } :=
    h.same ⟨rfl, rfl, rfl, rfl, rfl, rfl, rfl, rfl⟩ rfl
  unfold conclude
  cases a.raises with
  | some raised =>
    refine escape_ends startup raised hsilent ?_
    cases startup with
    | true => exact .inl rfl
    | false => exact .inr hid
  | none => exact ⟨_, hsilent.relay (show (Signal.snapshot a.snapshot).Relays from trivial), .inr ⟨result, rfl⟩⟩

/-- An executed command raises, or it has a result. -/
theorem execute_ends (c : RuntimeThreadCommand) (startup : Bool) (a : Answer)
    (hactive : t.activeCommand.map (·.commandId) = some c.commandId) : Ends t c startup (t.execute c startup a) := by
  obtain ⟨hsilent, hsame⟩ := executeCommand_silent (t := t) c a.handling
  obtain ⟨hreleased, hid⟩ := release_silent hsilent startup
  rw [hsame, hactive] at hid
  unfold execute executeCommandSafely
  generalize t.executeCommand c a.handling = ran at hreleased hid ⊢
  obtain ⟨v, ended⟩ := ran
  dsimp only
  cases safely ended with
  | error raised => exact escape_ends startup raised hreleased (.inr hid)
  | ok result => exact conclude_ends startup result a hreleased hid

/-- A command is accepted into the queue of a runtime that is ready and not closing, or it is refused. -/
theorem submit_cases (t : RuntimeThread) (c : RuntimeThreadCommand) : t.submit c = (false, t) ∨
    t.hasLoop = true ∧ t.closing = false ∧
      t.submit c = (true, { t with queue := t.queue ++ [c], accepted := t.accepted ++ [c] }) := by
  unfold submit
  split
  next => exact .inl rfl
  next hopen =>
    simp only [Bool.or_eq_true, Bool.not_eq_true', not_or, Bool.not_eq_false, Bool.not_eq_true] at hopen
    exact .inr ⟨hopen.1.1.1, hopen.2, rfl⟩

/-- A shutdown is refused, kept for the start, or enqueued. -/
theorem requestShutdown_cases (t : RuntimeThread) (c : RuntimeThreadCommand) : t.requestShutdown c = (false, t) ∨
    c.type = .shutdown ∧ t.shutdownInFlight = false ∧
      ((t.hasLoop = false ∧ t.closing = false ∧
          t.requestShutdown c = (true,
            { t with
              startupShutdown := some c, shutdownInFlight := true, closing := true, acceptingSubmissions := false
              accepted := t.accepted ++ [c] })) ∨
        (t.hasLoop = true ∧
          t.requestShutdown c = (true,
            { t with
              shutdownInFlight := true, closing := true, acceptingSubmissions := false, queue := t.queue ++ [c]
              accepted := t.accepted ++ [c] }))) := by
  unfold requestShutdown
  by_cases htype : c.type = .shutdown
  · rw [if_neg (not_not.mpr htype)]
    cases hflight : t.shutdownInFlight with
    | true => exact .inl rfl
    | false =>
      cases hloop : t.hasLoop with
      | false =>
        cases hclosing : t.closing with
        | true => exact .inl rfl
        | false => exact .inr ⟨htype, rfl, .inl ⟨rfl, rfl, rfl⟩⟩
      | true =>
        cases hready : t.ready with
        | false => exact .inl rfl
        | true => exact .inr ⟨htype, rfl, .inr ⟨rfl, rfl⟩⟩
  · exact .inl (if_pos htype)

/-! ## The order of the commands -/

theorem Ordered.of_whole (hwhole : t.held = t.accepted)
    (startup : t.startupShutdown ≠ none → t.hasLoop = false ∧ t.closing = true) (bare : t.hasLoop = false → t.queue = [])
    (works : t.stage.Works → t.hasLoop = true) (early : t.stage.Early → t.hasLoop = false)
    (ended : t.stage.Over → t.closing = true ∧ t.shutdownInFlight = true) : t.Ordered where
  order := hwhole ▸ List.prefix_refl _
  whole _ := hwhole
  startup := startup
  bare := bare
  works := works
  early := early
  ended := ended

theorem Ordered.of_agrees (h : t.Ordered) (hu : Agrees t u) (hworks : u.stage.Works → t.hasLoop = true)
    (hearly : u.stage.Early → t.stage.Early) (hover : u.stage.Over → t.stage.Over) : u.Ordered := by
  have hheld : u.held = t.held := by
    unfold held
    rw [hu.executed, hu.startupShutdown, hu.queue]
  constructor
  · rw [hheld, hu.accepted]
    exact h.order
  · rw [hheld, hu.accepted, hu.hasLoop, hu.closing]
    exact fun hwhole => h.whole (hwhole.imp_right fun hopen => hopen.imp_right hearly)
  · rw [hu.startupShutdown, hu.hasLoop, hu.closing]
    exact h.startup
  · rw [hu.hasLoop, hu.queue]
    exact h.bare
  · rw [hu.hasLoop]
    exact hworks
  · rw [hu.hasLoop]
    exact fun hstage => h.early (hearly hstage)
  · rw [hu.closing, hu.shutdownInFlight]
    exact fun hstage => h.ended (hover hstage)

/-- While the loop is there no shutdown waits for the start. -/
theorem Ordered.started (h : t.Ordered) (hloop : t.hasLoop = true) : t.startupShutdown = none := by
  by_contra hsome
  have hbare := (h.startup hsome).1
  rw [hloop] at hbare
  cases hbare

theorem Ordered.submit (h : t.Ordered) (c : RuntimeThreadCommand) : (t.submit c).2.Ordered := by
  rcases submit_cases t c with heq | ⟨hloop, _, heq⟩
  · rw [heq]
    exact h
  · rw [heq]
    refine .of_whole ?_ h.startup (fun hbare => absurd hloop (by simp_all)) h.works h.early h.ended
    show t.executed ++ t.startupShutdown.toList ++ (t.queue ++ [c]) = t.accepted ++ [c]
    rw [← List.append_assoc]
    exact congrArg (· ++ [c]) (h.whole (.inl hloop))

theorem Ordered.requestShutdown (h : t.Ordered) (c : RuntimeThreadCommand) : (t.requestShutdown c).2.Ordered := by
  rcases requestShutdown_cases t c with heq | ⟨_, _, ⟨hloop, hclosing, heq⟩ | ⟨hloop, heq⟩⟩
  · rw [heq]
    exact h
  · rw [heq]
    have hnone : t.startupShutdown = none := by
      by_contra hsome
      have := (h.startup hsome).2
      simp_all
    refine .of_whole ?_ (fun _ => ⟨hloop, rfl⟩) h.bare h.works h.early fun _ => ⟨rfl, rfl⟩
    have hwhole := h.whole (.inr (.inl hclosing))
    show t.executed ++ [c] ++ t.queue = t.accepted ++ [c]
    rw [← hwhole, held, hnone, h.bare hloop]
    simp
  · rw [heq]
    refine .of_whole ?_ (fun hsome => absurd (h.started hloop) hsome) (fun hbare => absurd hloop (by simp_all)) h.works
      h.early fun _ => ⟨rfl, rfl⟩
    show t.executed ++ t.startupShutdown.toList ++ (t.queue ++ [c]) = t.accepted ++ [c]
    rw [← List.append_assoc]
    exact congrArg (· ++ [c]) (h.whole (.inl hloop))

/-- A section under the lock that only closes. -/
theorem Ordered.closed (h : t.Ordered) (hheld : u.held = t.held) (haccepted : u.accepted = t.accepted)
    (hstartup : u.startupShutdown = t.startupShutdown) (hqueue : u.queue = t.queue) (hloop : u.hasLoop = t.hasLoop)
    (hclosing : u.closing = true) (hworks : u.stage.Works → t.hasLoop = true) (hearly : ¬u.stage.Early)
    (hover : u.stage.Over → u.shutdownInFlight = true) : u.Ordered where
  order := by
    rw [hheld, haccepted]
    exact h.order
  whole hwhole := by
    rw [hheld, haccepted]
    rcases hwhole with hhas | hopen | hstage
    · exact h.whole (.inl (hloop ▸ hhas))
    · rw [hclosing] at hopen
      cases hopen
    · exact absurd hstage hearly
  startup hsome := ⟨by rw [hloop]; exact (h.startup (hstartup ▸ hsome)).1, hclosing⟩
  bare hbare := by
    rw [hqueue]
    exact h.bare (hloop ▸ hbare)
  works hstage := by
    rw [hloop]
    exact hworks hstage
  early hstage := absurd hstage hearly
  ended hstage := ⟨hclosing, hover hstage⟩

/-- The dispatcher starts with the shutdown that was kept, if one was. -/
theorem enter_stage (t : RuntimeThread) : t.startupShutdown = none ∧ t.enter.stage = .publishing
    ∨ ∃ command, t.startupShutdown = some command ∧ t.enter.stage = .executing command true := by
  unfold RuntimeThread.enter
  cases t.startupShutdown with
  | none => exact .inl ⟨rfl, rfl⟩
  | some command => exact .inr ⟨command, rfl, rfl⟩

theorem Ordered.enter (h : t.Ordered) (hstage : t.stage = .bootstrapping) : t.enter.Ordered := by
  have hearly : t.stage.Early := by rw [hstage]; trivial
  have hwhole := h.whole (.inr (.inr hearly))
  refine .of_whole ?_ (fun hsome => absurd rfl hsome) (fun hbare => by cases hbare) (fun _ => rfl) ?_ ?_
  · show t.executed ++ t.startupShutdown.toList ++ [] ++ t.queue = t.accepted
    rw [List.append_nil]
    exact hwhole
  · intro hearly
    rcases enter_stage t with ⟨-, hentered⟩ | ⟨_, -, hentered⟩ <;> exact (hentered ▸ hearly).elim
  · intro hover
    rcases enter_stage t with ⟨-, hentered⟩ | ⟨_, -, hentered⟩ <;> exact (hentered ▸ hover).elim

theorem Ordered.take (h : t.Ordered) (hstage : t.stage = .waiting) : t.take.Ordered := by
  have hloop : t.hasLoop = true := h.works (by rw [hstage]; trivial)
  unfold RuntimeThread.take
  split
  next => exact h
  next c rest hqueue =>
    refine .of_whole ?_ h.startup (fun hbare => absurd hloop (by simp_all)) (fun _ => hloop)
      (fun hearly => hearly.elim) fun hover => hover.elim
    show t.executed ++ [c] ++ t.startupShutdown.toList ++ rest = t.accepted
    rw [← h.whole (.inl hloop), held, h.started hloop, hqueue]
    simp

theorem Ordered.detach (h : t.Ordered) (outcome : ThreadExitOutcome) (hover : t.stage.Over) :
    Ordered { t.detach with stage := .reporting outcome } where
  order := by
    refine List.IsPrefix.trans ?_ h.order
    show t.executed ++ [] ++ [] <+: t.executed ++ t.startupShutdown.toList ++ t.queue
    simp
  whole hwhole := by
    rcases hwhole with hloop | hopen | hearly
    · cases hloop
    · have hclosing := (h.ended hover).1
      exact absurd hclosing (by simp_all [RuntimeThread.detach])
    · exact hearly.elim
  startup hsome := absurd rfl hsome
  bare _ := rfl
  works hworks := hworks.elim
  early hearly := hearly.elim
  ended _ := h.ended hover

/-- What a result of a command leaves alone, whichever it is. -/
theorem settle_agrees (t : RuntimeThread) (c : RuntimeThreadCommand) (startup : Bool) (result : RuntimeCommandResult) :
    Agrees t (t.settle c startup result) ∧ ¬(t.settle c startup result).stage.Early ∧
      ¬(t.settle c startup result).stage.Over := by
  have hsame : ∀ u : RuntimeThread, Agrees t u → ¬u.stage.Early → ¬u.stage.Over →
      Agrees t u ∧ ¬u.stage.Early ∧ ¬u.stage.Over := fun _ hu hearly hover => ⟨hu, hearly, hover⟩
  unfold settle
  split
  next => split <;> exact hsame _ ⟨rfl, rfl, rfl, rfl, rfl, rfl, rfl, rfl⟩ id id
  next =>
    split
    next => split <;> exact hsame _ ⟨rfl, rfl, rfl, rfl, rfl, rfl, rfl, rfl⟩ id id
    next => exact hsame _ ⟨rfl, rfl, rfl, rfl, rfl, rfl, rfl, rfl⟩ id id

/-- The worker goes on without a word to another thread. -/
theorem Ordered.goes (h : t.Ordered) (hu : Agrees t u) (hworks : t.stage.Works) (hearly : ¬u.stage.Early)
    (hover : ¬u.stage.Over) : u.Ordered :=
  h.of_agrees hu (fun _ => h.works hworks) (fun hstage => absurd hstage hearly) fun hstage => absurd hstage hover

/-- The worker leaves the run it has begun. -/
theorem Ordered.leaves (h : t.Ordered) (outcome : ThreadExitOutcome) (hasLoop : Bool) :
    Ordered { t with stage := .stopping outcome hasLoop } :=
  h.of_agrees ⟨rfl, rfl, rfl, rfl, rfl, rfl, rfl, rfl⟩ (fun hworks => hworks.elim) (fun hearly => hearly.elim)
    fun hover => hover.elim

theorem Ordered.execute (h : t.Ordered) {startup : Bool} (a : Answer)
    (hstage : t.stage = .executing c startup) (hactive : t.activeCommand.map (·.commandId) = some c.commandId) :
    (t.execute c startup a).Ordered := by
  have hworks : t.stage.Works := by rw [hstage]; trivial
  obtain ⟨u, hu, ⟨outcome, _, _, heq⟩ | ⟨result, heq⟩⟩ := execute_ends c startup a hactive
  · rw [heq]
    exact h.goes ⟨hu.accepted, hu.executed, hu.startupShutdown, hu.queue, hu.hasLoop, hu.closing, hu.shutdownInFlight,
      hu.ready⟩
      hworks id id
  · rw [heq]
    obtain ⟨hagrees, hearly, hover⟩ := settle_agrees u c startup result
    exact h.goes (hu.toAgrees.trans hagrees) hworks hearly hover

theorem Ordered.advance (h : t.Ordered) (hanswered : t.Answered) (a : Answer) : (t.advance a).Ordered := by
  unfold RuntimeThread.advance
  split
  next => exact h
  next => exact h
  next hstage =>
    have hearly : t.stage.Early := by rw [hstage]; trivial
    split
    next => exact h.of_agrees ⟨rfl, rfl, rfl, rfl, rfl, rfl, rfl, rfl⟩ False.elim (fun _ => hearly) False.elim
    next => exact h.leaves _ false
  next hstage =>
    have hearly : t.stage.Early := by rw [hstage]; trivial
    split
    next => exact h.of_agrees ⟨rfl, rfl, rfl, rfl, rfl, rfl, rfl, rfl⟩ False.elim (fun _ => hearly) False.elim
    next => exact h.leaves _ true
  next hstage =>
    split
    next => exact h.enter hstage
    next => exact h.leaves _ true
  next hstage =>
    split
    next => exact h.goes ⟨rfl, rfl, rfl, rfl, rfl, rfl, rfl, rfl⟩ (by rw [hstage]; trivial) id id
    next => exact h.leaves _ true
  next hstage =>
    split
    next => exact h.take hstage
    next => exact h.leaves _ true
  next c startup hstage =>
    unfold Answered Owes at hanswered
    rw [hstage] at hanswered
    exact h.execute a hstage hanswered.2.2
  next hstage =>
    exact h.closed rfl rfl rfl rfl rfl rfl (fun _ => h.works (by rw [hstage]; trivial)) id False.elim
  next outcome hstage => exact h.closed rfl rfl rfl rfl rfl rfl False.elim id fun _ => rfl
  next outcome hasLoop hstage =>
    cases hasLoop <;> exact h.closed rfl rfl rfl rfl rfl rfl False.elim id fun _ => rfl
  next outcome hstage => exact h.detach _ (by rw [hstage]; trivial)
  next outcome hstage =>
    exact h.of_agrees ⟨rfl, rfl, rfl, rfl, rfl, rfl, rfl, rfl⟩ False.elim False.elim fun _ => by rw [hstage]; trivial
  next hstage =>
    exact h.of_agrees ⟨rfl, rfl, rfl, rfl, rfl, rfl, rfl, rfl⟩ False.elim False.elim fun _ => by rw [hstage]; trivial

/-! ## The results -/

/-- Another thread's call changes nothing of what is owed. -/
theorem Answered.of_same (h : t.Answered) (hstage : u.stage = t.stage) (hexecuted : u.executed = t.executed)
    (hsignals : u.signals = t.signals) (hactive : u.activeCommand = t.activeCommand) : u.Answered := by
  unfold Answered Owes executedIds RuntimeThread.answers RuntimeThread.outcomes at h ⊢
  rwa [hstage, hexecuted, hsignals, hactive]

theorem Answered.submit (h : t.Answered) (c : RuntimeThreadCommand) : (t.submit c).2.Answered := by
  rcases submit_cases t c with heq | ⟨_, _, heq⟩ <;> rw [heq]
  · exact h
  · exact h.of_same rfl rfl rfl rfl

theorem Answered.requestShutdown (h : t.Answered) (c : RuntimeThreadCommand) : (t.requestShutdown c).2.Answered := by
  rcases requestShutdown_cases t c with heq | ⟨_, _, ⟨_, _, heq⟩ | ⟨_, heq⟩⟩ <;> rw [heq]
  · exact h
  · exact h.of_same rfl rfl rfl rfl
  · exact h.of_same rfl rfl rfl rfl

theorem answers_emit (t : RuntimeThread) (signal : Signal) :
    (t.emit signal).answers = t.answers ++ signal.answer.toList := by
  unfold RuntimeThread.answers emit
  cases h : signal.answer <;> simp [List.filterMap_append, h]

theorem outcomes_emit (t : RuntimeThread) (signal : Signal) :
    (t.emit signal).outcomes = t.outcomes ++ signal.outcome.toList := by
  unfold RuntimeThread.outcomes emit
  cases h : signal.outcome <;> simp [List.filterMap_append, h]

/-- An outcome without a command owes nothing. -/
theorem owes_stopping {outcome : ThreadExitOutcome} (hasLoop : Bool) (hanswers : t.answers <+: t.executedIds)
    (houtcomes : t.outcomes = []) (hid : outcome.commandId = none) : t.Owes (.stopping outcome hasLoop) :=
  ⟨by rw [hid]; simpa using hanswers, houtcomes⟩

theorem Answered.boundary (raised : Raised) (hasLoop : Bool) (hanswers : t.answers <+: t.executedIds)
    (houtcomes : t.outcomes = []) (hactive : t.activeCommand = none) :
    (t.recoverFinalBoundary raised hasLoop).Answered := by
  refine owes_stopping hasLoop hanswers houtcomes ?_
  split
  next => rw [(cancelledExitOutcome_failure t).2, hactive]; rfl
  next => rw [hactive]; rfl

/-- An exception while no command is active. -/
theorem Answered.escape (raised : Raised) {exitOutcome : ThreadExitOutcome} (hanswers : t.answers <+: t.executedIds)
    (houtcomes : t.outcomes = []) (hactive : t.activeCommand = none) (hfailure : exitOutcome.success = false)
    (hid : exitOutcome.commandId = none) : (t.escape raised exitOutcome).Answered := by
  obtain ⟨outcome, _, hcommand, heq⟩ := escape_cases t raised exitOutcome hfailure hid
  rw [heq]
  refine owes_stopping true hanswers houtcomes ?_
  rcases hcommand with hnone | hsome
  · exact hnone
  · rw [hsome, hactive]
    rfl

theorem Answered.settle (startup : Bool) (result : RuntimeCommandResult)
    (hexecuted : t.executedIds = t.answers ++ [c.commandId]) (houtcomes : t.outcomes = []) :
    (t.settle c startup result).Answered := by
  have hsuccess : t.answers ++ (succeeded c result).commandId.toList <+: t.executedIds := by
    rw [hexecuted]
    exact List.prefix_refl _
  have hreported : ∀ success, t.executedIds
        = (t.emit (.commandResult c.commandId success result.safeCode result.safeMessage)).answers ∧
      (t.emit (.commandResult c.commandId success result.safeCode result.safeMessage)).outcomes = [] := by
    intro success
    rw [answers_emit, outcomes_emit, hexecuted, houtcomes]
    exact ⟨rfl, rfl⟩
  unfold RuntimeThread.settle
  split
  next =>
    split
    next => exact ⟨hsuccess, houtcomes⟩
    next => exact hreported false
  next =>
    split
    next =>
      split
      next => exact ⟨hsuccess, houtcomes⟩
      next => exact hreported false
    next => exact ⟨(hreported result.success).1, (hreported result.success).2, rfl⟩

theorem Answered.execute {startup : Bool} (a : Answer)
    (h : t.Owes (.executing c startup)) : (t.execute c startup a).Answered := by
  obtain ⟨hexecuted, houtcomes, hactive⟩ := h
  obtain ⟨u, hu, hcases⟩ := execute_ends c startup a hactive
  have hids : u.executedIds = t.executedIds := by
    unfold executedIds
    rw [hu.executed]
  have hexecuted' : u.executedIds = u.answers ++ [c.commandId] := by rw [hids, hexecuted, hu.answers]
  have houtcomes' : u.outcomes = [] := by rw [hu.outcomes, houtcomes]
  rcases hcases with ⟨outcome, _, hid, heq⟩ | ⟨result, heq⟩
  · rw [heq]
    refine ⟨?_, houtcomes'⟩
    show u.answers ++ _ <+: u.executedIds
    rw [hexecuted']
    rcases hid with hnone | hsome
    · rw [hnone]
      exact ⟨[c.commandId], by simp⟩
    · rw [hsome]
      exact List.prefix_refl _
  · rw [heq]
    exact Answered.settle startup result hexecuted' houtcomes'

theorem Answered.enter (h : t.Owes .bootstrapping) : t.enter.Answered := by
  obtain ⟨hexecuted, hanswers, houtcomes, _⟩ := h
  have hnone : t.executed = [] := by simpa [executedIds] using hexecuted
  unfold Answered RuntimeThread.enter Owes
  cases hstartup : t.startupShutdown with
  | none =>
    refine ⟨?_, houtcomes, rfl⟩
    show (t.executed ++ []).map RuntimeThreadCommand.commandId = t.answers
    rw [hanswers, hnone]
    rfl
  | some c =>
    refine ⟨?_, houtcomes, rfl⟩
    show (t.executed ++ [c]).map RuntimeThreadCommand.commandId = t.answers ++ [c.commandId]
    rw [hanswers, hnone]
    rfl

theorem Answered.take (h : t.Answered) (hstage : t.stage = .waiting) : t.take.Answered := by
  unfold RuntimeThread.take
  split
  next => exact h
  next c rest _ =>
    unfold Answered at h
    rw [hstage] at h
    refine ⟨?_, h.2.1, rfl⟩
    show (t.executed ++ [c]).map RuntimeThreadCommand.commandId = t.answers ++ [c.commandId]
    rw [List.map_append, ← h.1]
    rfl

theorem Answered.advance (h : t.Answered) (a : Answer) : (t.advance a).Answered := by
  have howes := h
  unfold Answered at howes
  unfold RuntimeThread.advance
  split
  next => exact h
  next => exact h
  next hstage =>
    rw [hstage] at howes
    obtain ⟨hexecuted, hanswers, houtcomes, hactive⟩ := howes
    split
    next => exact ⟨hexecuted, hanswers, houtcomes, hactive⟩
    next => exact .boundary _ _ (hanswers.trans hexecuted.symm ▸ List.prefix_rfl) houtcomes hactive
  next hstage =>
    rw [hstage] at howes
    obtain ⟨hexecuted, hanswers, houtcomes, hactive⟩ := howes
    split
    next => exact ⟨hexecuted, hanswers, houtcomes, hactive⟩
    next => exact .boundary _ _ (hanswers.trans hexecuted.symm ▸ List.prefix_rfl) houtcomes hactive
  next hstage =>
    rw [hstage] at howes
    split
    next => exact .enter howes
    next =>
      obtain ⟨hexecuted, hanswers, houtcomes, hactive⟩ := howes
      exact .escape _ (hanswers.trans hexecuted.symm ▸ List.prefix_rfl) houtcomes hactive rfl rfl
  next hstage =>
    rw [hstage] at howes
    obtain ⟨hexecuted, houtcomes, hactive⟩ := howes
    split
    next =>
      refine ⟨?_, ?_, hactive⟩
      · show t.executedIds = (t.emit (.workerReady a.snapshot)).answers
        rw [answers_emit, hexecuted]
        exact (List.append_nil _).symm
      · show (t.emit (.workerReady a.snapshot)).outcomes = []
        rw [outcomes_emit, houtcomes]
        rfl
    next => exact .escape _ (hexecuted ▸ List.prefix_rfl) houtcomes hactive rfl rfl
  next hstage =>
    split
    next => exact h.take hstage
    next =>
      rw [hstage] at howes
      obtain ⟨hexecuted, houtcomes, hactive⟩ := howes
      exact .escape _ (hexecuted ▸ List.prefix_rfl) houtcomes hactive rfl rfl
  next c startup hstage =>
    rw [hstage] at howes
    exact .execute a howes
  next hstage =>
    rw [hstage] at howes
    exact ⟨howes.1, howes.2, rfl⟩
  next outcome hstage =>
    rw [hstage] at howes
    exact howes
  next outcome hasLoop hstage =>
    rw [hstage] at howes
    cases hasLoop <;> exact howes
  next outcome hstage =>
    rw [hstage] at howes
    have hid : (afterCleanup outcome a.cleanupFailure).commandId = outcome.commandId := by
      unfold afterCleanup
      split
      next => rfl
      next => split <;> rfl
    exact ⟨hid ▸ howes.1, howes.2⟩
  next outcome hstage =>
    rw [hstage] at howes
    refine ⟨?_, ?_⟩
    · show (t.emit (.shutdownOutcome outcome)).answers <+: t.executedIds
      rw [answers_emit]
      exact howes.1
    · show (t.emit (.shutdownOutcome outcome)).outcomes.length = 1
      rw [outcomes_emit, howes.2]
      rfl
  next hstage =>
    rw [hstage] at howes
    refine ⟨?_, ?_⟩
    · show (t.emit .finished).answers <+: t.executedIds
      rw [answers_emit]
      simpa [Signal.answer] using howes.1
    · show (t.emit .finished).outcomes.length = 1
      rw [outcomes_emit]
      simpa [Signal.outcome] using howes.2

/-! ## Closing -/

/-- A shutdown in flight closes the thread, and so does a loop that is not ready. -/
structure Gated (t : RuntimeThread) : Prop where
  flight : t.shutdownInFlight = true → t.closing = true
  loop : t.hasLoop = true → t.ready = true ∨ t.closing = true

/-- What a step of the worker does to what is accepted. -/
structure Bars (t u : RuntimeThread) : Prop where
  accepted : u.accepted = t.accepted
  closing : t.closing = true → u.closing = true
  gated : t.Gated → u.Gated

theorem Agrees.bars (h : Agrees t u) : Bars t u where
  accepted := h.accepted
  closing := by
    rw [h.closing]
    exact id
  gated hgated := by
    constructor
    · rw [h.shutdownInFlight, h.closing]
      exact hgated.flight
    · rw [h.hasLoop, h.ready, h.closing]
      exact hgated.loop

theorem Bars.of_closing (haccepted : u.accepted = t.accepted) (hclosing : u.closing = true) : Bars t u :=
  ⟨haccepted, fun _ => hclosing, fun _ => ⟨fun _ => hclosing, fun _ => .inr hclosing⟩⟩

theorem execute_bars (startup : Bool) (a : Answer)
    (hactive : t.activeCommand.map (·.commandId) = some c.commandId) : Bars t (t.execute c startup a) := by
  obtain ⟨u, hu, ⟨outcome, _, _, heq⟩ | ⟨result, heq⟩⟩ := execute_ends c startup a hactive
  · rw [heq]
    exact Agrees.bars ⟨hu.accepted, hu.executed, hu.startupShutdown, hu.queue, hu.hasLoop, hu.closing,
      hu.shutdownInFlight, hu.ready⟩
  · rw [heq]
    obtain ⟨hagrees, _⟩ := settle_agrees u c startup result
    exact (hu.toAgrees.trans hagrees).bars

theorem advance_bars (ho : t.Ordered) (hanswered : t.Answered) (a : Answer) : Bars t (t.advance a) := by
  have hsame : ∀ u : RuntimeThread, Agrees t u → Bars t u := fun _ => Agrees.bars
  unfold RuntimeThread.advance
  split
  next => exact hsame _ ⟨rfl, rfl, rfl, rfl, rfl, rfl, rfl, rfl⟩
  next => exact hsame _ ⟨rfl, rfl, rfl, rfl, rfl, rfl, rfl, rfl⟩
  next => split <;> exact hsame _ ⟨rfl, rfl, rfl, rfl, rfl, rfl, rfl, rfl⟩
  next => split <;> exact hsame _ ⟨rfl, rfl, rfl, rfl, rfl, rfl, rfl, rfl⟩
  next =>
    split
    next => exact ⟨rfl, id, fun hgated => ⟨hgated.flight, fun _ => .inl rfl⟩⟩
    next => exact hsame _ ⟨rfl, rfl, rfl, rfl, rfl, rfl, rfl, rfl⟩
  next => split <;> exact hsame _ ⟨rfl, rfl, rfl, rfl, rfl, rfl, rfl, rfl⟩
  next =>
    split
    next =>
      unfold RuntimeThread.take
      split
      next => exact hsame _ ⟨rfl, rfl, rfl, rfl, rfl, rfl, rfl, rfl⟩
      next => exact ⟨rfl, id, fun hgated => ⟨hgated.flight, hgated.loop⟩⟩
    next => exact hsame _ ⟨rfl, rfl, rfl, rfl, rfl, rfl, rfl, rfl⟩
  next c startup hstage =>
    unfold Answered at hanswered
    rw [hstage] at hanswered
    exact execute_bars startup a hanswered.2.2
  next => exact .of_closing rfl rfl
  next => exact .of_closing rfl rfl
  next outcome hasLoop _ => cases hasLoop <;> exact .of_closing rfl rfl
  next outcome hstage => exact .of_closing rfl (ho.ended (by rw [hstage]; trivial)).1
  next => exact hsame _ ⟨rfl, rfl, rfl, rfl, rfl, rfl, rfl, rfl⟩
  next => exact hsame _ ⟨rfl, rfl, rfl, rfl, rfl, rfl, rfl, rfl⟩

end RuntimeThread

end ArkClaw.Presentation.Runtime
