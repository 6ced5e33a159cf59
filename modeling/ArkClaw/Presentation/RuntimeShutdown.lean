import ArkClaw.Presentation.RuntimeBridge
import ArkClaw.Presentation.RuntimeThreadRuns

/-!
# Bridge and thread together

The platform is the bridge, with the thread it owns, and the queue of the thread's signals: `handled` of them have been
handed to the bridge. Calls of the bridge, the handling of the next signal and the worker's own steps interleave.

`Held`: a shutdown command the bridge waits for is with the thread, or what will answer it is still to be handled.
-/

namespace ArkClaw.Presentation.Runtime

open ArkClaw.Library

/-- The command that is being executed. -/
def Stage.command : Stage → Option RuntimeThreadCommand
  | .executing command _ => some command
  | _ => none

/-- The outcome and `finished` are still to come. -/
def Stage.ends : Stage → Bool
  | .leaving _ | .stopping _ _ | .finalizing _ | .reporting _ | .returning => true
  | _ => false

/-- The command a signal is the result of. -/
def Signal.result : Signal → Option CommandId
  | .commandResult commandId _ _ _ => some commandId
  | _ => none

namespace RuntimeThread

/-- The commands the thread has still to answer: kept for the start, queued or executing. -/
def holding (t : RuntimeThread) : List RuntimeThreadCommand :=
  t.startupShutdown.toList ++ t.queue ++ t.stage.command.toList

end RuntimeThread

/-- A call of `shutdown` reaches the thread. -/
def QtRuntimeBridge.Requests (s : QtRuntimeBridge) : Prop :=
  (s.state = .starting ∨ s.state = .ready ∨ s.state = .closing) ∧ s.shutdownCommandId = none

structure Platform where
  bridge : QtRuntimeBridge
  handled : Nat := 0

namespace Platform

variable (p : Platform)

/-- The signals still to be handled. -/
def unhandled : List Signal := p.bridge.thread.signals.drop p.handled

inductive PlatformEvent where
  | call (j : Journal) (c : QtRuntimeBridge.Call)
  | work (a : Answer)
  | handleNext (j : Journal)

def handleNext (j : Journal) : Platform :=
  match p.bridge.thread.signals[p.handled]? with
  | none => p
  | some signal => { bridge := p.bridge.handle j signal, handled := p.handled + 1 }

def step : PlatformEvent → Platform
  | .call j c => { p with bridge := (p.bridge.call j c).2 }
  | .work a => { p with bridge := { p.bridge with thread := p.bridge.thread.work a } }
  | .handleNext j => p.handleNext j

/-- The thread holds the command, its result is still to be handled, or the thread's end is still to come or to be
handled. -/
def Owed (commandId : CommandId) : Prop :=
  commandId ∈ p.bridge.thread.holding.map (·.commandId) ∨ some commandId ∈ p.unhandled.map Signal.result ∨
    p.bridge.thread.stage.ends = true ∨ .finished ∈ p.unhandled

instance (commandId : CommandId) : Decidable (p.Owed commandId) := inferInstanceAs (Decidable (_ ∨ _ ∨ _ ∨ _))

/-- No shutdown is lost. -/
def Held : Prop := ∀ commandId, p.bridge.shutdownCommandId = some commandId → p.Owed commandId

/-- The thread has no shutdown in flight when one is requested, or it is about to end. -/
def Unobstructed : PlatformEvent → Prop
  | .call _ (.shutdown _) => p.bridge.Requests →
    p.bridge.thread.shutdownInFlight = false ∨ p.bridge.thread.stage.ends = true ∨ .finished ∈ p.unhandled
  | _ => True

/-- A platform whose runtime has not been started. -/
def unstarted (service : Autostart.AutostartService) (hasJournal : Bool) : Platform :=
  { bridge := { thread := RuntimeThread.fresh service, hasJournal } }

end Platform

/-! ## What a step of the worker does to the commands it holds -/

namespace RuntimeThread

variable {t u v : RuntimeThread}
variable {c : RuntimeThreadCommand}

/-- A step emits `new`. It comes by no command, gives the results of the command it was executing, and no success if
that is a shutdown; and what it held it holds still, or has answered, or the end is on its way. -/
structure Passes (t u : RuntimeThread) (new : List Signal) : Prop where
  signals : u.signals = t.signals ++ new
  holding : u.holding ⊆ t.holding
  results : ∀ commandId success safeCode safeMessage, .commandResult commandId success safeCode safeMessage ∈ new →
    ∃ c ∈ t.holding, c.commandId = commandId ∧ (c.type = .shutdown → success = false)
  answers : ∀ c ∈ t.holding, c ∈ u.holding ∨ some c.commandId ∈ new.map Signal.result ∨ u.stage.ends = true ∨
    .finished ∈ new
  ends : t.stage.ends = true → u.stage.ends = true ∨ .finished ∈ new

/-- The worker goes on and says nothing of its commands. -/
theorem Passes.of_same {new : List Signal} (hsignals : u.signals = t.signals ++ new)
    (hresults : ∀ signal ∈ new, signal.result = none) (hholding : ∀ c, c ∈ u.holding ↔ c ∈ t.holding)
    (hends : t.stage.ends = true → u.stage.ends = true ∨ .finished ∈ new) : Passes t u new where
  signals := hsignals
  holding c hc := (hholding c).mp hc
  results commandId _ _ _ hmem := by
    have := hresults _ hmem
    cases this
  answers c hc := .inl ((hholding c).mpr hc)
  ends := hends

/-- The worker leaves. -/
theorem Passes.of_ends {new : List Signal} (hsignals : u.signals = t.signals ++ new)
    (hresults : ∀ signal ∈ new, signal.result = none) (hholding : u.holding ⊆ t.holding)
    (hends : u.stage.ends = true) : Passes t u new where
  signals := hsignals
  holding := hholding
  results commandId _ _ _ hmem := by
    have := hresults _ hmem
    cases this
  answers _ _ := .inr (.inr (.inl hends))
  ends _ := .inl hends

theorem relays_result {signal : Signal} (h : signal.Relays) : signal.result = none := by
  cases signal <;> first | rfl | exact h.elim

/-- Relays before a step change nothing of what it does. -/
theorem Passes.after {new : List Signal} (hu : Silent t u) (hstage : u.stage = t.stage) (h : Passes u v new) :
    ∃ new', Passes t v new' := by
  obtain ⟨relayed, hsignals, hrelays⟩ := hu.signals
  have hholding : u.holding = t.holding := by
    unfold RuntimeThread.holding
    rw [hu.startupShutdown, hu.queue, hstage]
  refine ⟨relayed ++ new, ?_, ?_, ?_, ?_, ?_⟩
  · rw [h.signals, hsignals, List.append_assoc]
  · rw [← hholding]
    exact h.holding
  · intro commandId success safeCode safeMessage hmem
    rw [← hholding]
    rcases List.mem_append.mp hmem with hold | hnew
    · have := relays_result (hrelays _ hold)
      cases this
    · exact h.results _ _ _ _ hnew
  · intro c hc
    rw [← hholding] at hc
    rcases h.answers c hc with hholds | hresult | hends | hfinished
    · exact .inl hholds
    · refine .inr (.inl ?_)
      rw [List.map_append]
      exact List.mem_append_right _ hresult
    · exact .inr (.inr (.inl hends))
    · exact .inr (.inr (.inr (List.mem_append_right _ hfinished)))
  · intro hends
    rcases h.ends (hstage ▸ hends) with hstill | hfinished
    · exact .inl hstill
    · exact .inr (List.mem_append_right _ hfinished)

theorem holding_executing {startup : Bool} (hstage : t.stage = .executing c startup) :
    t.holding = t.startupShutdown.toList ++ t.queue ++ [c] := by
  unfold RuntimeThread.holding
  rw [hstage]
  rfl

/-- The command is answered, after what it relayed, and the worker does not execute it any more. -/
theorem Passes.of_result {startup : Bool} (hstage : t.stage = .executing c startup)
    {relayed : List Signal} (hrelays : ∀ signal ∈ relayed, signal.Relays) {success : Bool}
    {safeCode safeMessage : String} (hfailure : c.type = .shutdown → success = false)
    (hsignals : u.signals = t.signals ++ (relayed ++ [.commandResult c.commandId success safeCode safeMessage]))
    (hholding : u.holding = t.startupShutdown.toList ++ t.queue) :
    Passes t u (relayed ++ [.commandResult c.commandId success safeCode safeMessage]) where
  signals := hsignals
  holding := by
    rw [hholding, holding_executing hstage]
    exact List.subset_append_left _ _
  results commandId _ _ _ hmem := by
    rcases List.mem_append.mp hmem with hrelay | hthis
    · have := relays_result (hrelays _ hrelay)
      cases this
    · cases List.mem_singleton.mp hthis
      exact ⟨c, by simp [holding_executing hstage], rfl, hfailure⟩
  answers d hd := by
    rw [holding_executing hstage] at hd
    rcases List.mem_append.mp hd with hother | hthis
    · exact .inl (hholding ▸ hother)
    · rw [List.mem_singleton.mp hthis]
      exact .inr (.inl (by simp [Signal.result]))
  ends hends := by
    rw [hstage] at hends
    cases hends

theorem execute_passes {startup : Bool} (hstage : t.stage = .executing c startup)
    (a : Answer) (hactive : t.activeCommand.map (·.commandId) = some c.commandId) : ∃ new, Passes t (t.execute c startup a) new := by
  obtain ⟨u, hu, ⟨outcome, _, _, heq⟩ | ⟨result, heq⟩⟩ := execute_ends c startup a hactive
  · obtain ⟨relayed, hsignals, hrelays⟩ := hu.signals
    rw [heq]
    refine ⟨relayed, .of_ends hsignals (fun signal hmem => relays_result (hrelays signal hmem)) ?_ rfl⟩
    show u.startupShutdown.toList ++ u.queue ++ [] ⊆ t.holding
    rw [holding_executing hstage, hu.startupShutdown, hu.queue, List.append_nil]
    exact List.subset_append_left _ _
  · obtain ⟨relayed, hsignals, hrelays⟩ := hu.signals
    have hheld : u.startupShutdown.toList ++ u.queue ++ [] = t.startupShutdown.toList ++ t.queue := by
      rw [hu.startupShutdown, hu.queue, List.append_nil]
    have hless : u.startupShutdown.toList ++ u.queue ++ [] ⊆ t.holding := by
      rw [hheld, holding_executing hstage]
      exact List.subset_append_left _ _
    have hreported : ∀ success, u.signals ++ [.commandResult c.commandId success result.safeCode result.safeMessage]
        = t.signals ++ (relayed ++ [.commandResult c.commandId success result.safeCode result.safeMessage]) := by
      intro success
      rw [hsignals, List.append_assoc]
    have hends : ∀ v : RuntimeThread, v.signals = u.signals → v.startupShutdown = u.startupShutdown →
        v.queue = u.queue → v.stage.command = none → v.stage.ends = true → Passes t v relayed := by
      intro v hvsignals hvstartup hvqueue hvcommand hvends
      refine .of_ends (hvsignals.trans hsignals) (fun signal hmem => relays_result (hrelays signal hmem)) ?_ hvends
      unfold RuntimeThread.holding
      rw [hvstartup, hvqueue, hvcommand]
      exact hless
    rw [heq]
    unfold RuntimeThread.settle
    split
    next hstart =>
      split
      next => exact ⟨relayed, hends _ rfl rfl rfl rfl rfl⟩
      next => exact ⟨_, .of_result hstage hrelays (fun _ => rfl) (hreported false) hheld⟩
    next =>
      split
      next =>
        split
        next => exact ⟨relayed, hends _ rfl rfl rfl rfl rfl⟩
        next => exact ⟨_, .of_result hstage hrelays (fun _ => rfl) (hreported false) hheld⟩
      next hother =>
        exact ⟨_, .of_result hstage hrelays (fun hshutdown => absurd hshutdown hother) (hreported result.success) hheld⟩

/-- What the worker emits and keeps in one of its steps. -/
theorem advance_passes (hs : t.Sound) (a : Answer) : ∃ new, Passes t (t.advance a) new := by
  have hsame : ∀ u : RuntimeThread, u.signals = t.signals → u.startupShutdown = t.startupShutdown →
      u.queue = t.queue → u.stage.command = t.stage.command → (t.stage.ends = true → u.stage.ends = true) →
      ∃ new, Passes t u new := by
    intro u hsignals hstartup hqueue hcommand hends
    refine ⟨[], .of_same (by simp [hsignals]) (fun _ h => by cases h) (fun c => ?_) fun h => .inl (hends h)⟩
    unfold RuntimeThread.holding
    rw [hstartup, hqueue, hcommand]
  have hleaves : ∀ u : RuntimeThread, u.signals = t.signals → u.startupShutdown = t.startupShutdown →
      u.queue = t.queue → u.stage.command = none → u.stage.ends = true → ∃ new, Passes t u new := by
    intro u hsignals hstartup hqueue hcommand hends
    refine ⟨[], .of_ends (by simp [hsignals]) (fun _ h => by cases h) ?_ hends⟩
    unfold RuntimeThread.holding
    rw [hstartup, hqueue, hcommand, Option.toList_none, List.append_nil]
    exact List.subset_append_left _ _
  unfold RuntimeThread.advance
  split
  next => exact hsame _ rfl rfl rfl rfl id
  next => exact hsame _ rfl rfl rfl rfl id
  next hstage =>
    split
    next => exact hsame _ rfl rfl rfl (by rw [hstage]; rfl) (by rw [hstage]; exact id)
    next => exact hleaves _ rfl rfl rfl rfl rfl
  next hstage =>
    split
    next => exact hsame _ rfl rfl rfl (by rw [hstage]; rfl) (by rw [hstage]; exact id)
    next => exact hleaves _ rfl rfl rfl rfl rfl
  next hstage =>
    split
    next =>
      refine ⟨[], .of_same (by simp [RuntimeThread.enter]) (fun _ h => by cases h) (fun c => ?_) ?_⟩
      · unfold RuntimeThread.holding
        rw [hstage]
        simp only [RuntimeThread.enter]
        cases t.startupShutdown <;> simp [Stage.command, or_comm]
      · rw [hstage]
        exact fun hends => absurd hends Bool.false_ne_true
    next => exact hleaves _ rfl rfl rfl rfl rfl
  next hstage =>
    split
    next =>
      refine ⟨[.workerReady a.snapshot], .of_same rfl ?_ (fun c => ?_) ?_⟩
      · intro signal hmem
        rw [List.mem_singleton.mp hmem]
        rfl
      · unfold RuntimeThread.holding
        rw [hstage]
        rfl
      · rw [hstage]
        exact fun hends => absurd hends Bool.false_ne_true
    next => exact hleaves _ rfl rfl rfl rfl rfl
  next hstage =>
    split
    next =>
      unfold RuntimeThread.take
      split
      next => exact hsame _ rfl rfl rfl rfl id
      next command rest hqueue =>
        refine ⟨[], .of_same (by simp) (fun _ h => by cases h) (fun c => ?_) ?_⟩
        · unfold RuntimeThread.holding
          rw [hqueue, hstage]
          simp only [Stage.command, List.mem_append, List.mem_cons, Option.toList_some, Option.toList_none]
          tauto
        · rw [hstage]
          exact fun hends => absurd hends Bool.false_ne_true
    next => exact hleaves _ rfl rfl rfl rfl rfl
  next c startup hstage =>
    have howes := hs.answered
    unfold Answered at howes
    rw [hstage] at howes
    exact execute_passes hstage a howes.2.2
  next hstage => exact hsame _ rfl rfl rfl (by rw [hstage]; rfl) (by rw [hstage]; exact id)
  next outcome hstage => exact hleaves _ rfl rfl rfl rfl rfl
  next outcome hasLoop hstage => cases hasLoop <;> exact hleaves _ rfl rfl rfl rfl rfl
  next outcome hstage =>
    exact ⟨[], .of_ends (by simp [RuntimeThread.detach]) (fun _ h => by cases h) (List.nil_subset _) rfl⟩
  next outcome hstage =>
    refine ⟨[.shutdownOutcome outcome], .of_ends rfl ?_ ?_ rfl⟩
    · intro signal hmem
      rw [List.mem_singleton.mp hmem]
      rfl
    · unfold RuntimeThread.holding
      rw [hstage]
      exact fun _ h => h
  next hstage =>
    refine ⟨[.finished], .of_same rfl ?_ (fun c => ?_) fun _ => .inr List.mem_cons_self⟩
    · intro signal hmem
      rw [List.mem_singleton.mp hmem]
      rfl
    · unfold RuntimeThread.holding
      rw [hstage]
      rfl

end RuntimeThread

end ArkClaw.Presentation.Runtime
