import ArkClaw.Presentation.RuntimeBridgeRuns
import ArkClaw.Presentation.RuntimeShutdown

/-!
# Shutdowns over whole runs

A run keeps `Held` exactly as long as the thread has no shutdown in flight when one is requested. The thread reports a
shutdown that failed before it allows the next one; and the shutdown that the bridge requests by itself, after a first
snapshot that is none, may be in flight when the user requests another.

`Linked` is what bridge and thread know of each other's commands: ids are given out once, and the id of the shutdown the
bridge waits for is no other command's.
-/

namespace ArkClaw.Presentation.Runtime

open ArkClaw.Library
open List (mem_append mem_singleton mem_append_left mem_map mem_append_right)

namespace RuntimeThread

variable {t u : RuntimeThread}

/-- Without a shutdown in flight the thread admits one. -/
structure Admits (t : RuntimeThread) : Prop where
  bare : t.shutdownInFlight = false → t.hasLoop = false → t.closing = false
  loop : t.shutdownInFlight = false → t.hasLoop = true → t.ready = true
  works : t.stage.Works → t.ready = true

theorem Admits.of_agrees (h : t.Admits) (hu : Agrees t u) (hworks : u.stage.Works → t.stage.Works) : u.Admits where
  bare := by
    rw [hu.shutdownInFlight, hu.hasLoop, hu.closing]
    exact h.bare
  loop := by
    rw [hu.shutdownInFlight, hu.hasLoop, hu.ready]
    exact h.loop
  works hstage := by
    rw [hu.ready]
    exact h.works (hworks hstage)

theorem Admits.of_flight (hflight : u.shutdownInFlight = true) (hworks : u.stage.Works → u.ready = true) :
    u.Admits where
  bare hnone := by
    rw [hflight] at hnone
    cases hnone
  loop hnone := by
    rw [hflight] at hnone
    cases hnone
  works := hworks

theorem Admits.advance (h : t.Admits) (hs : t.Sound) (a : Answer) : (t.advance a).Admits := by
  have hsame : ∀ u : RuntimeThread, Agrees t u → (u.stage.Works → t.stage.Works) → u.Admits :=
    fun _ hu hworks => h.of_agrees hu hworks
  unfold RuntimeThread.advance
  split
  next => exact h
  next => exact h
  next => split <;> exact hsame _ ⟨rfl, rfl, rfl, rfl, rfl, rfl, rfl, rfl⟩ False.elim
  next => split <;> exact hsame _ ⟨rfl, rfl, rfl, rfl, rfl, rfl, rfl, rfl⟩ False.elim
  next =>
    split
    next => exact ⟨fun _ hbare => (by cases hbare), fun _ _ => rfl, fun _ => rfl⟩
    next => exact hsame _ ⟨rfl, rfl, rfl, rfl, rfl, rfl, rfl, rfl⟩ False.elim
  next hstage =>
    have hworks : t.stage.Works := by rw [hstage]; trivial
    split <;> exact hsame _ ⟨rfl, rfl, rfl, rfl, rfl, rfl, rfl, rfl⟩ fun _ => hworks
  next hstage =>
    have hworks : t.stage.Works := by rw [hstage]; trivial
    split
    next =>
      unfold RuntimeThread.take
      split
      next => exact h
      next => exact ⟨h.bare, h.loop, fun _ => h.works hworks⟩
    next => exact hsame _ ⟨rfl, rfl, rfl, rfl, rfl, rfl, rfl, rfl⟩ fun _ => hworks
  next c startup hstage =>
    have hworks : t.stage.Works := by rw [hstage]; trivial
    have howes := hs.answered
    unfold Answered at howes
    rw [hstage] at howes
    obtain ⟨u, hu, ⟨outcome, _, _, heq⟩ | ⟨result, heq⟩⟩ := execute_ends c startup a howes.2.2
    · rw [heq]
      exact hsame _ ⟨hu.accepted, hu.executed, hu.startupShutdown, hu.queue, hu.hasLoop, hu.closing,
        hu.shutdownInFlight, hu.ready⟩ fun _ => hworks
    · rw [heq]
      obtain ⟨hagrees, _⟩ := settle_agrees u c startup result
      exact hsame _ (hu.toAgrees.trans hagrees) fun _ => hworks
  next hstage =>
    have hworks : t.stage.Works := by rw [hstage]; trivial
    have hloop := hs.ordered.works hworks
    refine ⟨fun _ hbare => ?_, fun _ _ => h.works hworks, fun _ => h.works hworks⟩
    change t.hasLoop = false at hbare
    rw [hloop] at hbare
    cases hbare
  next => exact .of_flight rfl False.elim
  next outcome hasLoop _ => cases hasLoop <;> exact .of_flight rfl False.elim
  next outcome hstage => exact .of_flight (hs.ordered.ended (by rw [hstage]; trivial)).2 False.elim
  next => exact hsame _ ⟨rfl, rfl, rfl, rfl, rfl, rfl, rfl, rfl⟩ False.elim
  next => exact hsame _ ⟨rfl, rfl, rfl, rfl, rfl, rfl, rfl, rfl⟩ False.elim

theorem Admits.step (h : t.Admits) (hs : t.Sound) (e : Event) : (t.step e).Admits := by
  cases e with
  | start =>
    show t.start.Admits
    unfold RuntimeThread.start
    split
    next => exact h.of_agrees ⟨rfl, rfl, rfl, rfl, rfl, rfl, rfl, rfl⟩ False.elim
    next => exact h
  | submit c =>
    rcases submit_cases t c with heq | ⟨_, _, heq⟩ <;> simp only [RuntimeThread.step, heq]
    · exact h
    · exact ⟨h.bare, h.loop, h.works⟩
  | requestShutdown c =>
    rcases requestShutdown_cases t c with heq | ⟨_, _, ⟨_, _, heq⟩ | ⟨_, heq⟩⟩ <;> simp only [RuntimeThread.step, heq]
    · exact h
    · exact .of_flight rfl h.works
    · exact .of_flight rfl h.works
  | work a =>
    obtain ⟨hobserved, hstage, _⟩ := observe_silent t a.events
    have hadmits : (t.observe a.events).Admits := h.of_agrees hobserved.toAgrees fun hworks => hstage ▸ hworks
    have hsound : (t.observe a.events).Sound :=
      ⟨hs.ordered.observe _, hs.answered.observe _, hobserved.toAgrees.bars.gated hs.gated⟩
    exact hadmits.advance hsound a

/-- What the worker emits and keeps in a step, the events of the runtime included. -/
theorem work_passes (hs : t.Sound) (a : Answer) : ∃ new, Passes t (t.work a) new := by
  obtain ⟨hobserved, hstage, _⟩ := observe_silent t a.events
  have hsound : (t.observe a.events).Sound :=
    ⟨hs.ordered.observe _, hs.answered.observe _, hobserved.toAgrees.bars.gated hs.gated⟩
  obtain ⟨new, hpasses⟩ := advance_passes hsound a
  exact hpasses.after hobserved hstage

/-- Another thread's call gives the thread the command `c`, or nothing. -/
structure Widens (t u : RuntimeThread) (c : RuntimeThreadCommand) : Prop where
  signals : u.signals = t.signals
  ends : u.stage.ends = t.stage.ends
  keeps : t.holding ⊆ u.holding
  adds : ∀ d ∈ u.holding, d ∈ t.holding ∨ d = c

theorem Widens.refl (t : RuntimeThread) (c : RuntimeThreadCommand) : Widens t t c :=
  ⟨rfl, rfl, fun _ h => h, fun _ h => .inl h⟩

theorem start_widens (t : RuntimeThread) (c : RuntimeThreadCommand) : Widens t t.start c := by
  unfold RuntimeThread.start
  split
  next hidle =>
    have hholding : RuntimeThread.holding { t with stage := .opening } = t.holding := by
      unfold RuntimeThread.holding
      rw [hidle]
      rfl
    refine ⟨rfl, ?_, ?_, fun d hd => .inl (hholding ▸ hd)⟩
    · rw [hidle]
      rfl
    · rw [hholding]
      exact fun _ h => h
  next => exact .refl t c

theorem submit_widens (t : RuntimeThread) (c : RuntimeThreadCommand) : Widens t (t.submit c).2 c := by
  rcases submit_cases t c with heq | ⟨_, _, heq⟩ <;> rw [heq]
  · exact .refl t c
  · refine ⟨rfl, rfl, fun d hd => ?_, fun d hd => ?_⟩
    · simp only [RuntimeThread.holding, mem_append] at hd ⊢
      tauto
    · simp only [RuntimeThread.holding, mem_append, mem_singleton] at hd ⊢
      tauto

theorem requestShutdown_widens (hs : t.Sound) (c : RuntimeThreadCommand) : Widens t (t.requestShutdown c).2 c := by
  rcases requestShutdown_cases t c with heq | ⟨_, _, ⟨_, hclosing, heq⟩ | ⟨_, heq⟩⟩ <;> rw [heq]
  · exact .refl t c
  · have hnone : t.startupShutdown = none := by
      by_contra hsome
      have := (hs.ordered.startup hsome).2
      simp_all
    refine ⟨rfl, rfl, fun d hd => ?_, fun d hd => ?_⟩
    · simp only [RuntimeThread.holding, hnone, Option.toList_none, Option.toList_some, mem_append,
        mem_singleton, List.not_mem_nil] at hd ⊢
      tauto
    · simp only [RuntimeThread.holding, hnone, Option.toList_none, Option.toList_some, mem_append,
        mem_singleton, List.not_mem_nil] at hd ⊢
      tauto
  · refine ⟨rfl, rfl, fun d hd => ?_, fun d hd => ?_⟩
    · simp only [RuntimeThread.holding, mem_append] at hd ⊢
      tauto
    · simp only [RuntimeThread.holding, mem_append, mem_singleton] at hd ⊢
      tauto

/-- Without a shutdown in flight a shutdown that is requested is the thread's. -/
theorem requestShutdown_holds (h : t.Admits) (hflight : t.shutdownInFlight = false) {c : RuntimeThreadCommand}
    (htype : c.type = .shutdown) : c ∈ (t.requestShutdown c).2.holding := by
  unfold RuntimeThread.requestShutdown
  rw [if_neg (not_not.mpr htype)]
  simp only [hflight, Bool.false_eq_true, if_false]
  cases hloop : t.hasLoop with
  | false => simp [RuntimeThread.holding, h.bare hflight hloop]
  | true => simp [RuntimeThread.holding, h.loop hflight hloop]

/-- With a shutdown in flight it is refused. -/
theorem requestShutdown_refused (hflight : t.shutdownInFlight = true) (c : RuntimeThreadCommand) :
    (t.requestShutdown c).2 = t := by
  unfold RuntimeThread.requestShutdown
  by_cases htype : c.type ≠ .shutdown
  · rw [if_pos htype]
  · rw [if_neg htype, if_pos hflight]

end RuntimeThread

/-! ## What the bridge does to its shutdown -/

namespace QtRuntimeBridge

variable {s s' s'' : QtRuntimeBridge} {commandId : CommandId}

/-- A method that gives out `commandId` and requests no shutdown. -/
structure Sends (commandId : CommandId) (s s' : QtRuntimeBridge) : Prop where
  thread : s'.thread = s.thread ∨ s'.thread = s.thread.start ∨
    ∃ c : RuntimeThreadCommand, c.commandId = commandId ∧ s'.thread = (s.thread.submit c).2
  start : s'.startCommandId = s.startCommandId ∨ s'.startCommandId = none ∨ s'.startCommandId = some commandId
  shutdown : s'.shutdownCommandId = s.shutdownCommandId
  pending : ∀ other ∈ s.pendingCommandIds, other ≠ commandId → other ∈ s'.pendingCommandIds

theorem Sends.given (s : QtRuntimeBridge) : Sends (.issued s.nextId) s s.newCommandId.2 :=
  ⟨.inl rfl, .inl rfl, rfl, fun _ hmem _ => mem_append_left _ hmem⟩

/-- The bridge changes none of this. -/
theorem Sends.same (h : Sends commandId s s') (hthread : s''.thread = s'.thread)
    (hstart : s''.startCommandId = s'.startCommandId) (hshutdown : s''.shutdownCommandId = s'.shutdownCommandId)
    (hpending : s''.pendingCommandIds = s'.pendingCommandIds) : Sends commandId s s'' where
  thread := by
    rw [hthread]
    exact h.thread
  start := by
    rw [hstart]
    exact h.start
  shutdown := hshutdown.trans h.shutdown
  pending other hmem hne := hpending ▸ h.pending other hmem hne

theorem failCommand_same (s : QtRuntimeBridge) (commandId : CommandId) (safeCode safeMessage : String) :
    (s.failCommand commandId safeCode safeMessage).thread = s.thread ∧
      (s.failCommand commandId safeCode safeMessage).startCommandId = s.startCommandId ∧
      (s.failCommand commandId safeCode safeMessage).shutdownCommandId = s.shutdownCommandId := by
  unfold failCommand
  split <;> exact ⟨rfl, rfl, rfl⟩

theorem completeCommand_same (s : QtRuntimeBridge) (j : Journal) (commandId : CommandId) :
    (s.completeCommand j commandId).thread = s.thread ∧
      (s.completeCommand j commandId).startCommandId = s.startCommandId ∧
      (s.completeCommand j commandId).shutdownCommandId = s.shutdownCommandId := by
  unfold completeCommand
  split
  next => exact ⟨rfl, rfl, rfl⟩
  next => split <;> exact ⟨rfl, rfl, rfl⟩

theorem mem_filter_ne {ids : List CommandId} {other : CommandId} (hmem : other ∈ ids) (hne : other ≠ commandId) :
    other ∈ ids.filter (· ≠ commandId) :=
  List.mem_filter.mpr ⟨hmem, by simpa using hne⟩

theorem Sends.fail (h : Sends commandId s s') (safeCode safeMessage : String) :
    Sends commandId s (s'.failCommand commandId safeCode safeMessage) := by
  obtain ⟨hthread, hstart, hshutdown⟩ := failCommand_same s' commandId safeCode safeMessage
  refine ⟨?_, ?_, hshutdown.trans h.shutdown, fun other hmem hne => ?_⟩
  · rw [hthread]
    exact h.thread
  · rw [hstart]
    exact h.start
  · rw [failCommand_pending]
    exact mem_filter_ne (h.pending other hmem hne) hne

theorem Sends.complete (h : Sends commandId s s') (j : Journal) :
    Sends commandId s (s'.completeCommand j commandId) := by
  obtain ⟨hthread, hstart, hshutdown⟩ := completeCommand_same s' j commandId
  refine ⟨?_, ?_, hshutdown.trans h.shutdown, fun other hmem hne => ?_⟩
  · rw [hthread]
    exact h.thread
  · rw [hstart]
    exact h.start
  · rw [completeCommand_pending]
    exact mem_filter_ne (h.pending other hmem hne) hne

theorem Sends.submit (h : Sends commandId s s') (hthread : s'.thread = s.thread) (j : Journal)
    {c : RuntimeThreadCommand} (hid : c.commandId = commandId) : Sends commandId s (s'.submit j c) := by
  unfold QtRuntimeBridge.submit
  rw [hid]
  split
  next => exact h.fail _ _
  next => exact h.fail _ _
  next => exact h.fail _ _
  next => exact h.fail _ _
  next => exact h.fail _ _
  next =>
    split
    next => exact h.fail _ _
    next =>
      split
      next => exact h.fail _ _
      next => exact ⟨.inr (.inr ⟨c, hid, by rw [hthread]⟩), h.start, h.shutdown, h.pending⟩

theorem send_sends (s : QtRuntimeBridge) (j : Journal) {command : CommandId → RuntimeThreadCommand}
    (hid : ∀ commandId, (command commandId).commandId = commandId) : Sends (.issued s.nextId) s (s.send j command).2 :=
  (Sends.given s).submit rfl j (hid _)

theorem sendChecked_sends (s : QtRuntimeBridge) (j : Journal) (texts : List Text) (message : String)
    {command : CommandId → RuntimeThreadCommand} (hid : ∀ commandId, (command commandId).commandId = commandId) :
    Sends (.issued s.nextId) s (s.sendChecked j texts message command).2 := by
  unfold sendChecked
  show Sends _ s (Prod.snd (if _ then _ else _))
  split
  next => exact (Sends.given s).fail _ _
  next => exact (Sends.given s).submit rfl j (hid _)

theorem sendAutostart_sends (s : QtRuntimeBridge) (j : Journal) (operationId : Text)
    (origin : AutostartOperationOrigin) (requested : Option Bool) (revision : Nat)
    {command : CommandId → RuntimeThreadCommand} (hid : ∀ commandId, (command commandId).commandId = commandId) :
    Sends (.issued s.nextId) s (s.sendAutostart j operationId origin requested revision command).2 := by
  show Sends (.issued s.nextId) s (QtRuntimeBridge.submit _ j _)
  refine Sends.submit ?_ ?_ j (hid _)
  · exact (Sends.given s).same rfl rfl rfl rfl
  · rfl

theorem startRuntime_sends (s : QtRuntimeBridge) (raises : Bool) :
    Sends (.issued s.nextId) s (s.startRuntime raises).2 := by
  have hgiven := Sends.given s
  unfold startRuntime
  show Sends _ s (Prod.snd (if s.state ≠ .new then _ else _))
  split
  next => exact hgiven.fail _ _
  next =>
    split
    next =>
      have hfailed : Sends (.issued s.nextId) s { s.newCommandId.2 with state := .failed, startCommandId := none } :=
        ⟨.inl rfl, .inr (.inl rfl), rfl, hgiven.pending⟩
      exact hfailed.fail _ _
    next => exact ⟨.inr (.inl rfl), .inr (.inr rfl), rfl, hgiven.pending⟩

theorem shutdown_sends (s : QtRuntimeBridge) (j : Journal) (cancelActive : Bool) (hnot : ¬s.Requests) :
    Sends (.issued s.nextId) s (s.shutdown j cancelActive).2 := by
  have hgiven := Sends.given s
  have hrefused : ∀ {state : BridgeState}, s.state = state → state = .starting ∨ state = .ready ∨ state = .closing →
      s.newCommandId.2.shutdownCommandId ≠ none := fun hstate hopen hnone => hnot ⟨hstate ▸ hopen, hnone⟩
  show Sends _ s (s.newCommandId.2.shutdownAs j (.issued s.nextId) cancelActive)
  unfold shutdownAs
  cases hstate : s.newCommandId.2.state with
  | new =>
    have hclosed : Sends (.issued s.nextId) s { s.newCommandId.2 with state := .closed } := hgiven.same rfl rfl rfl rfl
    exact (hclosed.complete j).same rfl rfl rfl rfl
  | closed => exact (hgiven.complete j).same rfl rfl rfl rfl
  | failed => exact hgiven.fail _ _
  | starting =>
    show Sends _ s (if _ then _ else _)
    rw [if_pos (hrefused hstate (.inl rfl))]
    exact hgiven.fail _ _
  | ready =>
    show Sends _ s (if _ then _ else _)
    rw [if_pos (hrefused hstate (.inr (.inl rfl)))]
    exact hgiven.fail _ _
  | closing =>
    show Sends _ s (if _ then _ else _)
    rw [if_pos (hrefused hstate (.inr (.inr rfl)))]
    exact hgiven.fail _ _

/-- A shutdown that is requested: the bridge waits for it, and the thread is asked. -/
theorem shutdown_requests (h : s.Requests) (j : Journal) (cancelActive : Bool) :
    (s.shutdown j cancelActive).2.shutdownCommandId = some (.issued s.nextId) ∧
      (s.shutdown j cancelActive).2.startCommandId = s.startCommandId ∧
      (s.shutdown j cancelActive).2.pendingCommandIds = s.pendingCommandIds ++ [.issued s.nextId] ∧
      (s.shutdown j cancelActive).2.thread
        = (s.thread.requestShutdown { commandId := .issued s.nextId, type := .shutdown, cancelActive }).2 := by
  obtain ⟨hstate, hnone⟩ := h
  have hnone' : ¬(s.newCommandId.2.shutdownCommandId ≠ none) := not_not.mpr hnone
  show (s.newCommandId.2.shutdownAs j (.issued s.nextId) cancelActive).shutdownCommandId = _ ∧ _
  rcases hstate with hstate | hstate | hstate
  all_goals
    have hstate' : s.newCommandId.2.state = _ := hstate
    have heq : (s.shutdown j cancelActive).2 = (s.newCommandId.2.shutdownAs j (.issued s.nextId) cancelActive) := rfl
    rw [heq]
    unfold shutdownAs
    rw [hstate']
    simp only [if_neg hnone']
    exact ⟨rfl, rfl, rfl, rfl⟩

theorem call_sends (s : QtRuntimeBridge) (j : Journal) {c : Call}
    (hnot : ∀ cancelActive, c = .shutdown cancelActive → ¬s.Requests) : Sends (.issued s.nextId) s (s.call j c).2 := by
  cases c with
  | startRuntime raises => exact startRuntime_sends s raises
  | shutdown cancelActive => exact shutdown_sends s j cancelActive (hnot cancelActive rfl)
  | cancelActiveTurn | requestSnapshot | requestProviderSettings =>
    simp only [call, cancelActiveTurn, requestSnapshot, requestProviderSettings]
    exact send_sends s j fun _ => rfl
  | requestAutostart _ _ _ | setAutostartEnabled _ _ _ _ =>
    simp only [call, requestAutostart, setAutostartEnabled]
    exact sendAutostart_sends s j _ _ _ _ fun _ => rfl
  | _ =>
    simp only [call, activateProfile, sendMessage, createProviderProfile, updateProviderProfile, deleteProviderProfile,
      saveProviderCredential, deleteProviderCredential]
    exact sendChecked_sends s j _ _ fun _ => rfl

/-- What the handling of a signal keeps, the request of a shutdown apart. -/
structure Tends (s s' : QtRuntimeBridge) : Prop where
  thread : s'.thread = s.thread
  start : s'.startCommandId = s.startCommandId ∨ s'.startCommandId = none
  shutdown : s'.shutdownCommandId = none ∨ s'.shutdownCommandId = s.shutdownCommandId ∧
    ∀ other, s.shutdownCommandId = some other → other ∈ s.pendingCommandIds → other ∈ s'.pendingCommandIds

theorem Tends.same (hthread : s'.thread = s.thread) (hstart : s'.startCommandId = s.startCommandId)
    (hshutdown : s'.shutdownCommandId = s.shutdownCommandId) (hpending : s'.pendingCommandIds = s.pendingCommandIds) :
    Tends s s' :=
  ⟨hthread, .inl hstart, .inr ⟨hshutdown, fun _ _ hmem => hpending ▸ hmem⟩⟩

theorem Tends.refl (s : QtRuntimeBridge) : Tends s s := .same rfl rfl rfl rfl

theorem Tends.trans (h : Tends s s') (h' : Tends s' s'') : Tends s s'' where
  thread := h'.thread.trans h.thread
  start := by
    rcases h'.start with hsame | hnone
    · rw [hsame]
      exact h.start
    · exact .inr hnone
  shutdown := by
    rcases h'.shutdown with hnone | ⟨hsame, hkept⟩
    · exact .inl hnone
    · rcases h.shutdown with hnone | ⟨hsame', hkept'⟩
      · exact .inl (hsame.trans hnone)
      · exact .inr ⟨hsame.trans hsame', fun other hother hmem =>
          hkept other (hsame'.trans hother) (hkept' other hother hmem)⟩

theorem failCommand_tends (s : QtRuntimeBridge) (hother : s.shutdownCommandId ≠ some commandId)
    (safeCode safeMessage : String) : Tends s (s.failCommand commandId safeCode safeMessage) := by
  obtain ⟨hthread, hstart, hshutdown⟩ := failCommand_same s commandId safeCode safeMessage
  refine ⟨hthread, .inl hstart, .inr ⟨hshutdown, fun other hsome hmem => ?_⟩⟩
  rw [failCommand_pending]
  exact mem_filter_ne hmem fun heq => hother (heq ▸ hsome)

theorem completeCommand_tends (s : QtRuntimeBridge) (j : Journal) (hother : s.shutdownCommandId ≠ some commandId) :
    Tends s (s.completeCommand j commandId) := by
  obtain ⟨hthread, hstart, hshutdown⟩ := completeCommand_same s j commandId
  refine ⟨hthread, .inl hstart, .inr ⟨hshutdown, fun other hsome hmem => ?_⟩⟩
  rw [completeCommand_pending]
  exact mem_filter_ne hmem fun heq => hother (heq ▸ hsome)

/-- The start is no shutdown. -/
def Distinct (s : QtRuntimeBridge) : Prop :=
  ∀ commandId, s.startCommandId = some commandId → s.shutdownCommandId ≠ some commandId

theorem completeStart_tends (h : s.Distinct) (j : Journal) : Tends s (s.completeStart j) := by
  unfold completeStart
  split
  next => exact .refl s
  next commandId hsome =>
    have hcompleted := completeCommand_tends s j (h commandId hsome)
    exact ⟨hcompleted.thread, .inr rfl, hcompleted.shutdown⟩

theorem failStart_tends (h : s.Distinct) (safeCode safeMessage : String) :
    Tends s (s.failStart safeCode safeMessage) := by
  unfold failStart
  split
  next => exact .refl s
  next commandId hsome =>
    have hfailed := failCommand_tends s (h commandId hsome) safeCode safeMessage
    exact ⟨hfailed.thread, .inr rfl, hfailed.shutdown⟩

/-- The thread is the same and nothing waits for a shutdown any more. -/
structure Quits (s s' : QtRuntimeBridge) : Prop where
  thread : s'.thread = s.thread
  start : s'.startCommandId = s.startCommandId ∨ s'.startCommandId = none

theorem Quits.trans (h : Quits s s') (h' : Quits s' s'') : Quits s s'' where
  thread := h'.thread.trans h.thread
  start := by
    rcases h'.start with hsame | hnone
    · rw [hsame]
      exact h.start
    · exact .inr hnone

theorem failAllPending_quits (s : QtRuntimeBridge) (safeCode safeMessage : String) :
    Quits s (s.failAllPending safeCode safeMessage) := by
  have hall : ∀ (ids : List CommandId) (s : QtRuntimeBridge),
      Quits s (ids.foldl (fun s commandId => s.failCommand commandId safeCode safeMessage) s) := by
    intro ids
    induction ids with
    | nil => exact fun _ => ⟨rfl, .inl rfl⟩
    | cons commandId ids ih =>
      intro s
      obtain ⟨hthread, hstart, _⟩ := failCommand_same s commandId safeCode safeMessage
      exact Quits.trans ⟨hthread, .inl hstart⟩ (ih _)
  exact hall _ s

theorem answerOutcome_quits (s : QtRuntimeBridge) (j : Journal) (outcome : ThreadExitOutcome) :
    Quits s (s.answerOutcome j outcome) := by
  unfold answerOutcome
  split
  next =>
    refine Quits.trans ?_ (failAllPending_quits _ _ _)
    cases outcome.commandId with
    | none => exact ⟨rfl, .inl rfl⟩
    | some commandId =>
      obtain ⟨hthread, hstart, _⟩ := completeCommand_same s j commandId
      exact ⟨hthread, .inl hstart⟩
  next =>
    have hnamed : Quits s (outcome.commandId.elim s fun commandId =>
        s.failCommand commandId outcome.safeCode outcome.safeMessage) := by
      cases outcome.commandId with
      | none => exact ⟨rfl, .inl rfl⟩
      | some commandId =>
        obtain ⟨hthread, hstart, _⟩ := failCommand_same s commandId outcome.safeCode outcome.safeMessage
        exact ⟨hthread, .inl hstart⟩
    split <;> exact hnamed.trans (failAllPending_quits _ _ _)

theorem completeStart_quits (s : QtRuntimeBridge) (j : Journal) : Quits s (s.completeStart j) := by
  unfold completeStart
  split
  next => exact ⟨rfl, .inl rfl⟩
  next commandId _ => exact ⟨(completeCommand_same s j commandId).1, .inr rfl⟩

/-- When the thread's end is handled, nothing waits for a shutdown any more. -/
theorem onThreadFinished_tends (s : QtRuntimeBridge) (j : Journal) :
    Tends s (s.onThreadFinished j) ∧ (s.onThreadFinished j).shutdownCommandId = none := by
  have hquits : ∀ u : QtRuntimeBridge, Quits s u → u.shutdownCommandId = none →
      Tends s u ∧ u.shutdownCommandId = none := fun u hu hnone => ⟨⟨hu.thread, hu.start, .inl hnone⟩, hnone⟩
  unfold onThreadFinished
  split
  next => exact hquits _ ⟨(failAllPending_quits _ _ _).thread, .inr rfl⟩ rfl
  next => exact hquits _ ⟨(failAllPending_quits _ _ _).thread, .inr rfl⟩ rfl
  next outcome _ _ =>
    unfold finish
    split
    next => exact hquits _ ⟨(failAllPending_quits _ _ _).thread, .inr rfl⟩ rfl
    next =>
      refine hquits _ ?_ rfl
      have hstarted := (completeStart_quits { s with shutdownOutcome := none, protocolFailure := none } j).trans
        (answerOutcome_quits _ j outcome)
      exact ⟨hstarted.thread, hstarted.start⟩

/-- The handling of a signal that is no invalid first snapshot, nor the success of the shutdown waited for. -/
theorem handle_tends (h : s.Distinct) (j : Journal) {signal : Signal}
    (hsnapshot : ∀ value, signal = .workerReady value → value = .runtimeSnapshot)
    (hresult : ∀ commandId safeCode safeMessage, signal = .commandResult commandId true safeCode safeMessage →
      s.shutdownCommandId ≠ some commandId) : Tends s (s.handle j signal) := by
  have hsame : ∀ u : QtRuntimeBridge, u.thread = s.thread → u.startCommandId = s.startCommandId →
      u.shutdownCommandId = s.shutdownCommandId → u.pendingCommandIds = s.pendingCommandIds → Tends s u :=
    fun _ hthread hstart hshutdown hpending => .same hthread hstart hshutdown hpending
  cases signal with
  | workerReady value =>
    show Tends s (s.onWorkerReady j value)
    unfold onWorkerReady
    rw [if_neg (not_not.mpr (hsnapshot value rfl))]
    split
    next =>
      have hready : Tends s (((({ s with state := .ready }.emit .runtimeReady).emit .runtimeStateChanged).emit
        .providerLifecycleChanged)) := .same rfl rfl rfl rfl
      exact hready.trans (completeStart_tends (by exact h) j)
    next => exact .refl s
  | runtimeEvent value =>
    show Tends s (s.relayRuntimeEvent value)
    unfold relayRuntimeEvent
    split
    next => exact .refl s
    next => split <;> exact hsame _ rfl rfl rfl rfl
  | snapshot value =>
    show Tends s (s.relaySnapshot value)
    unfold relaySnapshot
    split <;> exact hsame _ rfl rfl rfl rfl
  | providerSettings commandId value =>
    show Tends s (s.relayProviderSettings commandId value)
    unfold relayProviderSettings
    split <;> exact hsame _ rfl rfl rfl rfl
  | autostartState commandId value =>
    show Tends s (s.relayAutostartState commandId value)
    unfold relayAutostartState
    split
    next => exact .refl s
    next => split <;> exact hsame _ rfl rfl rfl rfl
  | commandResult commandId success safeCode safeMessage =>
    show Tends s (s.onCommandResult j commandId success safeCode safeMessage)
    unfold onCommandResult
    split
    next => exact .refl s
    next =>
      split
      next hsuccess =>
        subst hsuccess
        exact completeCommand_tends s j (hresult commandId safeCode safeMessage rfl)
      next =>
        split
        next =>
          have hcleared : Tends s ({ s with shutdownCommandId := none }.emit (.shutdownFinished false safeCode)) :=
            ⟨rfl, .inl rfl, .inl rfl⟩
          exact hcleared.trans (failCommand_tends _ (by simp [emit]) safeCode safeMessage)
        next hother => exact failCommand_tends s hother safeCode safeMessage
  | shutdownOutcome outcome => exact hsame _ rfl rfl rfl rfl
  | finished => exact (onThreadFinished_tends s j).1

/-- An invalid first snapshot: the bridge requests a shutdown of its own. -/
theorem rejectWorker_tends (h : s.Distinct) (failure : String × String) :
    ∃ c : RuntimeThreadCommand, c.commandId = .internal s.nextInternalId ∧
      (s.rejectWorker failure).thread = (s.thread.requestShutdown c).2 ∧
      Tends s { s.rejectWorker failure with thread := s.thread } := by
  have hclosing : Tends s { s with state := .closing, protocolFailure := some failure } := .same rfl rfl rfl rfl
  have hfailed := hclosing.trans (failStart_tends (by exact h) failure.1 failure.2)
  refine ⟨{ commandId := .internal s.nextInternalId, type := .shutdown }, rfl, ?_, rfl, hfailed.start, hfailed.shutdown⟩
  show (RuntimeThread.requestShutdown (QtRuntimeBridge.failStart _ failure.1 failure.2).thread _).2 = _
  rw [hfailed.thread]

end QtRuntimeBridge

/-! ## Bridge and thread -/

namespace Platform

open RuntimeThread QtRuntimeBridge

variable {p : Platform}
variable {c : RuntimeThreadCommand}

/-- The id was given out by the bridge, or is no id of its calls. -/
def Given (s : QtRuntimeBridge) (commandId : CommandId) : Prop := ∀ n, commandId = .issued n → n < s.nextId

/-- What bridge and thread know of each other's commands. -/
structure Linked (p : Platform) : Prop where
  sound : p.bridge.thread.Sound
  admits : p.bridge.thread.Admits
  accounted : p.bridge.Accounted
  handled : p.handled ≤ p.bridge.thread.signals.length
  pending : ∀ commandId, p.bridge.shutdownCommandId = some commandId → commandId ∈ p.bridge.pendingCommandIds
  distinct : p.bridge.Distinct
  start : ∀ commandId, p.bridge.startCommandId = some commandId → Given p.bridge commandId
  holding : ∀ c ∈ p.bridge.thread.holding, Given p.bridge c.commandId
  results : ∀ signal ∈ p.bridge.thread.signals, ∀ commandId, signal.result = some commandId → Given p.bridge commandId
  shutdowns : ∀ commandId, p.bridge.shutdownCommandId = some commandId →
    (∀ c ∈ p.bridge.thread.holding, c.commandId = commandId → c.type = .shutdown) ∧
      ∀ safeCode safeMessage, .commandResult commandId true safeCode safeMessage ∉ p.bridge.thread.signals

theorem given_of_pending {s : QtRuntimeBridge} (h : s.Accounted) {commandId : CommandId}
    (hmem : commandId ∈ s.pendingCommandIds) : ∃ n, commandId = .issued n ∧ n < s.nextId := by
  have hissued := h.once.mem_iff.mp (mem_append_left s.answered hmem)
  obtain ⟨n, hn, rfl⟩ := mem_map.mp hissued
  exact ⟨n, rfl, List.mem_range.mp hn⟩

theorem Given.mono {s s' : QtRuntimeBridge} {commandId : CommandId} (h : Given s commandId)
    (hnext : s.nextId ≤ s'.nextId) : Given s' commandId :=
  fun n hn => lt_of_lt_of_le (h n hn) hnext

/-- The thread is given the command `c` at most; the shutdown waited for is the one before, or `c`. -/
theorem Linked.of_widens (h : p.Linked) {s' : QtRuntimeBridge} {handled : Nat}
    (hsound : s'.thread.Sound) (hadmits : s'.thread.Admits) (hwidens : Widens p.bridge.thread s'.thread c)
    (hgiven : Given s' c.commandId) (hhandled : handled ≤ s'.thread.signals.length) (haccounted : s'.Accounted)
    (hnext : p.bridge.nextId ≤ s'.nextId)
    (hpending : ∀ commandId, s'.shutdownCommandId = some commandId → commandId ∈ s'.pendingCommandIds)
    (hdistinct : s'.Distinct) (hstart : ∀ commandId, s'.startCommandId = some commandId → Given s' commandId)
    (hshutdown : ∀ commandId, s'.shutdownCommandId = some commandId →
      p.bridge.shutdownCommandId = some commandId ∧ c.commandId ≠ commandId ∨
        c.commandId = commandId ∧ c.type = .shutdown ∧ ¬Given p.bridge commandId) :
    Linked { bridge := s', handled } where
  sound := hsound
  admits := hadmits
  accounted := haccounted
  handled := hhandled
  pending := hpending
  distinct := hdistinct
  start := hstart
  holding d hd := by
    rcases hwidens.adds d hd with hold | rfl
    · exact (h.holding d hold).mono hnext
    · exact hgiven
  results signal hmem commandId hresult := by
    have hold : signal ∈ p.bridge.thread.signals := hwidens.signals ▸ hmem
    exact (h.results signal hold commandId hresult).mono hnext
  shutdowns commandId hsome := by
    show _ ∧ ∀ safeCode safeMessage, .commandResult commandId true safeCode safeMessage ∉ s'.thread.signals
    rw [hwidens.signals]
    rcases hshutdown commandId hsome with ⟨hwaits, hother⟩ | ⟨hthis, htype, hfresh⟩
    · refine ⟨fun d hd hid => ?_, (h.shutdowns commandId hwaits).2⟩
      rcases hwidens.adds d hd with hold | rfl
      · exact (h.shutdowns commandId hwaits).1 d hold hid
      · exact absurd hid hother
    · refine ⟨fun d hd hid => ?_, fun safeCode safeMessage hmem => hfresh (h.results _ hmem commandId rfl)⟩
      rcases hwidens.adds d hd with hold | rfl
      · exact absurd (hid ▸ h.holding d hold) hfresh
      · exact htype

theorem Linked.work (h : p.Linked) (a : Answer) : (p.step (.work a)).Linked := by
  obtain ⟨new, hpasses⟩ := work_passes h.sound a
  have hresults : ∀ signal ∈ new, ∀ commandId, signal.result = some commandId →
      ∃ c ∈ p.bridge.thread.holding, c.commandId = commandId := by
    intro signal hmem commandId hresult
    cases signal with
    | commandResult id success safeCode safeMessage =>
      obtain ⟨c, hc, hid, _⟩ := hpasses.results id success safeCode safeMessage hmem
      cases hresult
      exact ⟨c, hc, hid⟩
    | _ => cases hresult
  refine ⟨h.sound.step (.work a), h.admits.step h.sound (.work a), ⟨h.accounted.once, h.accounted.inTime⟩, ?_,
    h.pending, h.distinct, h.start, fun c hc => h.holding c (hpasses.holding hc), ?_, ?_⟩
  · refine h.handled.trans ?_
    show _ ≤ (p.bridge.thread.work a).signals.length
    rw [hpasses.signals, List.length_append]
    omega
  · intro signal hmem commandId hresult
    change signal ∈ (p.bridge.thread.work a).signals at hmem
    rw [hpasses.signals] at hmem
    rcases mem_append.mp hmem with hold | hnew
    · exact h.results signal hold commandId hresult
    · obtain ⟨c, hc, rfl⟩ := hresults signal hnew commandId hresult
      exact h.holding c hc
  · intro commandId hsome
    obtain ⟨htypes, hnone⟩ := h.shutdowns commandId hsome
    refine ⟨fun c hc hid => htypes c (hpasses.holding hc) hid, fun safeCode safeMessage hmem => ?_⟩
    change _ ∈ (p.bridge.thread.work a).signals at hmem
    rw [hpasses.signals] at hmem
    rcases mem_append.mp hmem with hold | hnew
    · exact hnone safeCode safeMessage hold
    · obtain ⟨c, hc, hid, hfailure⟩ := hpasses.results _ _ _ _ hnew
      cases hfailure (htypes c hc hid)

theorem Linked.tends (h : p.Linked) {s' : QtRuntimeBridge} {handled : Nat}
    (htends : Tends p.bridge { s' with thread := p.bridge.thread }) (haccounted : s'.Accounted)
    (hnext : s'.nextId = p.bridge.nextId) (hc : ∃ n, c.commandId = .internal n) (hsound : s'.thread.Sound)
    (hadmits : s'.thread.Admits) (hwidens : Widens p.bridge.thread s'.thread c)
    (hhandled : handled ≤ p.bridge.thread.signals.length) : Linked { bridge := s', handled } := by
  obtain ⟨n, hn⟩ := hc
  have hkept : ∀ commandId, s'.shutdownCommandId = some commandId → p.bridge.shutdownCommandId = some commandId := by
    intro commandId hsome
    rcases htends.shutdown with hnone | ⟨hsame, _⟩
    · change s'.shutdownCommandId = none at hnone
      rw [hnone] at hsome
      cases hsome
    · exact hsame ▸ hsome
  have hstarts : ∀ commandId, s'.startCommandId = some commandId → p.bridge.startCommandId = some commandId := by
    intro commandId hsome
    rcases htends.start with hsame | hnone
    · exact hsame ▸ hsome
    · change s'.startCommandId = none at hnone
      rw [hnone] at hsome
      cases hsome
  refine h.of_widens hsound hadmits hwidens ?_ ?_ haccounted hnext.ge ?_ ?_ ?_ ?_
  · intro m hm
    rw [hn] at hm
    cases hm
  · rw [hwidens.signals]
    exact hhandled
  · intro commandId hsome
    have hold := hkept commandId hsome
    rcases htends.shutdown with hnone | ⟨_, hpending⟩
    · change s'.shutdownCommandId = none at hnone
      rw [hnone] at hsome
      cases hsome
    · exact hpending commandId hold (h.pending commandId hold)
  · exact fun commandId hstart hsome => h.distinct commandId (hstarts commandId hstart) (hkept commandId hsome)
  · exact fun commandId hstart => (h.start commandId (hstarts commandId hstart)).mono hnext.ge
  · intro commandId hsome
    have hold := hkept commandId hsome
    obtain ⟨m, hm, _⟩ := given_of_pending h.accounted (h.pending commandId hold)
    exact .inl ⟨hold, by rw [hn, hm]; exact CommandId.noConfusion⟩

/-- The id a call gives out is new. -/
theorem not_given (s : QtRuntimeBridge) : ¬Given s (.issued s.nextId) := fun h => lt_irrefl _ (h _ rfl)

theorem Sends.widens {s s' : QtRuntimeBridge} {commandId : CommandId} (h : Sends commandId s s')
    (hsound : s.thread.Sound) (hadmits : s.thread.Admits) :
    s'.thread.Sound ∧ s'.thread.Admits ∧ ∃ c, c.commandId = commandId ∧ Widens s.thread s'.thread c := by
  rcases h.thread with hsame | hstarts | ⟨c, hid, hsubmits⟩
  · rw [hsame]
    exact ⟨hsound, hadmits, { commandId, type := .requestSnapshot }, rfl, .refl _ _⟩
  · rw [hstarts]
    exact ⟨hsound.start, hadmits.step hsound .start, { commandId, type := .requestSnapshot }, rfl, start_widens _ _⟩
  · rw [hsubmits]
    exact ⟨hsound.step (.submit c), hadmits.step hsound (.submit c), c, hid, submit_widens _ _⟩

theorem Linked.sends (h : p.Linked) (j : Journal) {c : Call}
    (hsends : Sends (.issued p.bridge.nextId) p.bridge (p.bridge.call j c).2) : (p.step (.call j c)).Linked := by
  obtain ⟨hsound, hadmits, command, hid, hwidens⟩ := Sends.widens hsends h.sound h.admits
  have hserves := call_serves p.bridge j c
  have hnext : (p.bridge.call j c).2.nextId = p.bridge.nextId + 1 := hserves.settles.nextId
  have hfresh : ∀ commandId, Given p.bridge commandId → commandId ≠ .issued p.bridge.nextId :=
    fun commandId hgiven heq => not_given p.bridge (heq ▸ hgiven)
  have hgiven : ∀ commandId, commandId ∈ p.bridge.pendingCommandIds → Given p.bridge commandId := by
    intro commandId hmem n hn
    obtain ⟨m, rfl, hm⟩ := given_of_pending h.accounted hmem
    cases hn
    exact hm
  refine h.of_widens hsound hadmits hwidens ?_ ?_ (hserves.settles.accounted (newCommandId_accounted h.accounted)) ?_ ?_
    ?_ ?_ ?_
  · rw [hid]
    intro n hn
    cases hn
    rw [hnext]
    exact Nat.lt_succ_self _
  · rw [hwidens.signals]
    exact h.handled
  · rw [hnext]
    exact Nat.le_succ _
  · intro commandId hsome
    rw [hsends.shutdown] at hsome
    have hmem := h.pending commandId hsome
    exact hsends.pending commandId hmem (hfresh commandId (hgiven commandId hmem))
  · intro commandId hstart hsome
    rw [hsends.shutdown] at hsome
    rcases hsends.start with hsame | hnone | hnew
    · exact h.distinct commandId (hsame ▸ hstart) hsome
    · rw [hnone] at hstart
      cases hstart
    · rw [hnew] at hstart
      cases hstart
      exact hfresh _ (hgiven _ (h.pending _ hsome)) rfl
  · intro commandId hstart n hn
    rw [hnext]
    rcases hsends.start with hsame | hnone | hnew
    · exact Nat.lt_succ_of_lt (h.start commandId (hsame ▸ hstart) n hn)
    · rw [hnone] at hstart
      cases hstart
    · rw [hnew] at hstart
      cases hstart
      cases hn
      exact Nat.lt_succ_self _
  · intro commandId hsome
    rw [hsends.shutdown] at hsome
    exact .inl ⟨hsome, fun heq => hfresh _ (hgiven _ (h.pending _ hsome)) (heq.symm.trans hid)⟩

theorem Linked.requests (h : p.Linked) (j : Journal) (cancelActive : Bool) (hrequests : p.bridge.Requests) :
    (p.step (.call j (.shutdown cancelActive))).Linked := by
  obtain ⟨hshutdown, hstart, hpending, hthread⟩ := shutdown_requests hrequests j cancelActive
  have hserves := call_serves p.bridge j (.shutdown cancelActive)
  have hnext : (p.bridge.shutdown j cancelActive).2.nextId = p.bridge.nextId + 1 := hserves.settles.nextId
  have hwidens := requestShutdown_widens h.sound { commandId := .issued p.bridge.nextId, type := .shutdown, cancelActive }
  rw [← hthread] at hwidens
  refine h.of_widens ?_ ?_ hwidens ?_ ?_ (hserves.settles.accounted (newCommandId_accounted h.accounted)) ?_ ?_ ?_ ?_ ?_
  · show (p.bridge.shutdown j cancelActive).2.thread.Sound
    rw [hthread]
    exact h.sound.step (.requestShutdown _)
  · show (p.bridge.shutdown j cancelActive).2.thread.Admits
    rw [hthread]
    exact h.admits.step h.sound (.requestShutdown _)
  · intro n hn
    cases hn
    show _ < (p.bridge.shutdown j cancelActive).2.nextId
    rw [hnext]
    exact Nat.lt_succ_self _
  · show _ ≤ (p.bridge.shutdown j cancelActive).2.thread.signals.length
    rw [hwidens.signals]
    exact h.handled
  · show _ ≤ (p.bridge.shutdown j cancelActive).2.nextId
    rw [hnext]
    exact Nat.le_succ _
  · intro commandId hsome
    change (p.bridge.shutdown j cancelActive).2.shutdownCommandId = some commandId at hsome
    rw [hshutdown] at hsome
    cases hsome
    show _ ∈ (p.bridge.shutdown j cancelActive).2.pendingCommandIds
    rw [hpending]
    exact mem_append_right _ List.mem_cons_self
  · intro commandId hstarts hsome
    change (p.bridge.shutdown j cancelActive).2.startCommandId = some commandId at hstarts
    change (p.bridge.shutdown j cancelActive).2.shutdownCommandId = some commandId at hsome
    rw [hstart] at hstarts
    rw [hshutdown] at hsome
    cases hsome
    exact not_given _ (h.start _ hstarts)
  · intro commandId hstarts
    change (p.bridge.shutdown j cancelActive).2.startCommandId = some commandId at hstarts
    rw [hstart] at hstarts
    refine (h.start commandId hstarts).mono ?_
    show _ ≤ (p.bridge.shutdown j cancelActive).2.nextId
    rw [hnext]
    exact Nat.le_succ _
  · intro commandId hsome
    change (p.bridge.shutdown j cancelActive).2.shutdownCommandId = some commandId at hsome
    rw [hshutdown] at hsome
    cases hsome
    exact .inr ⟨rfl, rfl, not_given _⟩

/-- The next signal is among those the bridge may be handed. -/
theorem Linked.not_success (h : p.Linked) {signal : Signal} (hmem : signal ∈ p.bridge.thread.signals) :
    ∀ commandId safeCode safeMessage, signal = .commandResult commandId true safeCode safeMessage →
      p.bridge.shutdownCommandId ≠ some commandId :=
  fun commandId safeCode safeMessage heq hsome => (h.shutdowns commandId hsome).2 safeCode safeMessage (heq ▸ hmem)

/-- A signal is handled: the shutdown waited for stays, or is waited for no more. -/
theorem handle_linked (h : p.Linked) (j : Journal) {signal : Signal} (hmem : signal ∈ p.bridge.thread.signals) :
    Tends p.bridge { p.bridge.handle j signal with thread := p.bridge.thread } ∧
      (p.bridge.handle j signal).thread.Sound ∧ (p.bridge.handle j signal).thread.Admits ∧
      ∃ c : RuntimeThreadCommand, (∃ n, c.commandId = .internal n) ∧
        Widens p.bridge.thread (p.bridge.handle j signal).thread c := by
  by_cases hinvalid : ∃ value, signal = .workerReady value ∧ value ≠ .runtimeSnapshot
  · obtain ⟨value, rfl, hvalue⟩ := hinvalid
    have hreject : p.bridge.handle j (.workerReady value) = p.bridge.rejectWorker
        ("runtime_bootstrap_failed", "The runtime returned an invalid startup snapshot.") := if_pos hvalue
    obtain ⟨c, hid, hthread, htends⟩ := rejectWorker_tends h.distinct
      ("runtime_bootstrap_failed", "The runtime returned an invalid startup snapshot.")
    rw [hreject, hthread]
    exact ⟨htends, h.sound.step (.requestShutdown c), h.admits.step h.sound (.requestShutdown c), c, ⟨_, hid⟩,
      requestShutdown_widens h.sound c⟩
  · have hvalid : ∀ value, signal = .workerReady value → value = .runtimeSnapshot := by
      intro value heq
      by_contra hvalue
      exact hinvalid ⟨value, heq, hvalue⟩
    have htends := handle_tends h.distinct j hvalid (h.not_success hmem)
    rw [htends.thread]
    exact ⟨⟨rfl, htends.start, htends.shutdown⟩, h.sound, h.admits,
      { commandId := .internal 0, type := .shutdown }, ⟨0, rfl⟩, .refl _ _⟩

theorem handleNext_cases (p : Platform) (j : Journal) : p.handleNext j = p ∨
    ∃ signal ∈ p.bridge.thread.signals, p.unhandled = signal :: p.bridge.thread.signals.drop (p.handled + 1) ∧
      p.handled + 1 ≤ p.bridge.thread.signals.length ∧
      p.handleNext j = { bridge := p.bridge.handle j signal, handled := p.handled + 1 } := by
  unfold handleNext
  cases hnext : p.bridge.thread.signals[p.handled]? with
  | none => exact .inl rfl
  | some signal =>
    obtain ⟨hlt, rfl⟩ := List.getElem?_eq_some_iff.mp hnext
    exact .inr ⟨_, List.getElem_mem hlt, List.drop_eq_getElem_cons hlt, hlt, rfl⟩

theorem Linked.step (h : p.Linked) (e : PlatformEvent) : (p.step e).Linked := by
  cases e with
  | call j c =>
    by_cases hrequests : ∃ cancelActive, c = .shutdown cancelActive ∧ p.bridge.Requests
    · obtain ⟨cancelActive, rfl, hrequests⟩ := hrequests
      exact h.requests j cancelActive hrequests
    · refine h.sends j (call_sends p.bridge j fun cancelActive heq hthis => ?_)
      exact hrequests ⟨cancelActive, heq, hthis⟩
  | work a => exact h.work a
  | handleNext j =>
    show (p.handleNext j).Linked
    rcases handleNext_cases p j with hsame | ⟨signal, hmem, _, hle, heq⟩
    · rw [hsame]
      exact h
    · rw [heq]
      obtain ⟨htends, hsound, hadmits, c, hid, hwidens⟩ := handle_linked h j hmem
      have hsettles := handle_settles p.bridge j signal
      exact h.tends htends (hsettles.accounted h.accounted) hsettles.nextId hid hsound hadmits hwidens hle

/-! ## What is held -/

/-- Another thread's call takes nothing from what is owed. -/
theorem Owed.widens {s' : QtRuntimeBridge} {commandId : CommandId} (h : p.Owed commandId)
    (hwidens : Widens p.bridge.thread s'.thread c) : Owed { p with bridge := s' } commandId := by
  have hunhandled : unhandled { p with bridge := s' } = p.unhandled := congrArg (List.drop p.handled) hwidens.signals
  unfold Owed
  rw [hunhandled]
  rcases h with hholds | hresult | hends | hfinished
  · obtain ⟨d, hd, hid⟩ := mem_map.mp hholds
    exact .inl (mem_map.mpr ⟨d, hwidens.keeps hd, hid⟩)
  · exact .inr (.inl hresult)
  · exact .inr (.inr (.inl (hwidens.ends.trans hends)))
  · exact .inr (.inr (.inr hfinished))

theorem Held.work (h : p.Held) (hl : p.Linked) (a : Answer) : (p.step (.work a)).Held := by
  intro commandId hsome
  obtain ⟨new, hpasses⟩ := work_passes hl.sound a
  have hunhandled : (p.step (.work a)).unhandled = p.unhandled ++ new := by
    show (p.bridge.thread.work a).signals.drop p.handled = _
    rw [hpasses.signals, List.drop_append_of_le_length hl.handled]
    rfl
  unfold Owed
  rw [hunhandled, List.map_append]
  rcases h commandId hsome with hholds | hresult | hends | hfinished
  · obtain ⟨c, hc, rfl⟩ := mem_map.mp hholds
    rcases hpasses.answers c hc with hstill | hanswered | hends | hfinished
    · exact .inl (mem_map.mpr ⟨c, hstill, rfl⟩)
    · exact .inr (.inl (mem_append_right _ hanswered))
    · exact .inr (.inr (.inl hends))
    · exact .inr (.inr (.inr (mem_append_right _ hfinished)))
  · exact .inr (.inl (mem_append_left _ hresult))
  · rcases hpasses.ends hends with hstill | hfinished
    · exact .inr (.inr (.inl hstill))
    · exact .inr (.inr (.inr (mem_append_right _ hfinished)))
  · exact .inr (.inr (.inr (mem_append_left _ hfinished)))

/-- What the handling of a signal takes away, the bridge waits for no more. -/
theorem Held.handleNext (h : p.Held) (hl : p.Linked) (j : Journal) : (p.handleNext j).Held := by
  rcases handleNext_cases p j with hsame | ⟨signal, hmem, hunhandled, _, heq⟩
  · rw [hsame]
    exact h
  · rw [heq]
    intro commandId hsome
    change (p.bridge.handle j signal).shutdownCommandId = some commandId at hsome
    obtain ⟨htends, _, _, c, _, hwidens⟩ := handle_linked hl j hmem
    have hwaits : p.bridge.shutdownCommandId = some commandId := by
      rcases htends.shutdown with hnone | ⟨hsame, _⟩
      · change (p.bridge.handle j signal).shutdownCommandId = none at hnone
        rw [hnone] at hsome
        cases hsome
      · exact hsame ▸ hsome
    have hrest : unhandled { bridge := p.bridge.handle j signal, handled := p.handled + 1 }
        = p.bridge.thread.signals.drop (p.handled + 1) := congrArg (List.drop (p.handled + 1)) hwidens.signals
    have howed := h commandId hwaits
    unfold Owed at howed ⊢
    rw [hrest]
    rw [hunhandled] at howed
    rcases howed with hholds | hresult | hends | hfinished
    · obtain ⟨d, hd, hid⟩ := mem_map.mp hholds
      exact .inl (mem_map.mpr ⟨d, hwidens.keeps hd, hid⟩)
    · rcases List.mem_cons.mp hresult with hthis | hlater
      · exfalso
        cases signal with
        | commandResult id success safeCode safeMessage =>
          cases hthis
          cases success with
          | true => exact hl.not_success hmem commandId safeCode safeMessage rfl hwaits
          | false =>
            have hpending := hl.pending commandId hwaits
            have hnone : (p.bridge.handle j (.commandResult commandId false safeCode safeMessage)).shutdownCommandId
                = none := by
              show (p.bridge.onCommandResult j commandId false safeCode safeMessage).shutdownCommandId = none
              unfold onCommandResult
              rw [if_neg (not_not.mpr hpending), if_neg Bool.false_ne_true, if_pos hwaits]
              exact (failCommand_same _ _ _ _).2.2
            rw [hnone] at hsome
            cases hsome
        | _ => cases hthis
      · exact .inr (.inl hlater)
    · exact .inr (.inr (.inl (hwidens.ends.trans hends)))
    · rcases List.mem_cons.mp hfinished with hthis | hlater
      · subst hthis
        have hnone : (p.bridge.handle j .finished).shutdownCommandId = none := (onThreadFinished_tends p.bridge j).2
        rw [hnone] at hsome
        cases hsome
      · exact .inr (.inr (.inr hlater))

theorem Held.sends (h : p.Held) (hl : p.Linked) (j : Journal) {c : Call}
    (hsends : Sends (.issued p.bridge.nextId) p.bridge (p.bridge.call j c).2) : (p.step (.call j c)).Held := by
  intro commandId hsome
  obtain ⟨_, _, command, _, hwidens⟩ := Sends.widens hsends hl.sound hl.admits
  have hwaits : p.bridge.shutdownCommandId = some commandId := hsends.shutdown ▸ hsome
  exact (h commandId hwaits).widens hwidens

/-- A shutdown that reaches the thread is held exactly if none is in flight, or the thread is about to end. -/
theorem requests_held (hl : p.Linked) (j : Journal) (cancelActive : Bool) (hrequests : p.bridge.Requests) :
    (p.step (.call j (.shutdown cancelActive))).Held ↔ p.bridge.thread.shutdownInFlight = false ∨
      p.bridge.thread.stage.ends = true ∨ .finished ∈ p.unhandled := by
  obtain ⟨hshutdown, _, _, hthread⟩ := shutdown_requests hrequests j cancelActive
  have hwidens := requestShutdown_widens hl.sound
    { commandId := .issued p.bridge.nextId, type := .shutdown, cancelActive }
  rw [← hthread] at hwidens
  have hunhandled : (p.step (.call j (.shutdown cancelActive))).unhandled = p.unhandled :=
    congrArg (List.drop p.handled) hwidens.signals
  constructor
  · intro hheld
    have howed := hheld (.issued p.bridge.nextId) hshutdown
    by_contra hobstructed
    rw [not_or, not_or] at hobstructed
    obtain ⟨hflight, hends, hfinished⟩ := hobstructed
    have hrefused := requestShutdown_refused (Bool.not_eq_false _ ▸ hflight)
      { commandId := .issued p.bridge.nextId, type := .shutdown, cancelActive }
    rw [← hthread] at hrefused
    unfold Owed at howed
    rw [hunhandled] at howed
    change _ ∈ ((p.bridge.shutdown j cancelActive).2.thread.holding.map _) ∨ _ ∨
      (p.bridge.shutdown j cancelActive).2.thread.stage.ends = true ∨ _ at howed
    rw [hrefused] at howed
    rcases howed with hholds | hresult | hends' | hfinished'
    · obtain ⟨d, hd, hid⟩ := mem_map.mp hholds
      exact not_given p.bridge (hid ▸ hl.holding d hd)
    · obtain ⟨signal, hmem, hresult⟩ := mem_map.mp hresult
      exact not_given p.bridge (hl.results signal (List.mem_of_mem_drop hmem) _ hresult)
    · exact hends hends'
    · exact hfinished hfinished'
  · intro hopen commandId hsome
    change (p.bridge.shutdown j cancelActive).2.shutdownCommandId = some commandId at hsome
    rw [hshutdown] at hsome
    cases hsome
    unfold Owed
    rw [hunhandled]
    rcases hopen with hflight | hends | hfinished
    · left
      show _ ∈ (p.bridge.shutdown j cancelActive).2.thread.holding.map _
      rw [hthread]
      exact mem_map.mpr ⟨_, requestShutdown_holds hl.admits hflight rfl, rfl⟩
    · exact .inr (.inr (.inl (hwidens.ends.trans hends)))
    · exact .inr (.inr (.inr hfinished))

/-- A step keeps the shutdowns exactly if it is unobstructed. -/
theorem step_held (h : p.Held) (hl : p.Linked) (e : PlatformEvent) : (p.step e).Held ↔ p.Unobstructed e := by
  cases e with
  | call j c =>
    by_cases hrequests : ∃ cancelActive, c = .shutdown cancelActive ∧ p.bridge.Requests
    · obtain ⟨cancelActive, rfl, hrequests⟩ := hrequests
      rw [requests_held hl j cancelActive hrequests]
      exact ⟨fun hopen _ => hopen, fun hopen => hopen hrequests⟩
    · have hnot : ∀ cancelActive, c = .shutdown cancelActive → ¬p.bridge.Requests :=
        fun cancelActive heq hthis => hrequests ⟨cancelActive, heq, hthis⟩
      refine ⟨fun _ => ?_, fun _ => h.sends hl j (call_sends p.bridge j hnot)⟩
      cases c with
      | shutdown cancelActive => exact fun hthis => absurd hthis (hnot cancelActive rfl)
      | _ => trivial
  | work a => exact ⟨fun _ => trivial, fun _ => h.work hl a⟩
  | handleNext j => exact ⟨fun _ => trivial, fun _ => h.handleNext hl j⟩

theorem run_held (es : List PlatformEvent) : ∀ {p : Platform}, p.Linked → p.Held →
    (StepsMeet step Unobstructed p es ↔ ∀ before, before <+: es → (run step p before).Held) := by
  induction es with
  | nil =>
    intro p _ h
    refine ⟨fun _ before hbefore => ?_, fun _ => trivial⟩
    rw [List.prefix_nil.mp hbefore]
    exact h
  | cons e es ih =>
    intro p hl h
    constructor
    · rintro ⟨hfirst, hrest⟩ before hbefore
      cases before with
      | nil => exact h
      | cons d before =>
        obtain ⟨heq, htail⟩ := List.cons_prefix_cons.mp hbefore
        subst heq
        exact (ih (hl.step d) ((step_held h hl d).mpr hfirst)).mp hrest before htail
    · intro hall
      have hheld : (p.step e).Held := hall [e] (List.cons_prefix_cons.mpr ⟨rfl, List.nil_prefix⟩)
      refine ⟨(step_held h hl e).mp hheld, (ih (hl.step e) hheld).mpr fun before hbefore => ?_⟩
      exact hall (e :: before) (List.cons_prefix_cons.mpr ⟨rfl, hbefore⟩)

theorem unstarted_linked (service : Autostart.AutostartService) (hasJournal : Bool) :
    (unstarted service hasJournal).Linked where
  sound := fresh_sound service
  admits := ⟨fun _ _ => rfl, fun _ hloop => (by cases hloop), False.elim⟩
  accounted := ⟨List.Perm.refl _, List.Pairwise.nil⟩
  handled := le_rfl
  pending _ hsome := by cases hsome
  distinct _ hsome := by cases hsome
  start _ hsome := by cases hsome
  holding c hc := by cases hc
  results signal hmem := by cases hmem
  shutdowns _ hsome := by cases hsome

/-- In every state of a run the shutdown that the bridge waits for is held, exactly if at each step that requests one
the thread has none in flight or is about to end. -/
theorem run_held_iff (service : Autostart.AutostartService) (hasJournal : Bool) (es : List PlatformEvent) :
    (∀ before, before <+: es → (run step (unstarted service hasJournal) before).Held) ↔
      StepsMeet step Unobstructed (unstarted service hasJournal) es :=
  (run_held es (unstarted_linked service hasJournal) fun _ hsome => by cases hsome).symm

def busy : Answer := { handling := { call := .ok (.failure "runtime_busy" "The runtime is busy.") } }

/-- A shutdown fails, its result is handled, and the next is requested before the thread allows it. -/
def impatient : List PlatformEvent :=
  [.call takesAll (.startRuntime false), .work {}, .work {}, .work {}, .work {}, .handleNext takesAll,
    .call takesAll (.shutdown true), .work {}, .work busy, .handleNext takesAll, .handleNext takesAll,
    .call takesAll (.shutdown true), .work {}]

/-- The second shutdown is lost: the worker waits, and every later one is told that a shutdown is in progress. -/
theorem shutdown_lost :
    let lost := run step (unstarted { available := false, hasJournal := false } false) impatient
    lost.bridge.shutdownCommandId = some (.issued 2) ∧ ¬lost.Owed (.issued 2) ∧ lost.bridge.thread.stage = .waiting ∧
      lost.unhandled = [] ∧ (lost.bridge.shutdown takesAll true).2.emitted.getLast?
        = some (.commandFailed (.issued 3) "shutdown_in_progress" "Runtime shutdown is already in progress.") := by
  decide +kernel

end Platform

end ArkClaw.Presentation.Runtime
