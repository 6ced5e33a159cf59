import ArkClaw.Presentation.RuntimeBridge
import Mathlib.Data.List.Perm.Basic
import Mathlib.Data.List.Range

/-!
# The runtime bridge over whole runs

Every id the bridge has given out is pending or answered, and not both (`Accounted`). `Settles` is what everything the
bridge does after it has given out an id keeps of this. Nothing is asked of the thread's signals but that the worker is
not ready after the thread has finished; what the thread reports of a command may come twice, late or of no command.
-/

namespace ArkClaw.Presentation.Runtime

open ArkClaw.Library

/-- The command a signal of the bridge answers. -/
def BridgeSignal.answer : BridgeSignal → Option CommandId
  | .commandCompleted commandId => some commandId
  | .commandFailed commandId _ _ => some commandId
  | _ => none

/-- The command a signal of the bridge relays a value for. -/
def BridgeSignal.relays : BridgeSignal → Option CommandId
  | .providerSettingsChanged commandId => some commandId
  | .autostartStateChanged commandId _ => some commandId
  | _ => none

namespace QtRuntimeBridge

variable {s s' s'' : QtRuntimeBridge}
variable {commandId : CommandId} {signal : BridgeSignal}

/-- The commands answered so far. -/
def answered (s : QtRuntimeBridge) : List CommandId := s.emitted.filterMap BridgeSignal.answer

/-- No value is relayed for a command that was answered before. -/
def InTime (signals : List BridgeSignal) : Prop :=
  signals.Pairwise fun a b => ∀ commandId, a.answer = some commandId → b.relays ≠ some commandId

structure Accounted (s : QtRuntimeBridge) : Prop where
  once : (s.pendingCommandIds ++ s.answered).Perm ((List.range s.nextId).map .issued)
  inTime : InTime s.emitted

/-- What follows the giving out of an id. -/
structure Settles (s s' : QtRuntimeBridge) : Prop where
  accounted : s.Accounted → s'.Accounted
  nextId : s'.nextId = s.nextId
  emits : s.emitted <+: s'.emitted

theorem Settles.refl (s : QtRuntimeBridge) : Settles s s := ⟨id, rfl, List.prefix_refl _⟩

theorem Settles.trans (h : Settles s s') (h' : Settles s' s'') : Settles s s'' :=
  ⟨h'.accounted ∘ h.accounted, h'.nextId.trans h.nextId, h.emits.trans h'.emits⟩

/-! ## Ids and answers -/

theorem Accounted.nodup (h : s.Accounted) : (s.pendingCommandIds ++ s.answered).Nodup := by
  rw [h.once.nodup_iff]
  exact (List.nodup_range).map fun a b hab => by injection hab

/-- A pending command is not answered. -/
theorem Accounted.open_of_mem (h : s.Accounted) (hmem : commandId ∈ s.pendingCommandIds) :
    commandId ∉ s.answered :=
  fun hanswered => List.disjoint_of_nodup_append h.nodup hmem hanswered

theorem answered_emit (s : QtRuntimeBridge) (signal : BridgeSignal) :
    (s.emit signal).answered = s.answered ++ signal.answer.toList := by
  unfold answered emit
  cases h : signal.answer <;> simp [List.filterMap_append, h]

/-- Only a relay may come too late. -/
theorem inTime_emit (h : s.Accounted)
    (hrelays : ∀ commandId, signal.relays = some commandId → commandId ∈ s.pendingCommandIds) :
    InTime (s.emit signal).emitted := by
  refine List.pairwise_append.mpr ⟨h.inTime, List.pairwise_singleton _ _, ?_⟩
  intro a ha b hb commandId hanswer hrelay
  rw [List.mem_singleton.mp hb] at hrelay
  exact h.open_of_mem (hrelays commandId hrelay) (List.mem_filterMap.mpr ⟨a, ha, hanswer⟩)

theorem newCommandId_accounted (h : s.Accounted) : s.newCommandId.2.Accounted where
  once := by
    show ((s.pendingCommandIds ++ [CommandId.issued s.nextId]) ++ s.answered).Perm
      ((List.range (s.nextId + 1)).map .issued)
    rw [List.range_succ, List.map_append, List.append_assoc]
    refine List.Perm.trans ?_ (h.once.append_right [.issued s.nextId])
    rw [List.append_assoc]
    exact List.Perm.append_left _ List.perm_append_comm
  inTime := h.inTime

/-- The bridge changes something else than its ids and its signals. -/
theorem Settles.of_same (hpending : s'.pendingCommandIds = s.pendingCommandIds) (hemitted : s'.emitted = s.emitted)
    (hnext : s'.nextId = s.nextId) : Settles s s' := by
  refine ⟨fun h => ⟨?_, hemitted ▸ h.inTime⟩, hnext, hemitted ▸ List.prefix_refl _⟩
  rw [answered, hpending, hemitted, hnext]
  exact h.once

/-- A signal that answers nothing. -/
theorem emit_settles (hanswer : signal.answer = none)
    (hrelays : ∀ commandId, signal.relays = some commandId → commandId ∈ s.pendingCommandIds) :
    Settles s (s.emit signal) := by
  refine ⟨fun h => ⟨?_, inTime_emit h hrelays⟩, rfl, List.prefix_append _ _⟩
  rw [answered_emit, hanswer]
  simpa [emit] using h.once

theorem notice_settles (signal : BridgeSignal) (hanswer : signal.answer = none) (hrelays : signal.relays = none) :
    Settles s (s.emit signal) :=
  emit_settles hanswer fun commandId hrelay => by
    rw [hrelays] at hrelay
    cases hrelay

/-- A pending command is answered. -/
theorem forget_settles (hmem : commandId ∈ s.pendingCommandIds)
    (hanswer : signal.answer = some commandId) (hrelays : signal.relays = none) :
    Settles s ((s.forget commandId).emit signal) := by
  refine ⟨fun h => ⟨?_, ?_⟩, rfl, List.prefix_append _ _⟩
  · have hanswered : (s.forget commandId).answered = s.answered := rfl
    rw [answered_emit, hanswer, hanswered]
    show ((s.pendingCommandIds.filter (· ≠ commandId)) ++ (s.answered ++ [commandId])).Perm _
    have hpending : s.pendingCommandIds.Nodup := (List.nodup_append.mp h.nodup).1
    have herase : s.pendingCommandIds.filter (· ≠ commandId) = s.pendingCommandIds.erase commandId := by
      rw [hpending.erase_eq_filter]
      congr 1
      ext x
      by_cases hx : x = commandId <;> simp [hx]
    rw [herase]
    refine List.Perm.trans ?_ h.once
    rw [← List.append_assoc]
    refine List.perm_append_comm.trans ?_
    exact ((List.perm_cons_erase hmem).symm.append_right s.answered)
  · refine List.pairwise_append.mpr ⟨h.inTime, List.pairwise_singleton _ _, ?_⟩
    intro a _ b hb id _ hrelay
    rw [List.mem_singleton.mp hb, hrelays] at hrelay
    cases hrelay

theorem failCommand_settles (s : QtRuntimeBridge) (commandId : CommandId) (safeCode safeMessage : String) :
    Settles s (s.failCommand commandId safeCode safeMessage) := by
  unfold failCommand
  split
  next => exact Settles.refl s
  next hmem => exact forget_settles (not_not.mp hmem) rfl rfl

theorem completeCommand_settles (s : QtRuntimeBridge) (j : Journal) (commandId : CommandId) :
    Settles s (s.completeCommand j commandId) := by
  unfold completeCommand
  split
  next => exact Settles.refl s
  next hmem => split <;> exact forget_settles (not_not.mp hmem) rfl rfl

theorem failAll_settles (safeCode safeMessage : String) (ids : List CommandId) : ∀ s : QtRuntimeBridge,
    Settles s (ids.foldl (fun s commandId => s.failCommand commandId safeCode safeMessage) s) := by
  induction ids with
  | nil => exact Settles.refl
  | cons commandId ids ih =>
    intro s
    exact (failCommand_settles s commandId safeCode safeMessage).trans (ih _)

/-! ## What is left pending -/

theorem filter_of_notMem {ids : List CommandId} (h : commandId ∉ ids) : ids.filter (· ≠ commandId) = ids :=
  List.filter_eq_self.mpr fun x hx => by
    simp only [ne_eq, decide_eq_true_eq]
    exact fun hx' => h (hx' ▸ hx)

theorem failCommand_pending (s : QtRuntimeBridge) (commandId : CommandId) (safeCode safeMessage : String) :
    (s.failCommand commandId safeCode safeMessage).pendingCommandIds
      = s.pendingCommandIds.filter (· ≠ commandId) := by
  unfold failCommand
  split
  next hmem => exact (filter_of_notMem hmem).symm
  next => rfl

theorem completeCommand_pending (s : QtRuntimeBridge) (j : Journal) (commandId : CommandId) :
    (s.completeCommand j commandId).pendingCommandIds = s.pendingCommandIds.filter (· ≠ commandId) := by
  unfold completeCommand
  split
  next hmem => exact (filter_of_notMem hmem).symm
  next => split <;> rfl

theorem failAll_pending (safeCode safeMessage : String) (ids : List CommandId) : ∀ s : QtRuntimeBridge,
    (ids.foldl (fun s commandId => s.failCommand commandId safeCode safeMessage) s).pendingCommandIds
      = s.pendingCommandIds.filter (· ∉ ids) := by
  induction ids with
  | nil => simp
  | cons commandId ids ih =>
    intro s
    rw [List.foldl_cons, ih, failCommand_pending, List.filter_filter]
    congr 1
    ext x
    simp [Bool.and_comm]

theorem failAllPending_pending (s : QtRuntimeBridge) (safeCode safeMessage : String) :
    (s.failAllPending safeCode safeMessage).pendingCommandIds = [] := by
  unfold failAllPending
  rw [failAll_pending]
  simp

/-- The runtime has ended, and nothing is pending. -/
def Over (s : QtRuntimeBridge) : Prop := (s.state = .closed ∨ s.state = .failed) ∧ s.pendingCommandIds = []

theorem failCommand_state (s : QtRuntimeBridge) (commandId : CommandId) (safeCode safeMessage : String) :
    (s.failCommand commandId safeCode safeMessage).state = s.state := by
  unfold failCommand
  split <;> rfl

theorem completeCommand_state (s : QtRuntimeBridge) (j : Journal) (commandId : CommandId) :
    (s.completeCommand j commandId).state = s.state := by
  unfold completeCommand
  split
  next => rfl
  next => split <;> rfl

/-! ## Methods -/

/-- A method gives out an id and answers for it; after the runtime has ended it answers at once. -/
structure Serves (s : QtRuntimeBridge) (returned : CommandId × QtRuntimeBridge) : Prop where
  commandId : returned.1 = .issued s.nextId
  settles : Settles s.newCommandId.2 returned.2
  ended : s.Over → returned.2.Over

/-- The new command fails at once. -/
theorem fails_serves (hs' : Settles s.newCommandId.2 s') (hstate : s'.state = s.state)
    (hpending : s'.pendingCommandIds = s.pendingCommandIds ++ [.issued s.nextId]) (safeCode safeMessage : String) :
    Serves s (.issued s.nextId, s'.failCommand (.issued s.nextId) safeCode safeMessage) where
  commandId := rfl
  settles := hs'.trans (failCommand_settles _ _ _ _)
  ended hover := by
    refine ⟨?_, ?_⟩
    · rw [failCommand_state, hstate]
      exact hover.1
    · rw [failCommand_pending, hpending, hover.2]
      simp

theorem submit_serves (j : Journal) {command : RuntimeThreadCommand} (hid : command.commandId = .issued s.nextId)
    (hs' : Settles s.newCommandId.2 s') (hstate : s'.state = s.state)
    (hpending : s'.pendingCommandIds = s.pendingCommandIds ++ [.issued s.nextId]) :
    Serves s (.issued s.nextId, s'.submit j command) := by
  have hfails := fails_serves hs' hstate hpending
  unfold submit
  rw [hid]
  split
  next => exact hfails _ _
  next => exact hfails _ _
  next => exact hfails _ _
  next => exact hfails _ _
  next => exact hfails _ _
  next hready =>
    split
    next => exact hfails _ _
    next =>
      split
      next => exact hfails _ _
      next =>
        have hover : ¬s.Over := by simp [Over, ← hstate, hready]
        exact ⟨rfl, hs'.trans (Settles.of_same rfl rfl rfl), fun h => absurd h hover⟩

theorem send_serves (s : QtRuntimeBridge) (j : Journal) {command : CommandId → RuntimeThreadCommand}
    (hid : ∀ commandId, (command commandId).commandId = commandId) : Serves s (s.send j command) :=
  submit_serves j (hid _) (Settles.refl _) rfl rfl

theorem sendChecked_serves (s : QtRuntimeBridge) (j : Journal) (texts : List Text) (message : String)
    {command : CommandId → RuntimeThreadCommand} (hid : ∀ commandId, (command commandId).commandId = commandId) :
    Serves s (s.sendChecked j texts message command) := by
  unfold sendChecked
  show Serves s (if _ then _ else _)
  split
  next => exact fails_serves (Settles.refl _) rfl rfl _ _
  next => exact submit_serves j (hid _) (Settles.refl _) rfl rfl

theorem sendAutostart_serves (s : QtRuntimeBridge) (j : Journal) (operationId : Text)
    (origin : AutostartOperationOrigin) (requested : Option Bool) (revision : Nat)
    {command : CommandId → RuntimeThreadCommand} (hid : ∀ commandId, (command commandId).commandId = commandId) :
    Serves s (s.sendAutostart j operationId origin requested revision command) :=
  submit_serves j (hid _) (Settles.of_same rfl rfl rfl) rfl rfl

theorem startRuntime_serves (s : QtRuntimeBridge) (raises : Bool) : Serves s (s.startRuntime raises) := by
  unfold startRuntime
  show Serves s (if s.state ≠ .new then _ else _)
  split
  next => exact fails_serves (Settles.refl _) rfl rfl _ _
  next hnew =>
    have hover : ¬s.Over := by simp [Over, not_not.mp hnew]
    split
    next =>
      have hfailed : Settles s.newCommandId.2 { s.newCommandId.2 with state := .failed, startCommandId := none } :=
        .of_same rfl rfl rfl
      exact ⟨rfl, hfailed.trans (failCommand_settles _ _ _ _), fun h => absurd h hover⟩
    next => exact ⟨rfl, Settles.of_same rfl rfl rfl, fun h => absurd h hover⟩

theorem shutdownAs_settles (s : QtRuntimeBridge) (j : Journal) (commandId : CommandId) (cancelActive : Bool) :
    Settles s (s.shutdownAs j commandId cancelActive) := by
  have hcompletes : ∀ (u : QtRuntimeBridge) success safeCode, Settles s u →
      Settles s ((u.completeCommand j commandId).emit (.shutdownFinished success safeCode)) :=
    fun u _ _ hu => (hu.trans (completeCommand_settles u j commandId)).trans (notice_settles _ rfl rfl)
  have hrequests : ∀ u : QtRuntimeBridge, u.pendingCommandIds = s.pendingCommandIds →
      u.emitted = s.emitted ++ [.runtimeClosing] → u.nextId = s.nextId → Settles s u :=
    fun u hpending hemitted hnext =>
      (notice_settles .runtimeClosing rfl rfl).trans (Settles.of_same hpending hemitted hnext)
  unfold shutdownAs
  split
  next => exact hcompletes _ _ _ (Settles.of_same rfl rfl rfl)
  next => exact hcompletes _ _ _ (Settles.refl s)
  next => exact failCommand_settles s commandId _ _
  all_goals
    split
    next => exact failCommand_settles s commandId _ _
    next => exact hrequests _ rfl rfl rfl

theorem shutdown_serves (s : QtRuntimeBridge) (j : Journal) (cancelActive : Bool) :
    Serves s (s.shutdown j cancelActive) where
  commandId := rfl
  settles := shutdownAs_settles s.newCommandId.2 j _ cancelActive
  ended hover := by
    obtain ⟨hstate, hpending⟩ := hover
    have hnone : (s.pendingCommandIds ++ [CommandId.issued s.nextId]).filter (· ≠ CommandId.issued s.nextId) = [] := by
      simp [hpending]
    show (s.newCommandId.2.shutdownAs j (.issued s.nextId) cancelActive).Over
    unfold shutdownAs
    rcases hstate with hclosed | hfailed
    · rw [show s.newCommandId.2.state = .closed from hclosed]
      refine ⟨.inl ?_, ?_⟩
      · exact (completeCommand_state s.newCommandId.2 j _).trans hclosed
      · exact (completeCommand_pending s.newCommandId.2 j _).trans hnone
    · rw [show s.newCommandId.2.state = .failed from hfailed]
      refine ⟨.inr ?_, ?_⟩
      · exact (failCommand_state s.newCommandId.2 _ _ _).trans hfailed
      · exact (failCommand_pending s.newCommandId.2 _ _ _).trans hnone

theorem call_serves (s : QtRuntimeBridge) (j : Journal) (c : Call) : Serves s (s.call j c) := by
  cases c with
  | startRuntime raises => exact startRuntime_serves s raises
  | shutdown cancelActive => exact shutdown_serves s j cancelActive
  | cancelActiveTurn | requestSnapshot | requestProviderSettings =>
    simp only [call, cancelActiveTurn, requestSnapshot, requestProviderSettings]
    exact send_serves s j fun _ => rfl
  | requestAutostart _ _ _ | setAutostartEnabled _ _ _ _ =>
    simp only [call, requestAutostart, setAutostartEnabled]
    exact sendAutostart_serves s j _ _ _ _ fun _ => rfl
  | _ =>
    simp only [call, activateProfile, sendMessage, createProviderProfile, updateProviderProfile, deleteProviderProfile,
      saveProviderCredential, deleteProviderCredential]
    exact sendChecked_serves s j _ _ fun _ => rfl

/-! ## Signals of the thread -/

theorem completeStart_settles (s : QtRuntimeBridge) (j : Journal) : Settles s (s.completeStart j) := by
  unfold completeStart
  split
  next => exact Settles.refl s
  next commandId _ => exact (completeCommand_settles s j commandId).trans (Settles.of_same rfl rfl rfl)

theorem failStart_settles (s : QtRuntimeBridge) (safeCode safeMessage : String) :
    Settles s (s.failStart safeCode safeMessage) := by
  unfold failStart
  split
  next => exact Settles.refl s
  next commandId _ => exact (failCommand_settles s commandId _ _).trans (Settles.of_same rfl rfl rfl)

theorem rejectWorker_settles (s : QtRuntimeBridge) (failure : String × String) :
    Settles s (s.rejectWorker failure) := by
  have hclosing : Settles s { s with state := .closing, protocolFailure := some failure } :=
    Settles.of_same rfl rfl rfl
  exact (hclosing.trans (failStart_settles _ failure.1 failure.2)).trans (Settles.of_same rfl rfl rfl)

theorem onWorkerReady_settles (s : QtRuntimeBridge) (j : Journal) (snapshot : Payload) :
    Settles s (s.onWorkerReady j snapshot) := by
  unfold onWorkerReady
  split
  next => exact rejectWorker_settles s _
  next =>
    split
    next =>
      have hready : Settles s { s with state := .ready } := Settles.of_same rfl rfl rfl
      have hemits := ((hready.trans (notice_settles .runtimeReady rfl rfl)).trans
        (notice_settles .runtimeStateChanged rfl rfl)).trans
        (notice_settles .providerLifecycleChanged rfl rfl)
      exact hemits.trans (completeStart_settles _ j)
    next => exact Settles.refl s

theorem relayRuntimeEvent_settles (s : QtRuntimeBridge) (value : Option RuntimeEvent) :
    Settles s (s.relayRuntimeEvent value) := by
  unfold relayRuntimeEvent
  split
  next => exact Settles.refl s
  next => split <;> first | exact notice_settles _ rfl rfl | exact Settles.refl s

theorem onCommandResult_settles (s : QtRuntimeBridge) (j : Journal) (commandId : CommandId) (success : Bool)
    (safeCode safeMessage : String) : Settles s (s.onCommandResult j commandId success safeCode safeMessage) := by
  unfold onCommandResult
  split
  next => exact Settles.refl s
  next =>
    split
    next => exact completeCommand_settles s j commandId
    next =>
      split
      next =>
        have hopen : Settles s { s with shutdownCommandId := none } := Settles.of_same rfl rfl rfl
        exact (hopen.trans (notice_settles (.shutdownFinished false safeCode) rfl rfl)).trans
          (failCommand_settles _ _ _ _)
      next => exact failCommand_settles s commandId _ _

/-- Once the thread has finished, nothing is pending. -/
structure Clears (s s' : QtRuntimeBridge) : Prop extends Settles s s' where
  pending : s'.pendingCommandIds = []

theorem failAllPending_clears (h : Settles s s') (safeCode safeMessage : String) :
    Clears s (s'.failAllPending safeCode safeMessage) :=
  ⟨h.trans (failAll_settles _ _ _ _), failAllPending_pending _ _ _⟩

theorem answerOutcome_clears (h : Settles s s') (j : Journal) (outcome : ThreadExitOutcome) :
    Clears s (s'.answerOutcome j outcome) := by
  unfold answerOutcome
  split
  next =>
    refine failAllPending_clears ?_ _ _
    cases outcome.commandId with
    | none => exact h
    | some commandId => exact h.trans (completeCommand_settles s' j commandId)
  next =>
    have hnamed : Settles s (outcome.commandId.elim s' fun commandId =>
        s'.failCommand commandId outcome.safeCode outcome.safeMessage) := by
      cases outcome.commandId with
      | none => exact h
      | some commandId => exact h.trans (failCommand_settles s' commandId _ _)
    split
    next => exact failAllPending_clears hnamed _ _
    next => exact failAllPending_clears hnamed _ _

theorem Clears.ends (h : Clears s s') {u : QtRuntimeBridge} (hpending : u.pendingCommandIds = s'.pendingCommandIds)
    (hemitted : u.emitted = s'.emitted) (hnext : u.nextId = s'.nextId) (hstate : u.state = .closed ∨ u.state = .failed)
    (success : Bool) (safeCode : String) :
    Settles s (u.emit (.shutdownFinished success safeCode)) ∧ (u.emit (.shutdownFinished success safeCode)).Over := by
  have hu := h.toSettles.trans (Settles.of_same hpending hemitted hnext)
  exact ⟨hu.trans (notice_settles _ rfl rfl), hstate, hpending.trans h.pending⟩

theorem failAllPending_state (s : QtRuntimeBridge) (safeCode safeMessage : String) :
    (s.failAllPending safeCode safeMessage).state = s.state := by
  have hall : ∀ (ids : List CommandId) (s : QtRuntimeBridge),
      (ids.foldl (fun s commandId => s.failCommand commandId safeCode safeMessage) s).state = s.state := by
    intro ids
    induction ids with
    | nil => exact fun _ => rfl
    | cons commandId ids ih =>
      intro s
      rw [List.foldl_cons, ih, failCommand_state]
  exact hall _ s

theorem fail_ends (h : Settles s s') (safeCode safeMessage : String) :
    Settles s (s'.fail safeCode safeMessage) ∧ (s'.fail safeCode safeMessage).Over := by
  have hfailed : Settles s { s' with state := .failed } := h.trans (Settles.of_same rfl rfl rfl)
  unfold fail
  refine (failAllPending_clears hfailed safeCode safeMessage).ends ?_ ?_ ?_ (.inr ?_) false safeCode
  · rfl
  · rfl
  · rfl
  · exact failAllPending_state _ safeCode safeMessage

theorem endWith_ends {u : QtRuntimeBridge} (h : Clears s s') (hpending : u.pendingCommandIds = s'.pendingCommandIds)
    (hemitted : u.emitted = s'.emitted) (hnext : u.nextId = s'.nextId) (outcome : ThreadExitOutcome) :
    Settles s (u.endWith outcome) ∧ (u.endWith outcome).Over := by
  unfold endWith
  refine h.ends ?_ ?_ ?_ ?_ outcome.success outcome.safeCode
  · exact hpending
  · exact hemitted
  · exact hnext
  · cases outcome.success with
    | true => exact .inl rfl
    | false => exact .inr rfl

theorem finish_ends (h : Settles s s') (j : Journal) (outcome : ThreadExitOutcome) :
    Settles s (s'.finish j outcome) ∧ (s'.finish j outcome).Over := by
  unfold finish
  split
  next =>
    have hfailed : Settles s { s' with state := .failed } := h.trans (Settles.of_same rfl rfl rfl)
    refine endWith_ends (failAllPending_clears hfailed outcome.safeCode outcome.safeMessage) ?_ ?_ ?_ outcome <;> rfl
  next =>
    exact endWith_ends (answerOutcome_clears (h.trans (completeStart_settles s' j)) j outcome) rfl rfl rfl outcome

/-- When the thread's end has been handled, the bridge is closed or failed, and nothing is pending. -/
theorem onThreadFinished_ends (s : QtRuntimeBridge) (j : Journal) :
    Settles s (s.onThreadFinished j) ∧ (s.onThreadFinished j).Over := by
  have hquiet : Settles s { s with shutdownOutcome := none, protocolFailure := none } := Settles.of_same rfl rfl rfl
  unfold onThreadFinished
  split
  next => exact fail_ends hquiet _ _
  next => exact fail_ends hquiet _ _
  next => exact finish_ends hquiet j _

theorem handle_settles (s : QtRuntimeBridge) (j : Journal) (signal : Signal) : Settles s (s.handle j signal) := by
  cases signal with
  | workerReady snapshot => exact onWorkerReady_settles s j snapshot
  | runtimeEvent value => exact relayRuntimeEvent_settles s value
  | snapshot value =>
    show Settles s (s.relaySnapshot value)
    unfold relaySnapshot
    split
    next => exact Settles.refl s
    next =>
      have hfirst : Settles s (s.emit .runtimeStateChanged) := notice_settles _ rfl rfl
      exact hfirst.trans (notice_settles _ rfl rfl)
  | providerSettings commandId value =>
    show Settles s (s.relayProviderSettings commandId value)
    unfold relayProviderSettings
    split
    next => exact Settles.refl s
    next hlive =>
      refine emit_settles rfl fun id hid => ?_
      cases hid
      exact not_not.mp (not_or.mp hlive).1
  | autostartState commandId value =>
    show Settles s (s.relayAutostartState commandId value)
    unfold relayAutostartState
    split
    next => exact Settles.refl s
    next hlive =>
      split
      next =>
        refine emit_settles rfl fun id hid => ?_
        cases hid
        exact not_not.mp hlive
      next => exact Settles.refl s
  | commandResult commandId success safeCode safeMessage => exact onCommandResult_settles s j _ _ _ _
  | shutdownOutcome outcome => exact Settles.of_same rfl rfl rfl
  | finished => exact (onThreadFinished_ends s j).1

/-- After the thread's end a signal finds nothing pending. -/
theorem handle_over (hover : s.Over) (j : Journal) {signal : Signal} (hready : ∀ snapshot, signal ≠ .workerReady snapshot) :
    (s.handle j signal).Over := by
  have hnone : ∀ commandId, commandId ∉ s.pendingCommandIds := fun commandId hmem => by
    rw [hover.2] at hmem
    cases hmem
  cases signal with
  | workerReady snapshot => exact absurd rfl (hready snapshot)
  | runtimeEvent value =>
    show (s.relayRuntimeEvent value).Over
    unfold relayRuntimeEvent
    split
    next => exact hover
    next => split <;> exact hover
  | snapshot value =>
    show (s.relaySnapshot value).Over
    unfold relaySnapshot
    split <;> exact hover
  | providerSettings commandId value =>
    show (s.relayProviderSettings commandId value).Over
    unfold relayProviderSettings
    rw [if_pos (.inl (hnone commandId))]
    exact hover
  | autostartState commandId value =>
    show (s.relayAutostartState commandId value).Over
    unfold relayAutostartState
    rw [if_pos (hnone commandId)]
    exact hover
  | commandResult commandId success safeCode safeMessage =>
    show (s.onCommandResult j commandId success safeCode safeMessage).Over
    unfold onCommandResult
    rw [if_pos (hnone commandId)]
    exact hover
  | shutdownOutcome outcome => exact hover
  | finished => exact (onThreadFinished_ends s j).2

/-! ## Runs -/

/-- The worker is not ready after the thread has finished. -/
def ReadyInTime (es : List BridgeEvent) : Prop :=
  es.Pairwise fun earlier later =>
    ∀ j j' snapshot, earlier = .handle j .finished → later ≠ .handle j' (.workerReady snapshot)

theorem step_accounted (h : s.Accounted) (e : BridgeEvent) : (s.step e).Accounted := by
  cases e with
  | call j c => exact (call_serves s j c).settles.accounted (newCommandId_accounted h)
  | handle j signal => exact (handle_settles s j signal).accounted h
  | thread a => exact ⟨h.once, h.inTime⟩

theorem step_nextId (s : QtRuntimeBridge) (e : BridgeEvent) : s.nextId ≤ (s.step e).nextId := by
  cases e with
  | call j c =>
    show s.nextId ≤ (s.call j c).2.nextId
    rw [(call_serves s j c).settles.nextId]
    exact Nat.le_succ s.nextId
  | handle j signal => exact (handle_settles s j signal).nextId.ge
  | thread a => exact le_rfl

theorem run_nextId (es : List BridgeEvent) : ∀ s : QtRuntimeBridge, s.nextId ≤ (run step s es).nextId := by
  induction es with
  | nil => exact fun _ => le_rfl
  | cons e es ih => exact fun s => (step_nextId s e).trans (ih _)

theorem step_over (hover : s.Over) {e : BridgeEvent} (hready : ∀ j snapshot, e ≠ .handle j (.workerReady snapshot)) :
    (s.step e).Over := by
  cases e with
  | call j c => exact (call_serves s j c).ended hover
  | handle j signal =>
    exact handle_over hover j fun snapshot hsignal => hready j snapshot (by rw [hsignal])
  | thread a => exact hover

theorem run_over (es : List BridgeEvent) : ∀ {s : QtRuntimeBridge}, s.Over →
    (∀ e ∈ es, ∀ j snapshot, e ≠ .handle j (.workerReady snapshot)) → (run step s es).Over := by
  induction es with
  | nil => exact fun hover _ => hover
  | cons e es ih =>
    intro s hover hready
    exact ih (step_over hover (hready e List.mem_cons_self)) fun d hd => hready d (List.mem_cons_of_mem e hd)

/-- Once the thread's end has been handled, the run stays over. -/
theorem run_finished {es : List BridgeEvent} (hready : ReadyInTime es) {j : Journal}
    (hfinished : .handle j .finished ∈ es) (s : QtRuntimeBridge) : (run step s es).Over := by
  obtain ⟨before, after, rfl⟩ := List.append_of_mem hfinished
  rw [run_append]
  refine run_over after (onThreadFinished_ends _ j).2 fun e he j' snapshot => ?_
  obtain ⟨_, hafter, _⟩ := List.pairwise_append.mp hready
  exact (List.pairwise_cons.mp hafter).1 e he j j' snapshot rfl

/-- A bridge whose runtime has not been started. -/
def unstarted (thread : RuntimeThread) (hasJournal : Bool) : QtRuntimeBridge := { thread, hasJournal }

theorem run_accounts (thread : RuntimeThread) (hasJournal : Bool) (es : List BridgeEvent) :
    (run step (unstarted thread hasJournal) es).Accounted := by
  have hstart : (unstarted thread hasJournal).Accounted := ⟨List.Perm.refl _, List.Pairwise.nil⟩
  have hkeeps : ∀ (s : QtRuntimeBridge) (e : BridgeEvent), s.Accounted → (s.step e).Accounted :=
    fun _ e h => step_accounted h e
  exact run_invariant hkeeps _ es hstart

/-- The id a call of the run has returned is among those given out. -/
theorem call_issued (s : QtRuntimeBridge) (j : Journal) (c : Call) (after : List BridgeEvent) :
    (s.call j c).1 ∈ (List.range (run step s (.call j c :: after)).nextId).map CommandId.issued := by
  rw [(call_serves s j c).commandId]
  refine List.mem_map.mpr ⟨s.nextId, List.mem_range.mpr ?_, rfl⟩
  refine lt_of_lt_of_le ?_ (run_nextId after _)
  show s.nextId < (s.call j c).2.nextId
  rw [(call_serves s j c).settles.nextId]
  exact Nat.lt_succ_self s.nextId

/-- Whatever the thread reports, and whichever records of the journal fail: every command id a call returned is
answered at most once, and exactly once when the thread's end has been handled, be it before the call; and no value is
relayed for a command that was answered before. -/
theorem run_answered (thread : RuntimeThread) (hasJournal : Bool) (es : List BridgeEvent) :
    (∀ before j c after, es = before ++ .call j c :: after →
      let commandId := ((run step (unstarted thread hasJournal) before).call j c).1
      (run step (unstarted thread hasJournal) es).answered.count commandId ≤ 1 ∧
        (ReadyInTime es → ∀ j', .handle j' .finished ∈ es →
          (run step (unstarted thread hasJournal) es).answered.count commandId = 1)) ∧
    InTime (run step (unstarted thread hasJournal) es).emitted := by
  have haccounted := run_accounts thread hasJournal es
  have hnodup : (run step (unstarted thread hasJournal) es).answered.Nodup := (List.nodup_append.mp haccounted.nodup).2.1
  refine ⟨?_, haccounted.inTime⟩
  intro before j c after hes commandId
  refine ⟨List.nodup_iff_count_le_one.mp hnodup _, fun hready j' hfinished => ?_⟩
  have hover := run_finished hready hfinished (unstarted thread hasJournal)
  have hissued : commandId ∈ (List.range (run step (unstarted thread hasJournal) es).nextId).map CommandId.issued := by
    rw [hes, run_append]
    exact call_issued _ j c after
  have hmem := haccounted.once.mem_iff.mpr hissued
  rw [hover.2, List.nil_append] at hmem
  exact List.count_eq_one_of_mem hnodup hmem

def takesAll : Journal := fun _ _ => true

def untilReady : List BridgeEvent :=
  [.call takesAll (.startRuntime false), .handle takesAll (.workerReady .runtimeSnapshot)]

def idleThread : RuntimeThread := { autostartService := { available := false, hasJournal := false } }

/-- A snapshot requested from a thread that ends without an outcome. -/
theorem run_answered_lost : (run step (unstarted idleThread false)
      (untilReady ++ .call takesAll .requestSnapshot :: [.handle takesAll .finished])).answered.count (.issued 1) = 1 := by
  refine ((run_answered idleThread false _).1 untilReady takesAll .requestSnapshot [.handle takesAll .finished] rfl).2
    ?_ takesAll ?_
  · simp [ReadyInTime, untilReady]
  · simp

end QtRuntimeBridge

end ArkClaw.Presentation.Runtime
