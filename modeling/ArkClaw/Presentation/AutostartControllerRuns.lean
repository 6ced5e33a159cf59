import ArkClaw.Presentation.AutostartController
import ArkClaw.Presentation.RuntimeShutdownRuns

/-!
# The shared autostart state over whole runs

Whatever happens to the runtime, the controller is busy exactly while a mutation is pending, and what it applies comes
in the order of the revisions (`Consistent`). What is pending for it is pending at the bridge (`Kept`): the bridge
answers each command once, and while it is asked it speaks of the new command alone.
-/

namespace ArkClaw.Presentation.Runtime

open ArkClaw.Library ArkClaw.Autostart
open List (mem_filter mem_singleton mem_append mem_map)

def PendingAutostartOperation.revision (o : PendingAutostartOperation) : Nat := o.context.controllerRevision

/-- No snapshot is applied after a newer one, and no query's after a newer mutation was requested. -/
def RevisionEntry.Before : RevisionEntry → RevisionEntry → Prop
  | .applied revision _, .applied later _ => revision ≤ later
  | .requested revision, .applied later false => revision ≤ later
  | _, _ => True

namespace AutostartUiController

variable {c c' : AutostartUiController} {commandId : CommandId} {o : PendingAutostartOperation}

structure Consistent (c : AutostartUiController) : Prop where
  busy : c.busy = true ↔ ∃ e ∈ c.pending, e.2.mutation = true
  keys : (c.pending.map Prod.fst).Nodup
  ascending : (c.pending.map fun e => e.2.revision).Pairwise (· < ·)
  mutation : ∀ e ∈ c.pending, e.2.mutation = true → e.2.revision = c.latestMutationRevision
  revision : ∀ e ∈ c.pending, e.2.revision ≤ c.revision
  latest : c.latestMutationRevision ≤ c.revision
  latestApplied : c.latestAppliedRevision ≤ c.revision
  order : c.history.Pairwise RevisionEntry.Before
  applied : ∀ revision mutation, .applied revision mutation ∈ c.history → revision ≤ c.latestAppliedRevision
  requested : ∀ revision, .requested revision ∈ c.history → revision ≤ c.latestMutationRevision

/-- Nothing changes that the statements speak of. -/
structure Same (c c' : AutostartUiController) : Prop where
  busy : c'.busy = c.busy
  pending : c'.pending = c.pending
  latestMutation : c'.latestMutationRevision = c.latestMutationRevision
  latestApplied : c'.latestAppliedRevision = c.latestAppliedRevision
  history : c'.history = c.history
  snapshot : c'.snapshot = c.snapshot
  revision : c.revision ≤ c'.revision

theorem Consistent.of_same (h : c.Consistent) (hsame : Same c c') : c'.Consistent where
  busy := by
    rw [hsame.busy, hsame.pending]
    exact h.busy
  keys := hsame.pending ▸ h.keys
  ascending := hsame.pending ▸ h.ascending
  mutation := by
    rw [hsame.pending, hsame.latestMutation]
    exact h.mutation
  revision e he := (h.revision e (hsame.pending ▸ he)).trans hsame.revision
  latest := by
    rw [hsame.latestMutation]
    exact h.latest.trans hsame.revision
  latestApplied := by
    rw [hsame.latestApplied]
    exact h.latestApplied.trans hsame.revision
  order := hsame.history ▸ h.order
  applied := by
    rw [hsame.history, hsame.latestApplied]
    exact h.applied
  requested := by
    rw [hsame.history, hsame.latestMutation]
    exact h.requested

theorem recordRejection_same (c : AutostartUiController) : Same c c.recordRejection := by
  unfold recordRejection
  split
  next => exact ⟨rfl, rfl, rfl, rfl, rfl, rfl, Nat.le_succ _⟩
  next => exact ⟨rfl, rfl, rfl, rfl, rfl, rfl, le_rfl⟩

theorem beginClosing_same (c : AutostartUiController) : Same c c.beginClosing := by
  unfold beginClosing
  split
  next => exact ⟨rfl, rfl, rfl, rfl, rfl, rfl, le_rfl⟩
  next => exact ⟨rfl, rfl, rfl, rfl, rfl, rfl, Nat.le_succ _⟩

/-- An operation is known by its command. -/
theorem Consistent.unique (h : c.Consistent) {e f : CommandId × PendingAutostartOperation} (he : e ∈ c.pending)
    (hf : f ∈ c.pending) (heq : e.1 = f.1) : e = f :=
  List.inj_on_of_nodup_map h.keys he hf heq

/-- One mutation is pending at most. -/
theorem Consistent.single (h : c.Consistent) {e f : CommandId × PendingAutostartOperation} (he : e ∈ c.pending)
    (hf : f ∈ c.pending) (hemutation : e.2.mutation = true) (hfmutation : f.2.mutation = true) : e = f := by
  have hrevisions : (c.pending.map fun e => e.2.revision).Nodup := h.ascending.imp ne_of_lt
  refine List.inj_on_of_nodup_map hrevisions he hf ?_
  rw [h.mutation e he hemutation, h.mutation f hf hfmutation]

theorem mem_of_pendingOperation (h : c.pendingOperation commandId = some o) : (commandId, o) ∈ c.pending := by
  unfold pendingOperation at h
  obtain ⟨e, hfound, rfl⟩ := Option.map_eq_some_iff.mp h
  have hkey : e.1 = commandId := by simpa using List.find?_some hfound
  exact hkey ▸ List.mem_of_find?_eq_some hfound

theorem filter_of_pendingOperation (h : c.pendingOperation commandId = none) :
    (c.pending.filter fun e => e.1 ≠ commandId) = c.pending := by
  unfold pendingOperation at h
  refine List.filter_eq_self.mpr fun e he => ?_
  have := List.find?_eq_none.mp (Option.map_eq_none_iff.mp h) e he
  simpa using this

/-- An operation is pending no more; if it was the mutation, none is left. -/
theorem Consistent.popped (h : c.Consistent) (hmem : (commandId, o) ∈ c.pending) :
    Consistent { c.pop commandId with busy := !o.mutation && c.busy } where
  busy := by
    show (!o.mutation && c.busy) = true ↔ ∃ e ∈ c.pending.filter fun e => e.1 ≠ commandId, e.2.mutation = true
    by_cases hmutation : o.mutation = true
    · simp only [hmutation, Bool.not_true, Bool.false_and, Bool.false_eq_true, false_iff]
      rintro ⟨e, he, hemutation⟩
      obtain ⟨he, hother⟩ := mem_filter.mp he
      have := h.single he hmem hemutation hmutation
      simp [this] at hother
    · simp only [hmutation, Bool.not_false, Bool.true_and, h.busy]
      constructor
      · rintro ⟨e, he, hemutation⟩
        refine ⟨e, mem_filter.mpr ⟨he, ?_⟩, hemutation⟩
        have hother : e.1 ≠ commandId := fun heq => by
          rw [h.unique he hmem heq] at hemutation
          exact hmutation hemutation
        simpa using hother
      · rintro ⟨e, he, hemutation⟩
        exact ⟨e, (mem_filter.mp he).1, hemutation⟩
  keys := h.keys.sublist (List.filter_sublist.map _)
  ascending := h.ascending.sublist (List.filter_sublist.map _)
  mutation e he := h.mutation e (mem_filter.mp he).1
  revision e he := h.revision e (mem_filter.mp he).1
  latest := h.latest
  latestApplied := h.latestApplied
  order := h.order
  applied := h.applied
  requested := h.requested

/-- A snapshot that is applied is not stale. -/
theorem Consistent.apply (h : c.Consistent) (hmem : (commandId, o) ∈ c.pending) (hfresh : c.stale o = false)
    (value : AutostartSnapshot) : Consistent { c with
      latestAppliedRevision := o.revision
      snapshot := value
      history := c.history ++ [.applied o.revision o.mutation] } := by
  unfold stale at hfresh
  obtain ⟨hnewer, hquery⟩ := Bool.or_eq_false_iff.mp hfresh
  have hnewer : c.latestAppliedRevision ≤ o.revision := by
    have := of_decide_eq_false hnewer
    unfold PendingAutostartOperation.revision
    omega
  have hquery : o.mutation = false → c.latestMutationRevision ≤ o.revision := by
    intro hmutation
    rw [hmutation] at hquery
    have := of_decide_eq_false hquery
    unfold PendingAutostartOperation.revision
    omega
  refine ⟨h.busy, h.keys, h.ascending, h.mutation, h.revision, h.latest, h.revision _ hmem, ?_, ?_, ?_⟩
  · refine List.pairwise_append.mpr ⟨h.order, List.pairwise_singleton _ _, ?_⟩
    intro a ha b hb
    rw [mem_singleton.mp hb]
    cases a with
    | applied revision mutation => exact (h.applied revision mutation ha).trans hnewer
    | requested revision =>
      cases hmutation : o.mutation with
      | true => trivial
      | false => exact (h.requested revision ha).trans (hquery hmutation)
  · intro revision mutation happlied
    rcases mem_append.mp happlied with hold | hnew
    · exact (h.applied revision mutation hold).trans hnewer
    · cases mem_singleton.mp hnew
      exact le_rfl
  · intro revision hrequested
    rcases mem_append.mp hrequested with hold | hnew
    · exact h.requested revision hold
    · cases mem_singleton.mp hnew

/-- What an answer leaves pending is what it does not name. -/
theorem filter_answered {α : Type} (pending : List (CommandId × α)) (commandId : CommandId) :
    (pending.filter fun e => some commandId ≠ some e.1) = pending.filter fun e => e.1 ≠ commandId := by
  congr 1
  ext e
  simp [eq_comm]

/-- What the controller hears keeps it consistent, and answers the operations it names. -/
theorem hear_consistent (h : c.Consistent) (signal : BridgeSignal) : (c.hear signal).Consistent ∧
    (c.hear signal).pending = c.pending.filter fun e => signal.answer ≠ some e.1 := by
  cases signal with
  | runtimeClosing =>
    have hsame := beginClosing_same c
    exact ⟨h.of_same hsame, hsame.pending.trans (by simp [BridgeSignal.answer])⟩
  | autostartStateChanged commandId value =>
    show (c.onStateChanged commandId value).Consistent ∧ (c.onStateChanged commandId value).pending = _
    unfold onStateChanged
    split
    next => exact ⟨h, by simp [BridgeSignal.answer]⟩
    next o hfound =>
      split
      next => exact ⟨h, by simp [BridgeSignal.answer]⟩
      next hfresh =>
        refine ⟨?_, by simp [BridgeSignal.answer, emit]⟩
        have happlied := h.apply (mem_of_pendingOperation hfound) (by simpa using hfresh) value
        exact happlied.of_same ⟨rfl, rfl, rfl, rfl, rfl, rfl, le_rfl⟩
  | commandCompleted commandId =>
    show (c.onCommandCompleted commandId).Consistent ∧ (c.onCommandCompleted commandId).pending = _
    rw [show BridgeSignal.answer (.commandCompleted commandId) = some commandId from rfl, filter_answered]
    unfold onCommandCompleted
    split
    next hnone => exact ⟨h, (filter_of_pendingOperation hnone).symm⟩
    next o hfound =>
      have hpop := h.popped (mem_of_pendingOperation hfound)
      split
      next hmutation =>
        rw [hmutation] at hpop
        exact ⟨hpop.of_same ⟨rfl, rfl, rfl, rfl, rfl, rfl, le_rfl⟩, rfl⟩
      next hmutation =>
        simp only [hmutation, Bool.not_false, Bool.true_and] at hpop
        exact ⟨hpop, rfl⟩
  | commandFailed commandId safeCode safeMessage =>
    show (c.onCommandFailed commandId safeCode safeMessage).Consistent ∧
      (c.onCommandFailed commandId safeCode safeMessage).pending = _
    rw [show BridgeSignal.answer (.commandFailed commandId safeCode safeMessage) = some commandId from rfl, filter_answered]
    unfold onCommandFailed
    split
    next hnone => exact ⟨h, (filter_of_pendingOperation hnone).symm⟩
    next o hfound =>
      have hpop := h.popped (mem_of_pendingOperation hfound)
      split
      next hmutation =>
        rw [hmutation] at hpop
        exact ⟨hpop.of_same ⟨rfl, rfl, rfl, rfl, rfl, rfl, le_rfl⟩, rfl⟩
      next hmutation =>
        simp only [hmutation, Bool.not_false, Bool.true_and] at hpop
        exact ⟨hpop.of_same ⟨rfl, rfl, rfl, rfl, rfl, rfl, le_rfl⟩, rfl⟩
  | _ => exact ⟨h, by simp [BridgeSignal.answer, hear]⟩

/-- The controller hears the signals of a step. -/
theorem hears_consistent (signals : List BridgeSignal) : ∀ {c : AutostartUiController}, c.Consistent →
    (signals.foldl (·.hear ·) c).Consistent ∧ ∀ e, e ∈ (signals.foldl (·.hear ·) c).pending ↔
      e ∈ c.pending ∧ ∀ signal ∈ signals, signal.answer ≠ some e.1 := by
  induction signals with
  | nil =>
    intro c h
    exact ⟨h, fun e => by simp⟩
  | cons signal signals ih =>
    intro c h
    obtain ⟨hheard, hpending⟩ := hear_consistent h signal
    obtain ⟨hconsistent, hrest⟩ := ih hheard
    refine ⟨hconsistent, fun e => ?_⟩
    rw [List.foldl_cons, hrest, hpending, mem_filter]
    simp only [decide_eq_true_eq, List.forall_mem_cons, and_assoc]

/-- The new operation is the latest. -/
theorem Consistent.await (h : c.Consistent) (context : AutostartOperationContext) (mutation : Bool)
    (hfresh : ∀ e ∈ c.pending, e.1 ≠ commandId) (hnewest : ∀ e ∈ c.pending, e.2.revision < context.controllerRevision)
    (hrevision : context.controllerRevision = c.revision)
    (hmutation : mutation = true → c.busy = false ∧ c.latestMutationRevision = context.controllerRevision) :
    Consistent { c.await commandId context mutation with busy := mutation || c.busy } where
  busy := by
    show (mutation || c.busy) = true ↔ ∃ e : CommandId × PendingAutostartOperation, e ∈ c.pending ++
      [(commandId, { context := { context with commandId := some commandId }, mutation })] ∧ e.2.mutation = true
    simp only [Bool.or_eq_true, h.busy, mem_append, mem_singleton, or_and_right, exists_or,
      exists_eq_left, or_comm]
  keys := by
    show ((c.pending ++ [_]).map Prod.fst).Nodup
    rw [List.map_append]
    refine List.nodup_append.mpr ⟨h.keys, List.nodup_singleton _, ?_⟩
    intro a ha b hb
    obtain ⟨e, he, rfl⟩ := mem_map.mp ha
    rw [mem_singleton.mp hb]
    exact hfresh e he
  ascending := by
    show ((c.pending ++ [(_ : CommandId × PendingAutostartOperation)]).map fun e => e.2.revision).Pairwise (· < ·)
    rw [List.map_append]
    refine List.pairwise_append.mpr ⟨h.ascending, List.pairwise_singleton _ _, ?_⟩
    intro a ha b hb
    obtain ⟨e, he, rfl⟩ := mem_map.mp ha
    rw [mem_singleton.mp hb]
    exact hnewest e he
  mutation e he hemutation := by
    rcases mem_append.mp he with hold | hnew
    · exact h.mutation e hold hemutation
    · cases mem_singleton.mp hnew
      exact (hmutation hemutation).2.symm
  revision e he := by
    rcases mem_append.mp he with hold | hnew
    · exact h.revision e hold
    · cases mem_singleton.mp hnew
      exact hrevision.le
  latest := h.latest
  latestApplied := h.latestApplied
  order := h.order
  applied := h.applied
  requested := h.requested

/-- A mutation is requested: its revision is the new one. -/
theorem Consistent.requests (h : c.Consistent) (hbusy : c.busy = false) {revision : Nat} (hnew : c.revision ≤ revision) :
    Consistent { c with
      revision := revision
      latestMutationRevision := revision
      history := c.history ++ [.requested revision] } where
  busy := h.busy
  keys := h.keys
  ascending := h.ascending
  mutation e he hemutation := by
    have := h.busy.mpr ⟨e, he, hemutation⟩
    rw [hbusy] at this
    cases this
  revision e he := (h.revision e he).trans hnew
  latest := le_rfl
  latestApplied := h.latestApplied.trans hnew
  order := by
    refine List.pairwise_append.mpr ⟨h.order, List.pairwise_singleton _ _, ?_⟩
    intro a _ b hb
    rw [mem_singleton.mp hb]
    cases a <;> trivial
  applied later mutation happlied := by
    rcases mem_append.mp happlied with hold | hnew
    · exact h.applied later mutation hold
    · cases mem_singleton.mp hnew
  requested later hrequested := by
    rcases mem_append.mp hrequested with hold | hlast
    · exact ((h.requested later hold).trans h.latest).trans hnew
    · cases mem_singleton.mp hlast
      exact le_rfl

end AutostartUiController

/-! ## Controller and bridge -/

namespace QtRuntimeBridge

/-- A command of the controller is pending, or it has failed. -/
def Requested (s : QtRuntimeBridge) (returned : CommandId × QtRuntimeBridge) : Prop :=
  returned.1 = .issued s.nextId ∧
    (returned.2.pendingCommandIds = s.pendingCommandIds ++ [.issued s.nextId] ∧ returned.2.emitted = s.emitted ∨
      returned.2.pendingCommandIds = s.pendingCommandIds ∧ ∃ safeCode safeMessage,
        returned.2.emitted = s.emitted ++ [.commandFailed (.issued s.nextId) safeCode safeMessage])

theorem issued_not_pending {s : QtRuntimeBridge} (h : s.Accounted) : CommandId.issued s.nextId ∉ s.pendingCommandIds := by
  intro hmem
  obtain ⟨n, heq, hn⟩ := Platform.given_of_pending h hmem
  cases heq
  exact lt_irrefl _ hn

/-- A command is the thread's, or it fails. -/
theorem submit_ends (s : QtRuntimeBridge) (j : Journal) (c : RuntimeThreadCommand) :
    (∃ safeCode safeMessage, s.submit j c = s.failCommand c.commandId safeCode safeMessage) ∨
      s.submit j c = { s with thread := (s.thread.submit c).2 } := by
  unfold submit
  split
  next => exact .inl ⟨_, _, rfl⟩
  next => exact .inl ⟨_, _, rfl⟩
  next => exact .inl ⟨_, _, rfl⟩
  next => exact .inl ⟨_, _, rfl⟩
  next => exact .inl ⟨_, _, rfl⟩
  next =>
    split
    next => exact .inl ⟨_, _, rfl⟩
    next =>
      split
      next => exact .inl ⟨_, _, rfl⟩
      next => exact .inr rfl

/-- The bridge has given out an id, and nothing else. -/
structure Opens (s u : QtRuntimeBridge) : Prop where
  pending : u.pendingCommandIds = s.pendingCommandIds ++ [.issued s.nextId]
  emitted : u.emitted = s.emitted
  state : u.state = s.state
  shutdown : u.shutdownCommandId = s.shutdownCommandId
  nextId : u.nextId = s.nextId + 1
  thread : u.thread = s.thread

theorem newCommandId_opens (s : QtRuntimeBridge) : Opens s s.newCommandId.2 := ⟨rfl, rfl, rfl, rfl, rfl, rfl⟩

/-- What comes of a call: its command reaches the thread, or fails. -/
structure Asks (Q : RuntimeThreadCommand → Prop) (s : QtRuntimeBridge) (returned : CommandId × QtRuntimeBridge) :
    Prop where
  requested : s.Requested returned
  state : returned.2.state = s.state
  shutdown : returned.2.shutdownCommandId = s.shutdownCommandId
  nextId : returned.2.nextId = s.nextId + 1
  thread : returned.1 ∈ returned.2.pendingCommandIds ∧
      (∃ c : RuntimeThreadCommand, c.commandId = .issued s.nextId ∧ Q c ∧
        returned.2.thread = (s.thread.submit c).2) ∨
    returned.1 ∉ returned.2.pendingCommandIds ∧ returned.2.thread = s.thread

variable {Q : RuntimeThreadCommand → Prop}

theorem fail_asks {s u : QtRuntimeBridge} (h : s.Accounted) (hu : Opens s u) (safeCode safeMessage : String) :
    Asks Q s (.issued s.nextId, u.failCommand (.issued s.nextId) safeCode safeMessage) := by
  have hpending : (u.failCommand (.issued s.nextId) safeCode safeMessage).pendingCommandIds = s.pendingCommandIds := by
    rw [failCommand_pending, hu.pending, List.filter_append, filter_of_notMem (issued_not_pending h)]
    simp
  have hfails : u.failCommand (.issued s.nextId) safeCode safeMessage
      = (u.forget (.issued s.nextId)).emit (.commandFailed (.issued s.nextId) safeCode safeMessage) := by
    unfold failCommand
    rw [if_neg]
    simp [hu.pending]
  refine ⟨⟨rfl, .inr ⟨hpending, safeCode, safeMessage, ?_⟩⟩, ?_, ?_, ?_, .inr ⟨hpending ▸ issued_not_pending h, ?_⟩⟩
  · rw [hfails, ← hu.emitted]
    rfl
  · rw [hfails, ← hu.state]
    rfl
  · rw [hfails, ← hu.shutdown]
    rfl
  · rw [hfails, ← hu.nextId]
    rfl
  · rw [hfails, ← hu.thread]
    rfl

theorem submit_asks {s u : QtRuntimeBridge} (h : s.Accounted) (hu : Opens s u) (j : Journal)
    {c : RuntimeThreadCommand} (hid : c.commandId = .issued s.nextId) (hc : Q c) :
    Asks Q s (.issued s.nextId, u.submit j c) := by
  rcases submit_ends u j c with ⟨safeCode, safeMessage, heq⟩ | heq
  · rw [heq, hid]
    exact fail_asks h hu safeCode safeMessage
  · rw [heq]
    have hmem : CommandId.issued s.nextId ∈ u.pendingCommandIds := by
      rw [hu.pending]
      exact List.mem_append_right _ List.mem_cons_self
    exact ⟨⟨rfl, .inl ⟨hu.pending, hu.emitted⟩⟩, hu.state, hu.shutdown, hu.nextId,
      .inl ⟨hmem, c, hid, hc, by rw [← hu.thread]⟩⟩

theorem sendAutostart_asks {s : QtRuntimeBridge} (h : s.Accounted) (j : Journal) (operationId : Text)
    (origin : AutostartOperationOrigin) (requested : Option Bool) (revision : Nat)
    {command : CommandId → RuntimeThreadCommand} (hid : ∀ commandId, (command commandId).commandId = commandId)
    (hc : Q (command (.issued s.nextId))) :
    Asks Q s (s.sendAutostart j operationId origin requested revision command) := by
  have hopens : ∀ contexts, Opens s { s.newCommandId.2 with autostartContexts := contexts } :=
    fun _ => ⟨rfl, rfl, rfl, rfl, rfl, rfl⟩
  exact submit_asks h (hopens _) j (hid _) hc

end QtRuntimeBridge

namespace AutostartUi

open QtRuntimeBridge (call_serves issued_not_pending sendAutostart_asks isCommandPending)

variable {s : AutostartUi}

/-- What the controller waits for, the bridge has pending. -/
structure Kept (s : AutostartUi) : Prop where
  controller : s.controller.Consistent
  accounted : s.platform.bridge.Accounted
  pending : ∀ e ∈ s.controller.pending, e.1 ∈ s.platform.bridge.pendingCommandIds

/-- The bridge answers some of its commands, and the controller hears it. -/
theorem Kept.moved (h : s.Kept) {platform : Platform} (haccounted : platform.bridge.Accounted)
    (hemits : s.platform.bridge.emitted <+: platform.bridge.emitted)
    (hnext : s.platform.bridge.nextId ≤ platform.bridge.nextId) : (s.moved platform).Kept := by
  obtain ⟨new, hnew⟩ := hemits
  have hdrop : platform.bridge.emitted.drop s.platform.bridge.emitted.length = new := by
    rw [← hnew]
    exact List.drop_left
  obtain ⟨hconsistent, hpending⟩ :=
    AutostartUiController.hears_consistent (platform.bridge.emitted.drop s.platform.bridge.emitted.length) h.controller
  refine ⟨hconsistent, haccounted, fun e he => ?_⟩
  obtain ⟨hbefore, hunanswered⟩ := (hpending e).mp he
  rw [hdrop] at hunanswered
  have hwas := h.pending e hbefore
  obtain ⟨n, hid, hn⟩ := Platform.given_of_pending h.accounted hwas
  have hgiven : e.1 ∈ platform.bridge.pendingCommandIds ++ platform.bridge.answered := by
    rw [haccounted.once.mem_iff, hid]
    exact mem_map.mpr ⟨n, List.mem_range.mpr (by omega), rfl⟩
  rcases mem_append.mp hgiven with hstill | hanswered
  · exact hstill
  · obtain ⟨signal, hmem, hanswer⟩ := List.mem_filterMap.mp hanswered
    rw [← hnew] at hmem
    rcases mem_append.mp hmem with hold | hlate
    · exact absurd (List.mem_filterMap.mpr ⟨signal, hold, hanswer⟩) (h.accounted.open_of_mem hwas)
    · exact absurd hanswer (hunanswered signal hlate)

theorem platform_keeps {p : Platform} (h : p.bridge.Accounted) (e : Platform.PlatformEvent) :
    (p.step e).bridge.Accounted ∧ p.bridge.emitted <+: (p.step e).bridge.emitted ∧
      p.bridge.nextId ≤ (p.step e).bridge.nextId := by
  have hsettles : ∀ {b : QtRuntimeBridge}, QtRuntimeBridge.Settles p.bridge b →
      b.Accounted ∧ p.bridge.emitted <+: b.emitted ∧ p.bridge.nextId ≤ b.nextId :=
    fun hb => ⟨hb.accounted h, hb.emits, hb.nextId.ge⟩
  cases e with
  | call j c =>
    have hserves := (call_serves p.bridge j c).settles
    exact ⟨hserves.accounted (QtRuntimeBridge.newCommandId_accounted h), hserves.emits,
      (Nat.le_succ _).trans hserves.nextId.ge⟩
  | work a => exact hsettles (.of_same rfl rfl rfl)
  | handleNext j =>
    have hcases := p.handleNext_cases j
    show (p.handleNext j).bridge.Accounted ∧ p.bridge.emitted <+: (p.handleNext j).bridge.emitted ∧
      p.bridge.nextId ≤ (p.handleNext j).bridge.nextId
    rcases hcases with heq | ⟨signal, _, _, _, heq⟩
    · rw [heq]
      exact hsettles (.refl _)
    · rw [heq]
      exact hsettles (QtRuntimeBridge.handle_settles p.bridge j signal)

/-- What the bridge emits while it is asked is about the new command alone, which the controller does not know yet. -/
theorem moved_requested (h : s.Kept) {c : AutostartUiController} (hpending : c.pending = s.controller.pending)
    {returned : CommandId × QtRuntimeBridge} (hreturned : s.platform.bridge.Requested returned) :
    (s.withController c).moved { s.platform with bridge := returned.2 }
      = { controller := c, platform := { s.platform with bridge := returned.2 } } := by
  unfold moved
  congr 1
  have hunknown : c.pendingOperation (.issued s.platform.bridge.nextId) = none := by
    unfold AutostartUiController.pendingOperation
    rw [Option.map_eq_none_iff, List.find?_eq_none]
    intro e he hkey
    refine issued_not_pending h.accounted ?_
    rw [← of_decide_eq_true hkey]
    exact h.pending e (hpending ▸ he)
  obtain ⟨_, ⟨_, hemitted⟩ | ⟨_, safeCode, safeMessage, hemitted⟩⟩ := hreturned
  · show (returned.2.emitted.drop s.platform.bridge.emitted.length).foldl (·.hear ·) c = c
    rw [hemitted, List.drop_length]
    rfl
  · show (returned.2.emitted.drop s.platform.bridge.emitted.length).foldl (·.hear ·) c = c
    rw [hemitted, List.drop_left]
    show c.onCommandFailed _ safeCode safeMessage = c
    unfold AutostartUiController.onCommandFailed
    rw [hunknown]

theorem requestAutostart_asks (h : s.Kept) (j : Journal) (operationId : Text) (origin : AutostartOperationOrigin)
    (revision : Nat) : QtRuntimeBridge.Asks (fun c => c.type = .requestAutostart) s.platform.bridge
      (s.platform.bridge.requestAutostart j operationId origin revision) :=
  sendAutostart_asks h.accounted j operationId origin none revision (fun _ => rfl) rfl

theorem setAutostart_asks (h : s.Kept) (j : Journal) (enabled : Bool) (operationId : Text)
    (origin : AutostartOperationOrigin) (revision : Nat) :
    QtRuntimeBridge.Asks (fun c => c.type = .setAutostart) s.platform.bridge
      (s.platform.bridge.setAutostartEnabled j enabled operationId origin revision) :=
  sendAutostart_asks h.accounted j operationId origin (some enabled) revision (fun _ => rfl) rfl

/-- A refresh changes nothing, or the bridge is asked: the query is pending then, or has failed. -/
theorem refresh_ends (h : s.Kept) (u : UiJournal) (j : Journal) (operationId : Text)
    (origin : AutostartOperationOrigin) :
    (∃ c, AutostartUiController.Same s.controller c ∧ (s.refresh u j operationId origin).2 = s.withController c) ∨
    s.platform.bridge.state = .ready ∧
      let (context, c) := s.controller.newContext operationId origin none
      let returned := s.platform.bridge.requestAutostart j operationId origin context.controllerRevision
      s.platform.bridge.Requested returned ∧
        ((s.refresh u j operationId origin).2
            = { controller := c.await returned.1 context false, platform := { s.platform with bridge := returned.2 } } ∧
          returned.1 ∈ returned.2.pendingCommandIds ∨
        (s.refresh u j operationId origin).2
            = { controller := c, platform := { s.platform with bridge := returned.2 } } ∧
          returned.1 ∉ returned.2.pendingCommandIds) := by
  have hrequested := (requestAutostart_asks h j operationId origin (s.controller.revision + 1)).requested
  have hmoved := moved_requested h (c := (s.controller.newContext operationId origin none).2) rfl hrequested
  unfold refresh
  split
  next => exact .inl ⟨_, AutostartUiController.recordRejection_same _, rfl⟩
  next hopen =>
    simp only [Bool.or_eq_true, not_or, Bool.not_eq_true, Bool.not_eq_false'] at hopen
    dsimp only
    split
    next =>
      have hsame : AutostartUiController.Same s.controller (s.controller.newContext operationId origin none).2.journalFailure :=
        ⟨rfl, rfl, rfl, rfl, rfl, rfl, Nat.le_succ _⟩
      exact .inl ⟨_, hsame, rfl⟩
    next =>
      refine .inr ⟨of_decide_eq_true hopen.2, hrequested, ?_⟩
      split
      next hlost => exact .inr ⟨hmoved, by simpa [isCommandPending] using hlost⟩
      next hheld =>
        refine .inl ⟨?_, by simpa [isCommandPending] using hheld⟩
        exact congrArg (fun v : AutostartUi => v.withController (v.controller.await _ _ false)) hmoved

/-- A mutation too; the controller is not busy before it. -/
theorem setEnabled_ends (h : s.Kept) (u : UiJournal) (j : Journal) (enabled : Bool) (operationId : Text)
    (origin : AutostartOperationOrigin) : (∃ c, AutostartUiController.Same s.controller c ∧
      (s.setEnabled u j enabled operationId origin).2 = s.withController c) ∨
    s.platform.bridge.state = .ready ∧ s.controller.busy = false ∧
      let (context, c) := s.controller.newContext operationId origin (some enabled)
      let returned := s.platform.bridge.setAutostartEnabled j enabled operationId origin context.controllerRevision
      let c := c.beginMutation context.controllerRevision
      s.platform.bridge.Requested returned ∧
        ((∃ c', AutostartUiController.Same (c.await returned.1 context true) c' ∧
          (s.setEnabled u j enabled operationId origin).2
            = { controller := c', platform := { s.platform with bridge := returned.2 } }) ∧
          returned.1 ∈ returned.2.pendingCommandIds ∨
        (∃ c', AutostartUiController.Same { c with busy := false } c' ∧
          (s.setEnabled u j enabled operationId origin).2
            = { controller := c', platform := { s.platform with bridge := returned.2 } }) ∧
          returned.1 ∉ returned.2.pendingCommandIds) := by
  have hrequested := (setAutostart_asks h j enabled operationId origin (s.controller.revision + 1)).requested
  let context := (s.controller.newContext operationId origin (some enabled)).1
  let c := (s.controller.newContext operationId origin (some enabled)).2.beginMutation context.controllerRevision
  have hmoved := moved_requested h (show c.pending = s.controller.pending from rfl) hrequested
  unfold setEnabled
  split
  next => exact .inl ⟨_, AutostartUiController.recordRejection_same _, rfl⟩
  next hopen =>
    simp only [Bool.or_eq_true, not_or, Bool.not_eq_true', Bool.not_eq_false] at hopen
    simp only [AutostartUiController.userToggleAllowed, Bool.and_eq_true, Bool.not_eq_true'] at hopen
    obtain ⟨⟨⟨⟨_, hbusy⟩, _⟩, hready⟩, _⟩ := hopen
    dsimp only
    split
    next =>
      have hsame : AutostartUiController.Same s.controller
          (s.controller.newContext operationId origin (some enabled)).2.journalFailure :=
        ⟨rfl, rfl, rfl, rfl, rfl, rfl, Nat.le_succ _⟩
      exact .inl ⟨_, hsame, rfl⟩
    next =>
      have hlate : AutostartUiController.Same { c with busy := false } c.refuseMutation :=
        ⟨rfl, rfl, rfl, rfl, rfl, rfl, le_rfl⟩
      have hawaits : AutostartUiController.Same (c.await (.issued s.platform.bridge.nextId) context true)
          ((c.await (.issued s.platform.bridge.nextId) context true).emit (.stateChanged c.snapshot)) :=
        ⟨rfl, rfl, rfl, rfl, rfl, rfl, le_rfl⟩
      refine .inr ⟨of_decide_eq_true hready, hbusy, hrequested, ?_⟩
      split
      next hlost =>
        refine .inr ⟨⟨_, hlate, ?_⟩, by simpa [isCommandPending] using hlost⟩
        exact congrArg (fun v : AutostartUi => v.withController v.controller.refuseMutation) hmoved
      next hheld =>
        refine .inl ⟨⟨_, hawaits, ?_⟩, by simpa [isCommandPending] using hheld⟩
        exact congrArg (fun v : AutostartUi => v.withController
          ((v.controller.await _ _ true).emit (.stateChanged v.controller.snapshot))) hmoved

/-- The controller has asked the bridge; every operation it knows is pending still. -/
theorem Kept.of_requested (h : s.Kept) (j : Journal) (call : QtRuntimeBridge.Call)
    (hreturned : s.platform.bridge.Requested (s.platform.bridge.call j call)) {c : AutostartUiController}
    (hc : c.Consistent) (hpending : ∀ e ∈ c.pending, e ∈ s.controller.pending ∨
      e.1 = (s.platform.bridge.call j call).1 ∧ e.1 ∈ (s.platform.bridge.call j call).2.pendingCommandIds) :
    Kept { controller := c, platform := { s.platform with bridge := (s.platform.bridge.call j call).2 } } where
  controller := hc
  accounted := (platform_keeps h.accounted (.call j call)).1
  pending e he := by
    rcases hpending e he with hold | hnew
    · have hwas := h.pending e hold
      obtain ⟨_, ⟨heq, _⟩ | ⟨heq, _⟩⟩ := hreturned
      · rw [heq]
        exact List.mem_append_left _ hwas
      · rw [heq]
        exact hwas
    · exact hnew.2

/-- A pending operation has another command than the next, and an older revision. -/
theorem Kept.older (h : s.Kept) {e : CommandId × PendingAutostartOperation} (he : e ∈ s.controller.pending) :
    e.1 ≠ .issued s.platform.bridge.nextId ∧ e.2.revision < s.controller.revision + 1 := by
  refine ⟨fun heq => issued_not_pending h.accounted (heq ▸ h.pending e he), ?_⟩
  have := h.controller.revision e he
  omega

theorem Kept.refresh (h : s.Kept) (u : UiJournal) (j : Journal) (operationId : Text)
    (origin : AutostartOperationOrigin) : (s.refresh u j operationId origin).2.Kept := by
  have hcontext : AutostartUiController.Consistent { s.controller with revision := s.controller.revision + 1 } :=
    h.controller.of_same ⟨rfl, rfl, rfl, rfl, rfl, rfl, Nat.le_succ _⟩
  rcases refresh_ends h u j operationId origin with ⟨c, hsame, heq⟩ | ⟨_, hreturned, ⟨heq, hmem⟩ | ⟨heq, _⟩⟩
  · rw [heq]
    exact ⟨h.controller.of_same hsame, h.accounted, fun e he => h.pending e (hsame.pending ▸ he)⟩
  · rw [heq]
    have hawaits := hcontext.await (s.controller.newContext operationId origin none).1 false
      (fun e he => (h.older he).1) (fun e he => (h.older he).2) rfl
      (fun hmutation => absurd hmutation Bool.false_ne_true)
    refine h.of_requested j (.requestAutostart operationId origin (s.controller.revision + 1)) hreturned
      (hawaits.of_same ⟨rfl, rfl, rfl, rfl, rfl, rfl, le_rfl⟩) ?_
    intro e he
    rcases mem_append.mp he with hold | hnew
    · exact .inl hold
    · rw [mem_singleton.mp hnew]
      exact .inr ⟨rfl, hmem⟩
  · rw [heq]
    exact h.of_requested j (.requestAutostart operationId origin (s.controller.revision + 1)) hreturned
      hcontext fun e he => .inl he

theorem Kept.setEnabled (h : s.Kept) (u : UiJournal) (j : Journal) (enabled : Bool) (operationId : Text)
    (origin : AutostartOperationOrigin) : (s.setEnabled u j enabled operationId origin).2.Kept := by
  rcases setEnabled_ends h u j enabled operationId origin with
    ⟨c, hsame, heq⟩ | ⟨_, hbusy, hreturned, ⟨⟨c, hsame, heq⟩, hmem⟩ | ⟨⟨c, hsame, heq⟩, _⟩⟩
  · rw [heq]
    exact ⟨h.controller.of_same hsame, h.accounted, fun e he => h.pending e (hsame.pending ▸ he)⟩
  · rw [heq]
    have hrequests := h.controller.requests hbusy (Nat.le_succ _)
    have hawaits := hrequests.await
      (s.controller.newContext operationId origin (some enabled)).1 true (fun e he => (h.older he).1) (fun e he => (h.older he).2) rfl
      (fun _ => ⟨hbusy, rfl⟩)
    refine h.of_requested j (.setAutostartEnabled enabled operationId origin (s.controller.revision + 1))
      hreturned (hawaits.of_same ⟨hsame.busy, hsame.pending, hsame.latestMutation, hsame.latestApplied,
        hsame.history, hsame.snapshot, hsame.revision⟩) ?_
    intro e he
    rw [hsame.pending] at he
    rcases mem_append.mp he with hold | hnew
    · exact .inl hold
    · rw [mem_singleton.mp hnew]
      exact .inr ⟨rfl, hmem⟩
  · rw [heq]
    have hrequests := h.controller.requests hbusy (Nat.le_succ _)
    refine h.of_requested j (.setAutostartEnabled enabled operationId origin (s.controller.revision + 1))
      hreturned (hrequests.of_same ⟨hsame.busy.trans hbusy.symm, hsame.pending, hsame.latestMutation,
        hsame.latestApplied, hsame.history, hsame.snapshot, hsame.revision⟩) ?_
    intro e he
    exact .inl (hsame.pending ▸ he)

theorem Kept.step (h : s.Kept) (e : AutostartUiEvent) : (s.step e).Kept := by
  cases e with
  | refresh u j operationId origin => exact h.refresh u j operationId origin
  | setEnabled u j enabled operationId origin => exact h.setEnabled u j enabled operationId origin
  | platform e =>
    obtain ⟨haccounted, hemits, hnext⟩ := platform_keeps h.accounted e
    exact h.moved haccounted hemits hnext

end AutostartUi

end ArkClaw.Presentation.Runtime
