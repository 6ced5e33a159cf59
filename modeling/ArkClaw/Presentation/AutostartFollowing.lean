import ArkClaw.Presentation.AutostartControllerRuns
import ArkClaw.Presentation.RuntimeThreadRunning
import Mathlib.Data.List.Forall2

/-!
# What is shown follows the service

`Foresees` reads the signals of a running thread that are still to be handled: each snapshot is that of the oldest
pending operation, and after them all the service's own is shown, unless a mutation still waits for the thread. A record
that fails may keep a mutation from the thread, or its result from the service's snapshot; then what is shown falls
behind.
-/

namespace ArkClaw.Presentation.Runtime

open ArkClaw.Library ArkClaw.Autostart
open Platform (Given unhandled not_given)
open List (mem_cons_self mem_cons_of_mem mem_append mem_singleton filter_append map_cons mem_map_of_mem mem_map
  nodup_cons mem_cons append_nil not_mem_nil)

/-! ## What will be shown -/

abbrev PendingEntry := CommandId × PendingAutostartOperation

/-- The operation waits for the thread to execute its command. -/
def Awaits (e : PendingEntry) (c : RuntimeThreadCommand) : Prop :=
  e.1 = c.commandId ∧ (e.2.mutation = true ↔ c.type = .setAutostart)

/-- Of the signals still to be handled, of the pending operations and of what is shown: in the end `snapshot` is shown,
or the latest mutation still waits. -/
inductive Foresees (latest : Nat) (snapshot : AutostartSnapshot) (waiting : List RuntimeThreadCommand) :
    List Signal → List PendingEntry → AutostartSnapshot → Prop where
  | drained {pending : List PendingEntry} {shown : AutostartSnapshot} (hwaiting : List.Forall₂ Awaits pending waiting)
      (hsettled : (∃ e ∈ pending, e.2.mutation = true) ∨
        shown = snapshot ∧ ∀ e ∈ pending, latest ≤ e.2.revision) :
      Foresees latest snapshot waiting [] pending shown
  | published {signals : List Signal} {e : PendingEntry} {rest : List PendingEntry} {value shown : AutostartSnapshot}
      (h : Foresees latest snapshot waiting signals (e :: rest)
        (if e.2.mutation = true ∨ latest ≤ e.2.revision then value else shown)) :
      Foresees latest snapshot waiting (.autostartState e.1 (.autostart value) :: signals) (e :: rest) shown
  | answered {signals : List Signal} {pending : List PendingEntry} {shown : AutostartSnapshot} {commandId : CommandId}
      {success : Bool} {safeCode safeMessage : String}
      (h : Foresees latest snapshot waiting signals (pending.filter fun e => e.1 ≠ commandId) shown) :
      Foresees latest snapshot waiting (.commandResult commandId success safeCode safeMessage :: signals) pending shown
  | relayed {signals : List Signal} {pending : List PendingEntry} {shown : AutostartSnapshot} {signal : Signal}
      (hplain : signal.Plain) (h : Foresees latest snapshot waiting signals pending shown) :
      Foresees latest snapshot waiting (signal :: signals) pending shown

namespace Foresees

variable {latest latest' : Nat} {snapshot snapshot' : AutostartSnapshot} {waiting waiting' : List RuntimeThreadCommand}
  {signals new : List Signal} {pending : List PendingEntry} {shown : AutostartSnapshot} {e : PendingEntry}
  {c : RuntimeThreadCommand}
variable {relayed : List Signal}

/-- Where nothing is pending the service's snapshot is shown. -/
theorem settled (h : Foresees latest snapshot waiting signals [] shown) : shown = snapshot := by
  generalize hpending : ([] : List PendingEntry) = pending at h
  induction h with
  | drained _ hsettled =>
    rcases hsettled with ⟨e, he, _⟩ | ⟨hshown, _⟩
    · rw [← hpending] at he
      cases he
    · exact hshown
  | published _ _ => cases hpending
  | answered _ ih =>
    refine ih ?_
    rw [← hpending]
    rfl
  | relayed _ _ ih => exact ih hpending

theorem relays (hplain : ∀ signal ∈ relayed, signal.Plain)
    (h : Foresees latest snapshot waiting signals pending shown) :
    Foresees latest snapshot waiting (relayed ++ signals) pending shown := by
  induction relayed with
  | nil => exact h
  | cons signal relayed ih =>
    exact .relayed (hplain signal mem_cons_self) (ih fun other hmem => hplain other (mem_cons_of_mem _ hmem))

/-- The thread emits more: what it changes is seen after the signals before. -/
theorem extend (h : Foresees latest snapshot waiting signals pending shown)
    (hnew : ∀ pending' shown', pending'.Sublist pending → Foresees latest snapshot waiting [] pending' shown' →
      Foresees latest snapshot' waiting' new pending' shown') :
    Foresees latest snapshot' waiting' (signals ++ new) pending shown := by
  induction h with
  | drained hwaiting hsettled => exact hnew _ _ (List.Sublist.refl _) (.drained hwaiting hsettled)
  | published _ ih => exact .published (ih hnew)
  | answered _ ih => exact .answered (ih fun pending' shown' hsub => hnew pending' shown' (hsub.trans List.filter_sublist))
  | relayed hplain _ ih => exact .relayed hplain (ih hnew)

/-- A query is sent. -/
theorem query (h : Foresees latest snapshot waiting signals pending shown) (hawaits : Awaits e c)
    (hnew : latest ≤ e.2.revision) (hfresh : ∀ signal ∈ signals, signal.result ≠ some e.1) :
    Foresees latest snapshot (waiting ++ [c]) signals (pending ++ [e]) shown := by
  induction h with
  | drained hwaiting hsettled =>
    refine .drained (List.rel_append hwaiting (.cons hawaits .nil)) ?_
    rcases hsettled with ⟨m, hm, hmutation⟩ | ⟨hshown, hrevisions⟩
    · exact .inl ⟨m, List.mem_append_left _ hm, hmutation⟩
    · refine .inr ⟨hshown, fun d hd => ?_⟩
      rcases mem_append.mp hd with hold | hlast
      · exact hrevisions d hold
      · rw [mem_singleton.mp hlast]
        exact hnew
  | published _ ih => exact .published (ih fun signal hmem => hfresh signal (mem_cons_of_mem _ hmem))
  | @answered signals pending shown commandId success safeCode safeMessage _ ih =>
    have hother : e.1 ≠ commandId := fun heq => hfresh _ mem_cons_self (heq ▸ rfl)
    have hkept := ih fun signal hmem => hfresh signal (mem_cons_of_mem _ hmem)
    refine .answered ?_
    rw [filter_append, List.filter_singleton]
    simpa [hother] using hkept
  | relayed hplain _ ih => exact .relayed hplain (ih fun signal hmem => hfresh signal (mem_cons_of_mem _ hmem))

/-- A mutation is sent: what is shown until it has its result makes no difference. -/
theorem mutation (h : Foresees latest snapshot waiting signals pending shown) (hawaits : Awaits e c)
    (hmutation : e.2.mutation = true) (hfresh : ∀ signal ∈ signals, signal.result ≠ some e.1) (latest' : Nat) :
    ∀ shown', Foresees latest' snapshot (waiting ++ [c]) signals (pending ++ [e]) shown' := by
  induction h with
  | drained hwaiting _ =>
    intro shown'
    exact .drained (List.rel_append hwaiting (.cons hawaits .nil))
      (.inl ⟨e, List.mem_append_right _ mem_cons_self, hmutation⟩)
  | published _ ih =>
    intro shown'
    exact .published (ih (fun signal hmem => hfresh signal (mem_cons_of_mem _ hmem)) _)
  | @answered signals pending shown commandId success safeCode safeMessage _ ih =>
    intro shown'
    have hother : e.1 ≠ commandId := fun heq => hfresh _ mem_cons_self (heq ▸ rfl)
    have hkept := ih (fun signal hmem => hfresh signal (mem_cons_of_mem _ hmem)) shown'
    refine .answered ?_
    rw [filter_append, List.filter_singleton]
    simpa [hother] using hkept
  | relayed hplain _ ih =>
    intro shown'
    exact .relayed hplain (ih (fun signal hmem => hfresh signal (mem_cons_of_mem _ hmem)) shown')

/-- The operations wait for their commands, in order. -/
theorem keys_of_awaits (h : List.Forall₂ Awaits pending waiting) :
    pending.map Prod.fst = waiting.map (·.commandId) := by
  induction h with
  | nil => rfl
  | cons hawaits _ ih => rw [map_cons, map_cons, ih, hawaits.1]

/-- A command of another kind is executed. -/
theorem other (h : Foresees latest snapshot waiting signals pending shown)
    (hplain : ∀ signal ∈ relayed, signal.Plain) (hother : ∀ d ∈ waiting, d.commandId ≠ c.commandId) (success : Bool)
    (safeCode safeMessage : String) :
    Foresees latest snapshot waiting (signals ++ (relayed ++ [.commandResult c.commandId success safeCode safeMessage]))
      pending shown := by
  refine h.extend fun pending' shown' _ hdrained => relays hplain (.answered ?_)
  cases hdrained with
  | drained hwaiting hsettled =>
    have hsame : (pending'.filter fun e => e.1 ≠ c.commandId) = pending' := by
      refine List.filter_eq_self.mpr fun e he => ?_
      have hkey : e.1 ∈ waiting.map (·.commandId) := keys_of_awaits hwaiting ▸ mem_map_of_mem he
      obtain ⟨d, hd, heq⟩ := mem_map.mp hkey
      simpa [← heq] using hother d hd
    rw [hsame]
    exact .drained hwaiting hsettled

/-- The oldest operation that waits is executed. -/
theorem executed (h : Foresees latest snapshot (c :: waiting) signals pending shown)
    (hkeys : (pending.map Prod.fst).Nodup) (hascending : (pending.map fun e => e.2.revision).Pairwise (· < ·))
    (hmutations : ∀ e ∈ pending, e.2.mutation = true → e.2.revision = latest)
    (hplain : ∀ signal ∈ relayed, signal.Plain) {value : Option AutostartSnapshot}
    (hshown : ∀ given, value = some given → given = snapshot')
    (hsilent : value = none → snapshot' = snapshot ∧ c.type ≠ .setAutostart) (answer : Payload) (success : Bool)
    (safeCode safeMessage : String) :
    Foresees latest snapshot' waiting (signals ++ (relayed ++ (publication c value ++
      [.snapshot answer, .commandResult c.commandId success safeCode safeMessage]))) pending shown := by
  refine h.extend fun pending' shown' hsub hdrained => relays hplain ?_
  cases hdrained with
  | drained hwaiting hsettled =>
    cases hwaiting with
    | @cons e _ rest _ hawaits hrest =>
      obtain ⟨hid, htype⟩ := hawaits
      have hmem : ∀ d ∈ e :: rest, d ∈ pending := fun d hd => hsub.subset hd
      have hkeys' := hkeys.sublist (hsub.map _)
      have hascending' := hascending.sublist (hsub.map _)
      have hpopped : ((e :: rest).filter fun d => d.1 ≠ c.commandId) = rest := by
        rw [List.filter_cons_of_neg (by simp [hid])]
        refine List.filter_eq_self.mpr fun d hd => ?_
        have hother : d.1 ≠ e.1 := fun heq => (nodup_cons.mp hkeys').1 (heq ▸ mem_map_of_mem hd)
        simpa [← hid] using hother
      have hends : ∀ shown'', ((∃ d ∈ rest, d.2.mutation = true) ∨
          shown'' = snapshot' ∧ ∀ d ∈ rest, latest ≤ d.2.revision) →
          Foresees latest snapshot' waiting
            [.snapshot answer, .commandResult c.commandId success safeCode safeMessage] (e :: rest) shown'' := by
        intro shown'' hsettled'
        refine .relayed trivial (.answered ?_)
        rw [hpopped]
        exact .drained hrest hsettled'
      have hlater : e.2.mutation = true → ∀ d ∈ rest, latest ≤ d.2.revision := by
        intro hmutation d hd
        have hfirst := hmutations e (hmem e mem_cons_self) hmutation
        have hlast : e.2.revision < d.2.revision := (List.pairwise_cons.mp hascending').1 _ (mem_map_of_mem hd)
        omega
      cases value with
      | none =>
        obtain ⟨hsame, hquery⟩ := hsilent rfl
        refine hends shown' ?_
        rcases hsettled with ⟨d, hd, hmutation⟩ | ⟨hshown', hrevisions⟩
        · rcases mem_cons.mp hd with rfl | hd
          · exact absurd (htype.mp hmutation) hquery
          · exact .inl ⟨d, hd, hmutation⟩
        · exact .inr ⟨hshown'.trans hsame.symm, fun d hd => hrevisions d (mem_cons_of_mem _ hd)⟩
      | some given =>
        rw [hshown given rfl]
        show Foresees latest snapshot' waiting (.autostartState c.commandId (.autostart snapshot') ::
          [.snapshot answer, .commandResult c.commandId success safeCode safeMessage]) (e :: rest) shown'
        rw [← hid]
        refine .published (hid ▸ hends _ ?_)
        by_cases hmutation : e.2.mutation = true
        · exact .inr ⟨if_pos (.inl hmutation), hlater hmutation⟩
        · rcases hsettled with ⟨d, hd, hother⟩ | ⟨_, hrevisions⟩
          · rcases mem_cons.mp hd with rfl | hd
            · exact absurd hother hmutation
            · exact .inl ⟨d, hd, hother⟩
          · refine .inr ⟨if_pos (.inr (hrevisions e mem_cons_self)), fun d hd => ?_⟩
            exact hrevisions d (mem_cons_of_mem _ hd)

end Foresees

/-! ## The steps of a running platform -/

/-- A command that is no shutdown and not about the autostart setting. -/
def RuntimeThreadCommand.IsOther (c : RuntimeThreadCommand) : Prop := c.type ≠ .shutdown ∧ c.isAutostart = false

namespace QtRuntimeBridge

theorem call_asks {s : QtRuntimeBridge} (h : s.Accounted) (hstate : s.state ≠ .new) (j : Journal)
    {c : Call} {ui : AutostartUi} (hcall : ui.Runs (.platform (.call j c))) :
    Asks RuntimeThreadCommand.IsOther s (s.call j c) := by
  have hopens := newCommandId_opens s
  have hsend : ∀ command : CommandId → RuntimeThreadCommand, (∀ commandId, (command commandId).commandId = commandId) →
      (command (.issued s.nextId)).IsOther → Asks RuntimeThreadCommand.IsOther s (s.send j command) :=
    fun command hid hother => submit_asks h hopens j (hid _) hother
  have hchecked : ∀ (texts : List Text) (message : String) (command : CommandId → RuntimeThreadCommand),
      (∀ commandId, (command commandId).commandId = commandId) → (command (.issued s.nextId)).IsOther →
      Asks RuntimeThreadCommand.IsOther s (s.sendChecked j texts message command) := by
    intro texts message command hid hother
    unfold sendChecked
    dsimp only
    split
    next => exact fail_asks h hopens _ _
    next => exact submit_asks h hopens j (hid _) hother
  cases c with
  | startRuntime raises =>
    show Asks _ s (s.startRuntime raises)
    unfold startRuntime
    dsimp only
    rw [if_pos (show s.newCommandId.2.state ≠ .new from hstate)]
    exact fail_asks h hopens _ _
  | requestAutostart _ _ _ | setAutostartEnabled _ _ _ _ | shutdown _ => exact hcall.elim
  | cancelActiveTurn | requestSnapshot | requestProviderSettings =>
    simp only [call, cancelActiveTurn, requestSnapshot, requestProviderSettings]
    exact hsend _ (fun _ => rfl) ⟨fun htype => (by cases htype), rfl⟩
  | _ =>
    simp only [call, activateProfile, sendMessage, createProviderProfile, updateProviderProfile, deleteProviderProfile,
      saveProviderCredential, deleteProviderCredential]
    exact hchecked _ _ _ (fun _ => rfl) ⟨fun htype => (by cases htype), rfl⟩

/-- Of a plain relay the controller hears nothing. -/
theorem handle_plain (s : QtRuntimeBridge) (j : Journal) {signal : Signal} (hplain : signal.Plain) :
    ∃ new, s.handle j signal = { s with emitted := s.emitted ++ new } ∧
      ∀ signal ∈ new, ∀ c : AutostartUiController, c.hear signal = c := by
  have hnothing : ∃ new, s = { s with emitted := s.emitted ++ new } ∧
      ∀ signal ∈ new, ∀ c : AutostartUiController, c.hear signal = c := ⟨[], by simp, fun _ hmem => by cases hmem⟩
  have hemits : ∀ signal : BridgeSignal, (∀ c : AutostartUiController, c.hear signal = c) →
      ∃ new, s.emit signal = { s with emitted := s.emitted ++ new } ∧
        ∀ signal ∈ new, ∀ c : AutostartUiController, c.hear signal = c := fun signal hsilent =>
    ⟨[signal], rfl, fun _ hmem => mem_singleton.mp hmem ▸ hsilent⟩
  cases signal with
  | runtimeEvent value =>
    show ∃ new, s.relayRuntimeEvent value = _ ∧ _
    unfold relayRuntimeEvent
    split
    next => exact hnothing
    next => split <;> first | exact hnothing | exact hemits _ fun _ => rfl
  | snapshot value =>
    show ∃ new, s.relaySnapshot value = _ ∧ _
    unfold relaySnapshot
    split
    next => exact hnothing
    next =>
      refine ⟨[.runtimeStateChanged, .providerLifecycleChanged], by simp [emit], fun signal hmem c => ?_⟩
      rcases mem_cons.mp hmem with rfl | hmem
      · rfl
      · rw [mem_singleton.mp hmem]
        rfl
  | providerSettings commandId value =>
    show ∃ new, s.relayProviderSettings commandId value = _ ∧ _
    unfold relayProviderSettings
    split
    next => exact hnothing
    next => exact hemits _ fun _ => rfl
  | _ => exact hplain.elim

/-- A command is answered, with a signal or not at all. -/
theorem onCommandResult_answers (s : QtRuntimeBridge) (hshutdown : s.shutdownCommandId = none) (j : Journal)
    (commandId : CommandId) (success : Bool) (safeCode safeMessage : String) :
    commandId ∉ s.pendingCommandIds ∧ s.onCommandResult j commandId success safeCode safeMessage = s ∨
      ∃ signal : BridgeSignal, signal.answer = some commandId ∧
        s.onCommandResult j commandId success safeCode safeMessage = (s.forget commandId).emit signal := by
  unfold onCommandResult
  by_cases hmem : commandId ∈ s.pendingCommandIds
  · right
    rw [if_neg (not_not.mpr hmem)]
    cases success with
    | true =>
      rw [if_pos rfl]
      unfold completeCommand
      rw [if_neg (not_not.mpr hmem)]
      split <;> exact ⟨_, rfl, rfl⟩
    | false =>
      rw [if_neg Bool.false_ne_true, if_neg (by simp [hshutdown])]
      unfold failCommand
      rw [if_neg (not_not.mpr hmem)]
      exact ⟨_, rfl, rfl⟩
  · exact .inl ⟨hmem, if_pos hmem⟩

/-- A running thread is given a command that is recorded. -/
theorem setAutostart_accepted {s : QtRuntimeBridge} (hstate : s.state = .ready)
    (hthread : s.thread.Running) (j : Journal) (enabled : Bool) (operationId : Text)
    (origin : AutostartOperationOrigin) (revision : Nat)
    (hrecorded : s.recordAutostart j .commandSubmitted (.issued s.nextId) = true) :
    (s.setAutostartEnabled j enabled operationId origin revision).1
      ∈ (s.setAutostartEnabled j enabled operationId origin revision).2.pendingCommandIds := by
  have hsubmits : ∀ (u : QtRuntimeBridge) (c : RuntimeThreadCommand), u.state = s.state → u.thread = s.thread →
      u.hasJournal = s.hasJournal → c.commandId = .issued s.nextId → CommandId.issued s.nextId ∈ u.pendingCommandIds →
      CommandId.issued s.nextId ∈ (u.submit j c).pendingCommandIds := by
    intro u c hustate huthread hujournal hid hmem
    have hrecords : u.recordAutostart j .commandSubmitted c.commandId = true := by
      unfold recordAutostart at hrecorded ⊢
      rw [hujournal, hid]
      exact hrecorded
    unfold submit
    rw [hustate, hstate]
    dsimp only
    rw [hrecords, huthread, hthread.submit]
    simpa using hmem
  exact hsubmits _ _ rfl rfl rfl rfl (List.mem_append_right _ mem_cons_self)

end QtRuntimeBridge

namespace AutostartUi

variable {s : AutostartUi}
variable {c' : AutostartUiController}

/-- The thread runs, and what is pending and still to be handled leads to the service's snapshot. -/
structure Follows (s : AutostartUi) : Prop where
  kept : s.Kept
  ready : s.platform.bridge.state = .ready
  shutdown : s.platform.bridge.shutdownCommandId = none
  thread : s.platform.bridge.thread.Running
  handled : s.platform.handled ≤ s.platform.bridge.thread.signals.length
  ids : (s.platform.bridge.thread.waiting.map (·.commandId)).Nodup
  given : ∀ c ∈ s.platform.bridge.thread.waiting, Given s.platform.bridge c.commandId
  results : ∀ signal ∈ s.platform.unhandled, ∀ commandId, signal.result = some commandId →
    Given s.platform.bridge commandId
  applied : ∀ e ∈ s.controller.pending, s.controller.latestAppliedRevision ≤ e.2.revision
  foresees : Foresees s.controller.latestMutationRevision s.service.snapshot
    (s.platform.bridge.thread.waiting.filter (·.isAutostart)) s.platform.unhandled s.controller.pending
    s.controller.snapshot

/-- The bridge is called: the thread has one command more, or none. -/
theorem Follows.of_waiting (h : s.Follows) {bridge : QtRuntimeBridge}
    (hkept : Kept { controller := c', platform := { s.platform with bridge } })
    (hstate : bridge.state = s.platform.bridge.state)
    (hshutdown : bridge.shutdownCommandId = s.platform.bridge.shutdownCommandId)
    (hnext : bridge.nextId = s.platform.bridge.nextId + 1) (hrunning : bridge.thread.Running)
    (hsignals : bridge.thread.signals = s.platform.bridge.thread.signals)
    (hservice : bridge.thread.autostartService = s.service) (new : List RuntimeThreadCommand)
    (hwaiting : bridge.thread.waiting = s.platform.bridge.thread.waiting ++ new)
    (hids : new.map (·.commandId) <+: [.issued s.platform.bridge.nextId])
    (happlied : ∀ e ∈ c'.pending, c'.latestAppliedRevision ≤ e.2.revision)
    (hforesees : Foresees c'.latestMutationRevision s.service.snapshot
      ((s.platform.bridge.thread.waiting ++ new).filter (·.isAutostart)) s.platform.unhandled c'.pending c'.snapshot) :
    Follows { controller := c', platform := { s.platform with bridge } } := by
  have hunhandled : unhandled { s.platform with bridge } = s.platform.unhandled := by
    show bridge.thread.signals.drop s.platform.handled = _
    rw [hsignals]
    rfl
  have hnew : ∀ c ∈ new, c.commandId = .issued s.platform.bridge.nextId := fun c hc =>
    mem_singleton.mp (hids.subset (mem_map_of_mem hc))
  have holder : ∀ commandId, Given s.platform.bridge commandId → Given bridge commandId :=
    fun commandId hgiven => hgiven.mono (by omega)
  refine ⟨hkept, hstate.trans h.ready, hshutdown.trans h.shutdown, hrunning, ?_, ?_, ?_, ?_, happlied, ?_⟩
  · show s.platform.handled ≤ bridge.thread.signals.length
    rw [hsignals]
    exact h.handled
  · show (bridge.thread.waiting.map (·.commandId)).Nodup
    rw [hwaiting, List.map_append]
    refine List.nodup_append.mpr ⟨h.ids, (List.nodup_singleton _).sublist hids.sublist, ?_⟩
    intro id hid other hother heq
    obtain ⟨d, hd, rfl⟩ := mem_map.mp hid
    have hlast := heq.trans (mem_singleton.mp (hids.subset hother))
    exact not_given s.platform.bridge (hlast ▸ h.given d hd)
  · show ∀ d ∈ bridge.thread.waiting, Given bridge d.commandId
    intro d hd
    rw [hwaiting] at hd
    rcases mem_append.mp hd with hold | hlast
    · exact holder _ (h.given d hold)
    · rw [hnew d hlast]
      intro n hn
      cases hn
      omega
  · intro signal hsignal commandId hresult
    rw [hunhandled] at hsignal
    exact holder _ (h.results signal hsignal commandId hresult)
  · show Foresees _ bridge.thread.autostartService.snapshot (bridge.thread.waiting.filter _)
      (unhandled { s.platform with bridge }) _ _
    rw [hunhandled, hwaiting, hservice]
    exact hforesees

/-- The bridge is called, and the controller has changed. -/
theorem Follows.asked (h : s.Follows) {Q : RuntimeThreadCommand → Prop} (hQ : ∀ c, Q c → c.type ≠ .shutdown)
    {returned : CommandId × QtRuntimeBridge} (hasks : QtRuntimeBridge.Asks Q s.platform.bridge returned)
    (hkept : Kept { controller := c', platform := { s.platform with bridge := returned.2 } })
    (happlied : ∀ e ∈ c'.pending, c'.latestAppliedRevision ≤ e.2.revision)
    (hsent : ∀ c, c.commandId = .issued s.platform.bridge.nextId → Q c → returned.1 ∈ returned.2.pendingCommandIds →
      Foresees c'.latestMutationRevision s.service.snapshot
        ((s.platform.bridge.thread.waiting ++ [c]).filter (·.isAutostart)) s.platform.unhandled c'.pending c'.snapshot)
    (hrefused : returned.1 ∉ returned.2.pendingCommandIds → Foresees c'.latestMutationRevision s.service.snapshot
      (s.platform.bridge.thread.waiting.filter (·.isAutostart)) s.platform.unhandled c'.pending c'.snapshot) :
    Follows { controller := c', platform := { s.platform with bridge := returned.2 } } := by
  rcases hasks.thread with ⟨hmem, c, hid, hc, hthread⟩ | ⟨hlost, hthread⟩
  · obtain ⟨hrunning, hwaiting⟩ := h.thread.submitted (hQ c hc)
    have hids : [c].map (·.commandId) <+: [.issued s.platform.bridge.nextId] := by simp [hid]
    refine h.of_waiting hkept hasks.state hasks.shutdown hasks.nextId (hthread ▸ hrunning) ?_ ?_ [c]
      (hthread ▸ hwaiting) hids happlied (hsent c hid hc hmem)
    · exact (congrArg RuntimeThread.signals hthread).trans (congrArg (fun r => r.2.signals) (h.thread.submit c))
    · exact (congrArg RuntimeThread.autostartService hthread).trans (congrArg (fun r => r.2.autostartService) (h.thread.submit c))
  · refine h.of_waiting hkept hasks.state hasks.shutdown hasks.nextId (hthread ▸ h.thread) ?_ ?_ [] ?_
      List.nil_prefix happlied ?_
    · rw [hthread]
    · rw [hthread]
      rfl
    · rw [hthread, append_nil]
    · rw [append_nil]
      exact hrefused hlost

/-- The controller changes by itself. -/
theorem Follows.of_same (h : s.Follows)
    (hsame : AutostartUiController.Same s.controller c') : (s.withController c').Follows where
  kept := ⟨h.kept.controller.of_same hsame, h.kept.accounted, fun e he => h.kept.pending e (hsame.pending ▸ he)⟩
  ready := h.ready
  shutdown := h.shutdown
  thread := h.thread
  handled := h.handled
  ids := h.ids
  given := h.given
  results := h.results
  applied := by
    show ∀ e ∈ c'.pending, c'.latestAppliedRevision ≤ e.2.revision
    rw [hsame.pending, hsame.latestApplied]
    exact h.applied
  foresees := by
    show Foresees c'.latestMutationRevision _ _ _ c'.pending c'.snapshot
    rw [hsame.pending, hsame.latestMutation, hsame.snapshot]
    exact h.foresees

/-- The signals still to be handled are no results of the next command. -/
theorem Follows.fresh (h : s.Follows) : ∀ signal ∈ s.platform.unhandled,
    signal.result ≠ some (.issued s.platform.bridge.nextId) := fun signal hmem hresult =>
  not_given s.platform.bridge (h.results signal hmem _ hresult)

/-- A command of the setting is given to the thread. -/
theorem filter_sent {waiting : List RuntimeThreadCommand} {c : RuntimeThreadCommand} (hc : c.isAutostart = true) :
    (waiting ++ [c]).filter (·.isAutostart) = waiting.filter (·.isAutostart) ++ [c] := by
  rw [filter_append, List.filter_cons_of_pos hc, List.filter_nil]

theorem Follows.refresh (h : s.Follows) (u : UiJournal) (j : Journal) (operationId : Text)
    (origin : AutostartOperationOrigin) : (s.refresh u j operationId origin).2.Follows := by
  have hkept := h.kept.refresh u j operationId origin
  have hasks := requestAutostart_asks h.kept j operationId origin (s.controller.revision + 1)
  have hQ : ∀ c : RuntimeThreadCommand, c.type = .requestAutostart → c.type ≠ .shutdown := by
    intro c hc
    rw [hc]
    nofun
  rcases refresh_ends h.kept u j operationId origin with ⟨c, hsame, heq⟩ | ⟨_, _, ⟨heq, hmem⟩ | ⟨heq, hlost⟩⟩
  · rw [heq]
    exact h.of_same hsame
  · rw [heq] at hkept ⊢
    refine h.asked hQ hasks hkept ?_ ?_ (fun hlost => absurd hmem hlost)
    · intro e he
      rcases mem_append.mp he with hold | hnew
      · exact h.applied e hold
      · rw [mem_singleton.mp hnew]
        exact h.kept.controller.latestApplied.trans (Nat.le_succ _)
    · intro c hid hc _
      rw [filter_sent (by simp [RuntimeThreadCommand.isAutostart, hc])]
      refine h.foresees.query ⟨hid.symm, ?_⟩ ?_ h.fresh
      · simp [hc]
      · exact h.kept.controller.latest.trans (Nat.le_succ _)
  · rw [heq] at hkept ⊢
    exact h.asked hQ hasks hkept h.applied (fun c _ _ hmem => absurd hmem hlost) fun _ => h.foresees

theorem Follows.setEnabled (h : s.Follows) (u : UiJournal) (j : Journal) (enabled : Bool) (operationId : Text)
    (origin : AutostartOperationOrigin)
    (hrecorded : s.platform.bridge.recordAutostart j .commandSubmitted (.issued s.platform.bridge.nextId) = true) :
    (s.setEnabled u j enabled operationId origin).2.Follows := by
  have hkept := h.kept.setEnabled u j enabled operationId origin
  have hasks := setAutostart_asks h.kept j enabled operationId origin (s.controller.revision + 1)
  have hQ : ∀ c : RuntimeThreadCommand, c.type = .setAutostart → c.type ≠ .shutdown := by
    intro c hc
    rw [hc]
    nofun
  have haccepted := QtRuntimeBridge.setAutostart_accepted h.ready h.thread j enabled operationId origin
    (s.controller.revision + 1) hrecorded
  rcases setEnabled_ends h.kept u j enabled operationId origin with
    ⟨c, hsame, heq⟩ | ⟨_, _, _, ⟨⟨c, hsame, heq⟩, _⟩ | ⟨_, hlost⟩⟩
  · rw [heq]
    exact h.of_same hsame
  · rw [heq] at hkept ⊢
    refine h.asked hQ hasks hkept ?_ ?_ (fun hlost => absurd haccepted hlost)
    · rw [hsame.pending, hsame.latestApplied]
      intro e he
      rcases mem_append.mp he with hold | hnew
      · exact h.applied e hold
      · rw [mem_singleton.mp hnew]
        exact h.kept.controller.latestApplied.trans (Nat.le_succ _)
    · intro d hid hd _
      rw [filter_sent (by simp [RuntimeThreadCommand.isAutostart, hd]), hsame.pending]
      refine h.foresees.mutation ⟨hid.symm, ?_⟩ rfl h.fresh _ _
      simp [hd]
  · exact absurd haccepted hlost

/-- Another command is called for. -/
theorem Follows.call (h : s.Follows) (j : Journal) {c : QtRuntimeBridge.Call} (hc : s.Runs (.platform (.call j c))) :
    (s.step (.platform (.call j c))).Follows := by
  have hstate : s.platform.bridge.state ≠ .new := by
    rw [h.ready]
    nofun
  have hasks := QtRuntimeBridge.call_asks h.kept.accounted hstate j hc
  have hmoved := moved_requested h.kept (c := s.controller) rfl hasks.requested
  have hkept := h.kept.step (.platform (.call j c))
  show (s.moved { s.platform with bridge := (s.platform.bridge.call j c).2 }).Follows
  change (s.moved { s.platform with bridge := (s.platform.bridge.call j c).2 }).Kept at hkept
  change s.moved { s.platform with bridge := (s.platform.bridge.call j c).2 } = _ at hmoved
  rw [hmoved] at hkept ⊢
  refine h.asked (fun _ hother => hother.1) hasks hkept h.applied (fun d _ hother _ => ?_) fun _ => h.foresees
  rw [filter_append, List.filter_cons_of_neg (by simp [hother.2]), List.filter_nil, append_nil]
  exact h.foresees

theorem moved_emits {platform : Platform} {new : List BridgeSignal}
    (hnew : platform.bridge.emitted = s.platform.bridge.emitted ++ new) :
    s.moved platform = { controller := new.foldl (·.hear ·) s.controller, platform } := by
  unfold moved
  rw [hnew, List.drop_left]

theorem moved_quiet {platform : Platform} (hquiet : platform.bridge.emitted = s.platform.bridge.emitted) :
    s.moved platform = { controller := s.controller, platform } :=
  moved_emits (hquiet.trans (append_nil _).symm)

theorem Follows.work (h : s.Follows) {a : Answer} (hruns : s.Runs (.platform (.work a)))
    (hrecorded : s.Recorded (.platform (.work a))) : (s.step (.platform (.work a))).Follows := by
  obtain ⟨hrunning, hworks⟩ := h.thread.work hruns.1 hruns.2
  have hkept := h.kept.step (.platform (.work a))
  have hmoved : s.step (.platform (.work a)) = { controller := s.controller, platform := s.platform.step (.work a) } :=
    moved_quiet rfl
  have hunhandled : ∀ new, (s.platform.bridge.thread.work a).signals = s.platform.bridge.thread.signals ++ new →
      unhandled (s.platform.step (.work a)) = s.platform.unhandled ++ new := by
    intro new hsignals
    show (s.platform.bridge.thread.work a).signals.drop s.platform.handled = _
    rw [hsignals, List.drop_append_of_le_length h.handled]
    rfl
  rw [hmoved] at hkept ⊢
  have hsub := hworks.waiting_subset
  have hfollows : ∀ new, (s.platform.bridge.thread.work a).signals = s.platform.bridge.thread.signals ++ new →
      ((s.platform.bridge.thread.work a).waiting.map (·.commandId)).Nodup →
      (∀ signal ∈ new, ∀ commandId, signal.result = some commandId → Given s.platform.bridge commandId) →
      Foresees s.controller.latestMutationRevision (s.platform.bridge.thread.work a).autostartService.snapshot
        ((s.platform.bridge.thread.work a).waiting.filter (·.isAutostart)) (s.platform.unhandled ++ new)
        s.controller.pending s.controller.snapshot →
      Follows { controller := s.controller, platform := s.platform.step (.work a) } := by
    intro new hsignals hids hresults hforesees
    refine ⟨hkept, h.ready, h.shutdown, hrunning, ?_, hids, fun c hc => h.given c (hsub hc), ?_, h.applied, ?_⟩
    · show s.platform.handled ≤ (s.platform.bridge.thread.work a).signals.length
      rw [hsignals, List.length_append]
      have := h.handled
      omega
    · rw [hunhandled new hsignals]
      intro signal hmem
      exact (mem_append.mp hmem).elim (h.results signal) (hresults signal)
    · rw [hunhandled new hsignals]
      exact hforesees
  cases hworks with
  | idle relayed hplain hwaiting hservice hsignals =>
    refine hfollows relayed hsignals (hwaiting ▸ h.ids) ?_ ?_
    · intro signal hmem commandId hresult
      rw [(hplain signal hmem).result] at hresult
      cases hresult
    · rw [hwaiting, hservice]
      refine h.foresees.extend fun pending' shown' _ hdrained => ?_
      have := Foresees.relays hplain hdrained
      rwa [append_nil] at this
  | executed c relayed shown success safeCode safeMessage hplain hstage hwaiting hserves hsignals =>
    have hc : c ∈ s.platform.bridge.thread.waiting := hwaiting ▸ mem_cons_self
    have hids := h.ids
    rw [hwaiting, map_cons] at hids
    refine hfollows _ hsignals (nodup_cons.mp hids).2 ?_ ?_
    · intro signal hmem commandId hresult
      rcases mem_append.mp hmem with hrelay | hmem
      · rw [(hplain signal hrelay).result] at hresult
        cases hresult
      · rcases mem_append.mp hmem with hpublished | hmem
        · obtain ⟨_, _, rfl⟩ := mem_map.mp hpublished
          cases hresult
        · rcases mem_cons.mp hmem with rfl | hmem
          · cases hresult
          · rw [mem_singleton.mp hmem] at hresult
            cases hresult
            exact h.given c hc
    · have hforesees := h.foresees
      rw [hwaiting] at hforesees
      by_cases hautostart : c.isAutostart = true
      · rw [List.filter_cons_of_pos hautostart] at hforesees
        have hcontroller := h.kept.controller
        refine hforesees.executed hcontroller.keys hcontroller.ascending hcontroller.mutation hplain ?_ ?_ _ _ _ _
        · intro given hgiven
          exact (hserves.shows given hgiven).2 fun hset => (hrecorded c false hstage hset).2
        · intro hnone
          obtain ⟨hsame, hrefused⟩ := hserves.silent hnone
          refine ⟨by rw [hsame]; rfl, fun hset => ?_⟩
          have htaken := (hrecorded c false hstage hset).1
          rw [hrefused hset] at htaken
          cases htaken
      · rw [List.filter_cons_of_neg hautostart] at hforesees
        have hnone : shown = none := by
          cases hshown : shown with
          | none => rfl
          | some given => exact absurd (hserves.shows given hshown).1 hautostart
        have hothers : ∀ d ∈ (s.platform.bridge.thread.work a).waiting.filter (·.isAutostart),
            d.commandId ≠ c.commandId := fun d hd heq =>
          (nodup_cons.mp hids).1 (heq ▸ mem_map_of_mem (List.mem_filter.mp hd).1)
        have hrelayed : ∀ signal ∈ relayed ++ [.snapshot a.snapshot], signal.Plain := by
          intro signal hmem
          rcases mem_append.mp hmem with hrelay | hlast
          · exact hplain signal hrelay
          · rw [mem_singleton.mp hlast]
            trivial
        rw [(hserves.silent hnone).1, hnone]
        have hexecuted := hforesees.other hrelayed hothers success safeCode safeMessage
        rw [List.append_assoc] at hexecuted
        exact hexecuted

/-- The next signal is handled. -/
theorem Follows.of_handled (h : s.Follows) {signal : Signal} {bridge : QtRuntimeBridge}
    (hkept : Kept { controller := c', platform := { bridge, handled := s.platform.handled + 1 } })
    (hstate : bridge.state = s.platform.bridge.state)
    (hshutdown : bridge.shutdownCommandId = s.platform.bridge.shutdownCommandId)
    (hnext : bridge.nextId = s.platform.bridge.nextId) (hthread : bridge.thread = s.platform.bridge.thread)
    (hunhandled : s.platform.unhandled
      = signal :: s.platform.bridge.thread.signals.drop (s.platform.handled + 1))
    (hhandled : s.platform.handled + 1 ≤ s.platform.bridge.thread.signals.length)
    (happlied : ∀ e ∈ c'.pending, c'.latestAppliedRevision ≤ e.2.revision)
    (hforesees : Foresees c'.latestMutationRevision s.service.snapshot
      (s.platform.bridge.thread.waiting.filter (·.isAutostart))
      (s.platform.bridge.thread.signals.drop (s.platform.handled + 1)) c'.pending c'.snapshot) :
    Follows { controller := c', platform := { bridge, handled := s.platform.handled + 1 } } := by
  have hgiven : ∀ commandId, Given s.platform.bridge commandId → Given bridge commandId :=
    fun commandId hgiven => hgiven.mono hnext.ge
  refine ⟨hkept, hstate.trans h.ready, hshutdown.trans h.shutdown, hthread ▸ h.thread, ?_, ?_, ?_, ?_, happlied, ?_⟩
  · rw [hthread]
    exact hhandled
  · rw [hthread]
    exact h.ids
  · rw [hthread]
    exact fun c hc => hgiven _ (h.given c hc)
  · intro other hmem commandId hresult
    refine hgiven _ (h.results other ?_ commandId hresult)
    rw [hunhandled]
    refine mem_cons_of_mem _ ?_
    change other ∈ bridge.thread.signals.drop (s.platform.handled + 1) at hmem
    rwa [hthread] at hmem
  · show Foresees _ bridge.thread.autostartService.snapshot (bridge.thread.waiting.filter _)
      (bridge.thread.signals.drop (s.platform.handled + 1)) _ _
    rw [hthread]
    exact hforesees

/-- An answer leaves what is shown as it is. -/
theorem hear_answer (c : AutostartUiController) {signal : BridgeSignal} {commandId : CommandId}
    (hanswer : signal.answer = some commandId) : (c.hear signal).snapshot = c.snapshot ∧
      (c.hear signal).latestMutationRevision = c.latestMutationRevision ∧
      (c.hear signal).latestAppliedRevision = c.latestAppliedRevision := by
  cases signal with
  | commandCompleted other =>
    show (c.onCommandCompleted other).snapshot = _ ∧ (c.onCommandCompleted other).latestMutationRevision = _ ∧
      (c.onCommandCompleted other).latestAppliedRevision = _
    unfold AutostartUiController.onCommandCompleted
    split
    next => exact ⟨rfl, rfl, rfl⟩
    next => split <;> exact ⟨rfl, rfl, rfl⟩
  | commandFailed other safeCode safeMessage =>
    show (c.onCommandFailed other safeCode safeMessage).snapshot = _ ∧
      (c.onCommandFailed other safeCode safeMessage).latestMutationRevision = _ ∧
      (c.onCommandFailed other safeCode safeMessage).latestAppliedRevision = _
    unfold AutostartUiController.onCommandFailed
    split
    next => exact ⟨rfl, rfl, rfl⟩
    next => split <;> exact ⟨rfl, rfl, rfl⟩
  | _ => cases hanswer

/-- The snapshot of the oldest operation is heard: it is shown, unless a newer mutation was requested. -/
theorem onStateChanged_oldest {c : AutostartUiController} {e : PendingEntry} {rest : List PendingEntry}
    (hpending : c.pending = e :: rest) (happlied : c.latestAppliedRevision ≤ e.2.revision)
    (value : AutostartSnapshot) : (c.onStateChanged e.1 value).pending = c.pending ∧
      (c.onStateChanged e.1 value).latestMutationRevision = c.latestMutationRevision ∧
      ((c.onStateChanged e.1 value).latestAppliedRevision = c.latestAppliedRevision ∨
        (c.onStateChanged e.1 value).latestAppliedRevision = e.2.revision) ∧
      (c.onStateChanged e.1 value).snapshot
        = if e.2.mutation = true ∨ c.latestMutationRevision ≤ e.2.revision then value else c.snapshot := by
  have hfound : c.pendingOperation e.1 = some e.2 := by
    unfold AutostartUiController.pendingOperation
    rw [hpending]
    simp
  have hstale : c.stale e.2 = true ↔ ¬(e.2.mutation = true ∨ c.latestMutationRevision ≤ e.2.revision) := by
    unfold AutostartUiController.stale
    have holder : ¬e.2.context.controllerRevision < c.latestAppliedRevision := Nat.not_lt.mpr happlied
    simp only [holder, decide_false, Bool.false_or, Bool.and_eq_true, Bool.not_eq_true', decide_eq_true_eq, not_or,
      Bool.not_eq_true, Nat.not_le]
    rfl
  unfold AutostartUiController.onStateChanged
  rw [hfound]
  by_cases hshows : e.2.mutation = true ∨ c.latestMutationRevision ≤ e.2.revision
  · have hfresh : ¬c.stale e.2 = true := fun h => hstale.mp h hshows
    simp only [hfresh, hshows, if_true]
    exact ⟨rfl, rfl, .inr rfl, rfl⟩
  · have hold : c.stale e.2 = true := hstale.mpr hshows
    simp only [hold, if_true, hshows, if_false]
    exact ⟨trivial, trivial, .inl trivial, trivial⟩

theorem Follows.handleNext (h : s.Follows) (j : Journal) : (s.step (.platform (.handleNext j))).Follows := by
  have hkept := h.kept.step (.platform (.handleNext j))
  change (s.moved (s.platform.handleNext j)).Kept at hkept
  show (s.moved (s.platform.handleNext j)).Follows
  rcases s.platform.handleNext_cases j with heq | ⟨signal, _, hunhandled, hhandled, heq⟩
  · rw [heq, moved_quiet rfl]
    exact h
  · rw [heq] at hkept ⊢
    have hforesees := h.foresees
    rw [hunhandled] at hforesees
    generalize hpending : s.controller.pending = pending at hforesees
    cases hforesees with
    | @published _ e rest value _ hrest =>
      have he : e ∈ s.controller.pending := hpending ▸ mem_cons_self
      have hhandle : s.platform.bridge.handle j (.autostartState e.1 (.autostart value))
          = s.platform.bridge.emit (.autostartStateChanged e.1 value) :=
        if_neg (not_not.mpr (h.kept.pending e he))
      obtain ⟨hsame, hlatest, happlied, hshown⟩ := onStateChanged_oldest hpending (h.applied e he) value
      rw [hhandle, moved_emits rfl] at hkept ⊢
      refine h.of_handled hkept rfl rfl rfl rfl hunhandled hhandled ?_ ?_
      · show ∀ d ∈ (s.controller.onStateChanged e.1 value).pending,
          (s.controller.onStateChanged e.1 value).latestAppliedRevision ≤ d.2.revision
        rw [hsame]
        intro d hd
        rcases happlied with happlied | happlied
        · rw [happlied]
          exact h.applied d hd
        · rw [happlied]
          rw [hpending] at hd
          rcases mem_cons.mp hd with rfl | hd
          · exact le_rfl
          · have hascending := h.kept.controller.ascending
            rw [hpending] at hascending
            exact ((List.pairwise_cons.mp hascending).1 _ (mem_map_of_mem hd)).le
      · show Foresees (s.controller.onStateChanged e.1 value).latestMutationRevision _ _ _
          (s.controller.onStateChanged e.1 value).pending (s.controller.onStateChanged e.1 value).snapshot
        rw [hsame, hlatest, hshown, hpending]
        exact hrest
    | @answered _ _ _ commandId success safeCode safeMessage hrest =>
      rcases s.platform.bridge.onCommandResult_answers h.shutdown j commandId success safeCode safeMessage with
        ⟨hnone, hhandle⟩ | ⟨signal, hanswer, hhandle⟩
      · change s.platform.bridge.handle j (.commandResult commandId success safeCode safeMessage) = _ at hhandle
        have hmoved : s.moved { bridge := s.platform.bridge, handled := s.platform.handled + 1 }
            = { controller := s.controller, platform := { bridge := s.platform.bridge, handled := _ } } := moved_quiet rfl
        rw [hhandle, hmoved] at hkept ⊢
        refine h.of_handled hkept rfl rfl rfl rfl hunhandled hhandled h.applied ?_
        show Foresees s.controller.latestMutationRevision _ _ _ s.controller.pending s.controller.snapshot
        have hall : (pending.filter fun e => e.1 ≠ commandId) = pending := by
          refine List.filter_eq_self.mpr fun e he => ?_
          have hother : e.1 ≠ commandId := fun heq => hnone (heq ▸ h.kept.pending e (hpending ▸ he))
          simpa using hother
        rw [hall] at hrest
        rw [hpending]
        exact hrest
      · change s.platform.bridge.handle j (.commandResult commandId success safeCode safeMessage) = _ at hhandle
        obtain ⟨hsnapshot, hlatest, happlied⟩ := hear_answer s.controller hanswer
        have hpopped := (AutostartUiController.hear_consistent h.kept.controller signal).2
        rw [hhandle, moved_emits rfl] at hkept ⊢
        refine h.of_handled hkept rfl rfl rfl rfl hunhandled hhandled ?_ ?_
        · show ∀ d ∈ (s.controller.hear signal).pending, (s.controller.hear signal).latestAppliedRevision ≤ d.2.revision
          rw [hpopped, happlied]
          exact fun d hd => h.applied d (List.mem_filter.mp hd).1
        · show Foresees (s.controller.hear signal).latestMutationRevision _ _ _ (s.controller.hear signal).pending
            (s.controller.hear signal).snapshot
          rw [hpopped, hlatest, hsnapshot, hpending, hanswer, AutostartUiController.filter_answered]
          exact hrest
    | relayed hplain hrest =>
      obtain ⟨new, hhandle, hsilent⟩ := s.platform.bridge.handle_plain j hplain
      have hheard : new.foldl (·.hear ·) s.controller = s.controller := by
        clear hhandle
        induction new with
        | nil => rfl
        | cons signal new ih =>
          rw [List.foldl_cons, hsilent signal mem_cons_self]
          exact ih fun other hmem => hsilent other (mem_cons_of_mem _ hmem)
      rw [hhandle, moved_emits rfl, hheard] at hkept ⊢
      refine h.of_handled hkept rfl rfl rfl rfl hunhandled hhandled h.applied ?_
      rw [hpending]
      exact hrest

/-! ## Runs -/

theorem Follows.step (h : s.Follows) {e : AutostartUiEvent} (hruns : s.Runs e) (hrecorded : s.Recorded e) :
    (s.step e).Follows := by
  cases e with
  | refresh u j operationId origin => exact h.refresh u j operationId origin
  | setEnabled u j enabled operationId origin => exact h.setEnabled u j enabled operationId origin hrecorded
  | platform e =>
    cases e with
    | call j c => exact h.call j hruns
    | work a => exact h.work hruns hrecorded
    | handleNext j => exact h.handleNext j

/-- The platform when the runtime has become ready. -/
theorem running_platform (available serviceJournal bridgeJournal hasJournal : Bool) :
    running available serviceJournal bridgeJournal hasJournal =
      { controller := { hasJournal }
        platform :=
          { bridge :=
              { thread :=
                  { autostartService := { available, hasJournal := serviceJournal }
                    stage := .waiting
                    hasLoop := true
                    ready := true
                    acceptingSubmissions := true
                    signals := [.workerReady .runtimeSnapshot] }
                hasJournal := bridgeJournal
                state := .ready
                nextId := 1
                emitted :=
                  [.runtimeReady, .runtimeStateChanged, .providerLifecycleChanged, .commandCompleted (.issued 0)] }
            handled := 1 } } := rfl

theorem running_kept (available serviceJournal bridgeJournal hasJournal : Bool) :
    (running available serviceJournal bridgeJournal hasJournal).Kept := by
  have hkeeps : ∀ (p : Platform) e, p.bridge.Accounted → (p.step e).bridge.Accounted :=
    fun _ e h => (platform_keeps h e).1
  have haccounted : (running available serviceJournal bridgeJournal hasJournal).platform.bridge.Accounted :=
    run_invariant hkeeps _ _ ⟨List.Perm.refl _, List.Pairwise.nil⟩
  rw [running_platform] at haccounted ⊢
  refine ⟨?_, haccounted, fun _ hmem => by cases hmem⟩
  exact ⟨by simp, List.nodup_nil, List.Pairwise.nil, nofun, nofun, le_rfl, le_rfl, List.Pairwise.nil, nofun, nofun⟩

theorem running_follows (available serviceJournal bridgeJournal hasJournal : Bool) :
    (running available serviceJournal bridgeJournal hasJournal).Follows := by
  have hkept := running_kept available serviceJournal bridgeJournal hasJournal
  rw [running_platform] at hkept ⊢
  refine ⟨hkept, rfl, rfl, ⟨rfl, rfl, rfl, rfl, .inl rfl, ?_⟩, le_rfl, List.nodup_nil, ?_, ?_, ?_,
    .drained .nil (.inr ⟨rfl, ?_⟩)⟩
  · exact fun _ hmem => absurd hmem not_mem_nil
  · exact fun _ hmem => absurd hmem not_mem_nil
  · exact fun _ hmem => absurd hmem not_mem_nil
  · exact fun _ hmem => absurd hmem not_mem_nil
  · exact fun _ hmem => absurd hmem not_mem_nil

/-- The controller is busy exactly while a mutation is pending, and what is pending for it is pending at the bridge;
snapshots are applied in the order of their revisions, and no query's after a newer mutation was requested. While the
thread runs and no record of a mutation fails, the service's own snapshot is shown whenever nothing is pending. -/
theorem run_follows (available serviceJournal bridgeJournal hasJournal : Bool) (es : List AutostartUiEvent) :
    let s₀ := running available serviceJournal bridgeJournal hasJournal
    let s := run step s₀ es
    (s.controller.busy = true ↔ ∃ e ∈ s.controller.pending, e.2.mutation = true) ∧
    (∀ e ∈ s.controller.pending, s.platform.bridge.isCommandPending e.1 = true) ∧
    s.controller.history.Pairwise RevisionEntry.Before ∧
    (StepsMeet step (fun s e => s.Runs e ∧ s.Recorded e) s₀ es → s.controller.pending = [] →
      s.controller.snapshot = s.service.snapshot) := by
  intro s₀ s
  have hkeeps : ∀ (s : AutostartUi) e, s.Kept → (s.step e).Kept := fun _ e h => h.step e
  have hkept : s.Kept :=
    run_invariant hkeeps s₀ es (running_kept available serviceJournal bridgeJournal hasJournal)
  refine ⟨hkept.controller.busy, fun e he => decide_eq_true (hkept.pending e he), hkept.controller.order, ?_⟩
  intro hmeet hpending
  have hfollows : ∀ (s : AutostartUi) e, s.Follows → s.Runs e ∧ s.Recorded e → (s.step e).Follows :=
    fun _ _ h he => h.step he.1 he.2
  have hforesees := (run_induction hfollows s₀ es
    (running_follows available serviceJournal bridgeJournal hasJournal) hmeet).foresees
  change Foresees _ s.service.snapshot _ _ s.controller.pending s.controller.snapshot at hforesees
  rw [hpending] at hforesees
  exact hforesees.settled

def working (io : OperationIo) : AutostartUiEvent := .platform (.work { handling := { io } })

def handling (taken : Bool) : AutostartUiEvent := .platform (.handleNext fun _ _ => taken)

theorem working_runs (s : AutostartUi) (io : OperationIo) : s.Runs (working io) := ⟨rfl, fun _ hcall => by cases hcall⟩

theorem working_recorded {s : AutostartUi} {io : OperationIo} (hjournal : s.service.journalFailed = false)
    (hio : ∀ point, io.records point = true) : s.Recorded (working io) :=
  fun _ _ _ _ => ⟨rfl, fun point => by simp [AutostartService.records, hjournal, hio]⟩

def absent : OperationIo := { executable := some (lit "ArkClaw.exe"), read := some none }

def querying : AutostartUiEvent := .refresh (fun _ => true) (fun _ _ => true) [] .startupQuery

/-- A query finds no value. -/
def queried : List AutostartUiEvent :=
  [querying, working absent, working absent, handling true, handling true, handling true]

def enabling (taken : Bool) : AutostartUiEvent :=
  .setEnabled (fun _ => true) (fun _ _ => taken) true [] .settingsCheckbox

/-- The service finds no value, writes its own and reads it back. -/
def writing : OperationIo :=
  { absent with readback := some (some ⟨registryStringValueType, some (lit "\"ArkClaw.exe\" --startup")⟩) }

/-- A mutation after the query. -/
def switchedOn : List AutostartUiEvent :=
  queried ++ [enabling true, working writing, working writing, handling true, handling true, handling true]

theorem run_follows_switchedOn : (run step (running true true true true) switchedOn).service.snapshot = .forStatus .enabled
    ∧ (run step (running true true true true) switchedOn).controller.snapshot
      = (run step (running true true true true) switchedOn).service.snapshot := by
  refine ⟨by decide +kernel, (run_follows true true true true switchedOn).2.2.2 ?_ (by decide +kernel)⟩
  have hworking : ∀ {s : AutostartUi} {io : OperationIo}, s.service.journalFailed = false →
      (∀ point, io.records point = true) → s.Runs (working io) ∧ s.Recorded (working io) :=
    fun hjournal hio => ⟨working_runs _ _, working_recorded hjournal hio⟩
  have hsubmitted : (run step (running true true true true) queried).Recorded (enabling true) := by
    show _ = true
    decide +kernel
  exact ⟨⟨trivial, trivial⟩, hworking (by decide +kernel) fun _ => rfl, hworking (by decide +kernel) fun _ => rfl,
    ⟨trivial, trivial⟩, ⟨trivial, trivial⟩, ⟨trivial, trivial⟩, ⟨trivial, hsubmitted⟩,
    hworking (by decide +kernel) fun _ => rfl, hworking (by decide +kernel) fun _ => rfl, ⟨trivial, trivial⟩,
    ⟨trivial, trivial⟩, ⟨trivial, trivial⟩, trivial⟩

/-- The journal fails when the service enters the mutation. -/
def unrecorded : List AutostartUiEvent :=
  queried ++ [enabling true, working absent, .platform (.work
    { handling := { io := { absent with records := fun _ => false }, records := fun e => e ≠ .snapshotPublished } }),
    handling false, handling false, handling false]

/-- A query is executed; the journal fails when a mutation is submitted before its result is handled. -/
def overtaken : List AutostartUiEvent :=
  queried ++ [querying, working { executable := none }, working { executable := none }, enabling false, handling false,
    handling false, handling false]

/-- Either way nothing is pending in the end, and what is shown is not the service's snapshot: the service has failed
and the view keeps its last state, or the result of the query came too late. -/
theorem shown_behind_service : (StepsMeet step Runs (running true true true true) unrecorded ∧
      (run step (running true true true true) unrecorded).controller.pending = [] ∧
      (run step (running true true true true) unrecorded).controller.snapshot = .forStatus .disabled ∧
      (run step (running true true true true) unrecorded).service.snapshot = .forStatus .error) ∧
    StepsMeet step Runs (running true true true true) overtaken ∧
      (run step (running true true true true) overtaken).controller.pending = [] ∧
      (run step (running true true true true) overtaken).controller.snapshot = .forStatus .disabled ∧
      (run step (running true true true true) overtaken).service.snapshot = .forStatus .invalidExecutable := by
  refine ⟨⟨?_, by decide +kernel, by decide +kernel, by decide +kernel⟩, ?_, by decide +kernel, by decide +kernel,
    by decide +kernel⟩
  · exact ⟨trivial, working_runs _ _, working_runs _ _, trivial, trivial, trivial, trivial, working_runs _ _,
      ⟨rfl, fun _ hcall => by cases hcall⟩, trivial, trivial, trivial, trivial⟩
  · exact ⟨trivial, working_runs _ _, working_runs _ _, trivial, trivial, trivial, trivial, working_runs _ _,
      working_runs _ _, trivial, trivial, trivial, trivial, trivial⟩

end AutostartUi

end ArkClaw.Presentation.Runtime
