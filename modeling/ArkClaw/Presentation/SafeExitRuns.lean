import ArkClaw.Presentation.SafeExit

/-!
# Safe exits over whole runs

`Settled` is what holds in every state, whatever the runtime does: the pet has asked for the exit exactly while it
closes, and everything is closed for good exactly when the bridge is closed. Whether a pet that closes is answered
depends on one thing: a bridge that has failed reports nothing any more.
-/

namespace ArkClaw.Presentation.SafeExit

open ArkClaw.Library ArkClaw.Autostart ArkClaw.Presentation.Runtime
open ArkClaw.Presentation.Runtime.Platform (Staged Turns Awaits)
open ArkClaw.Pet (PetLifecycleState)
open Option (mem_map mem_some_iff map_some)
open Bool (eq_false_iff false_eq_true)

/-! ## The tray -/

namespace SystemTrayController

variable {t : SystemTrayController} (o : Outside)

/-- A refresh leaves the flags. -/
theorem refresh_flags (t : SystemTrayController) : (t.refresh o).exitRequested = t.exitRequested ∧
    (t.refresh o).shutdownStarted = t.shutdownStarted ∧ (t.refresh o).closed = t.closed := by
  unfold refresh
  split
  next => exact ⟨rfl, rfl, rfl⟩
  next => split <;> exact ⟨rfl, rfl, rfl⟩

theorem tryClosePendingView_flags (t : SystemTrayController) :
    (t.tryClosePendingView o).2.exitRequested = t.exitRequested ∧
      (t.tryClosePendingView o).2.shutdownStarted = t.shutdownStarted ∧
      ((t.tryClosePendingView o).2.closed = true ∨ o.closeRaises = true) := by
  unfold tryClosePendingView
  split
  next => exact ⟨rfl, rfl, .inl rfl⟩
  next =>
    split
    next hraises => exact ⟨rfl, rfl, .inr hraises⟩
    next => exact ⟨rfl, rfl, .inl rfl⟩

/-- The tray is shut down for good, and closed unless its view raises. -/
theorem completeShutdown_flags (hclosed : t.closed = true → t.shutdownStarted = true) :
    (t.completeShutdown o).shutdownStarted = true ∧
      ((t.completeShutdown o).closed = true ∨ o.closeRaises = true) := by
  unfold completeShutdown
  split
  next h => exact ⟨hclosed h, .inl h⟩
  next =>
    simp only
    split
    next =>
      obtain ⟨_, hstarted, hends⟩ := tryClosePendingView_flags o
        { t with shutdownStarted := true, exitRequested := true, view := false, cleanupPendingView := true }
      exact ⟨hstarted, hends⟩
    next => exact ⟨rfl, .inl rfl⟩

theorem retryPendingCleanup_flags (t : SystemTrayController) :
    (t.retryPendingCleanup o).2.exitRequested = t.exitRequested ∧
      (t.retryPendingCleanup o).2.shutdownStarted = t.shutdownStarted ∧
      ((t.retryPendingCleanup o).2.closed = true → t.closed = true ∨ t.shutdownStarted = true) := by
  unfold retryPendingCleanup
  split
  next hclosed => exact ⟨rfl, rfl, fun _ => .inl hclosed⟩
  next =>
    split
    next => exact ⟨rfl, rfl, .inl⟩
    next hstarted =>
      obtain ⟨hexit, hshutdown, _⟩ := tryClosePendingView_flags o t
      exact ⟨hexit, hshutdown, fun _ => .inr (by simpa using hstarted)⟩

/-- A tray that was not shut down accepts a new request. -/
theorem recoverFailedShutdown_flags (hopen : t.shutdownStarted = false) (hclosed : t.closed = false) :
    (t.recoverFailedShutdown o).exitRequested = false ∧ (t.recoverFailedShutdown o).shutdownStarted = false ∧
      (t.recoverFailedShutdown o).closed = false := by
  unfold recoverFailedShutdown
  rw [if_neg (by simp [hopen, hclosed])]
  obtain ⟨hexit, hshutdown, hends⟩ := refresh_flags o { t with exitRequested := false, refreshDisabled := false }
  exact ⟨hexit, hshutdown.trans hopen, hends.trans hclosed⟩

end SystemTrayController

namespace PetApplicationCoordinator

variable {s s' : PetApplicationCoordinator} (o : Outside)
variable {platform : Platform}

/-! ## What holds in every state -/

/-- What is known of the tray while the pet's lifecycle and the bridge's state are these. -/
structure TraySettled (lifecycle : PetLifecycleState) (ended : Prop) (t : SystemTrayController) : Prop where
  started : t.shutdownStarted = true ↔ ended
  closed : t.closed = true → t.shutdownStarted = true
  exit : t.exitRequested = true → lifecycle = .closing ∨ t.shutdownStarted = true

/-- What is known of the main window. -/
structure MainSettled (platform : Platform) (w : MainWindow) : Prop where
  started : platform.bridge.state ≠ .new
  final : w.allowFinalClose = true → platform.bridge.state = .closed
  closing : w.closing = true → platform.Awaits ∨ platform.bridge.state = .closed

/-- The windows as the platform has them. -/
structure Windows (platform : Platform) (s : PetApplicationCoordinator) : Prop where
  emitted : s.petWindow.exitEmitted = true ↔ s.petWindow.lifecycleState = .closing
  final : s.petWindow.allowFinalClose = true ↔ platform.bridge.state = .closed
  systemTray : ∀ t ∈ s.systemTray, TraySettled s.petWindow.lifecycleState (platform.bridge.state = .closed) t
  mainWindow : ∀ w ∈ s.mainWindow, MainSettled platform w

structure Settled (s : PetApplicationCoordinator) : Prop where
  staged : s.platform.Staged
  windows : Windows s.platform s

theorem TraySettled.of_flags {lifecycle lifecycle' : PetLifecycleState} {ended : Prop} {t t' : SystemTrayController}
    (h : TraySettled lifecycle ended t) (hexit : t'.exitRequested = t.exitRequested)
    (hshutdown : t'.shutdownStarted = t.shutdownStarted)
    (hclosed : t'.closed = true → t.closed = true ∨ t.shutdownStarted = true)
    (hlifecycle : lifecycle = .closing → lifecycle' = .closing) : TraySettled lifecycle' ended t' where
  started := by
    rw [hshutdown]
    exact h.started
  closed hthis := by
    rw [hshutdown]
    exact (hclosed hthis).elim h.closed id
  exit hthis := by
    rw [hexit] at hthis
    rw [hshutdown]
    exact (h.exit hthis).imp_left hlifecycle

/-- A step of the platform that reports nothing. -/
theorem Windows.quiet {platform platform' : Platform} (h : Windows platform s)
    (hawaits : platform.Awaits → platform'.Awaits)
    (hclosed : platform'.bridge.state = .closed ↔ platform.bridge.state = .closed)
    (hnew : platform'.bridge.state = .new → platform.bridge.state = .new) : Windows platform' s where
  emitted := h.emitted
  final := h.final.trans hclosed.symm
  systemTray t ht := by
    rw [hclosed]
    exact h.systemTray t ht
  mainWindow w hw := by
    have hmain := h.mainWindow w hw
    refine ⟨fun hthis => hmain.started (hnew hthis), fun hfinal => hclosed.mpr (hmain.final hfinal), fun hclosing => ?_⟩
    exact (hmain.closing hclosing).imp hawaits hclosed.mpr

/-- The tray's view is refreshed. -/
theorem Settled.refresh (h : s.Settled) : (s.refreshSystemTray o).Settled where
  staged := h.staged
  windows := by
    refine ⟨h.windows.emitted, h.windows.final, fun t ht => ?_, h.windows.mainWindow⟩
    obtain ⟨t, hmem, rfl⟩ := mem_map.mp ht
    obtain ⟨hexit, hshutdown, hclosed⟩ := t.refresh_flags o
    exact (h.windows.systemTray t hmem).of_flags hexit hshutdown (fun hthis => .inl (hclosed ▸ hthis)) id

/-- A pet that closes, and is not closed for good, is to be answered. -/
def AwaitsAnswer (s : PetApplicationCoordinator) : Prop :=
  s.petWindow.lifecycleState = .closing → s.petWindow.allowFinalClose = false → s.platform.Awaits

theorem Settled.waits_iff (h : s.Settled) : s.Waits ↔ s.AwaitsAnswer := by
  refine ⟨fun hwaits hclosing hopen => ?_, fun hawaits hclosing hopen => ?_⟩
  · rcases hwaits hclosing hopen with ⟨commandId, hsome, _⟩ | hfinished
    · exact .inl (by rw [hsome]; exact Option.some_ne_none _)
    · exact .inr hfinished
  · rcases hawaits hclosing hopen with hsome | hfinished
    · obtain ⟨commandId, hcommand⟩ := Option.ne_none_iff_exists'.mp hsome
      exact .inl ⟨commandId, hcommand, h.staged.linked.pending commandId hcommand⟩
    · exact .inr hfinished

/-! ## The main window is closed -/

/-- What the close of the main window does not change. -/
structure ClosesMain (s s' : PetApplicationCoordinator) : Prop where
  settled : s'.Settled
  petWindow : s'.petWindow = s.petWindow
  systemTray : s'.systemTray = s.systemTray
  finishes : s'.platform.bridge.finishes = s.platform.bridge.finishes
  awaits : s.platform.Awaits → s'.platform.Awaits

/-- The main window changes, and the platform does not. -/
theorem Settled.main (h : s.Settled) {w' : MainWindow} (hmain : MainSettled s.platform w') :
    ClosesMain s { s with mainWindow := some w' } := by
  refine ⟨⟨h.staged, h.windows.emitted, h.windows.final, h.windows.systemTray, fun w hw => ?_⟩, rfl, rfl, rfl, id⟩
  cases mem_some_iff.mp hw
  exact hmain

/-- A close that reaches the bridge finds a runtime that runs, so that it is waited for. -/
theorem Settled.shutdownRunning (h : s.Settled) (w' : MainWindow) (hfinal : w'.allowFinalClose = false)
    (hstarted : s.platform.bridge.state ≠ .new) (hrunning : s.platform.bridge.thread.stage.isRunning = true) :
    ClosesMain s (shutdownBridge { s with mainWindow := some w' } o) ∧
      (shutdownBridge { s with mainWindow := some w' } o).platform.Awaits := by
  have hactive : s.platform.bridge.Active := h.staged.active.mpr (.inl hrunning)
  obtain ⟨hawaits, hfinishes⟩ := Platform.shutdown_awaits hactive o.journal true
  obtain ⟨hstaged, hturns⟩ := h.staged.step (.call o.journal (.shutdown true))
  cases hturns with
  | quiet _ _ hclosed hnew =>
    have hwindows := h.windows.quiet (fun _ => hawaits) hclosed hnew
    refine ⟨⟨⟨hstaged, hwindows.emitted, hwindows.final, hwindows.systemTray, fun w hw => ?_⟩, rfl, rfl, hfinishes,
      fun _ => hawaits⟩, hawaits⟩
    cases mem_some_iff.mp hw
    refine ⟨fun hthis => hstarted (hnew hthis), fun hthis => ?_, fun _ => .inl hawaits⟩
    rw [hfinal] at hthis
    cases hthis
  | ended success hended _ _ _ _ =>
    rw [hfinishes] at hended
    exact absurd hended.symm (by simp)

theorem Settled.closeMainWindow (h : s.Settled) : ClosesMain s (s.closeMainWindow o) := by
  unfold PetApplicationCoordinator.closeMainWindow
  cases hmain : s.mainWindow with
  | none => exact ⟨h, rfl, rfl, rfl, id⟩
  | some w =>
    have hw := h.windows.mainWindow w hmain
    have hsame : ∀ w' : MainWindow, w'.allowFinalClose = w.allowFinalClose → w'.closing = w.closing →
        ClosesMain s { s with mainWindow := some w' } := fun w' hfinal hclosing =>
      h.main ⟨hw.started, hfinal ▸ hw.final, hclosing ▸ hw.closing⟩
    simp only [MainWindow.closeEvent]
    split
    next => exact hsame _ rfl rfl
    next hfinal =>
      split
      next => exact hsame _ rfl rfl
      next =>
        split
        next => exact hsame _ rfl rfl
        next hrunning =>
          split
          next => exact hsame _ rfl rfl
          next =>
            exact (h.shutdownRunning o { w with closing := true } (eq_false_iff.mpr hfinal) hw.started
              (by simpa using hrunning)).1

/-- The main window is asked to close. -/
theorem Settled.requestSafeClose (h : s.Settled) : ClosesMain s (s.requestSafeClose o) := by
  have hsettled : Settled { s with mainWindow := s.mainWindow.map fun w => { w with safeCloseRequested := true } } := by
    refine ⟨h.staged, h.windows.emitted, h.windows.final, h.windows.systemTray, fun w hw => ?_⟩
    obtain ⟨w, hmem, rfl⟩ := mem_map.mp hw
    have hmain := h.windows.mainWindow w hmem
    exact ⟨hmain.started, hmain.final, hmain.closing⟩
  have hcloses := hsettled.closeMainWindow o
  exact ⟨hcloses.settled, hcloses.petWindow, hcloses.systemTray, hcloses.finishes, hcloses.awaits⟩

/-- With a main window the exit is answered, unless the bridge has failed. -/
theorem Settled.requestSafeClose_awaits (h : s.Settled) (hmain : s.mainWindow.isSome = true)
    (hopen : s.petWindow.allowFinalClose = false) (hfailed : s.platform.bridge.state ≠ .failed) :
    (s.requestSafeClose o).platform.Awaits := by
  obtain ⟨w, hw⟩ := Option.isSome_iff_exists.mp hmain
  have hsettled := h.windows.mainWindow w hw
  have hclosed : s.platform.bridge.state ≠ .closed := fun hthis => by
    rw [h.windows.final.mpr hthis] at hopen
    cases hopen
  have hfinal : w.allowFinalClose = false := eq_false_iff.mpr fun hthis => hclosed (hsettled.final hthis)
  have hactive : s.platform.bridge.Active := by
    have hstarted := hsettled.started
    unfold QtRuntimeBridge.Active
    cases hstate : s.platform.bridge.state <;> simp_all
  unfold PetApplicationCoordinator.requestSafeClose PetApplicationCoordinator.closeMainWindow
  rw [hw]
  simp only [map_some, MainWindow.closeEvent, hfinal, false_eq_true, if_false, Bool.not_true, Bool.and_false]
  cases hrunning : s.platform.bridge.thread.stage.isRunning with
  | false =>
    simp only [Bool.not_false, if_true, false_eq_true, if_false]
    rcases h.staged.active.mp hactive with hthis | hfinished
    · rw [hrunning] at hthis
      cases hthis
    · exact .inr hfinished
  | true =>
    cases hclosing : w.closing with
    | true =>
      simp only [Bool.not_true, false_eq_true, if_false, if_true]
      exact (hsettled.closing hclosing).resolve_right hclosed
    | false =>
      simp only [Bool.not_true, false_eq_true, if_false, if_true]
      exact (Platform.shutdown_awaits hactive o.journal true).1

/-- While the runtime does not run, a main window that is asked to close does. -/
theorem requestSafeClose_closed (hrunning : s.platform.bridge.thread.stage.isRunning = false) :
    (s.requestSafeClose o).platform = s.platform ∧ ∀ w ∈ (s.requestSafeClose o).mainWindow, w.closed = true := by
  unfold PetApplicationCoordinator.requestSafeClose PetApplicationCoordinator.closeMainWindow
  cases s.mainWindow with
  | none => exact ⟨rfl, fun w hw => absurd hw (Option.not_mem_none w)⟩
  | some w =>
    simp only [map_some, MainWindow.closeEvent, hrunning, Bool.not_true, Bool.and_false, false_eq_true,
      if_false, Bool.not_false, if_true]
    cases hfinal : w.allowFinalClose <;>
      exact ⟨rfl, fun w hw => by cases mem_some_iff.mp hw; rfl⟩

/-- A bridge that has failed is not asked. -/
theorem Settled.requestSafeClose_failed (h : s.Settled) (hfailed : s.platform.bridge.state = .failed) :
    (s.requestSafeClose o).platform = s.platform := by
  refine (requestSafeClose_closed o (eq_false_iff.mpr fun hthis => ?_)).1
  rcases h.staged.active.mpr (.inl hthis) with hstate | hstate | hstate <;> rw [hfailed] at hstate <;> cases hstate

/-! ## What is heard -/

theorem hear_nothing (s : PetApplicationCoordinator) {reported : Nat}
    (h : s.platform.bridge.finishes.length = reported) : s.hear o reported = s := by
  unfold hear
  rw [← h, List.drop_length]
  rfl

theorem hear_one (s : PetApplicationCoordinator) {finishes : List Bool} {success : Bool}
    (h : s.platform.bridge.finishes = finishes ++ [success]) : s.hear o finishes.length = s.deliver o success := by
  unfold hear
  rw [h, List.drop_left]
  rfl

/-- A failure: the pet and the tray accept a new request. -/
theorem deliver_failure (hw : Windows platform s) (hstaged : s.platform.Staged)
    (hbefore : platform.bridge.state ≠ .closed) (hafter : s.platform.bridge.state ≠ .closed)
    (hnew : s.platform.bridge.state ≠ .new) :
    (s.deliver o false).Settled ∧ (s.deliver o false).Accepts ∧ (s.deliver o false).platform = s.platform := by
  have hopen : s.petWindow.allowFinalClose = false :=
    eq_false_iff.mpr fun hthis => hbefore (hw.final.mp hthis)
  have hrecovered : ∀ (tray : Option SystemTrayController) (pet : PetWindow),
      (∀ t ∈ tray, t.shutdownStarted = false ∧ t.closed = false) → pet.exitEmitted = false →
      pet.lifecycleState ≠ .closing → pet.allowFinalClose = false →
      let s' : PetApplicationCoordinator := { s with
        petWindow := pet
        systemTray := tray.map (·.recoverFailedShutdown o)
        mainWindow := s.mainWindow.map (·.onShutdownFinished false) }
      s'.Settled ∧ s'.Accepts ∧ s'.platform = s.platform := by
    intro tray pet htray hexit hlifecycle hfinal
    have hflags : ∀ t ∈ tray.map (·.recoverFailedShutdown o),
        t.exitRequested = false ∧ t.shutdownStarted = false ∧ t.closed = false := by
      intro t ht
      obtain ⟨t, hmem, rfl⟩ := mem_map.mp ht
      exact t.recoverFailedShutdown_flags o (htray t hmem).1 (htray t hmem).2
    refine ⟨⟨hstaged, ?_, ?_, fun t ht => ?_, fun w hw' => ?_⟩, ⟨⟨hlifecycle, ?_⟩, fun t ht => ?_⟩, rfl⟩
    · rw [hexit]
      exact ⟨nofun, fun hthis => absurd hthis hlifecycle⟩
    · rw [hfinal]
      exact ⟨nofun, fun hthis => absurd hthis hafter⟩
    · obtain ⟨hexit, hstarted, hclosed⟩ := hflags t ht
      refine ⟨?_, ?_, ?_⟩
      · rw [hstarted]
        exact ⟨nofun, fun hthis => absurd hthis hafter⟩
      · rw [hclosed]
        exact nofun
      · rw [hexit]
        exact nofun
    · obtain ⟨w, hmem, rfl⟩ := mem_map.mp hw'
      have hmain := hw.mainWindow w hmem
      have hnever : w.allowFinalClose = false := eq_false_iff.mpr fun hthis => hbefore (hmain.final hthis)
      refine ⟨hnew, ?_, ?_⟩
      · unfold MainWindow.onShutdownFinished
        split <;> simp [hnever]
      · unfold MainWindow.onShutdownFinished
        split <;> simp_all
    · unfold PetWindow.requestSafeExit
      rw [hexit]
      rfl
    · obtain ⟨hexit, hstarted, hclosed⟩ := hflags t ht
      unfold SystemTrayController.requestSafeExit
      rw [hexit, hstarted, hclosed]
      rfl
  have htray : ∀ t ∈ s.systemTray, t.shutdownStarted = false ∧ t.closed = false := by
    intro t ht
    have hsettled := hw.systemTray t ht
    have hstarted : t.shutdownStarted = false := eq_false_iff.mpr fun hthis => hbefore (hsettled.started.mp hthis)
    refine ⟨hstarted, eq_false_iff.mpr fun hthis => ?_⟩
    rw [hsettled.closed hthis] at hstarted
    cases hstarted
  by_cases hclosing : s.petWindow.lifecycleState = .closing
  · have heq : s.deliver o false = { s with
        petWindow := { s.petWindow with lifecycleState := .paused, exitEmitted := false }
        systemTray := (s.systemTray.map (·.refresh o)).map (·.recoverFailedShutdown o)
        mainWindow := s.mainWindow.map (·.onShutdownFinished false) } := by
      unfold deliver PetApplicationCoordinator.onShutdownFinished recoverPetWindow PetWindow.recoverFromFailedClose
      simp [hclosing, refreshSystemTray]
    rw [heq]
    refine hrecovered (s.systemTray.map (·.refresh o))
      { s.petWindow with lifecycleState := .paused, exitEmitted := false } (fun t ht => ?_) rfl (nofun) hopen
    obtain ⟨t, hmem, rfl⟩ := mem_map.mp ht
    obtain ⟨_, hshutdown, hclosed⟩ := t.refresh_flags o
    exact ⟨hshutdown.trans (htray t hmem).1, hclosed.trans (htray t hmem).2⟩
  · have heq : s.deliver o false = { s with
        systemTray := s.systemTray.map (·.recoverFailedShutdown o)
        mainWindow := s.mainWindow.map (·.onShutdownFinished false) } := by
      unfold deliver PetApplicationCoordinator.onShutdownFinished recoverPetWindow PetWindow.recoverFromFailedClose
      simp [hclosing]
    rw [heq]
    have hexit : s.petWindow.exitEmitted = false := eq_false_iff.mpr fun hthis => hclosing (hw.emitted.mp hthis)
    exact hrecovered s.systemTray s.petWindow htray hexit hclosing hopen

/-- A success: everything is closed. -/
theorem deliver_success (hw : Windows platform s) (hstaged : s.platform.Staged)
    (hclosed : s.platform.bridge.state = .closed) (hrunning : s.platform.bridge.thread.stage.isRunning = false) :
    (s.deliver o true).Settled ∧ (s.deliver o true).Closed o ∧ (s.deliver o true).platform = s.platform := by
  have htray : ∀ t ∈ s.systemTray.map (·.completeShutdown o),
      t.shutdownStarted = true ∧ (t.closed = true ∨ o.closeRaises = true) := by
    intro t ht
    obtain ⟨t, hmem, rfl⟩ := mem_map.mp ht
    exact t.completeShutdown_flags o (hw.systemTray t hmem).closed
  let closing : PetApplicationCoordinator := { s with
    systemTray := s.systemTray.map (·.completeShutdown o)
    petWindow := s.petWindow.completeSafeClose
    mainWindow := s.mainWindow.map (·.onShutdownFinished true) }
  have hsettled : closing.Settled := by
    refine ⟨hstaged, hw.emitted, ⟨fun _ => hclosed, fun _ => rfl⟩, fun t ht => ?_, fun w hw' => ?_⟩
    · have hstarted := (htray t ht).1
      exact ⟨⟨fun _ => hclosed, fun _ => hstarted⟩, fun _ => hstarted, fun _ => .inr hstarted⟩
    · refine ⟨?_, fun _ => hclosed, fun _ => .inr hclosed⟩
      rw [show closing.platform.bridge.state = .closed from hclosed]
      nofun
  have hcloses := hsettled.requestSafeClose o
  obtain ⟨hplatform, hmain⟩ := requestSafeClose_closed (s := closing) o hrunning
  have heq : s.deliver o true = { closing.requestSafeClose o with quitScheduled := true } := rfl
  rw [heq]
  refine ⟨⟨hcloses.settled.staged, hcloses.settled.windows.emitted, hcloses.settled.windows.final,
    hcloses.settled.windows.systemTray, hcloses.settled.windows.mainWindow⟩, ⟨?_, fun t ht => ?_, hmain, rfl⟩, hplatform⟩
  · show (closing.requestSafeClose o).petWindow.allowFinalClose = true ∧ _
    rw [hcloses.petWindow]
    exact ⟨rfl, rfl⟩
  · change t ∈ (closing.requestSafeClose o).systemTray at ht
    rw [hcloses.systemTray] at ht
    obtain ⟨hstarted, hends⟩ := htray t ht
    refine ⟨?_, hends⟩
    unfold SystemTrayController.requestSafeExit
    simp [hstarted]

/-- What is known after the slots have run. -/
structure Hears (finishes : List Bool) (s s' : PetApplicationCoordinator) : Prop where
  settled : s'.Settled
  concludes : ∀ success ∈ s'.platform.bridge.finishes.drop finishes.length,
    if success then s'.Closed o else s'.Accepts
  platform : s'.platform = s.platform
  answered : s.platform.bridge.finishes ≠ finishes → s'.AwaitsAnswer
  quiet : s.platform.bridge.finishes = finishes → s' = s

/-- The platform has made a step, and the slots run. -/
theorem hear_hears (hw : Windows platform s) (hstaged : s.platform.Staged)
    (hturns : Turns platform s.platform) :
    Hears o platform.bridge.finishes s (s.hear o platform.bridge.finishes.length) := by
  cases hturns with
  | quiet hfinishes hawaits hclosed hnew =>
    have hlength := congrArg List.length hfinishes
    rw [hear_nothing o s hlength]
    refine ⟨⟨hstaged, hw.quiet hawaits hclosed hnew⟩, fun success hmem => ?_, rfl, fun hne => absurd hfinishes hne,
      fun _ => rfl⟩
    rw [hfinishes, List.drop_length] at hmem
    cases hmem
  | ended success hfinishes hstate hclosed hnew hrunning =>
    have hne : s.platform.bridge.finishes ≠ platform.bridge.finishes := by
      rw [hfinishes]
      simp
    rw [hear_one o s hfinishes]
    cases success with
    | false =>
      have hbefore : platform.bridge.state ≠ .closed := fun hthis => Bool.false_ne_true (hclosed hthis)
      have hafter : s.platform.bridge.state ≠ .closed := fun hthis => Bool.false_ne_true (hstate.mp hthis)
      obtain ⟨hsettled, haccepts, hplatform⟩ := deliver_failure o hw hstaged hbefore hafter hnew
      refine ⟨hsettled, fun success hmem => ?_, hplatform, fun _ hclosing => absurd hclosing haccepts.petWindow.1,
        fun hthis => absurd hthis hne⟩
      rw [hplatform, hfinishes, List.drop_left] at hmem
      cases List.mem_singleton.mp hmem
      exact haccepts
    | true =>
      obtain ⟨hsettled, hcloses, hplatform⟩ := deliver_success o hw hstaged (hstate.mpr rfl) (hrunning rfl)
      refine ⟨hsettled, fun success hmem => ?_, hplatform, fun _ _ hopen => ?_, fun hthis => absurd hthis hne⟩
      · rw [hplatform, hfinishes, List.drop_left] at hmem
        cases List.mem_singleton.mp hmem
        exact hcloses
      · rw [hcloses.petWindow.1] at hopen
        cases hopen

/-! ## Requests -/

/-- What a request comes to: what is reported is done, and a pet that closes is answered if `answerable`. -/
structure Requests (s s' : PetApplicationCoordinator) (answerable : Prop) : Prop where
  settled : s'.Settled
  concludes : ∀ success ∈ s'.platform.bridge.finishes.drop s.platform.bridge.finishes.length,
    if success then s'.Closed o else s'.Accepts
  awaits : s.AwaitsAnswer → (s'.AwaitsAnswer ↔ answerable)

/-- The exit is requested while the tray may wait for it. -/
theorem requestSafeExit_requests (hstaged : s.platform.Staged)
    (hemitted : s.petWindow.exitEmitted = true ↔ s.petWindow.lifecycleState = .closing)
    (hfinal : s.petWindow.allowFinalClose = true ↔ s.platform.bridge.state = .closed)
    (htray : ∀ t ∈ s.systemTray, TraySettled .closing (s.platform.bridge.state = .closed) t)
    (hmain : ∀ w ∈ s.mainWindow, MainSettled s.platform w) :
    Requests o s (s.requestSafeExit o) (s.petWindow.exitEmitted = false → s.petWindow.allowFinalClose = false →
      s.platform.bridge.state ≠ .failed) := by
  unfold PetApplicationCoordinator.requestSafeExit PetWindow.requestSafeExit
  cases hexit : s.petWindow.exitEmitted with
  | true =>
    have hclosing := hemitted.mp hexit
    refine ⟨⟨hstaged, hemitted, hfinal, fun t ht => hclosing.symm ▸ htray t ht, hmain⟩, fun success hmem => ?_, fun h => ?_⟩
    · rw [if_pos rfl, List.drop_length] at hmem
      cases hmem
    · exact ⟨fun _ => nofun, fun _ => h⟩
  | false =>
    rw [if_neg Bool.false_ne_true]
    simp only
    let asked : PetApplicationCoordinator :=
      { s with petWindow := { s.petWindow with lifecycleState := .closing, exitEmitted := true } }.refreshSystemTray o
    have hsettled : asked.Settled := Settled.refresh o
      ⟨hstaged, ⟨fun _ => rfl, fun _ => rfl⟩, hfinal, htray, hmain⟩
    show Requests o s ((asked.beginRuntimeShutdown o).hear o s.platform.bridge.finishes.length) _
    unfold beginRuntimeShutdown
    cases hwindow : asked.mainWindow.isSome with
    | true =>
      have hcloses := hsettled.requestSafeClose o
      have hnothing : (asked.requestSafeClose o).platform.bridge.finishes.length = s.platform.bridge.finishes.length :=
        congrArg List.length hcloses.finishes
      rw [if_pos rfl, hear_nothing o _ hnothing]
      refine ⟨hcloses.settled, fun success hmem => ?_, fun _ => ⟨fun hawaits _ hopen hfailed => ?_, fun h _ hopen => ?_⟩⟩
      · rw [hcloses.finishes] at hmem
        change success ∈ s.platform.bridge.finishes.drop s.platform.bridge.finishes.length at hmem
        rw [List.drop_length] at hmem
        cases hmem
      · have hstill := hawaits (by rw [hcloses.petWindow]; rfl) (by rw [hcloses.petWindow]; exact hopen)
        rw [hsettled.requestSafeClose_failed o hfailed] at hstill
        exact hsettled.staged.not_awaits hfailed hstill
      · rw [hcloses.petWindow] at hopen
        exact hsettled.requestSafeClose_awaits o hwindow hopen (h trivial hopen)
    | false =>
      rw [if_neg Bool.false_ne_true]
      obtain ⟨hstep, hturns⟩ := hsettled.staged.step (.call o.journal (.shutdown true))
      have hwindows : Windows s.platform (asked.shutdownBridge o) :=
        ⟨hsettled.windows.emitted, hsettled.windows.final, hsettled.windows.systemTray, hsettled.windows.mainWindow⟩
      have hhears := hear_hears o hwindows hstep hturns
      refine ⟨hhears.settled, hhears.concludes, fun _ => ⟨fun hawaits _ hopen hfailed => ?_, fun h => ?_⟩⟩
      · have hkeeps := QtRuntimeBridge.shutdown_failed hfailed o.journal true
        rw [hhears.quiet hkeeps.finishes] at hawaits
        exact hstep.not_awaits (hkeeps.state.trans hfailed) (hawaits rfl hopen)
      · by_cases hactive : s.platform.bridge.Active
        · obtain ⟨hawaits, hfinishes⟩ := Platform.shutdown_awaits hactive o.journal true
          rw [hhears.quiet hfinishes]
          exact fun _ _ => hawaits
        · by_cases hfailed : s.platform.bridge.state = .failed
          · have hdone : s.petWindow.allowFinalClose = true := by
              by_contra hopen
              exact h trivial (eq_false_iff.mpr hopen) hfailed
            rw [hfinal.mp hdone] at hfailed
            cases hfailed
          · refine hhears.answered fun hsame => ?_
            have hended : s.platform.bridge.state = .new ∨ s.platform.bridge.state = .closed := by
              unfold QtRuntimeBridge.Active at hactive
              cases hstate : s.platform.bridge.state <;> simp_all
            have hcloses := QtRuntimeBridge.shutdown_closes hended o.journal true
            have hmore : (asked.shutdownBridge o).platform.bridge.finishes = s.platform.bridge.finishes ++ [true] :=
              hcloses.finishes
            rw [hmore] at hsame
            simp at hsame

/-- A step that reports nothing and asks for nothing. -/
theorem Requests.of_silent {e : Event} (hsettled : s'.Settled)
    (hfinishes : s'.platform.bridge.finishes = s.platform.bridge.finishes) (hasks : ¬s.Asks e)
    (hawaits : s.AwaitsAnswer → s'.AwaitsAnswer) : Requests o s s' (s.Answerable (o, e)) where
  settled := hsettled
  concludes success hmem := by
    rw [hfinishes, List.drop_length] at hmem
    cases hmem
  awaits h := ⟨fun _ hthis => absurd hthis hasks, fun _ => hawaits h⟩

theorem Settled.runtime (h : s.Settled) (e : Platform.PlatformEvent) :
    Requests o s (s.step (o, .runtime e)) (s.Answerable (o, .runtime e)) := by
  obtain ⟨hstaged, hturns⟩ := h.staged.step e
  have hwindows : Windows s.platform { s with platform := s.platform.step e } :=
    ⟨h.windows.emitted, h.windows.final, h.windows.systemTray, h.windows.mainWindow⟩
  have hhears := hear_hears o hwindows hstaged hturns
  refine ⟨hhears.settled, hhears.concludes, fun hbefore => ⟨fun _ => False.elim, fun _ => ?_⟩⟩
  cases hturns with
  | quiet hfinishes hawaits _ _ =>
    rw [show s.step (o, .runtime e) = { s with platform := s.platform.step e } from hhears.quiet hfinishes]
    exact fun hclosing hopen => hawaits (hbefore hclosing hopen)
  | ended success hfinishes _ _ _ _ =>
    refine hhears.answered ?_
    rw [hfinishes]
    simp

theorem Settled.closeMain (h : s.Settled) :
    Requests o s (s.step (o, .closeMainWindow)) (s.Answerable (o, .closeMainWindow)) := by
  have hcloses := h.closeMainWindow o
  have hsame : s.step (o, .closeMainWindow) = s.closeMainWindow o :=
    hear_nothing o _ (congrArg List.length hcloses.finishes)
  rw [hsame]
  refine .of_silent o hcloses.settled hcloses.finishes id fun hawaits hclosing hopen => ?_
  rw [hcloses.petWindow] at hclosing hopen
  exact hcloses.awaits (hawaits hclosing hopen)

/-- A pause or a resumption neither closes the pet nor reopens it. -/
theorem togglePaused_closing (w : PetWindow) (refused : Bool) :
    ((w.togglePaused refused).lifecycleState = .closing ↔ w.lifecycleState = .closing) ∧
      (w.togglePaused refused).exitEmitted = w.exitEmitted ∧
      (w.togglePaused refused).allowFinalClose = w.allowFinalClose := by
  unfold PetWindow.togglePaused
  split
  next => exact ⟨Iff.rfl, rfl, rfl⟩
  next hpaused => cases refused <;> simp [hpaused]
  next hactive => cases refused <;> simp [hactive]

theorem Settled.togglePaused (h : s.Settled) (refused : Bool) :
    Requests o s (s.step (o, .togglePaused refused)) (s.Answerable (o, .togglePaused refused)) := by
  obtain ⟨hlifecycle, hexit, hfinal⟩ := togglePaused_closing s.petWindow refused
  have hsettled : Settled { s with petWindow := s.petWindow.togglePaused refused } := by
    refine ⟨h.staged, ?_, ?_, fun t ht => ?_, h.windows.mainWindow⟩
    · rw [hlifecycle, hexit]
      exact h.windows.emitted
    · rw [hfinal]
      exact h.windows.final
    · exact (h.windows.systemTray t ht).of_flags rfl rfl .inl hlifecycle.mpr
  refine .of_silent o (hsettled.refresh o) rfl id fun hawaits hclosing hopen => ?_
  exact hawaits (hlifecycle.mp hclosing) (hfinal ▸ hopen)

theorem Settled.retryPendingCleanup (h : s.Settled) :
    Requests o s (s.step (o, .retryPendingCleanup)) (s.Answerable (o, .retryPendingCleanup)) := by
  refine .of_silent o ⟨h.staged, h.windows.emitted, h.windows.final, fun t ht => ?_, h.windows.mainWindow⟩ rfl id id
  obtain ⟨t, hmem, rfl⟩ := mem_map.mp ht
  obtain ⟨hexit, hshutdown, hclosed⟩ := t.retryPendingCleanup_flags o
  exact (h.windows.systemTray t hmem).of_flags hexit hshutdown hclosed id

theorem Settled.exit (h : s.Settled) : Requests o s (s.requestSafeExit o) (s.petWindow.exitEmitted = false →
    s.petWindow.allowFinalClose = false → s.platform.bridge.state ≠ .failed) :=
  requestSafeExit_requests o h.staged h.windows.emitted h.windows.final
    (fun t ht => (h.windows.systemTray t ht).of_flags rfl rfl .inl fun _ => rfl) h.windows.mainWindow

theorem Settled.closePet (h : s.Settled) :
    Requests o s (s.step (o, .closePetWindow)) (s.Answerable (o, .closePetWindow)) := by
  show Requests o s (s.closePetWindow o) _
  unfold closePetWindow
  split
  next hfinal =>
    refine ⟨⟨h.staged, h.windows.emitted, h.windows.final, h.windows.systemTray, h.windows.mainWindow⟩,
      fun success hmem => ?_, fun hawaits => ⟨fun _ _ _ hopen => ?_, fun _ => hawaits⟩⟩
    · change success ∈ s.platform.bridge.finishes.drop s.platform.bridge.finishes.length at hmem
      rw [List.drop_length] at hmem
      cases hmem
    · rw [hfinal] at hopen
      cases hopen
  next =>
    have hexit := h.exit o
    exact ⟨hexit.settled, hexit.concludes,
      fun hawaits => (hexit.awaits hawaits).trans ⟨fun h _ => h, fun h => h trivial⟩⟩

/-- The tray's view is refreshed after the request. -/
theorem Requests.refresh {answerable : Prop} (h : Requests o s s' answerable) :
    Requests o s (s'.refreshSystemTray o) answerable := by
  have hflags : ∀ t ∈ (s'.refreshSystemTray o).systemTray, ∃ t' ∈ s'.systemTray,
      t.requestSafeExit.isSome = t'.requestSafeExit.isSome ∧ t.closed = t'.closed := by
    intro t ht
    obtain ⟨t, hmem, rfl⟩ := mem_map.mp ht
    obtain ⟨hexit, hshutdown, hclosed⟩ := t.refresh_flags o
    refine ⟨t, hmem, ?_, hclosed⟩
    unfold SystemTrayController.requestSafeExit
    rw [hexit, hshutdown, hclosed]
    split <;> rfl
  refine ⟨h.settled.refresh o, fun success hmem => ?_, h.awaits⟩
  have hdone := h.concludes success hmem
  cases success with
  | true =>
    rw [if_pos rfl] at hdone ⊢
    refine ⟨hdone.petWindow, fun t ht => ?_, hdone.mainWindow, hdone.quits⟩
    obtain ⟨t', hmem', hsome, hclosed⟩ := hflags t ht
    obtain ⟨hnone, hends⟩ := hdone.systemTray t' hmem'
    rw [hnone] at hsome
    exact ⟨Option.not_isSome_iff_eq_none.mp (by simp [hsome]), hclosed ▸ hends⟩
  | false =>
    rw [if_neg Bool.false_ne_true] at hdone ⊢
    refine ⟨hdone.petWindow, fun t ht => ?_⟩
    obtain ⟨t', hmem', hsome, _⟩ := hflags t ht
    exact hsome.trans (hdone.systemTray t' hmem')

theorem Settled.trayExit (h : s.Settled) :
    Requests o s (s.step (o, .requestTrayExit)) (s.Answerable (o, .requestTrayExit)) := by
  show Requests o s (s.requestTrayExit o) _
  unfold requestTrayExit
  cases htray : s.systemTray with
  | none =>
    refine .of_silent o h rfl ?_ id
    show ¬s.systemTray.isSome = true
    rw [htray]
    exact Bool.false_ne_true
  | some t =>
    have hsettled := h.windows.systemTray t htray
    simp only [Option.bind_some]
    unfold SystemTrayController.requestSafeExit
    split
    next hnone =>
      split at hnone
      next hbusy =>
        refine ⟨h, fun success hmem => ?_, fun hawaits => ⟨fun _ _ hexit hopen => ?_, fun _ => hawaits⟩⟩
        · rw [List.drop_length] at hmem
          cases hmem
        · -- a tray that refuses waits for a pet that closes, or is shut down
          exfalso
          have hends : s.petWindow.lifecycleState = .closing ∨ s.platform.bridge.state = .closed := by
            simp only [Bool.or_eq_true] at hbusy
            rcases hbusy with (hasked | hstarted) | hclosed
            · exact (hsettled.exit hasked).imp_right hsettled.started.mp
            · exact .inr (hsettled.started.mp hstarted)
            · exact .inr (hsettled.started.mp (hsettled.closed hclosed))
          rcases hends with hclosing | hclosed
          · rw [h.windows.emitted.mpr hclosing] at hexit
            cases hexit
          · rw [h.windows.final.mpr hclosed] at hopen
            cases hopen
      next => cases hnone
    next asked hsome =>
      split at hsome
      next => cases hsome
      next =>
        cases hsome
        have hasked : Requests o { s with systemTray := some { t with exitRequested := true } }
            (requestSafeExit { s with systemTray := some { t with exitRequested := true } } o)
            (s.petWindow.exitEmitted = false → s.petWindow.allowFinalClose = false →
              s.platform.bridge.state ≠ .failed) := by
          refine requestSafeExit_requests o h.staged h.windows.emitted h.windows.final (fun t' ht' => ?_)
            h.windows.mainWindow
          cases mem_some_iff.mp ht'
          exact ⟨hsettled.started, hsettled.closed, fun _ => .inl rfl⟩
        have hrefreshed := hasked.refresh
        have hasks : s.Asks .requestTrayExit := by
          show s.systemTray.isSome = true
          rw [htray]
          rfl
        exact ⟨hrefreshed.settled, hrefreshed.concludes,
          fun hawaits => (hrefreshed.awaits hawaits).trans ⟨fun h _ => h, fun h => h hasks⟩⟩

theorem Settled.step (h : s.Settled) (e : Outside × Event) : Requests e.1 s (s.step e) (s.Answerable e) := by
  obtain ⟨o, e⟩ := e
  cases e with
  | runtime e => exact h.runtime o e
  | requestSafeExit =>
    have hexit := h.exit o
    exact ⟨hexit.settled, hexit.concludes,
      fun hawaits => (hexit.awaits hawaits).trans ⟨fun h _ => h, fun h => h trivial⟩⟩
  | closePetWindow => exact h.closePet o
  | requestTrayExit => exact h.trayExit o
  | closeMainWindow => exact h.closeMain o
  | togglePaused refused => exact h.togglePaused o refused
  | refreshSystemTray => exact .of_silent o (h.refresh o) rfl id id
  | retryPendingCleanup => exact h.retryPendingCleanup o
  | quit => exact .of_silent o ⟨h.staged, h.windows.emitted, h.windows.final, h.windows.systemTray,
      h.windows.mainWindow⟩ rfl id id

/-! ## Runs -/

theorem Settled.trayWaits (h : s.Settled) : s.TrayWaits := fun t ht hexit =>
  ((h.windows.systemTray t ht).exit hexit).imp_right .inl

theorem step_settled (s : PetApplicationCoordinator) (e : Outside × Event) (h : s.Settled) : (s.step e).Settled :=
  (h.step e).settled

theorem run_settled (h : s.Settled) (es : List (Outside × Event)) : (run step s es).Settled :=
  run_invariant step_settled s es h

theorem run_stepsConclude (h : s.Settled) (es : List (Outside × Event)) : StepsMeet step Concludes s es :=
  run_gives step_settled (fun _ e hs => (Settled.step hs e).concludes) s es h

/-- A pet that closes is answered in every state of a run exactly if every step of it is answerable. -/
theorem run_awaits (es : List (Outside × Event)) : ∀ {s : PetApplicationCoordinator}, s.Settled → s.AwaitsAnswer →
    (StepsMeet step Answerable s es ↔ ∀ before, before <+: es → (run step s before).AwaitsAnswer) := by
  induction es with
  | nil =>
    intro s _ hawaits
    refine ⟨fun _ before hbefore => ?_, fun _ => trivial⟩
    rw [List.prefix_nil.mp hbefore]
    exact hawaits
  | cons e es ih =>
    intro s h hawaits
    have hstep := h.step e
    have hfirst := hstep.awaits hawaits
    constructor
    · rintro ⟨hanswerable, hrest⟩ before hbefore
      cases before with
      | nil => exact hawaits
      | cons d before =>
        obtain ⟨heq, htail⟩ := List.cons_prefix_cons.mp hbefore
        subst heq
        exact (ih hstep.settled (hfirst.mpr hanswerable)).mp hrest before htail
    · intro hall
      have hnext : (s.step e).AwaitsAnswer := hall [e] (List.cons_prefix_cons.mpr ⟨rfl, List.nil_prefix⟩)
      refine ⟨hfirst.mp hnext, (ih hstep.settled hnext).mpr fun before hbefore => ?_⟩
      exact hall (e :: before) (List.cons_prefix_cons.mpr ⟨rfl, hbefore⟩)

theorem create_settled (creation : ViewCreation) :
    TraySettled .active False (SystemTrayController.create creation) := by
  cases creation <;> exact ⟨⟨nofun, False.elim⟩, nofun, nofun⟩

theorem launch_settled (service : AutostartService) (hasJournal : Bool) (tray : Option ViewCreation)
    (hideOnClose : Option Bool) (startRaises : Bool) :
    (launch service hasJournal tray hideOnClose startRaises).Settled := by
  have hfresh := Platform.unstarted_staged service hasJournal
  have htray : ∀ {platform : Platform}, platform.bridge.state ≠ .closed → ∀ t ∈ tray.map SystemTrayController.create,
      TraySettled .active (platform.bridge.state = .closed) t := by
    intro platform hopen t ht
    obtain ⟨creation, _, rfl⟩ := mem_map.mp ht
    have hcreated := create_settled creation
    exact ⟨hcreated.started.trans ⟨False.elim, hopen⟩, hcreated.closed, hcreated.exit⟩
  cases hideOnClose with
  | none => exact ⟨hfresh, ⟨nofun, nofun⟩, ⟨nofun, nofun⟩, htray (nofun), fun w hw => absurd hw (Option.not_mem_none w)⟩
  | some hideOnClose =>
    have hstaged := (hfresh.step (.call (fun _ _ => true) (.startRuntime startRaises))).1
    have hstate : ((Platform.unstarted service hasJournal).step
        (.call (fun _ _ => true) (.startRuntime startRaises))).bridge.state = if startRaises then .failed else .starting := by
      cases startRaises <;> rfl
    have hopen : ((Platform.unstarted service hasJournal).step
        (.call (fun _ _ => true) (.startRuntime startRaises))).bridge.state ≠ .closed := by
      rw [hstate]
      cases startRaises <;> nofun
    refine ⟨hstaged, ⟨nofun, nofun⟩, ⟨nofun, fun hclosed => absurd hclosed hopen⟩, htray hopen, fun w hw => ?_⟩
    cases mem_some_iff.mp hw
    refine ⟨?_, nofun, nofun⟩
    show ((Platform.unstarted service hasJournal).step _).bridge.state ≠ .new
    rw [hstate]
    cases startRaises <;> nofun

/-- With or without a tray and a main window, whatever the runtime and the views do: in every state of a run a pet that
closes waits for an answer that is to come, the tray waits only for such a pet or for good, and what is reported as
finished is done, exactly if the runtime has not failed whenever the exit is asked for anew. -/
theorem exits_answered_iff (service : AutostartService) (hasJournal : Bool) (tray : Option ViewCreation)
    (hideOnClose : Option Bool) (startRaises : Bool) (es : List (Outside × Event)) : ((∀ before, before <+: es →
        (run step (launch service hasJournal tray hideOnClose startRaises) before).Waits ∧
          (run step (launch service hasJournal tray hideOnClose startRaises) before).TrayWaits) ∧
      StepsMeet step Concludes (launch service hasJournal tray hideOnClose startRaises) es) ↔
    StepsMeet step Answerable (launch service hasJournal tray hideOnClose startRaises) es := by
  have hsettled := launch_settled service hasJournal tray hideOnClose startRaises
  rw [run_awaits es hsettled nofun]
  constructor
  · intro h before hbefore
    exact (run_settled hsettled before).waits_iff.mp (h.1 before hbefore).1
  · intro h
    refine ⟨fun before hbefore => ?_, run_stepsConclude hsettled es⟩
    have hbetween := run_settled hsettled before
    exact ⟨hbetween.waits_iff.mpr (h before hbefore), hbetween.trayWaits⟩

/-- The runtime cannot be started, and the exit is asked for in the tray. -/
def startFails (hideOnClose : Option Bool) : PetApplicationCoordinator :=
  run step (launch { available := false, hasJournal := false } false (some .shown) hideOnClose true)
    [({}, .runtime (.call (fun _ _ => true) (.startRuntime true))), ({}, .requestTrayExit), ({}, .requestTrayExit),
      ({}, .requestSafeExit)]

theorem startFails_waits_not (hideOnClose : Option Bool) : ¬(startFails hideOnClose).Waits := by
  have hstuck : (startFails hideOnClose).petWindow.lifecycleState = .closing ∧
      (startFails hideOnClose).petWindow.allowFinalClose = false ∧
      (startFails hideOnClose).platform.bridge.shutdownCommandId = none ∧
      (startFails hideOnClose).platform.unhandled = [] := by
    rcases hideOnClose with _ | _ | _ <;> decide +kernel
  obtain ⟨hclosing, hopen, hnone, hhandled⟩ := hstuck
  intro hwaits
  rcases hwaits hclosing hopen with ⟨commandId, hsome, _⟩ | hfinished
  · rw [hnone] at hsome
    cases hsome
  · rw [hhandled] at hfinished
    cases hfinished

/-- The pet closes, nothing is to come, and the exit cannot be asked for again; with the main window or without it. -/
theorem exit_unanswered :
    ¬(startFails none).Waits ∧ ¬(startFails (some false)).Waits ∧ ¬(startFails (some true)).Waits :=
  ⟨startFails_waits_not _, startFails_waits_not _, startFails_waits_not _⟩

end PetApplicationCoordinator

end ArkClaw.Presentation.SafeExit
