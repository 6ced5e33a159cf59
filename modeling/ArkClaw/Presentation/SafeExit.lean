import ArkClaw.Pet.State
import ArkClaw.Presentation.RuntimeBridgeStates

/-!
# Safe exit

The pet's window, the tray and the main window ask for the exit. The coordinator requests the shutdown of the runtime,
through the main window where there is one, and closes everything when the bridge reports `shutdown_finished` with
success; after a failure the pet and the tray are as before.

The windows live on the bridge's thread: the slots of `shutdown_finished` run while the bridge emits it, the main
window's before the coordinator's. Of the pet's animation only the lifecycle is here. Its `begin_closing` does not
raise; a pause or a resumption may be refused.
-/

namespace ArkClaw.Presentation.SafeExit

open ArkClaw.Library ArkClaw.Autostart ArkClaw.Presentation.Runtime
open ArkClaw.Pet (PetLifecycleState)

/-- What the outside does in one step. -/
structure Outside where
  journal : Journal := fun _ _ => true
  /-- The tray's view raises when it is updated. -/
  updateRaises : Bool := false
  /-- The tray's view raises when it is closed. -/
  closeRaises : Bool := false

/-! ## The pet's window -/

structure PetWindow where
  lifecycleState : PetLifecycleState := .active
  exitEmitted : Bool := false
  allowFinalClose : Bool := false
  /-- A close was accepted. -/
  closed : Bool := false

namespace PetWindow

variable (w : PetWindow)

/-- `refused`: the animation raises, or rejects the event. -/
def togglePaused (refused : Bool) : PetWindow :=
  match w.lifecycleState with
  | .closing => w
  | .paused => if refused then w else { w with lifecycleState := .active }
  | .active => if refused then w else { w with lifecycleState := .paused }

/-- The window as it emits `safe_exit_requested`, if it does. -/
def requestSafeExit : Option PetWindow :=
  if w.exitEmitted then none else some { w with lifecycleState := .closing, exitEmitted := true }

/-- The window as it emits `presentation_state_changed`, if it does. -/
def recoverFromFailedClose : Option PetWindow :=
  if w.lifecycleState ≠ .closing then none else some { w with lifecycleState := .paused, exitEmitted := false }

def completeSafeClose : PetWindow := { w with allowFinalClose := true, closed := true }

end PetWindow

/-! ## The tray -/

/-- What comes of the view that the controller creates. -/
inductive ViewCreation where
  | raises | unavailable | showRaises | shown
deriving DecidableEq, Repr

structure SystemTrayController where
  view : Bool := true
  cleanupPendingView : Bool := false
  safeCode : String := "none"
  refreshDisabled : Bool := false
  exitRequested : Bool := false
  shutdownStarted : Bool := false
  closed : Bool := false

namespace SystemTrayController

variable (t : SystemTrayController)

def create : ViewCreation → SystemTrayController
  | .raises => { view := false, safeCode := "system_tray_initialization_failed" }
  | .unavailable => { view := false, safeCode := "system_tray_unavailable" }
  | .showRaises => { view := false, cleanupPendingView := true, safeCode := "system_tray_initialization_failed" }
  | .shown => {}

def refresh (o : Outside) : SystemTrayController :=
  if t.closed || t.refreshDisabled || !t.view then t
  else if o.updateRaises then { t with refreshDisabled := true, safeCode := "system_tray_refresh_failed" }
  else t

def recoverFailedShutdown (o : Outside) : SystemTrayController :=
  if t.closed || t.shutdownStarted then t
  else { t with exitRequested := false, refreshDisabled := false }.refresh o

def tryClosePendingView (o : Outside) : Bool × SystemTrayController :=
  if !t.cleanupPendingView then (true, { t with closed := true })
  else if o.closeRaises then (false, { t with safeCode := "system_tray_cleanup_failed" })
  else (true,
    { t with
      cleanupPendingView := false
      closed := true
      safeCode := if t.safeCode = "system_tray_cleanup_failed" then "none" else t.safeCode })

def completeShutdown (o : Outside) : SystemTrayController :=
  if t.closed then t
  else
    let started := { t with shutdownStarted := true, exitRequested := true, view := false }
    if t.cleanupPendingView || t.view then ({ started with cleanupPendingView := true }.tryClosePendingView o).2
    else { started with closed := true }

/-- Retry a retained failed tray cleanup without recreating the tray. -/
def retryPendingCleanup (o : Outside) : Bool × SystemTrayController :=
  if t.closed then (true, t)
  else if !t.shutdownStarted then (false, t)
  else t.tryClosePendingView o

/-- The tray as it asks the coordinator for the exit, if it does. -/
def requestSafeExit : Option SystemTrayController :=
  if t.exitRequested || t.shutdownStarted || t.closed then none else some { t with exitRequested := true }

end SystemTrayController

/-! ## The main window -/

structure MainWindow where
  hideOnClose : Bool := false
  safeCloseRequested : Bool := false
  closing : Bool := false
  allowFinalClose : Bool := false
  /-- A close was accepted. -/
  closed : Bool := false

namespace MainWindow

variable (w : MainWindow)

/-- Whether the bridge is asked to shut down, and the window after that. -/
def closeEvent (isRunning : Bool) : Bool × MainWindow :=
  if w.allowFinalClose then (false, { w with closed := true })
  else if w.hideOnClose && !w.safeCloseRequested then (false, w)
  else if !isRunning then (false, { w with closed := true })
  else if w.closing then (false, w)
  else (true, { w with closing := true })

def onShutdownFinished (success : Bool) : MainWindow :=
  if !w.closing then w
  else if !success then { w with closing := false, safeCloseRequested := false }
  else { w with allowFinalClose := true }

end MainWindow

/-! ## The coordinator -/

structure PetApplicationCoordinator where
  platform : Platform
  petWindow : PetWindow := {}
  systemTray : Option SystemTrayController := none
  mainWindow : Option MainWindow := none
  /-- The timer that emits `quit_requested` is set. -/
  quitScheduled : Bool := false
  quitRequested : Bool := false

namespace PetApplicationCoordinator

variable (s : PetApplicationCoordinator) (o : Outside)

def refreshSystemTray : PetApplicationCoordinator := { s with systemTray := s.systemTray.map (·.refresh o) }

/-- `shutdown(cancel_active=True)`. -/
def shutdownBridge : PetApplicationCoordinator :=
  { s with platform := s.platform.step (.call o.journal (.shutdown true)) }

/-- The main window is closed. -/
def closeMainWindow : PetApplicationCoordinator :=
  match s.mainWindow with
  | none => s
  | some w =>
    let (shutsDown, w) := w.closeEvent s.platform.bridge.thread.stage.isRunning
    if shutsDown then { s with mainWindow := some w }.shutdownBridge o else { s with mainWindow := some w }

/-- `request_safe_close` of the main window. -/
def requestSafeClose : PetApplicationCoordinator :=
  closeMainWindow { s with mainWindow := s.mainWindow.map fun w => { w with safeCloseRequested := true } } o

def beginRuntimeShutdown : PetApplicationCoordinator :=
  if s.mainWindow.isSome then s.requestSafeClose o else s.shutdownBridge o

def recoverPetWindow : PetApplicationCoordinator :=
  match s.petWindow.recoverFromFailedClose with
  | none => s
  | some w => { s with petWindow := w }.refreshSystemTray o

def onShutdownFinished (success : Bool) : PetApplicationCoordinator :=
  if !success then
    let s := s.recoverPetWindow o
    { s with systemTray := s.systemTray.map (·.recoverFailedShutdown o) }
  else
    let closing : PetApplicationCoordinator := { s with
      systemTray := s.systemTray.map (·.completeShutdown o)
      petWindow := s.petWindow.completeSafeClose }
    { closing.requestSafeClose o with quitScheduled := true }

/-- The slots of `shutdown_finished`. -/
def deliver (success : Bool) : PetApplicationCoordinator :=
  onShutdownFinished { s with mainWindow := s.mainWindow.map (·.onShutdownFinished success) } o success

/-- The slots run for all that the bridge has reported, the first `reported` apart. A slot may close the main window,
but the runtime does not run then, so that nothing more is reported. -/
def hear (reported : Nat) : PetApplicationCoordinator :=
  (s.platform.bridge.finishes.drop reported).foldl (fun s success => s.deliver o success) s

/-- `request_safe_exit` of the pet's window. -/
def requestSafeExit : PetApplicationCoordinator :=
  match s.petWindow.requestSafeExit with
  | none => s
  | some w =>
    (({ s with petWindow := w }.refreshSystemTray o).beginRuntimeShutdown o).hear o s.platform.bridge.finishes.length

/-- The close event of the pet's window. -/
def closePetWindow : PetApplicationCoordinator :=
  if s.petWindow.allowFinalClose then { s with petWindow := { s.petWindow with closed := true } }
  else s.requestSafeExit o

/-- The exit action of the tray. -/
def requestTrayExit : PetApplicationCoordinator :=
  match s.systemTray.bind (·.requestSafeExit) with
  | none => s
  | some t => ({ s with systemTray := some t }.requestSafeExit o).refreshSystemTray o

/-! ## Steps -/

inductive Event where
  /-- A call of the bridge, a step of the worker or the handling of the next signal. -/
  | runtime (e : Platform.PlatformEvent)
  | requestSafeExit
  | closePetWindow
  | requestTrayExit
  | closeMainWindow
  | togglePaused (refused : Bool)
  | refreshSystemTray
  | retryPendingCleanup
  /-- The timer of `quit_requested`. -/
  | quit

def step : Outside × Event → PetApplicationCoordinator
  | (o, .runtime e) => { s with platform := s.platform.step e }.hear o s.platform.bridge.finishes.length
  | (o, .requestSafeExit) => s.requestSafeExit o
  | (o, .closePetWindow) => s.closePetWindow o
  | (o, .requestTrayExit) => s.requestTrayExit o
  | (o, .closeMainWindow) => (s.closeMainWindow o).hear o s.platform.bridge.finishes.length
  | (o, .togglePaused refused) =>
    { s with petWindow := s.petWindow.togglePaused refused }.refreshSystemTray o
  | (o, .refreshSystemTray) => s.refreshSystemTray o
  | (o, .retryPendingCleanup) => { s with systemTray := s.systemTray.map fun t => (t.retryPendingCleanup o).2 }
  | (_, .quit) => { s with quitRequested := s.quitRequested || s.quitScheduled }

/-- The application as it starts, with or without a tray and a main window. The main window starts the runtime. -/
def launch (service : AutostartService) (hasJournal : Bool) (tray : Option ViewCreation) (hideOnClose : Option Bool)
    (startRaises : Bool) : PetApplicationCoordinator :=
  let platform := Platform.unstarted service hasJournal
  { platform := match hideOnClose with
      | none => platform
      | some _ => platform.step (.call (fun _ _ => true) (.startRuntime startRaises))
    systemTray := tray.map .create
    mainWindow := hideOnClose.map fun hideOnClose => { hideOnClose } }

/-! ## What is promised -/

/-- A pet that closes, and is not closed for good, waits for an answer that is to come: a shutdown that the bridge has
not answered, or the end of the thread. -/
def Waits : Prop :=
  s.petWindow.lifecycleState = .closing → s.petWindow.allowFinalClose = false →
    (∃ commandId, s.platform.bridge.shutdownCommandId = some commandId ∧
      commandId ∈ s.platform.bridge.pendingCommandIds) ∨ .finished ∈ s.platform.unhandled

/-- The tray waits for the exit only while the pet closes, or for good. -/
def TrayWaits : Prop :=
  ∀ t ∈ s.systemTray, t.exitRequested = true →
    s.petWindow.lifecycleState = .closing ∨ t.shutdownStarted = true ∨ t.closed = true

/-- Everything is closed. A view that raises keeps the tray's cleanup pending. -/
structure Closed : Prop where
  petWindow : s.petWindow.allowFinalClose = true ∧ s.petWindow.closed = true
  systemTray : ∀ t ∈ s.systemTray, t.requestSafeExit = none ∧ (t.closed = true ∨ o.closeRaises = true)
  mainWindow : ∀ w ∈ s.mainWindow, w.closed = true
  quits : s.quitScheduled = true

/-- The pet and the tray accept a new request. -/
structure Accepts : Prop where
  petWindow : s.petWindow.lifecycleState ≠ .closing ∧ s.petWindow.requestSafeExit.isSome = true
  systemTray : ∀ t ∈ s.systemTray, t.requestSafeExit.isSome = true

/-- What the step reports as finished is done: everything is closed, or a new request is accepted. -/
def Concludes (e : Outside × Event) : Prop :=
  ∀ success ∈ (s.step e).platform.bridge.finishes.drop s.platform.bridge.finishes.length,
    if success then (s.step e).Closed e.1 else (s.step e).Accepts

/-- The exit is asked for. -/
def Asks : Event → Prop
  | .requestSafeExit | .closePetWindow => True
  | .requestTrayExit => s.systemTray.isSome = true
  | _ => False

/-- The runtime has not failed when the exit is asked for anew. -/
def Answerable (e : Outside × Event) : Prop :=
  s.Asks e.2 → s.petWindow.exitEmitted = false → s.petWindow.allowFinalClose = false →
    s.platform.bridge.state ≠ .failed

end PetApplicationCoordinator

end ArkClaw.Presentation.SafeExit
