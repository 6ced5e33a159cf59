import ArkClaw.Library.Runs
import ArkClaw.Pet.EngineLaws
import ArkClaw.Presentation.EffectOverlay

/-!
# A gesture through the overlay

A record of the desk notes whether a gesture that began with a forwarded left press is still open. As long as it is,
the window receives its moves and its left release as if they had come to the window itself, unless a second press
or a hidden surface takes the proxy flag down in between.
-/

namespace ArkClaw.Presentation

open ArkClaw.Library
open ArkClaw.Pet
open ArkClaw.Pet.PetAnimationEngine (wp_onMotion)

namespace PetWindow

/-- The window takes a left press for the beginning of a gesture. -/
def acceptsLeftPress (env : PetWindowEnv) (w : PetWindow) : Bool :=
  match w.animation.motion.states.snapshot with
  | .ok state => decide (state.lifecycle ≠ .closing) && decide (0 < env.startDragDistance)
  | .error _ => false

section

variable {env : PetWindowEnv} {w : PetWindow}

@[simp] theorem wp_onAnimation {α : Type} (c : Program PetAnimationEngine α) (Q : α → PetWindow → Prop)
    (R : PetError → PetWindow → Prop) : Wp (onAnimation c) Q R w ↔
      Wp c (fun a animation => Q a { w with animation }) (fun error animation => R error { w with animation })
        w.animation := wp_onPart

@[simp] theorem wp_onGesture (answer : PetPointerGesture → GestureDecision × PetPointerGesture)
    (Q : GestureDecision → PetWindow → Prop) (R : PetError → PetWindow → Prop) : Wp (onGesture answer) Q R w ↔
      Q (answer w.pointerGesture).1 { w with pointerGesture := (answer w.pointerGesture).2 } := Iff.rfl

theorem wp_acceptsInteraction (Q : Bool → PetWindow → Prop) (R : PetError → PetWindow → Prop) :
    Wp acceptsInteraction Q R w ↔
      (∀ state, w.animation.motion.states.snapshot = .ok state → Q (decide (state.lifecycle ≠ .closing)) w)
        ∧ ∀ error, w.animation.motion.states.snapshot = .error error → R error w := by
  simp only [acceptsInteraction, layeredState, wp_bind, wp_onAnimation, wp_onMotion, PetMotionModel.state, wp_get,
    wp_getOrRaise, wp_pure]

/-- A left press that is accepted opens a gesture. -/
theorem mousePressEvent_left {event : MouseEvent} (hleft : event.button = some .left) :
    Wp (mousePressEvent env event)
      (fun accepted w' => accepted = w.acceptsLeftPress env
        ∧ (accepted = true → w'.pointerGesture.state = .pending ∧ w'.dragOffset = some event.position))
      (fun _ _ => w.acceptsLeftPress env = false) w := by
  unfold mousePressEvent acceptsLeftPress
  rw [if_pos hleft]
  refine wp_bind.mpr ((wp_acceptsInteraction _ _).mpr ⟨fun state hstate => ?_, fun error herror => ?_⟩)
  · rw [hstate]
    by_cases hclosing : state.lifecycle = .closing
    · simp [hclosing]
    · simp only [hclosing, ne_eq, not_false_eq_true, decide_true, if_true, wp_bind, wp_get, Bool.true_and]
      by_cases hthreshold : env.startDragDistance ≤ 0
      · simp only [PetPointerGesture.press, if_pos hthreshold]
        exact ⟨by simpa using hthreshold, fun h => by cases h⟩
      · simp only [PetPointerGesture.press, if_neg hthreshold]
        exact ⟨by simpa using hthreshold, fun _ => ⟨rfl, rfl⟩⟩
  · rw [herror]

/-- A left release ends the gesture, whatever becomes of the drag. -/
theorem mouseReleaseEvent_left {event : MouseEvent} (hleft : event.button = some .left) (workspaces : List Rect) :
    Wp (mouseReleaseEvent env event workspaces) (fun _ w' => w'.pointerGesture.state = .idle)
      (fun _ w' => w'.pointerGesture.state = .idle) w := by
  have hengine : ∀ {α : Type} (c : Program PetAnimationEngine α) (w : PetWindow), w.pointerGesture.state = .idle →
      Wp (onAnimation c) (fun _ w' => w'.pointerGesture.state = .idle) (fun _ w' => w'.pointerGesture.state = .idle) w :=
    fun c w hidle => (wp_onAnimation _ _ _).mpr (wp_trivial c (fun _ _ => hidle) fun _ _ => hidle)
  have hsync : ∀ w : PetWindow, w.pointerGesture.state = .idle → Wp syncRendererState
      (fun _ w' => w'.pointerGesture.state = .idle) (fun _ w' => w'.pointerGesture.state = .idle) w := fun w hidle =>
    wp_bind.mpr ((hengine _ w hidle).imp (fun _ _ h => h))
  unfold mouseReleaseEvent
  rw [if_pos hleft]
  simp only [wp_bind, wp_onGesture, wp_modify]
  have hidle := PetPointerGesture.release_state w.pointerGesture event.globalPosition
  cases (w.pointerGesture.release event.globalPosition).1 with
  | releaseActiveDrag =>
    simp only [wp_bind]
    exact (hengine _ _ hidle).imp (fun _ w' h => (hsync w' h).imp (fun _ _ h => h))
  | click =>
    simp only [requestUserPetAction, requestPetAction, wp_bind]
    refine (hengine _ _ hidle).imp (fun state w' h => ?_)
    simp only [wp_get]
    split
    next => exact h
    next =>
      simp only [wp_bind]
      refine (hengine _ w' h).imp (fun _ w' h => ?_)
      exact (hsync w' h).imp (fun _ _ h => h)
  | _ => exact hidle

end

end PetWindow

namespace PetDesk

section

variable {env : OverlayEnv} {d : PetDesk}

/-- What the window's handler leaves, and nothing else, is what sending an event leaves. -/
def handled (env : OverlayEnv) (d : PetDesk) (type : MouseEventType) (event : MouseEvent) (workspaces : List Rect) :
    PetDesk :=
  { d with window := stateAfter (PetWindow.mouseEvent env.window type event workspaces) d.window }

theorem onWindow_spec {α : Type} (c : Program PetWindow α) (d : PetDesk) :
    Wp (onWindow c) (fun _ d' => d' = { d with window := stateAfter c d.window })
      (fun _ d' => d' = { d with window := stateAfter c d.window }) d := by
  have hafter : Wp c (fun _ window => window = stateAfter c d.window) (fun _ window => window = stateAfter c d.window)
      d.window := Wp.of_stateAfter rfl
  exact wp_onPart.mpr (hafter.mono (fun _ _ h => by rw [h]) fun _ _ h => by rw [h])

theorem sendEvent_spec (type : MouseEventType) (event : MouseEvent) (workspaces : List Rect) :
    Wp (sendEvent env type event workspaces) (fun _ d' => d' = d.handled env type event workspaces)
      (fun _ d' => d' = d.handled env type event workspaces) d := by
  unfold sendEvent
  dsimp only
  split
  next => exact onWindow_spec _ d
  next =>
    refine wp_bind.mpr (wp_attempt.mpr ((onWindow_spec _ d).mono (fun _ _ h => ?_) fun _ _ h => ?_))
    · exact h
    · exact h

/-! ## The overlay's handlers -/

/-- The press opens a gesture: a left press on the body that the window accepts. -/
def beginsGesture (env : OverlayEnv) (d : PetDesk) (event : MouseEvent) : Bool :=
  decide (event.button = some .left) && d.overlay.containsGlobalPoint d.renderGeneration event.globalPosition
    && d.window.acceptsLeftPress env.window

theorem mousePressEvent_begins {event : MouseEvent} (hbegins : d.beginsGesture env event = true)
    (workspaces : List Rect) : Wp (mousePressEvent env event workspaces)
      (fun _ d' => d'.overlay.proxyPointerActive = true ∧ d'.window.pointerGesture.state = .pending)
      (fun _ _ => False) d := by
  simp only [beginsGesture, Bool.and_eq_true, decide_eq_true_eq] at hbegins
  obtain ⟨⟨hleft, hhit⟩, haccepts⟩ := hbegins
  have hforwarded : (d.forwarded event).button = some .left := hleft
  have hhandler : Wp (onWindow (PetWindow.mouseEvent env.window .press (d.forwarded event) workspaces))
      (fun accepted d' => accepted = true ∧ d'.window.pointerGesture.state = .pending) (fun _ _ => False) d := by
    refine wp_onPart.mpr ((PetWindow.mousePressEvent_left hforwarded).mono
      (fun accepted w' h => ?_) fun _ _ h => ?_)
    · have haccepted : accepted = true := h.1.trans haccepts
      exact ⟨haccepted, (h.2 haccepted).1⟩
    · rw [haccepts] at h
      cases h
  have hsends : Wp (sendEvent env .press (d.forwarded event) workspaces)
      (fun accepted d' => accepted = true ∧ d'.window.pointerGesture.state = .pending) (fun _ _ => False) d := by
    unfold sendEvent
    dsimp only
    split
    next => exact hhandler
    next =>
      exact wp_bind.mpr (wp_attempt.mpr (hhandler.mono (fun _ _ h => h) fun _ _ => False.elim))
  unfold mousePressEvent forwardMouseEvent
  simp only [wp_bind, wp_get, hhit, Bool.not_true, Bool.and_false, Bool.false_eq_true, if_false]
  refine hsends.mono (fun accepted d' h => ?_) fun _ _ => False.elim
  simp only [modifyOverlay, wp_modify, wp_pure, hleft, decide_true, Bool.true_and]
  exact h

/-- While the flag is up a move is the window's. -/
theorem mouseMoveEvent_forwards (env : OverlayEnv) (hactive : d.overlay.proxyPointerActive = true) (event : MouseEvent)
    (workspaces : List Rect) :
    Wp (mouseMoveEvent env event workspaces) (fun _ d' => d' = d.handled env .move (d.forwarded event) workspaces)
      (fun _ d' => d' = d.handled env .move (d.forwarded event) workspaces) d := by
  unfold mouseMoveEvent forwardMouseEvent
  simp only [wp_bind, wp_get, hactive, Bool.not_true, Bool.false_eq_true, if_false, Bool.false_and]
  exact sendEvent_spec _ _ _

/-- While the flag is up a release is the window's, and one of another button leaves the flag up. -/
theorem mouseReleaseEvent_forwards (env : OverlayEnv) (hactive : d.overlay.proxyPointerActive = true) (event : MouseEvent)
    (workspaces : List Rect) : Wp (mouseReleaseEvent env event workspaces)
      (fun _ d' => d'.window = (d.handled env .release (d.forwarded event) workspaces).window
        ∧ (event.button ≠ some .left → d'.overlay = d.overlay)
        ∧ (event.button = some .left → d'.overlay.proxyPointerActive = false))
      (fun _ d' => d' = d.handled env .release (d.forwarded event) workspaces) d := by
  unfold mouseReleaseEvent forwardMouseEvent
  simp only [wp_bind, wp_get, hactive, Bool.not_true, Bool.false_eq_true, if_false, Bool.false_and]
  refine (sendEvent_spec _ _ _).imp (fun accepted d' h => ?_)
  subst h
  split
  next hleft =>
    simp only [modifyOverlay, wp_bind, wp_modify, wp_get]
    split
    next => exact ⟨rfl, fun h => absurd hleft h, fun _ => rfl⟩
    next => exact ⟨rfl, fun h => absurd hleft h, fun _ => rfl⟩
  next hother => exact ⟨rfl, fun _ => rfl, fun h => absurd h hother⟩

end

/-! ## Runs -/

/-- What happens to the window ends the gesture: it is given up, pressed anew or released on the window itself. -/
def WindowOperation.endsGesture (env : PetWindowEnv) (w : PetWindow) : WindowOperation → Bool
  | .cancelPointerGesture _ _ => true
  | .mouse .press event _ => decide (event.button = some .left) && w.acceptsLeftPress env
  | .mouse .release event _ => decide (event.button = some .left)
  | _ => false

/-- A desk, and whether a gesture that began with a forwarded left press is still open. -/
structure GestureRecord where
  desk : PetDesk
  gestureOpen : Bool := false

namespace GestureRecord

/-- Take a step and keep the record. -/
def follow (env : OverlayEnv) (r : GestureRecord) (op : Operation) : GestureRecord where
  desk := operate env r.desk op
  gestureOpen :=
    match op with
    | .mouse .press event _ => r.desk.beginsGesture env event || r.gestureOpen
    | .mouse .release event _ => r.gestureOpen && decide (event.button ≠ some .left)
    | .window op => r.gestureOpen && !op.endsGesture env.window r.desk.window
    | _ => r.gestureOpen

/-- What the overlay owes an open gesture: its moves and releases reach the window as the window's own, and its left
release ends it. -/
structure KeepsGesture (env : OverlayEnv) (r : GestureRecord) (op : Operation) : Prop where
  begins : ∀ event workspaces, op = .mouse .press event workspaces → r.desk.beginsGesture env event = true →
    (operate env r.desk op).window.pointerGesture.state = .pending
  forwards : ∀ type event workspaces, op = .mouse type event workspaces → type ≠ .press → r.gestureOpen = true →
    (operate env r.desk op).window = (r.desk.handled env type (r.desk.forwarded event) workspaces).window
  ends : ∀ event workspaces, op = .mouse .release event workspaces → event.button = some .left →
    r.gestureOpen = true → (operate env r.desk op).window.pointerGesture.state = .idle

/-- The step takes the flag down under an open gesture: the surface is hidden, or a button is pressed on the overlay
that opens no gesture of its own. -/
def LosesGesture (env : OverlayEnv) (r : GestureRecord) : Operation → Prop
  | .hideSurface => r.gestureOpen = true
  | .mouse .press event _ => r.gestureOpen = true ∧ r.desk.beginsGesture env event = false
  | _ => False

/-- The flag is up as long as the gesture is open. -/
def Forwarding (r : GestureRecord) : Prop := r.gestureOpen = true → r.desk.overlay.proxyPointerActive = true

section

variable {env : OverlayEnv} {r : GestureRecord}

theorem follow_forwarding (h : r.Forwarding) (op : Operation) (hmeets : ¬LosesGesture env r op) :
    (r.follow env op).Forwarding := by
  intro hopen
  cases op with
  | mouse type event workspaces =>
    cases type with
    | press =>
      have hbegins : r.desk.beginsGesture env event = true := by
        by_contra hnot
        have hfalse : r.desk.beginsGesture env event = false := by simpa using hnot
        simp only [follow, hfalse, Bool.false_or] at hopen
        exact hmeets ⟨hopen, hfalse⟩
      have hpress := mousePressEvent_begins hbegins workspaces
      exact Wp.stateAfter (P := fun d : PetDesk => d.overlay.proxyPointerActive = true)
        (wp_map.mpr (hpress.mono (fun _ _ h => h.1) fun _ _ => False.elim))
    | move =>
      have hactive := h hopen
      have hmove := mouseMoveEvent_forwards env hactive event workspaces
      refine Wp.stateAfter (P := fun d : PetDesk => d.overlay.proxyPointerActive = true)
        (wp_map.mpr (hmove.mono (fun _ d' h => ?_) fun _ d' h => ?_))
      · rw [h]
        exact hactive
      · rw [h]
        exact hactive
    | release =>
      simp only [follow, Bool.and_eq_true, decide_eq_true_eq] at hopen
      have hactive := h hopen.1
      have hrelease := mouseReleaseEvent_forwards env hactive event workspaces
      refine Wp.stateAfter (P := fun d : PetDesk => d.overlay.proxyPointerActive = true)
        (wp_map.mpr (hrelease.mono (fun _ d' h => ?_) fun _ d' h => ?_))
      · rw [h.2.1 hopen.2]
        exact hactive
      · rw [h]
        exact hactive
  | showLayout layout alwaysOnTop =>
    have hactive := h hopen
    refine Wp.stateAfter (P := fun d : PetDesk => d.overlay.proxyPointerActive = true) ?_
    simp only [Operation.program, wp_bind, wp_get, wp_getOrRaise, wp_set]
    refine ⟨fun overlay hshown => ?_, fun _ _ => hactive⟩
    unfold PetEffectOverlay.showLayout at hshown
    split at hshown
    next => cases hshown
    next =>
      cases hshown
      exact hactive
  | hideSurface => exact absurd hopen hmeets
  | retireSurface =>
    have hactive := h hopen
    show (PetEffectOverlay.retireSurface r.desk.overlay).proxyPointerActive = true
    unfold PetEffectOverlay.retireSurface
    rw [if_pos hactive]
    exact hactive
  | paint image =>
    have hactive := h hopen
    show (PetEffectOverlay.paint r.desk.overlay image r.desk.renderGeneration).proxyPointerActive = true
    unfold PetEffectOverlay.paint
    split
    next => exact hactive
    next => cases image <;> exact hactive
  | setState renderGeneration => exact h hopen
  | window op =>
    simp only [follow, Bool.and_eq_true] at hopen
    have hactive := h hopen.1
    refine Wp.stateAfter (P := fun d : PetDesk => d.overlay.proxyPointerActive = true)
      ((onWindow_spec (op.program env.window) r.desk).mono (fun _ d' h => ?_) fun _ d' h => ?_)
    · rw [h]
      exact hactive
    · rw [h]
      exact hactive

theorem keepsGesture_of_forwarding (h : r.Forwarding) (op : Operation) : KeepsGesture env r op := by
  have hforwards : ∀ type event workspaces, op = .mouse type event workspaces → type ≠ .press → r.gestureOpen = true →
      (operate env r.desk op).window = (r.desk.handled env type (r.desk.forwarded event) workspaces).window := by
    rintro type event workspaces rfl hpress hopen
    have hactive := h hopen
    cases type with
    | press => exact absurd rfl hpress
    | move =>
      have hmove := mouseMoveEvent_forwards env hactive event workspaces
      exact Wp.stateAfter (P := fun d : PetDesk => d.window = _)
        (wp_map.mpr (hmove.mono (fun _ _ h => by rw [h]) fun _ _ h => by rw [h]))
    | release =>
      have hrelease := mouseReleaseEvent_forwards env hactive event workspaces
      exact Wp.stateAfter (P := fun d : PetDesk => d.window = _)
        (wp_map.mpr (hrelease.mono (fun _ _ h => h.1) fun _ _ h => by rw [h]))
  refine ⟨?_, hforwards, ?_⟩
  · rintro event workspaces rfl hbegins
    have hpress := mousePressEvent_begins hbegins workspaces
    exact Wp.stateAfter (P := fun d : PetDesk => d.window.pointerGesture.state = .pending)
      (wp_map.mpr (hpress.mono (fun _ _ h => h.2) fun _ _ => False.elim))
  · rintro event workspaces rfl hleft hopen
    rw [hforwards _ _ _ rfl (by decide) hopen]
    have hforwarded : (r.desk.forwarded event).button = some .left := hleft
    exact Wp.stateAfter (P := fun w : PetWindow => w.pointerGesture.state = .idle)
      (PetWindow.mouseReleaseEvent_left hforwarded workspaces)

/-- In every run from a desk without an open gesture whose steps take no flag down under one, every gesture through
the overlay reaches the window from its press to its release. -/
theorem gestures_throughout {r : GestureRecord} (hclosed : r.gestureOpen = false) (ops : List Operation)
    (hmeets : StepsMeet (follow env) (fun r op => ¬LosesGesture env r op) r ops) :
    StepsMeet (follow env) (KeepsGesture env) r ops := by
  have hstart : r.Forwarding := fun hopen => by rw [hclosed] at hopen; cases hopen
  exact StepsMeet.of_invariant (fun _ op h hmeets => follow_forwarding h op hmeets)
    (fun _ op h _ => keepsGesture_of_forwarding h op) r ops hstart hmeets

end

/-! ## A second button -/

/-- A desk whose engine plays Relax and the drag, with the pet in the origin. -/
def steadyEnv : OverlayEnv where
  window := { engine := PetAnimationEngine.steadyEnv [.idle, .dragStart, .dragLoop], startDragDistance := 10 }
  handlerRaises := false

def steadyRecord : GestureRecord :=
  { desk := { window := {
      animation := PetAnimationEngine.steadyEngine [.idle, .dragStart, .dragLoop], pos := { x := 0, y := 0 } } } }

/-- The overlay is shown around the body. -/
def shown : Operation :=
  .showLayout {
    mode := .overflow
    surfaceRect := { x := -100, y := -100, width := 300, height := 300, width_pos := ofNat_pos trivial, height_pos := ofNat_pos trivial }
    bodyWindowOffset := { x := 100, y := 100 } } true

/-- An event of a button at a point. -/
def eventAt (button : Option MouseButton) (buttons : List MouseButton) (x y : Rat) : MouseEvent :=
  { button, buttons, position := { x, y }, globalPosition := { x, y } }

def screen : List Rect :=
  [{ x := 0, y := 0, width := 1920, height := 1080, width_pos := ofNat_pos trivial, height_pos := ofNat_pos trivial }]

/-- A right press while the left button is held. -/
def secondPress : List Operation :=
  [shown, .mouse .press (eventAt (some .left) [.left] 50 50) screen,
    .mouse .press (eventAt (some .right) [.left, .right] 50 50) screen]

/-- The second press takes the flag down, and the release of the first button never reaches the window. -/
theorem second_press_loses_release :
    ¬∀ (env : OverlayEnv) (r : GestureRecord) (ops : List Operation) (event : MouseEvent) (workspaces : List Rect),
      r.gestureOpen = false → (run (follow env) r ops).gestureOpen = true → event.button = some .left →
      (operate env (run (follow env) r ops).desk (.mouse .release event workspaces)).window.pointerGesture.state
        = .idle := by
  intro h
  have hidle := h steadyEnv steadyRecord secondPress (eventAt (some .left) [.right] 50 50) screen rfl (by decide +kernel) rfl
  exact absurd hidle (by decide +kernel)

/-- A drag through the overlay, from its press to its release. -/
theorem drag_forwarded : StepsMeet (follow steadyEnv) (KeepsGesture steadyEnv) steadyRecord
      [shown, .mouse .press (eventAt (some .left) [.left] 50 50) screen, .mouse .move (eventAt none [.left] 90 50) screen,
        .retireSurface, .mouse .release (eventAt (some .left) [] 90 50) screen] := by
  refine gestures_throughout rfl _ ⟨id, ?_, id, id, id, trivial⟩
  rintro ⟨hopen, -⟩
  exact absurd hopen (by decide +kernel)

end GestureRecord

end PetDesk

end ArkClaw.Presentation
