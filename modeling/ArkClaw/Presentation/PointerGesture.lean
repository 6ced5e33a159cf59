import ArkClaw.Pet.Geometry
import Mathlib.Algebra.Order.AbsoluteValue.Basic

/-!
# The pointer gesture

A press, the moves after it, and a release make a click or a drag. The drag threshold is read at the press; a
gesture that has once gone as far stays a drag. Each answer tells the window what to do about it.
-/

namespace ArkClaw.Presentation

open ArkClaw.Library
open ArkClaw.Pet (Point PetError)

inductive PointerGestureState where
  | idle | pending | dragging
deriving DecidableEq, Repr

inductive GestureDecision where
  | none | beginDrag | drag | click | cancelPending | releaseActiveDrag | abortActiveDrag
deriving DecidableEq, Repr

inductive GestureCancelReason where
  | pointerCaptureLost | windowHidden | pauseRequested | rendererDegraded | playbackDegraded | closing
deriving DecidableEq, Repr

/-- Snapshots the system threshold at the press and emits semantic decisions. -/
structure PetPointerGesture where
  state : PointerGestureState := .idle
  pressLocal : Option Point := none
  pressGlobal : Option Point := none
  sessionDragThreshold : Option Rat := none
  maximumDistance : Rat := 0
deriving DecidableEq

namespace PetPointerGesture

def reset : PetPointerGesture := {}

def cancel (g : PetPointerGesture) (reason : GestureCancelReason) : GestureDecision × PetPointerGesture :=
  match g.state with
  | .idle => (.none, g)
  | .pending => (.cancelPending, reset)
  | .dragging =>
    if reason = .pointerCaptureLost then (.releaseActiveDrag, reset) else (.abortActiveDrag, reset)

/-- A press starts a gesture of its own, whatever came of the last one. -/
def press (g : PetPointerGesture) (localPosition globalPosition : Point) (dragThreshold : Rat) :
    Except PetError (GestureDecision × PetPointerGesture) :=
  if dragThreshold ≤ 0 then .error (.value "drag threshold must be finite and positive")
  else
    let g := if g.state = .idle then g else (g.cancel .closing).2
    .ok (.none, { g with
      state := .pending
      pressLocal := some localPosition
      pressGlobal := some globalPosition
      sessionDragThreshold := some dragThreshold
      maximumDistance := 0 })

def distance (a b : Point) : Rat := |a.x - b.x| + |a.y - b.y|

def move (g : PetPointerGesture) (globalPosition : Point) : GestureDecision × PetPointerGesture :=
  match g.state with
  | .idle => (.none, g)
  | .dragging => (.drag, g)
  | .pending =>
    match g.pressGlobal, g.sessionDragThreshold with
    | some start, some threshold =>
      let maximumDistance := max g.maximumDistance (distance globalPosition start)
      if maximumDistance < threshold then (.none, { g with maximumDistance })
      else (.beginDrag, { g with maximumDistance, state := .dragging })
    | _, _ => (.none, g)

def release (g : PetPointerGesture) (globalPosition : Point) : GestureDecision × PetPointerGesture :=
  match g.state with
  | .idle => (.none, g)
  | .dragging => (.releaseActiveDrag, reset)
  | .pending =>
    if (g.move globalPosition).2.state = .dragging then (.releaseActiveDrag, reset) else (.click, reset)

variable {g : PetPointerGesture}

/-- A release ends the gesture. -/
@[simp] theorem release_state (g : PetPointerGesture) (globalPosition : Point) :
    (g.release globalPosition).2.state = .idle := by
  unfold release
  cases hstate : g.state with
  | idle => exact hstate
  | pending => simp only; split <;> rfl
  | dragging => rfl

end PetPointerGesture

end ArkClaw.Presentation
