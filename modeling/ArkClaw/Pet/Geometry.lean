import ArkClaw.Pet.State
import Mathlib.Algebra.Order.Field.Rat

/-!
# Geometry and display-workspace selection

Positions and sizes are exact rationals. A size or a rectangle without a positive extent cannot be built.
Distances are compared through their squares, which order displays as the distances themselves do.
-/

namespace ArkClaw.Pet

structure Point where
  x : Rat
  y : Rat
deriving DecidableEq

@[ext] structure Size where
  width : Rat
  height : Rat
  width_pos : 0 < width
  height_pos : 0 < height

instance : DecidableEq Size := fun _ _ => decidable_of_iff _ Size.ext_iff.symm

@[ext] structure Rect where
  x : Rat
  y : Rat
  width : Rat
  height : Rat
  width_pos : 0 < width
  height_pos : 0 < height

instance : DecidableEq Rect := fun _ _ => decidable_of_iff _ Rect.ext_iff.symm

namespace Rect

def right (r : Rect) : Rat := r.x + r.width

def bottom (r : Rect) : Rat := r.y + r.height

def center (r : Rect) : Point := { x := r.x + r.width / 2, y := r.y + r.height / 2 }

end Rect

/-- Keep the whole window in a display's available workspace. -/
def clampWindowPosition (position : Point) (windowSize : Size) (workspace : Rect) : Point :=
  let maxX := max workspace.x (workspace.right - windowSize.width)
  let maxY := max workspace.y (workspace.bottom - windowSize.height)
  { x := min (max position.x workspace.x) maxX, y := min (max position.y workspace.y) maxY }

/-- Keep a draggable window recoverable without constraining vertical motion. -/
def clampDragPosition (position : Point) (windowSize : Size) (workspace : Rect)
    (recoverableStrip : Rat := 16) : Except PetError Point :=
  if recoverableStrip ≤ 0 ∨ windowSize.width < recoverableStrip then
    .error (.value "Recoverable drag strip is invalid.")
  else
    let minimumX := workspace.x - (windowSize.width - recoverableStrip)
    let maximumX := workspace.right - recoverableStrip
    .ok { x := min (max position.x minimumX) maximumX, y := position.y }

def overlapArea (first second : Rect) : Rat :=
  let width := max 0 (min first.right second.right - max first.x second.x)
  let height := max 0 (min first.bottom second.bottom - max first.y second.y)
  width * height

/-- The first element of a nonempty list that no other beats. -/
def firstBest (beats : Rect → Rect → Bool) (first : Rect) (others : List Rect) : Rect :=
  others.foldl (fun best other => if beats other best then other else best) first

/-- Choose the display with most overlap, then the nearest display. -/
def selectWorkspace (position : Point) (windowSize : Size) (workspaces : List Rect) : Except PetError Rect :=
  match workspaces with
  | [] => .error (.value "At least one display workspace is required.")
  | first :: others =>
    let window : Rect :=
      { x := position.x, y := position.y, width := windowSize.width, height := windowSize.height
        width_pos := windowSize.width_pos, height_pos := windowSize.height_pos }
    let greatest := firstBest (fun a b => overlapArea window b < overlapArea window a) first others
    if 0 < overlapArea window greatest then .ok greatest
    else
      let distance (r : Rect) : Rat :=
        (window.center.x - r.center.x) ^ 2 + (window.center.y - r.center.y) ^ 2
      .ok (firstBest (fun a b => distance a < distance b) first others)

/-- Geometry knows nothing of animations. -/
theorem selectWorkspace_error {position : Point} {windowSize : Size} {workspaces : List Rect} {error : PetError}
    (h : selectWorkspace position windowSize workspaces = .error error) : error ≠ .animationCompatibility := by
  unfold selectWorkspace at h
  cases workspaces with
  | nil => rw [← Except.error.inj h]; decide
  | cons first others =>
    simp only at h
    split at h <;> cases h

theorem clampDragPosition_error {position : Point} {windowSize : Size} {workspace : Rect} {strip : Rat}
    {error : PetError} (h : clampDragPosition position windowSize workspace strip = .error error) :
    error ≠ .animationCompatibility := by
  unfold clampDragPosition at h
  split at h
  next => rw [← Except.error.inj h]; decide
  next => cases h

end ArkClaw.Pet
