import ArkClaw.Library.Substeps
import ArkClaw.Presentation.PetWindowSurfaces

/-!
# The window's tick in sub-steps

The engine advances and the renderer gets its action; the workspace is looked for; a layout is planned; the renderer takes
it over; the frame is drawn and its surface published. Each of these begins in what the one before it leaves, and one that
raises ends the tick.
-/

namespace ArkClaw.Presentation

open ArkClaw.Library
open ArkClaw.Pet

namespace PetSurfaces

/-- Where a tick goes on. An operation that is no tick is one sub-step. -/
inductive TickPoint where
  | operation (op : Operation)
  | advance (tick : SurfaceTick)
  | prepare (tick : SurfaceTick) (request : PetRendererActionRequest)
  | plan (tick : SurfaceTick) (request : PetRendererActionRequest) (bodyRect workspace : Rect) (display : Option Rect)
  | install (tick : SurfaceTick) (layout : Option Pet.PetRenderLayout)
  | frame (tick : SurfaceTick) (layout : Option Pet.PetRenderLayout)

namespace TickPoint

def first : Operation → TickPoint
  | .tick tick => .advance tick
  | op => .operation op

/-- The number of sub-steps from a point on, less one. -/
def rank : TickPoint → Nat
  | .operation _ => 0
  | .advance _ => 4
  | .prepare _ _ => 3
  | .plan _ _ _ _ _ => 2
  | .install _ _ => 1
  | .frame _ _ => 0

variable (env : OverlayEnv)

/-- The sub-step at a point, and the point behind it. -/
def next : TickPoint → Program PetSurfaces (Option TickPoint)
  | .operation op => do
    op.program env
    return none
  | .advance tick => do
    let request ← advanceFrame env tick
    return some (.prepare tick request)
  | .prepare tick request => do
    let (bodyRect, workspace, display) ← selectPlace request tick
    let s ← get
    if request.action = .special ∧ s.activeLayoutAction = some .special ∧ s.activeRenderLayout.isSome then
      if s.activeLayoutWorkspace = some workspace then return some (.install tick s.activeRenderLayout)
      else
        let next ← endSpecial env
        return some (.plan tick next bodyRect workspace display)
    else return some (.plan tick request bodyRect workspace display)
  | .plan tick request bodyRect workspace display => do
    let layout ← planRenderLayout env request bodyRect workspace display
    return some (.install tick layout)
  | .install tick layout => do
    let position := (← get).window.animation.motion.position
    onWindow (PetWindow.moveTo position)
    installLayout layout tick.viewportTaken
    return some (.frame tick layout)
  | .frame tick layout => do
    showFrame env layout tick
    return none

end TickPoint

/-- An operation is its sub-steps, one after the other. -/
theorem operate_substeps (env : OverlayEnv) (s : PetSurfaces) (op : Operation) :
    operate env s op = stateAfter (through (TickPoint.next env) 5 (TickPoint.first op)) s := by
  unfold operate
  congr 1
  cases op with
  | tick tick =>
    simp only [Operation.program, advanceAnimation, prepareRenderLayout, TickPoint.first, through, TickPoint.next,
      bind_assoc, pure_bind]
    refine bind_congr fun request => bind_congr fun place => bind_congr fun _ => ?_
    split
    next =>
      split
      next => simp only [bind_assoc, pure_bind, bind_pure_unit]
      next => simp only [bind_assoc, pure_bind, bind_pure_unit]
    next => simp only [bind_assoc, pure_bind, bind_pure_unit]
  | _ => simp only [TickPoint.first, through, TickPoint.next, bind_assoc, pure_bind, bind_pure_unit]

end PetSurfaces

end ArkClaw.Presentation
