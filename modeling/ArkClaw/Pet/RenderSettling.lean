import ArkClaw.Pet.RenderPlacement
import ArkClaw.Pet.Ground

/-!
# A displaced body stays where it is

A full plan that displaces the body names a whole pixel at which the content fits, and the plan from there names it
again. The motion model takes the position over, and neither constraining the window nor a physical step moves it.

The planner's tests have a tolerance and the motion model's have none. Between whole pixels they agree; a window that is
not a whole number of pixels wide can be planned where the motion model refuses it.
-/

namespace ArkClaw.Pet

open ArkClaw.Library

/-! ## The plan -/

namespace RenderLayout

variable {body workspace : Rect} {envelope : ProjectedActionEnvelope} {facing : PetFacing} {dpr : Rat}
  {display : Option Rect} {layout : PetRenderLayout}

/-- A body is moved only where no facing fits, and then to a pixel at which one does. -/
theorem fullPlacement_moved {placed : Rect} {selected : PetFacing} {scale : Scale}
    (h : fullPlacement body workspace envelope facing = some (placed, selected, scale)) (hmoved : placed ≠ body) :
    scale = .full ∧ ∃ pixel : Int, placed = { body with x := (pixel : Rat) } ∧
      HeldAt layoutScaleEpsilon body (correctedBy envelope selected) workspace pixel := by
  unfold fullPlacement at h
  split_ifs at h with hpreferred hother
  · cases h
    exact absurd rfl hmoved
  · cases h
    exact absurd rfl hmoved
  · have hunfitting : ∀ side, visibleContentFits body (correctedBy envelope side) .full workspace = false :=
      forall_facing facing (Bool.eq_false_iff.mpr hpreferred) (Bool.eq_false_iff.mpr hother)
    dsimp only at h
    split at h
    next candidate hcandidate =>
      cases h
      obtain ⟨pixel, hpixel, hheld, -⟩ := horizontalAvoidance_nearest (hunfitting _) hcandidate
      exact ⟨rfl, pixel, by rw [hpixel], hheld⟩
    next =>
      obtain ⟨⟨side, other⟩, -, heq⟩ := Option.map_eq_some_iff.mp h
      cases heq
      exact absurd rfl hmoved

/-- From where the content has been laid out at full scale, it is laid out there again. -/
theorem plan_again {selected : PetFacing} (hdpr : 0 < dpr)
    (hfloor : (floorInfeasible envelope .right || floorInfeasible envelope .left) = false)
    (hfits : visibleContentFits body (correctedBy envelope selected) .full workspace = true)
    (hlaid : laidOut body (correctedBy envelope selected) selected .full dpr = .layout layout) :
    planPetRenderLayout body workspace envelope selected .fullSampledBounds dpr display = .ok (.layout layout) := by
  obtain ⟨-, hlogical⟩ := laidOut_layout hlaid
  unfold planPetRenderLayout
  rw [if_neg (not_le.mpr hdpr)]
  dsimp only
  rw [planFull_eq, hfloor, hlogical, fullPlacement, if_pos hfits, ← hlaid]
  rfl

/-- What a displaced plan names: a whole pixel at which the content fits, and which it names again. -/
theorem plan_displaced
    (h : planPetRenderLayout body workspace envelope facing .fullSampledBounds dpr display = .ok (.layout layout))
    (hdisplaced : layout.resolvedBodyPosition ≠ { x := body.x, y := body.y }) :
    ∃ pixel : Int, layout.resolvedBodyPosition = { x := pixel, y := body.y } ∧
      HeldAt layoutScaleEpsilon body (correctedBy envelope layout.effectiveFacing) workspace pixel ∧
      ∀ display, planPetRenderLayout { body with x := (pixel : Rat) } workspace envelope layout.effectiveFacing
        .fullSampledBounds dpr display = .ok (.layout layout) := by
  obtain ⟨hdpr, hfloor, placed, selected, scale, hplacement, hlaid⟩ := plan_full_laidOut h
  obtain ⟨hlayout, -⟩ := laidOut_layout hlaid
  have hposition : layout.resolvedBodyPosition = { x := placed.x, y := placed.y } := by rw [hlayout]; rfl
  have hfacing : layout.effectiveFacing = selected := by rw [hlayout]; rfl
  have hmoved : placed ≠ body := by
    rintro rfl
    exact hdisplaced hposition
  obtain ⟨rfl, pixel, rfl, hheld⟩ := fullPlacement_moved hplacement hmoved
  rw [hfacing]
  exact ⟨pixel, hposition, hheld, fun display => plan_again hdpr hfloor hheld.fits hlaid⟩

end RenderLayout

/-! ## The window -/

namespace PetMotionModel

/-- The window of an active idle pet rests on the ground inside the workspace. -/
structure Rests (w : Rect) (m : PetMotionModel) : Prop where
  idle : ∃ s, m.states.snapshot = .ok s ∧ s.lifecycle = .active ∧ s.motion = .idle
  holds : m.windowSize.height ≤ w.height
  ground : m.OnGround w
  left : w.x ≤ m.position.x
  right : m.position.x + m.windowSize.width ≤ w.right

/-- The body the planner is given. -/
def bodyRect (m : PetMotionModel) : Rect where
  x := m.position.x
  y := m.position.y
  width := m.windowSize.width
  height := m.windowSize.height
  width_pos := m.windowSize.width_pos
  height_pos := m.windowSize.height_pos

/-- The model with nothing but the window's left edge changed. -/
def movedTo (m : PetMotionModel) (x : Rat) : PetMotionModel := { m with position := { m.position with x := x } }

/-- The operation returns and changes nothing. -/
def Stays {α : Type} (c : Program PetMotionModel α) (m : PetMotionModel) : Prop :=
  Wp c (fun _ m' => m' = m) (fun _ _ => False) m

section

variable {m : PetMotionModel} {w : Rect}

theorem Rests.moved (h : m.Rests w) {x : Rat} (hleft : w.x ≤ x) (hright : x + m.windowSize.width ≤ w.right) :
    (m.movedTo x).Rests w := ⟨h.idle, h.holds, h.ground, hleft, hright⟩

theorem Rests.top (h : m.Rests w) : w.y ≤ m.position.y := by
  have hground : m.position.y = w.bottom - m.windowSize.height := h.ground
  have hholds := h.holds
  rw [hground, Rect.bottom]
  linarith

/-- A window that is inside its workspace is where clamping puts it. -/
theorem Rests.clamped (h : m.Rests w) : (clampWindowPosition m.position m.windowSize w).x = m.position.x := by
  simp only [clampWindowPosition]
  rw [max_eq_left h.left, min_eq_left (le_max_of_le_right (by linarith [h.right]))]

theorem Rests.wp_state (h : m.Rests w) {Q : PetLayeredState → PetMotionModel → Prop}
    {R : PetError → PetMotionModel → Prop} (hQ : ∀ s, s.lifecycle = .active → s.motion = .idle → Q s m) :
    Wp state Q R m := by
  obtain ⟨s, hs, hactive, hidle⟩ := h.idle
  refine (wp_shown _ _).mpr ⟨fun other hother => ?_, fun error herror => ?_⟩
  · rw [hs] at hother
    cases hother
    exact hQ s hactive hidle
  · rw [hs] at herror
    cases herror

theorem Rests.snapshot (h : m.Rests w) : Stays snapshot m := by
  obtain ⟨s, hs, -, -⟩ := h.idle
  exact wp_snapshot_of hs rfl rfl

theorem Rests.constrain (h : m.Rests w) {workspaces : List Rect}
    (hselected : selectWorkspace m.position m.windowSize workspaces = .ok w) : Stays (constrain workspaces) m := by
  have hposition : { x := (clampWindowPosition m.position m.windowSize w).x, y := m.groundY w } = m.position := by
    rw [h.clamped, groundY_eq h.holds, ← h.ground]
  simp only [Stays, PetMotionModel.constrain, wp_bind, wp_get, hselected, getOrRaise, wp_pure]
  refine h.wp_state fun s hactive hidle => ?_
  rw [if_pos ⟨hactive, hidle⟩, wp_set, hposition]
  exact h.snapshot

theorem Rests.update (h : m.Rests w) {workspaces : List Rect}
    (hselected : selectWorkspace m.position m.windowSize workspaces = .ok w) {elapsed : Rat} (helapsed : 0 ≤ elapsed) :
    Stays (update elapsed workspaces) m := by
  rw [PetMotionModel.update, if_neg (not_lt.mpr helapsed)]
  refine wp_bind.mpr (h.wp_state fun s hactive hidle => ?_)
  rw [if_neg (not_not.mpr hactive), hidle]
  exact h.constrain hselected

/-- A position on the window's own level is taken over if the window is inside the workspace there, and refused if not. -/
theorem Rests.place (h : m.Rests w) {x : Rat} (hleft : w.x ≤ x) :
    Wp (placeForRenderLayout { x := x, y := m.position.y } w)
      (fun _ m' => x + m.windowSize.width ≤ w.right ∧ m' = m.movedTo x)
      (fun error m' => w.right < x + m.windowSize.width ∧ m' = m ∧
        error = .value "Render-layout placement must keep the window inside the workspace.") m := by
  have hsame : isClose m.position.y m.position.y = true := by
    simp only [isClose, sub_self, abs_zero, decide_eq_true_eq]
    positivity
  have hbottom : ¬w.bottom < m.position.y + m.windowSize.height := by
    have hground : m.position.y = w.bottom - m.windowSize.height := h.ground
    linarith
  refine wp_bind.mpr (h.wp_state fun s hactive hidle => ?_)
  simp only [hactive, hidle, not_true_eq_false, or_self, if_false, wp_bind, wp_get, hsame, Bool.not_true,
    Bool.false_eq_true, ne_eq]
  by_cases hout : w.right < x + m.windowSize.width
  · rw [if_pos (.inr (.inl hout))]
    exact ⟨hout, rfl, rfl⟩
  · rw [if_neg (by rintro (hx | hx | hy | hy) <;> first | exact hout hx | exact hbottom hy | linarith [h.top])]
    have hinside := not_lt.mp hout
    refine (h.moved hleft hinside).snapshot.mono (fun _ m' heq => ⟨hinside, heq⟩) fun _ _ => False.elim

/-- A displaced plan is a fixed point: its position is taken over wherever the window is inside there, as it is if it is a
whole number of pixels wide, nothing else moves the window, and the plan from there is the same. -/
theorem placeForRenderLayout_settles (hrests : m.Rests w) (hleft : ∃ left : Int, w.x = left)
    (hright : ∃ right : Int, w.right = right) {envelope : ProjectedActionEnvelope} {facing : PetFacing} {dpr : Rat}
    {display : Option Rect} {layout : PetRenderLayout}
    (hplan : RenderLayout.planPetRenderLayout m.bodyRect w envelope facing .fullSampledBounds dpr display =
      .ok (.layout layout)) (hdisplaced : layout.resolvedBodyPosition ≠ m.position) :
    let placed := m.movedTo layout.resolvedBodyPosition.x
    layout.resolvedBodyPosition = placed.position ∧
    RenderLayout.planPetRenderLayout placed.bodyRect w envelope layout.effectiveFacing .fullSampledBounds dpr display =
      .ok (.layout layout) ∧
    Wp (placeForRenderLayout layout.resolvedBodyPosition w)
      (fun _ m' => placed.position.x + m.windowSize.width ≤ w.right ∧ m' = placed ∧
        ∀ workspaces, selectWorkspace placed.position m.windowSize workspaces = .ok w →
          Stays (constrain workspaces) placed ∧
          ∀ elapsed, 0 ≤ elapsed → Stays (update elapsed workspaces) placed)
      (fun _ m' => w.right < placed.position.x + m.windowSize.width ∧ m' = m) m ∧
    ((∃ n : Int, m.windowSize.width = n) → placed.position.x + m.windowSize.width ≤ w.right) := by
  obtain ⟨pixel, hposition, hheld, hagain⟩ := RenderLayout.plan_displaced hplan hdisplaced
  obtain ⟨left, hl⟩ := hleft
  obtain ⟨right, hr⟩ := hright
  have heps : layoutScaleEpsilon < 1 := by norm_num [layoutScaleEpsilon]
  -- An edge that is on a pixel is not passed by another pixel within the tolerance.
  have hinside : w.x ≤ pixel := by
    have hheldLeft := hheld.bodyLeft
    rw [hl] at hheldLeft ⊢
    have hlt : (left : Rat) < (pixel + 1 : Int) := by
      push_cast
      linarith
    exact Int.cast_le.mpr (Int.lt_add_one_iff.mp (Int.cast_lt.mp hlt))
  have hwhole : (∃ n : Int, m.windowSize.width = n) → (pixel : Rat) + m.windowSize.width ≤ w.right := by
    rintro ⟨n, hn⟩
    have hheldRight : (pixel : Rat) + m.windowSize.width ≤ w.right + layoutScaleEpsilon := hheld.bodyRight
    rw [hn, hr] at hheldRight ⊢
    have hlt : ((pixel + n : Int) : Rat) < (right + 1 : Int) := by
      push_cast
      linarith
    exact_mod_cast Int.lt_add_one_iff.mp (Int.cast_lt.mp hlt)
  rw [hposition]
  refine ⟨rfl, hagain display, ?_, hwhole⟩
  refine (hrests.place hinside).mono (fun _ m' hplaced => ?_) fun _ m' hrefused => ⟨hrefused.1, hrefused.2.1⟩
  have hmoved := hrests.moved hinside hplaced.1
  exact ⟨hplaced.1, hplaced.2, fun workspaces hselected =>
    ⟨hmoved.constrain hselected, fun elapsed helapsed => hmoved.update hselected helapsed⟩⟩

end

/-! ## A window in a narrow workspace -/

def positionOf : Except PetError PetRenderLayoutResult → Option Point
  | .ok (.layout layout) => some layout.resolvedBodyPosition
  | _ => none

theorem planned_of_position {result : Except PetError PetRenderLayoutResult} {position : Point}
    (h : positionOf result = some position) :
    ∃ layout, result = .ok (.layout layout) ∧ layout.resolvedBodyPosition = position := by
  unfold positionOf at h
  split at h
  next layout => exact ⟨layout, rfl, Option.some.inj h⟩
  next => cases h

/-- A workspace of 300 by 400. -/
def smallWorkspace : Rect where
  x := 0
  y := 0
  width := 300
  height := 400
  width_pos := ofNat_pos trivial
  height_pos := ofNat_pos trivial

/-- Content that reaches 140 pixels beyond the left edge of the body, whichever way it faces. -/
def wideEnvelope : ProjectedActionEnvelope :=
  RenderLayout.projectActionEnvelope
    { x := -150, y := 0, width := 300, height := 180, width_pos := ofNat_pos trivial, height_pos := ofNat_pos trivial }
    { scale := 1, originX := 10, originY := 180, mirrorAxisX := 10, scale_pos := ofNat_pos trivial }

/-- An idle pet on the ground, at the left edge of the workspace. -/
def cornered (size : Size) : PetMotionModel where
  position := { x := 0, y := 220 }
  windowSize := size

def wholeSize : Size where
  width := 160
  height := 180
  width_pos := ofNat_pos trivial
  height_pos := ofNat_pos trivial

/-- Half the planner's tolerance wider. -/
def fractionalSize : Size where
  width := 160 + 1 / 2000000
  height := 180
  width_pos := by norm_num
  height_pos := ofNat_pos trivial

theorem placeForRenderLayout_settles_whole : ∃ layout,
    RenderLayout.planPetRenderLayout (cornered wholeSize).bodyRect smallWorkspace wideEnvelope .right
      .fullSampledBounds 1 none = .ok (.layout layout) ∧
    Wp (placeForRenderLayout layout.resolvedBodyPosition smallWorkspace)
      (fun _ m' => m' = (cornered wholeSize).movedTo 140 ∧ Stays (constrain [smallWorkspace]) m' ∧
        Stays (update (1 / 60) [smallWorkspace]) m' ∧
        RenderLayout.planPetRenderLayout m'.bodyRect smallWorkspace wideEnvelope layout.effectiveFacing
          .fullSampledBounds 1 none = .ok (.layout layout))
      (fun _ _ => False) (cornered wholeSize) := by
  have hrests : (cornered wholeSize).Rests smallWorkspace :=
    ⟨⟨_, rfl, rfl, rfl⟩, by decide +kernel, by decide +kernel, by decide +kernel, by decide +kernel⟩
  obtain ⟨layout, hplan, hposition⟩ := planned_of_position (show positionOf
    (RenderLayout.planPetRenderLayout (cornered wholeSize).bodyRect smallWorkspace wideEnvelope .right
      .fullSampledBounds 1 none) = some { x := 140, y := 220 } by decide +kernel)
  refine ⟨layout, hplan, ?_⟩
  obtain ⟨-, hagain, hplaced, hinside⟩ := placeForRenderLayout_settles hrests ⟨0, rfl⟩ ⟨300, by decide +kernel⟩ hplan
    (by rw [hposition]; decide +kernel)
  have hheld := hinside ⟨160, rfl⟩
  refine hplaced.mono (fun _ m' ⟨_, heq, hstays⟩ => ?_) fun _ m' hrefused => absurd hheld (not_le.mpr hrefused.1)
  obtain ⟨hconstrain, hupdate⟩ := hstays [smallWorkspace] (selectWorkspace_single _ _ _)
  rw [hposition] at heq hagain hconstrain hupdate
  subst heq
  exact ⟨rfl, hconstrain, hupdate (1 / 60) (by norm_num), hagain⟩

/-- A window that is not whole pixels wide is planned half the tolerance beyond the edge, and refused there. -/
theorem fractional_refused : (cornered fractionalSize).Rests smallWorkspace ∧ ∃ layout,
    RenderLayout.planPetRenderLayout (cornered fractionalSize).bodyRect smallWorkspace wideEnvelope .right
      .fullSampledBounds 1 none = .ok (.layout layout) ∧
    layout.resolvedBodyPosition ≠ (cornered fractionalSize).position ∧
    Wp (placeForRenderLayout layout.resolvedBodyPosition smallWorkspace) (fun _ _ => False)
      (fun error m' => m' = cornered fractionalSize ∧
        error = .value "Render-layout placement must keep the window inside the workspace.")
      (cornered fractionalSize) := by
  have hrests : (cornered fractionalSize).Rests smallWorkspace :=
    ⟨⟨_, rfl, rfl, rfl⟩, by decide +kernel, by decide +kernel, by decide +kernel, by decide +kernel⟩
  obtain ⟨layout, hplan, hposition⟩ := planned_of_position (show positionOf
    (RenderLayout.planPetRenderLayout (cornered fractionalSize).bodyRect smallWorkspace wideEnvelope .right
      .fullSampledBounds 1 none) = some { x := 140, y := 220 } by decide +kernel)
  refine ⟨hrests, layout, hplan, by rw [hposition]; decide +kernel, ?_⟩
  rw [hposition]
  refine (hrests.place (x := 140) (by decide +kernel)).mono (fun _ m' hplaced => ?_) fun _ m' hrefused => hrefused.2
  exact absurd hplaced.1 (by decide +kernel)

end PetMotionModel

end ArkClaw.Pet
