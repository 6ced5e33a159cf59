import ArkClaw.Pet.Ground
import Mathlib.Algebra.Order.Archimedean.Basic
import Mathlib.Data.List.Pairwise

/-!
# A falling pet comes to rest

What an update moves it moves into the workspace it has selected. A window that is inside a workspace has all of its area
there, so no workspace apart from that one is selected later: constraining twice is constraining once, and a fall stays in
the workspace it began in. Its speed grows with every step and the ground is as far as it goes, so it lands.
-/

namespace ArkClaw.Pet

open ArkClaw.Library

/-! ## Windows inside a workspace -/

/-- Two workspaces share no area. -/
def Apart (v w : Rect) : Prop := v.right ≤ w.x ∨ w.right ≤ v.x ∨ v.bottom ≤ w.y ∨ w.bottom ≤ v.y

instance : Std.Symm Apart where
  symm := by
    rintro v w (h | h | h | h)
    · exact .inr (.inl h)
    · exact .inl h
    · exact .inr (.inr (.inr h))
    · exact .inr (.inr (.inl h))

/-- A window at a position is inside the workspace. -/
structure Inside (position : Point) (size : Size) (w : Rect) : Prop where
  left : w.x ≤ position.x
  right : position.x + size.width ≤ w.right
  top : w.y ≤ position.y
  bottom : position.y + size.height ≤ w.bottom

def windowAt (position : Point) (size : Size) : Rect where
  x := position.x
  y := position.y
  width := size.width
  height := size.height
  width_pos := size.width_pos
  height_pos := size.height_pos

section

variable {position : Point} {size : Size} {w : Rect}

theorem clamp_inside (hholds : PetMotionModel.Holds w size) (position : Point) :
    Inside (clampWindowPosition position size w) size w := by
  obtain ⟨hwidth, hheight⟩ := hholds
  have hright : w.x ≤ w.right - size.width := by
    rw [Rect.right]
    linarith
  have hbottom : w.y ≤ w.bottom - size.height := by
    rw [Rect.bottom]
    linarith
  simp only [clampWindowPosition, max_eq_right hright, max_eq_right hbottom]
  refine ⟨le_min (le_max_right _ _) hright, ?_, le_min (le_max_right _ _) hbottom, ?_⟩
  · linarith [min_le_right (max position.x w.x) (w.right - size.width)]
  · linarith [min_le_right (max position.y w.y) (w.bottom - size.height)]

theorem Inside.clamp (h : Inside position size w) : clampWindowPosition position size w = position := by
  have hright := le_max_right w.x (w.right - size.width)
  have hbottom := le_max_right w.y (w.bottom - size.height)
  simp only [clampWindowPosition, max_eq_left h.left, max_eq_left h.top]
  rw [min_eq_left (by linarith [h.right]), min_eq_left (by linarith [h.bottom])]

/-- All of the area of the window is in a workspace that it is inside of, and none in one apart from that. -/
theorem Inside.overlap (h : Inside position size w) :
    overlapArea (windowAt position size) w = size.width * size.height := by
  have hright : position.x + size.width ≤ w.right := h.right
  have hbottom : position.y + size.height ≤ w.bottom := h.bottom
  simp only [overlapArea, windowAt, Rect.right, Rect.bottom] at hright hbottom ⊢
  rw [min_eq_left hright, max_eq_left h.left, min_eq_left hbottom, max_eq_left h.top, add_sub_cancel_left,
    add_sub_cancel_left, max_eq_right size.width_pos.le, max_eq_right size.height_pos.le]

theorem Inside.overlap_apart (h : Inside position size w) {v : Rect} (hapart : Apart v w) :
    overlapArea (windowAt position size) v = 0 := by
  obtain ⟨hleft, hright, htop, hbottom⟩ := h
  have hside {a b c d : Rat} (hcross : b ≤ a ∨ d ≤ c) : max 0 (min d b - max a c) = 0 := by
    refine max_eq_left ?_
    rcases hcross with hcross | hcross
    · linarith [min_le_right d b, le_max_left a c]
    · linarith [min_le_left d b, le_max_right a c]
  have harea : overlapArea (windowAt position size) v =
      max 0 (min (position.x + size.width) v.right - max position.x v.x) *
        max 0 (min (position.y + size.height) v.bottom - max position.y v.y) := rfl
  rw [harea, mul_eq_zero]
  rcases hapart with hv | hv | hv | hv
  · exact .inl (hside (.inl (by linarith)))
  · exact .inl (hside (.inr (by linarith)))
  · exact .inr (hside (.inl (by linarith)))
  · exact .inr (hside (.inr (by linarith)))

/-- The one that beats the others is chosen. -/
theorem firstBest_eq {beats : Rect → Rect → Bool} (hself : beats w w = false) (first : Rect) (others : List Rect)
    (hmem : w ∈ first :: others) (hbeaten : ∀ v ∈ first :: others, v = w ∨ beats w v = true ∧ beats v w = false) :
    firstBest beats first others = w := by
  unfold firstBest
  induction others generalizing first with
  | nil => exact (List.mem_singleton.mp hmem).symm
  | cons other others ih =>
    rw [List.foldl_cons]
    -- Of the first two, `w` wins if it is one of them.
    have hwins (hw : w = first ∨ w = other) : (if beats other first then other else first) = w := by
      rcases hbeaten first (.head _) with rfl | ⟨hbeats, hloses⟩
      · rcases hbeaten other (.tail _ (.head _)) with rfl | ⟨-, hloses⟩
        · rw [ite_self]
        · rw [hloses]
          rfl
      · obtain rfl : w = other := hw.resolve_left (by
          rintro rfl
          rw [hself] at hbeats
          cases hbeats)
        rw [hbeats]
        rfl
    by_cases hw : w = first ∨ w = other
    · rw [hwins hw]
      refine ih w (.head _) fun v hv => ?_
      rcases List.mem_cons.mp hv with rfl | hv
      · exact .inl rfl
      · exact hbeaten v (.tail _ (.tail _ hv))
    · have hrest : w ∈ others := by
        rcases List.mem_cons.mp hmem with h | h
        · exact absurd (.inl h) hw
        · rcases List.mem_cons.mp h with h | h
          · exact absurd (.inr h) hw
          · exact h
      refine ih _ (.tail _ hrest) fun v hv => ?_
      rcases List.mem_cons.mp hv with rfl | hv
      · split
        next => exact hbeaten other (.tail _ (.head _))
        next => exact hbeaten first (.head _)
      · exact hbeaten v (.tail _ (.tail _ hv))

theorem firstBest_mem (beats : Rect → Rect → Bool) (first : Rect) (others : List Rect) :
    firstBest beats first others ∈ first :: others := by
  unfold firstBest
  induction others generalizing first with
  | nil => exact .head _
  | cons other others ih =>
    rw [List.foldl_cons]
    rcases List.mem_cons.mp (ih (if beats other first then other else first)) with h | h
    · rw [h]
      split
      next => exact .tail _ (.head _)
      next => exact .head _
    · exact .tail _ (.tail _ h)

/-- One of the workspaces is selected. -/
theorem selectWorkspace_mem (position : Point) (size : Size) {workspaces : List Rect} (hne : workspaces ≠ []) :
    ∃ w ∈ workspaces, selectWorkspace position size workspaces = .ok w := by
  cases workspaces with
  | nil => exact absurd rfl hne
  | cons first others =>
    unfold selectWorkspace
    dsimp only
    split
    next => exact ⟨_, firstBest_mem _ _ _, rfl⟩
    next => exact ⟨_, firstBest_mem _ _ _, rfl⟩

/-- The workspace a window is inside of is selected, unless it shares area with another. -/
theorem Inside.selected (h : Inside position size w) {workspaces : List Rect} (hmem : w ∈ workspaces)
    (hapart : workspaces.Pairwise Apart) : selectWorkspace position size workspaces = .ok w := by
  have hpos : 0 < size.width * size.height := mul_pos size.width_pos size.height_pos
  have hothers : ∀ v ∈ workspaces, v = w ∨ overlapArea (windowAt position size) v = 0 := by
    intro v hv
    by_cases heq : v = w
    · exact .inl heq
    · exact .inr (h.overlap_apart (hapart.forall hv hmem heq))
  cases workspaces with
  | nil => cases hmem
  | cons first others =>
    have hgreatest : firstBest (fun a b => overlapArea (windowAt position size) b < overlapArea (windowAt position size) a)
        first others = w := by
      refine firstBest_eq (decide_eq_false (lt_irrefl _)) first others hmem fun v hv => ?_
      refine (hothers v hv).imp_right fun hzero => ?_
      rw [hzero, h.overlap]
      exact ⟨decide_eq_true hpos, decide_eq_false hpos.not_gt⟩
    have hpositive : 0 < overlapArea (windowAt position size)
        (firstBest (fun a b => overlapArea (windowAt position size) b < overlapArea (windowAt position size) a)
          first others) := by
      rw [hgreatest, h.overlap]
      exact hpos
    exact (if_pos hpositive).trans (congrArg Except.ok hgreatest)

end

namespace PetMotionModel

section

variable {m m' : PetMotionModel} {w : Rect} {workspaces : List Rect} {elapsed : Rat}

/-! ## One update -/

/-- The window of the model is inside the workspace. -/
def InsideOf (m : PetMotionModel) (w : Rect) : Prop := Inside m.position m.windowSize w

theorem ground_inside (hholds : Holds w m.windowSize) (position : Point) :
    Inside { x := (clampWindowPosition position m.windowSize w).x, y := m.groundY w } m.windowSize w := by
  obtain ⟨hleft, hright, -, -⟩ := clamp_inside hholds position
  rw [groundY_eq hholds.2]
  have hheight := hholds.2
  refine ⟨hleft, hright, ?_, ?_⟩
  · rw [Rect.bottom]
    dsimp only
    linarith
  · dsimp only
    linarith

/-- Where the window is put in its workspace; an active idle pet stands on the ground. -/
def constrained (m : PetMotionModel) (w : Rect) : Point :=
  let clamped := clampWindowPosition m.position m.windowSize w
  if m.states.lifecycle = .active ∧ m.states.motion = .idle then { x := clamped.x, y := m.groundY w } else clamped

theorem constrained_inside (hholds : Holds w m.windowSize) : Inside (m.constrained w) m.windowSize w := by
  unfold constrained
  dsimp only
  split
  next => exact ground_inside hholds m.position
  next => exact clamp_inside hholds m.position

theorem constrain_puts (hv : m.states.Valid) (hselected : selectWorkspace m.position m.windowSize workspaces = .ok w) :
    Wp (constrain workspaces) (fun _ m' => m' = { m with position := m.constrained w }) (fun _ _ => False) m := by
  simp only [constrain, wp_bind, wp_get, hselected, getOrRaise, wp_pure, wp_state hv, wp_set]
  have hput : ({ m with position := m.constrained w } : PetMotionModel).states.Valid := hv
  exact (wp_snapshot hput _ _).mpr rfl

/-- A window that has been constrained is constrained to where it is. -/
theorem constrained_again (h : Inside (m.constrained w) m.windowSize w) :
    ({ m with position := m.constrained w } : PetMotionModel).constrained w = m.constrained w := by
  have hclamp := h.clamp
  unfold constrained at hclamp ⊢
  dsimp only at hclamp ⊢
  rw [hclamp]
  split
  next => rfl
  next => rfl

/-- The model as it was, apart from where it is, how fast it moves and what it does. -/
def Kept (m m' : PetMotionModel) : Prop := m'.windowSize = m.windowSize ∧ m'.config = m.config

/-- A falling step ends above the ground, or on it, and then the pet lands. -/
inductive Fell (w : Rect) (elapsed : Rat) (m m' : PetMotionModel) : Prop
  | falling (habove : (m.fallingCandidate elapsed).y < m.groundY w) (hstates : m'.states = m.states)
      (hposition : m'.position = clampWindowPosition (m.fallingCandidate elapsed) m.windowSize w)
      (hvelocity : m'.verticalVelocity = m.verticalVelocity + m.config.gravity * elapsed)
  | landed (hat : m'.states.At .active .landing .none) (hground : m'.position.y = m.groundY w)
      (hx : m'.position.x = (clampWindowPosition (m.fallingCandidate elapsed) m.windowSize w).x)
      (helapsed : m'.landingElapsed = 0)

theorem updateFalling_falls (hv : m.states.Valid) (hactive : m.states.lifecycle = .active)
    (hfalls : m.states.motion = .falling) (hselected : selectWorkspace m.position m.windowSize workspaces = .ok w)
    (elapsed : Rat) :
    Wp (updateFalling elapsed workspaces) (fun _ m' => Kept m m' ∧ Fell w elapsed m m') (fun _ _ => False) m := by
  have hland : m.states.land = .ok { m.states.clearActivity with motion := .landing, epoch := m.states.epoch + 1 } := by
    rw [PetLayeredStateMachine.land, if_neg (by simp [hactive, hfalls])]
  simp only [updateFalling, wp_bind, wp_get, hselected, getOrRaise, wp_pure, wp_set, wp_ite, wp_modify, wp_onStates]
  constructor
  · refine fun hreaches => ⟨fun states hstates => ?_, fun error herror => ?_⟩
    · have hat := PetLayeredStateMachine.land_at hstates
      exact (wp_snapshot hat.valid _ _).mpr ⟨⟨rfl, rfl⟩, .landed hat rfl rfl rfl⟩
    · rw [hland] at herror
      cases herror
  · refine fun habove => (wp_snapshot ?_ _ _).mpr ⟨⟨rfl, rfl⟩, .falling (not_le.mp habove) rfl rfl rfl⟩
    exact hv

theorem updateWalking_inside (hv : m.states.Valid) (hholds : Holds w m.windowSize)
    (hselected : selectWorkspace m.position m.windowSize workspaces = .ok w) (elapsed : Rat) :
    Wp (updateWalking elapsed workspaces) (fun _ m' => m'.InsideOf w) (fun _ _ => False) m := by
  have hinside := clamp_inside hholds (m.walkingCandidate elapsed)
  simp only [updateWalking, wp_bind, wp_get, hselected, getOrRaise, wp_pure, wp_state hv, wp_set, wp_ite, wp_modify]
  constructor
  · intro _
    refine (wp_snapshot ?_ _ _).mpr hinside
    exact hv
  · intro _
    refine (wp_snapshot ?_ _ _).mpr hinside
    exact hv

theorem Fell.inside (hholds : Holds w m.windowSize) (hkept : Kept m m') (h : Fell w elapsed m m') : m'.InsideOf w := by
  unfold InsideOf
  rw [hkept.1]
  cases h with
  | falling _ _ hposition _ =>
    rw [hposition]
    exact clamp_inside hholds _
  | landed _ hground hx _ =>
    have hinside := ground_inside hholds (m.fallingCandidate elapsed)
    rw [← hx, ← hground] at hinside
    exact hinside

/-- What an update does in a state it can read is decided by its motion. -/
theorem update_moves (hv : m.states.Valid) (hactive : m.states.lifecycle = .active) (helapsed : 0 ≤ elapsed)
    {Q : PetMotionSnapshot → PetMotionModel → Prop} {R : PetError → PetMotionModel → Prop}
    (h : Wp (match m.states.motion with
      | .idle => constrain workspaces
      | .dragging => snapshot
      | .walkingLeft | .walkingRight => updateWalking elapsed workspaces
      | .landing => updateLanding elapsed
      | .falling | .runningLeft | .runningRight => updateFalling elapsed workspaces) Q R m) :
    Wp (update elapsed workspaces) Q R m := by
  rw [update, if_neg (not_lt.mpr helapsed)]
  refine wp_bind.mpr ((wp_state hv _ _).mpr ?_)
  have hreads : ¬(m.states.state hv).lifecycle ≠ .active := not_not.mpr hactive
  rw [if_neg hreads]
  exact h

/-- The motions whose update places the window. -/
def placedMotions : List PetMotionState := [.idle, .walkingLeft, .walkingRight, .falling]

/-- An update places the window inside the workspace it has selected. -/
theorem update_inside (hv : m.states.Valid) (hactive : m.states.lifecycle = .active)
    (hmotion : m.states.motion ∈ placedMotions) (hholds : Holds w m.windowSize)
    (hselected : selectWorkspace m.position m.windowSize workspaces = .ok w) (helapsed : 0 ≤ elapsed) :
    Wp (update elapsed workspaces) (fun _ m' => m'.InsideOf w) (fun _ _ => False) m := by
  refine update_moves hv hactive helapsed ?_
  simp only [placedMotions, List.mem_cons, List.not_mem_nil, or_false] at hmotion
  rcases hmotion with hidle | hleft | hright | hfalls
  · rw [hidle]
    refine (constrain_puts hv hselected).imp (fun _ m' heq => ?_)
    rw [heq]
    exact constrained_inside hholds
  · rw [hleft]
    exact updateWalking_inside hv hholds hselected elapsed
  · rw [hright]
    exact updateWalking_inside hv hholds hselected elapsed
  · rw [hfalls]
    exact (updateFalling_falls hv hactive hfalls hselected elapsed).imp
      (fun _ m' ⟨hkept, hfell⟩ => hfell.inside hholds hkept)

/-! ## Coming to rest -/

/-- A landing goes on for its time, or is over. -/
inductive Landed (elapsed : Rat) (m m' : PetMotionModel) : Prop
  | landing (hstates : m'.states = m.states) (hposition : m'.position = m.position)
      (helapsed : m'.landingElapsed = m.landingElapsed + elapsed)
      (hshort : m.landingElapsed + elapsed < m.config.landingDurationSeconds)
  | rested (hat : m'.states.At .active .idle .none) (hposition : m'.position = m.position)

theorem updateLanding_lands (hv : m.states.Valid) (hactive : m.states.lifecycle = .active)
    (hlands : m.states.motion = .landing) (elapsed : Rat) :
    Wp (updateLanding elapsed) (fun _ m' => Kept m m' ∧ Landed elapsed m m') (fun _ _ => False) m := by
  have hfinish : m.states.finishLanding =
      .ok ({ m.states with motion := .idle } : PetLayeredStateMachine).restoreDefaultBehavior.bumpEpoch := by
    rw [PetLayeredStateMachine.finishLanding, if_neg (by simp [hactive, hlands])]
  simp only [updateLanding, wp_bind, wp_modify, wp_get, wp_ite, wp_onStates]
  constructor
  · refine fun _ => ⟨fun states hstates => ?_, fun error herror => ?_⟩
    · have hat := PetLayeredStateMachine.finishLanding_at hstates
      exact (wp_snapshot hat.valid _ _).mpr ⟨⟨rfl, rfl⟩, .rested hat rfl⟩
    · rw [hfinish] at herror
      cases herror
  · refine fun hshort => (wp_snapshot ?_ _ _).mpr ⟨⟨rfl, rfl⟩, .landing rfl rfl rfl (not_le.mp hshort)⟩
    exact hv

/-- The pet falls in the workspace, or is on its ground. -/
structure Settling (w : Rect) (m : PetMotionModel) : Prop where
  valid : m.states.Valid
  active : m.states.lifecycle = .active
  inside : m.InsideOf w
  motion : m.states.motion = .falling ∨ (m.states.motion = .landing ∨ m.states.motion = .idle) ∧ m.OnGround w

/-- What an update does to a pet that settles. -/
inductive Settled (w : Rect) (elapsed : Rat) (m m' : PetMotionModel) : Prop
  | fell (hfalls : m.states.motion = .falling) (hfell : Fell w elapsed m m')
  | landed (hlands : m.states.motion = .landing) (hlanded : Landed elapsed m m')
  | rests (hidle : m.states.motion = .idle) (hsame : m' = m)

theorem Fell.settling (hv : m.states.Valid) (hactive : m.states.lifecycle = .active)
    (hfalls : m.states.motion = .falling) (hholds : Holds w m.windowSize) (hkept : Kept m m')
    (h : Fell w elapsed m m') : Settling w m' := by
  have hinside := h.inside hholds hkept
  cases h with
  | falling _ hstates _ _ =>
    rw [← hstates] at hv hactive hfalls
    exact ⟨hv, hactive, hinside, .inl hfalls⟩
  | landed hat hground _ _ =>
    refine ⟨hat.valid, hat.lifecycle, hinside, .inr ⟨.inl hat.motion, ?_⟩⟩
    rw [OnGround, hground, groundY_eq hholds.2, hkept.1]

theorem Landed.settling (hs : Settling w m) (hkept : Kept m m') (hground : m.OnGround w) (hlands : m.states.motion = .landing)
    (h : Landed elapsed m m') : Settling w m' := by
  have hplace (hposition : m'.position = m.position) : m'.InsideOf w ∧ m'.OnGround w := by
    refine ⟨?_, ?_⟩
    · rw [InsideOf, hposition, hkept.1]
      exact hs.inside
    · rw [OnGround, hposition, hkept.1]
      exact hground
  cases h with
  | landing hstates hposition _ _ =>
    obtain ⟨hinside, hon⟩ := hplace hposition
    refine ⟨hstates ▸ hs.valid, hstates ▸ hs.active, hinside, .inr ⟨.inl (hstates ▸ hlands), hon⟩⟩
  | rested hat hposition =>
    obtain ⟨hinside, hon⟩ := hplace hposition
    exact ⟨hat.valid, hat.lifecycle, hinside, .inr ⟨.inr hat.motion, hon⟩⟩

/-- One update of a pet that settles. -/
theorem update_settles (hs : Settling w m) (hholds : Holds w m.windowSize) (hmem : w ∈ workspaces)
    (hapart : workspaces.Pairwise Apart) (helapsed : 0 ≤ elapsed) :
    Wp (update elapsed workspaces) (fun _ m' => Kept m m' ∧ Settling w m' ∧ Settled w elapsed m m') (fun _ _ => False) m := by
  have hselected : selectWorkspace m.position m.windowSize workspaces = .ok w := hs.inside.selected hmem hapart
  refine update_moves hs.valid hs.active helapsed ?_
  rcases hs.motion with hfalls | ⟨hlands | hidle, hground⟩
  · rw [hfalls]
    refine (updateFalling_falls hs.valid hs.active hfalls hselected elapsed).imp
      (fun _ m' ⟨hkept, hfell⟩ => ⟨hkept, ?_, .fell hfalls hfell⟩)
    exact hfell.settling hs.valid hs.active hfalls hholds hkept
  · rw [hlands]
    refine (updateLanding_lands hs.valid hs.active hlands elapsed).imp
      (fun _ m' ⟨hkept, hlanded⟩ => ⟨hkept, ?_, .landed hlands hlanded⟩)
    exact hlanded.settling hs hkept hground hlands
  · rw [hidle]
    refine (constrain_puts hs.valid hselected).imp (fun _ m' heq => ?_)
    have hput : m.constrained w = m.position := by
      have hclamp : clampWindowPosition m.position m.windowSize w = m.position := hs.inside.clamp
      rw [constrained, if_pos ⟨hs.active, hidle⟩, hclamp, groundY_eq hholds.2, ← hground]
    have hsame : m' = m := by rw [heq, hput]
    rw [hsame]
    exact ⟨⟨rfl, rfl⟩, hs, .rests hidle rfl⟩

/-! ## Runs -/

/-- The model after so many updates. -/
def updated (workspaces : List Rect) (elapsed : Nat → Rat) (m : PetMotionModel) : Nat → PetMotionModel
  | 0 => m
  | n + 1 => stateAfter (update (elapsed n) workspaces) (updated workspaces elapsed m n)

/-- What grows by a fixed amount with every step passes every bound. -/
theorem passes {f : Nat → Rat} {a : Rat} (ha : 0 < a) (hstep : ∀ n, f n + a ≤ f (n + 1)) (bound : Rat) :
    ∃ n, bound < f n := by
  have hgrows (n : Nat) : f 0 + n * a ≤ f n := by
    induction n with
    | zero => rw [Nat.cast_zero, zero_mul, add_zero]
    | succ n ih =>
      rw [Nat.cast_succ, add_one_mul]
      linarith [hstep n]
  obtain ⟨n, hn⟩ := exists_nat_gt ((bound - f 0) / a)
  rw [div_lt_iff₀ ha] at hn
  exact ⟨n, by linarith [hgrows n]⟩

/-- Who falls faster and faster does not stay above the ground. -/
theorem no_endless_fall (velocity height : Nat → Rat) (ground : Rat) {a τ : Rat} (ha : 0 < a) (hτ : 0 < τ)
    (hvelocity : ∀ n, velocity n + a ≤ velocity (n + 1))
    (hheight : ∀ n, 0 ≤ velocity (n + 1) → height n + velocity (n + 1) * τ ≤ height (n + 1))
    (hground : ∀ n, height (n + 1) ≤ ground) : False := by
  obtain ⟨start, hstart⟩ := passes ha hvelocity 0
  have hfast (n : Nat) : 0 < velocity (start + n) := by
    induction n with
    | zero => exact hstart
    | succ n ih => linarith [hvelocity (start + n), show velocity (start + (n + 1)) = velocity (start + n + 1) from rfl]
  have hfalls (n : Nat) : height (start + n) + a * τ ≤ height (start + (n + 1)) := by
    have hspeed : a ≤ velocity (start + n + 1) := by linarith [hvelocity (start + n), hfast n]
    have hstep := hheight (start + n) (hfast (n + 1)).le
    have hway : a * τ ≤ velocity (start + n + 1) * τ := mul_le_mul_of_nonneg_right hspeed hτ.le
    linarith [show height (start + (n + 1)) = height (start + n + 1) from rfl]
  obtain ⟨n, hn⟩ := passes (f := fun n => height (start + n)) (mul_pos ha hτ) hfalls ground
  have hway := mul_pos ha hτ
  linarith [hfalls n, hground (start + n), show height (start + (n + 1)) = height (start + n + 1) from rfl]

/-- A run that cannot raise returns, and its postcondition holds of what it leaves. -/
theorem returned {α : Type} {c : Program PetMotionModel α} {P : PetMotionModel → Prop}
    (h : Wp c (fun _ => P) (fun _ _ => False) m) : returns c m = true ∧ P (stateAfter c m) := by
  unfold Wp at h
  unfold returns stateAfter
  split at h
  next => exact ⟨rfl, h⟩
  next => exact h.elim

/-- A pet falls, in a workspace that shares no area with another, and time goes on. -/
structure Fall (workspaces : List Rect) (elapsed : Nat → Rat) (τ : Rat) (w : Rect) (m : PetMotionModel) : Prop where
  valid : m.states.Valid
  active : m.states.lifecycle = .active
  falls : m.states.motion = .falling
  selected : selectWorkspace m.position m.windowSize workspaces = .ok w
  mem : w ∈ workspaces
  holds : Holds w m.windowSize
  apart : workspaces.Pairwise Apart
  pos : 0 < τ
  steps : ∀ n, τ ≤ elapsed n

section

variable {steps : Nat → Rat} {τ : Rat}

/-- Every update of the run, the first from wherever the window is, the others inside the workspace. -/
theorem Fall.step (h : Fall workspaces steps τ w m) (n : Nat) :
    returns (update (steps n) workspaces) (updated workspaces steps m n) = true ∧
      Kept m (updated workspaces steps m (n + 1)) ∧ Settling w (updated workspaces steps m (n + 1)) ∧
      Settled w (steps n) (updated workspaces steps m n) (updated workspaces steps m (n + 1)) := by
  induction n with
  | zero =>
    have hfirst : Wp (update (steps 0) workspaces)
        (fun _ m' => Kept m m' ∧ Settling w m' ∧ Settled w (steps 0) m m') (fun _ _ => False) m := by
      refine update_moves h.valid h.active (h.pos.le.trans (h.steps 0)) ?_
      rw [h.falls]
      refine (updateFalling_falls h.valid h.active h.falls h.selected (steps 0)).imp
        (fun _ m' ⟨hkept, hfell⟩ => ⟨hkept, ?_, .fell h.falls hfell⟩)
      exact hfell.settling h.valid h.active h.falls h.holds hkept
    exact returned hfirst
  | succ n ih =>
    obtain ⟨-, ⟨hsize, hconfig⟩, hsettling, -⟩ := ih
    have hholds : Holds w (updated workspaces steps m (n + 1)).windowSize := hsize ▸ h.holds
    obtain ⟨hreturns, ⟨hsize', hconfig'⟩, hnext⟩ :=
      returned (update_settles hsettling hholds h.mem h.apart (h.pos.le.trans (h.steps (n + 1))))
    exact ⟨hreturns, ⟨hsize'.trans hsize, hconfig'.trans hconfig⟩, hnext⟩

theorem Fall.kept (h : Fall workspaces steps τ w m) (n : Nat) : Kept m (updated workspaces steps m n) := by
  cases n with
  | zero => exact ⟨rfl, rfl⟩
  | succ n => exact (h.step n).2.1

/-- The pet has landed, and its landing begins. -/
def Lands (w : Rect) (m : PetMotionModel) : Prop :=
  Settling w m ∧ m.states.motion = .landing ∧ m.landingElapsed = 0

/-- As long as the pet has not landed it falls. -/
theorem Fall.falling_or_lands (h : Fall workspaces steps τ w m) (n : Nat) :
    (updated workspaces steps m n).states.motion = .falling ∨ ∃ k, Lands w (updated workspaces steps m k) := by
  induction n with
  | zero => exact .inl h.falls
  | succ n ih =>
    refine ih.elim (fun hfalls => ?_) .inr
    obtain ⟨-, -, hsettling, hsettled⟩ := h.step n
    cases hsettled with
    | fell _ hfell =>
      cases hfell with
      | falling _ hstates _ _ => exact .inl (hstates ▸ hfalls)
      | landed hat _ _ helapsed => exact .inr ⟨n + 1, hsettling, hat.motion, helapsed⟩
    | landed hlands _ =>
      rw [hfalls] at hlands
      cases hlands
    | rests hidle _ =>
      rw [hfalls] at hidle
      cases hidle

theorem Fall.lands (h : Fall workspaces steps τ w m) : ∃ k, Lands w (updated workspaces steps m k) := by
  by_contra hnever
  have hfalls (n : Nat) : (updated workspaces steps m n).states.motion = .falling :=
    (h.falling_or_lands n).resolve_right hnever
  -- A step that does not land makes the pet faster, and takes it as far down as it would fall.
  have hstep (n : Nat) : (updated workspaces steps m (n + 1)).verticalVelocity =
        (updated workspaces steps m n).verticalVelocity + m.config.gravity * steps n ∧
      (updated workspaces steps m n).position.y + (updated workspaces steps m (n + 1)).verticalVelocity * steps n ≤
        (updated workspaces steps m (n + 1)).position.y := by
    obtain ⟨-, -, -, hsettled⟩ := h.step n
    obtain ⟨hsize, hconfig⟩ := h.kept n
    cases hsettled with
    | landed hlands _ => exact absurd ((hfalls n).symm.trans hlands) (by decide)
    | rests hidle _ => exact absurd ((hfalls n).symm.trans hidle) (by decide)
    | fell _ hfell =>
      cases hfell with
      | landed hat _ _ _ => exact absurd ((hfalls (n + 1)).symm.trans hat.motion) (by decide)
      | falling habove _ hposition hvelocity =>
        rw [hvelocity, hposition, hconfig]
        refine ⟨rfl, ?_⟩
        have hcandidate : (updated workspaces steps m n).position.y +
            ((updated workspaces steps m n).verticalVelocity + m.config.gravity * steps n) * steps n =
              ((updated workspaces steps m n).fallingCandidate (steps n)).y := by
          rw [← hconfig]
          rfl
        rw [hcandidate]
        exact le_min (le_max_left _ _) habove.le
  have hgravity := m.config.gravity_pos
  refine no_endless_fall (fun n => (updated workspaces steps m n).verticalVelocity)
    (fun n => (updated workspaces steps m n).position.y) (w.bottom - m.windowSize.height) (mul_pos hgravity h.pos) h.pos
    (fun n => ?_) (fun n hdown => ?_) fun n => ?_
  · rw [(hstep n).1]
    linarith [mul_le_mul_of_nonneg_left (h.steps n) hgravity.le]
  · linarith [(hstep n).2, mul_le_mul_of_nonneg_left (h.steps n) hdown]
  · obtain ⟨-, ⟨hsize, -⟩, hsettling, -⟩ := h.step n
    have hbottom := hsettling.inside.bottom
    rw [hsize] at hbottom
    linarith

/-- The landing goes on, and its time with it, until the pet is idle. -/
theorem Fall.landing_or_rests (h : Fall workspaces steps τ w m) {k : Nat} (hlands : Lands w (updated workspaces steps m k))
    (n : Nat) : (updated workspaces steps m (k + n)).states.motion = .landing ∧
        n * τ ≤ (updated workspaces steps m (k + n)).landingElapsed ∨
      ∃ l, k < l ∧ (updated workspaces steps m l).states.motion = .idle := by
  induction n with
  | zero =>
    obtain ⟨-, hmotion, helapsed⟩ := hlands
    refine .inl ⟨hmotion, ?_⟩
    rw [Nat.add_zero, helapsed, Nat.cast_zero, zero_mul]
  | succ n ih =>
    refine ih.elim (fun ⟨hmotion, htime⟩ => ?_) .inr
    obtain ⟨-, -, -, hsettled⟩ := h.step (k + n)
    cases hsettled with
    | fell hfalls _ => exact absurd (hmotion.symm.trans hfalls) (by decide)
    | rests hidle _ => exact absurd (hmotion.symm.trans hidle) (by decide)
    | landed _ hlanded =>
      cases hlanded with
      | landing hstates _ helapsed _ =>
        refine .inl ⟨hstates ▸ hmotion, ?_⟩
        rw [Nat.cast_succ, add_one_mul, ← Nat.add_assoc, helapsed]
        linarith [h.steps (k + n)]
      | rested hat _ => exact .inr ⟨k + n + 1, by omega, hat.motion⟩

theorem Fall.rests (h : Fall workspaces steps τ w m) {k : Nat} (hlands : Lands w (updated workspaces steps m k)) :
    ∃ l, k < l ∧ (updated workspaces steps m l).states.motion = .idle := by
  by_contra hnever
  have hlanding (n : Nat) := (h.landing_or_rests hlands n).resolve_right hnever
  obtain ⟨n, hn⟩ := passes (f := fun n : Nat => n * τ) h.pos
    (fun n => by rw [Nat.cast_succ, add_one_mul]) m.config.landingDurationSeconds
  -- The step that would take the landing beyond its time ends it.
  obtain ⟨-, -, -, hsettled⟩ := h.step (k + n)
  cases hsettled with
  | fell hfalls _ => exact absurd ((hlanding n).1.symm.trans hfalls) (by decide)
  | rests hidle _ => exact absurd ((hlanding n).1.symm.trans hidle) (by decide)
  | landed _ hlanded =>
    cases hlanded with
    | landing _ _ _ hshort =>
      rw [(h.kept (k + n)).2] at hshort
      linarith [(hlanding n).2, h.steps (k + n), h.pos]
    | rested hat _ => exact hnever ⟨k + n + 1, by omega, hat.motion⟩

/-- A pet that is on the ground stays there. -/
theorem Fall.stays (h : Fall workspaces steps τ w m) {k : Nat} (hlands : Lands w (updated workspaces steps m k)) (n : Nat) :
    (updated workspaces steps m (k + n)).states.motion ≠ .falling ∧ (updated workspaces steps m (k + n)).OnGround w := by
  have hlanded {m' : PetMotionModel} (hs : Settling w m') (hmotion : m'.states.motion ≠ .falling) :
      m'.states.motion ≠ .falling ∧ m'.OnGround w := ⟨hmotion, (hs.motion.resolve_left hmotion).2⟩
  induction n with
  | zero =>
    refine hlanded hlands.1 ?_
    rw [Nat.add_zero, hlands.2.1]
    decide
  | succ n ih =>
    obtain ⟨-, -, hsettling, hsettled⟩ := h.step (k + n)
    refine hlanded hsettling ?_
    cases hsettled with
    | fell hfalls _ => exact absurd hfalls ih.1
    | rests hidle hsame =>
      rw [← Nat.add_assoc, hsame, hidle]
      decide
    | landed hlands hlanded =>
      cases hlanded with
      | landing hstates _ _ _ =>
        rw [← Nat.add_assoc, hstates, hlands]
        decide
      | rested hat _ =>
        rw [← Nat.add_assoc, hat.motion]
        decide

end

/-- An update places the window in the workspace it selects. Where the workspaces share no area, constraining twice is
constraining once, and a fall stays in the workspace it began in and ends on its ground: the pet lands, and then is idle. -/
theorem update_comes_to_rest (hv : m.states.Valid) (hne : workspaces ≠ []) (hholds : ∀ v ∈ workspaces, Holds v m.windowSize) :
    ∃ w ∈ workspaces, selectWorkspace m.position m.windowSize workspaces = .ok w ∧
      (∀ elapsed, 0 ≤ elapsed → m.states.lifecycle = .active → m.states.motion ∈ placedMotions →
        Wp (update elapsed workspaces) (fun _ m' => m'.InsideOf w) (fun _ _ => False) m) ∧
      (workspaces.Pairwise Apart →
        Wp (constrain workspaces) (fun _ m' =>
          Wp (constrain workspaces) (fun _ m'' => m''.position = m'.position) (fun _ _ => False) m') (fun _ _ => False) m) ∧
      (workspaces.Pairwise Apart → m.states.lifecycle = .active → m.states.motion = .falling →
        ∀ (τ : Rat) (steps : Nat → Rat), 0 < τ → (∀ n, τ ≤ steps n) →
          (∀ n, returns (update (steps n) workspaces) (updated workspaces steps m n) = true ∧
            (updated workspaces steps m (n + 1)).InsideOf w) ∧
          ∃ landing idle, landing < idle ∧ (updated workspaces steps m landing).states.motion = .landing ∧
            (updated workspaces steps m idle).states.motion = .idle ∧
            ∀ n, landing ≤ n → (updated workspaces steps m n).OnGround w) := by
  obtain ⟨w, hmem, hselected⟩ := selectWorkspace_mem m.position m.windowSize hne
  refine ⟨w, hmem, hselected, fun elapsed helapsed hactive hmotion => ?_, fun hapart => ?_,
    fun hapart hactive hfalls τ steps hτ hsteps => ?_⟩
  · exact update_inside hv hactive hmotion (hholds w hmem) hselected helapsed
  · refine (constrain_puts hv hselected).imp (fun _ m' heq => ?_)
    subst heq
    have hinside := constrained_inside (hholds w hmem)
    have hput : ({ m with position := m.constrained w } : PetMotionModel).states.Valid := hv
    refine (constrain_puts hput (hinside.selected hmem hapart)).imp (fun _ m'' heq => ?_)
    rw [heq]
    exact constrained_again hinside
  · have hfall : Fall workspaces steps τ w m :=
      ⟨hv, hactive, hfalls, hselected, hmem, hholds w hmem, hapart, hτ, hsteps⟩
    refine ⟨fun n => ⟨(hfall.step n).1, (hfall.step n).2.2.1.inside⟩, ?_⟩
    obtain ⟨landing, hlands⟩ := hfall.lands
    obtain ⟨idle, hlater, hidle⟩ := hfall.rests hlands
    refine ⟨landing, idle, hlater, hlands.2.1, hidle, fun n hn => ?_⟩
    obtain ⟨after, rfl⟩ := Nat.exists_eq_add_of_le hn
    exact (hfall.stays hlands after).2

end

/-! ## Two workspaces -/

/-- A workspace of 300 pixels width. -/
def column (y height : Rat) (hpos : 0 < height) : Rect where
  x := 0
  y := y
  width := 300
  height := height
  width_pos := ofNat_pos trivial
  height_pos := hpos

def upper : Rect := column 0 400 (by norm_num)

/-- It begins where the upper one ends. -/
def lower : Rect := column 400 500 (by norm_num)

/-- It begins above the end of the upper one. -/
def overlapping : Rect := column 100 900 (by norm_num)

/-- A pet that begins to fall at the top of the upper workspace. -/
def dropped : PetMotionModel where
  position := { x := 0, y := 0 }
  windowSize := { width := 160, height := 180, width_pos := ofNat_pos trivial, height_pos := ofNat_pos trivial }
  states := { motion := .falling, behaviors := {} }

theorem update_comes_to_rest_dropped : ∃ landing idle, landing < idle ∧
    (updated [lower, upper] (fun _ => 1 / 10) dropped landing).states.motion = .landing ∧
    (updated [lower, upper] (fun _ => 1 / 10) dropped idle).states.motion = .idle ∧
    ∀ n, landing ≤ n → (updated [lower, upper] (fun _ => 1 / 10) dropped n).OnGround upper := by
  have hholds : ∀ v ∈ [lower, upper], Holds v dropped.windowSize := by
    intro v hv
    rcases List.mem_pair.mp hv with rfl | rfl <;> exact ⟨by decide +kernel, by decide +kernel⟩
  have hapart : [lower, upper].Pairwise Apart :=
    List.pairwise_pair.mpr (.inr (.inr (.inr (by decide +kernel))))
  have hselected : selectWorkspace dropped.position dropped.windowSize [lower, upper] = .ok upper := by decide +kernel
  obtain ⟨w, -, hw, -, -, hfalls⟩ := update_comes_to_rest (m := dropped) rfl (by nofun) hholds
  obtain rfl : upper = w := Except.ok.inj (hselected.symm.trans hw)
  exact (hfalls hapart rfl rfl (1 / 10) (fun _ => 1 / 10) (by norm_num) fun _ => le_rfl).2

/-- Where workspaces overlap a falling pet changes from one to the other, and passes below the ground of the first. -/
theorem dropped_changes_workspace :
    (∀ v ∈ [overlapping, upper], Holds v dropped.windowSize) ∧ dropped.states.Valid ∧
    dropped.states.motion = .falling ∧
    selectWorkspace dropped.position dropped.windowSize [overlapping, upper] = .ok upper ∧
    dropped.groundY upper = 220 ∧ (updated [overlapping, upper] (fun _ => 3 / 10) dropped 2).position.y = 486 ∧
    ¬(updated [overlapping, upper] (fun _ => 3 / 10) dropped 2).InsideOf upper := by
  have hy : (updated [overlapping, upper] (fun _ => 3 / 10) dropped 2).position.y = 486 := by decide +kernel
  have hsize : (updated [overlapping, upper] (fun _ => 3 / 10) dropped 2).windowSize.height = 180 := by decide +kernel
  refine ⟨fun v hv => ?_, rfl, rfl, by decide +kernel, by decide +kernel, hy, fun hinside => ?_⟩
  · rcases List.mem_pair.mp hv with rfl | rfl <;> exact ⟨by decide +kernel, by decide +kernel⟩
  · have hbottom := hinside.bottom
    rw [hy, hsize] at hbottom
    exact absurd hbottom (by decide +kernel)

end PetMotionModel

end ArkClaw.Pet
