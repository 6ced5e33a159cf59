import ArkClaw.Pet.RenderLayoutLaws

/-!
# Where a full plan places its content

A plan that shows all of the sampled bounds prefers full scale in place, then full scale at the nearest whole pixel,
then the largest scale. `BestPlacement` states it of every layout such a plan returns.

"Fits" is the code's own test, with its tolerance and the floor lift. A displacement is looked for only where the
content and the body together are at most the tolerance wider than the workspace (`Roomy`); a pixel at which both fit up
to the tolerance may exist in a workspace narrower than that, and then the content is scaled.
-/

namespace ArkClaw.Pet.RenderLayout

variable {body workspace : Rect} {corrected : CorrectedFacing} {x : Rat}

/-! ## Full scale -/

theorem epsilon_pos : 0 < layoutScaleEpsilon := by norm_num [layoutScaleEpsilon]

/-- The content is neither above the workspace nor further below it than it may be. -/
def FitsVertically (body : Rect) (corrected : CorrectedFacing) (workspace : Rect) : Prop :=
  workspace.y - layoutScaleEpsilon ≤ body.y + corrected.contentBounds.y
    ∧ body.y + corrected.contentBounds.bottom ≤ workspace.bottom + maxSpecialEffectFloorLift + layoutScaleEpsilon

/-- With the body at `x`, content and body are in the workspace from left to right, up to a tolerance. -/
structure HeldAt (tolerance : Rat) (body : Rect) (corrected : CorrectedFacing) (workspace : Rect) (x : Rat) : Prop where
  contentLeft : workspace.x - tolerance ≤ x + corrected.contentBounds.x
  contentRight : x + corrected.contentBounds.right ≤ workspace.right + tolerance
  bodyLeft : workspace.x - tolerance ≤ x
  bodyRight : x + body.width ≤ workspace.right + tolerance
  vertical : FitsVertically body corrected workspace

/-- Content and body together are at most the tolerance wider than the workspace. -/
def Roomy (body : Rect) (corrected : CorrectedFacing) (workspace : Rect) : Prop :=
  max corrected.contentBounds.right body.width - min corrected.contentBounds.x 0 ≤ workspace.width + layoutScaleEpsilon

/-- The content is scaled about the foot of the body. -/
theorem desktopScaledContent_sides (scale : Scale) : (desktopScaledContent body corrected scale).x
        = body.x + corrected.bodyAnchor.x + scale.val * (corrected.contentBounds.x - corrected.bodyAnchor.x)
    ∧ (desktopScaledContent body corrected scale).y
        = body.y + bodyHeight + scale.val * (corrected.contentBounds.y - bodyHeight)
    ∧ (desktopScaledContent body corrected scale).right
        = body.x + corrected.bodyAnchor.x + scale.val * (corrected.contentBounds.right - corrected.bodyAnchor.x)
    ∧ (desktopScaledContent body corrected scale).bottom
        = body.y + bodyHeight + scale.val * (corrected.contentBounds.bottom - bodyHeight) := by
  simp only [desktopScaledContent, translate, Rect.right, Rect.bottom]
  refine ⟨?_, ?_, ?_, ?_⟩ <;> ring

/-- At full scale the content is as it was sampled. -/
theorem desktopScaledContent_full : (desktopScaledContent body corrected .full).x = body.x + corrected.contentBounds.x
    ∧ (desktopScaledContent body corrected .full).y = body.y + corrected.contentBounds.y
    ∧ (desktopScaledContent body corrected .full).right = body.x + corrected.contentBounds.right
    ∧ (desktopScaledContent body corrected .full).bottom = body.y + corrected.contentBounds.bottom := by
  obtain ⟨hx, hy, hright, hbottom⟩ := @desktopScaledContent_sides body corrected .full
  rw [hx, hy, hright, hbottom, show Scale.full.val = 1 from rfl]
  refine ⟨?_, ?_, ?_, ?_⟩ <;> ring

theorem fits_full_iff : visibleContentFits body corrected .full workspace = true
    ↔ workspace.x - layoutScaleEpsilon ≤ body.x + corrected.contentBounds.x
      ∧ body.x + corrected.contentBounds.right ≤ workspace.right + layoutScaleEpsilon
      ∧ FitsVertically body corrected workspace := by
  obtain ⟨hx, hy, hright, hbottom⟩ := @desktopScaledContent_full body corrected
  simp only [visibleContentFits, decide_eq_true_eq, hx, hy, hright, hbottom, FitsVertically]
  constructor
  · rintro ⟨hl, ht, hr, hb⟩
    exact ⟨hl, hr, ht, hb⟩
  · rintro ⟨hl, hr, ht, hb⟩
    exact ⟨hl, ht, hr, hb⟩

/-! ## Displacing -/

/-- The least and the greatest displacement that keep content and body in the workspace. -/
def deltaLower (body : Rect) (corrected : CorrectedFacing) (workspace : Rect) : Rat :=
  max (workspace.x - (desktopScaledContent body corrected .full).x) (workspace.x - body.x)

def deltaUpper (body : Rect) (corrected : CorrectedFacing) (workspace : Rect) : Rat :=
  min (workspace.right - (desktopScaledContent body corrected .full).right) (workspace.right - body.right)

theorem heldAt_iff {tolerance : Rat} : HeldAt tolerance body corrected workspace x
    ↔ deltaLower body corrected workspace - tolerance ≤ x - body.x
      ∧ x - body.x ≤ deltaUpper body corrected workspace + tolerance ∧ FitsVertically body corrected workspace := by
  obtain ⟨hx, -, hright, -⟩ := @desktopScaledContent_full body corrected
  have hlower : deltaLower body corrected workspace - tolerance ≤ x - body.x
      ↔ workspace.x - tolerance ≤ x + corrected.contentBounds.x ∧ workspace.x - tolerance ≤ x := by
    rw [sub_le_iff_le_add, deltaLower, max_le_iff, hx]
    constructor <;> rintro ⟨hcontent, hbody⟩ <;> exact ⟨by linarith, by linarith⟩
  have hupper : x - body.x ≤ deltaUpper body corrected workspace + tolerance
      ↔ x + corrected.contentBounds.right ≤ workspace.right + tolerance ∧ x + body.width ≤ workspace.right + tolerance := by
    rw [← sub_le_iff_le_add, deltaUpper, le_min_iff, hright, show body.right = body.x + body.width from rfl]
    constructor <;> rintro ⟨hcontent, hbody⟩ <;> exact ⟨by linarith, by linarith⟩
  rw [hlower, hupper]
  constructor
  · rintro ⟨hcl, hcr, hbl, hbr, hvertical⟩
    exact ⟨⟨hcl, hbl⟩, ⟨hcr, hbr⟩, hvertical⟩
  · rintro ⟨⟨hcl, hbl⟩, ⟨hcr, hbr⟩, hvertical⟩
    exact ⟨hcl, hcr, hbl, hbr, hvertical⟩

theorem roomy_iff : Roomy body corrected workspace
    ↔ ¬deltaUpper body corrected workspace + layoutScaleEpsilon < deltaLower body corrected workspace := by
  obtain ⟨hx, -, hright, -⟩ := @desktopScaledContent_full body corrected
  have hlower : deltaLower body corrected workspace = workspace.x - body.x - min corrected.contentBounds.x 0 := by
    rw [deltaLower, hx]
    rcases le_total corrected.contentBounds.x 0 with h | h
    · rw [min_eq_left h, max_eq_left (by linarith)]
      ring
    · rw [min_eq_right h, max_eq_right (by linarith)]
      ring
  have hupper : deltaUpper body corrected workspace
      = workspace.right - body.x - max corrected.contentBounds.right body.width := by
    rw [deltaUpper, hright, show body.right = body.x + body.width from rfl]
    rcases le_total corrected.contentBounds.right body.width with h | h
    · rw [max_eq_right h, min_eq_right (by linarith)]
      ring
    · rw [max_eq_left h, min_eq_left (by linarith)]
      ring
  rw [hlower, hupper, not_lt, Roomy, show workspace.right = workspace.x + workspace.width from rfl]
  constructor <;> intro h <;> linarith

/-- A body that has moved to a place where both fit passes the planner's tests there. -/
theorem HeldAt.fits (h : HeldAt layoutScaleEpsilon body corrected workspace x) :
    visibleContentFits { body with x := x } corrected .full workspace = true :=
  fits_full_iff.mpr ⟨h.contentLeft, h.contentRight, h.vertical⟩

theorem heldAt_of_fits (hbody : workspace.x - layoutScaleEpsilon ≤ x ∧ x + body.width ≤ workspace.right + layoutScaleEpsilon)
    (h : visibleContentFits { body with x := x } corrected .full workspace = true) :
    HeldAt layoutScaleEpsilon body corrected workspace x := by
  obtain ⟨hleft, hright, hvertical⟩ := fits_full_iff.mp h
  exact ⟨hleft, hright, hbody.1, hbody.2, hvertical⟩

/-- Nothing has to be displaced, but the content does not fit: it is too high. -/
theorem vertical_of_undisplaced (hnot : visibleContentFits body corrected .full workspace = false)
    (hzero : deltaLower body corrected workspace ≤ layoutScaleEpsilon
      ∧ -layoutScaleEpsilon ≤ deltaUpper body corrected workspace) : ¬FitsVertically body corrected workspace := by
  intro hvertical
  have hheld : HeldAt layoutScaleEpsilon body corrected workspace body.x :=
    heldAt_iff.mpr ⟨by linarith [hzero.1], by linarith [hzero.2], hvertical⟩
  rw [hheld.fits] at hnot
  cases hnot

/-- The displacement that is tried, and where it takes the body. -/
theorem horizontalAvoidance_eq (hroomy : Roomy body corrected workspace) {delta : Rat}
    (hdelta : (if deltaLower body corrected workspace ≤ layoutScaleEpsilon
        ∧ -layoutScaleEpsilon ≤ deltaUpper body corrected workspace then 0
      else if deltaUpper body corrected workspace < -layoutScaleEpsilon then deltaUpper body corrected workspace
      else deltaLower body corrected workspace) = delta)
    (hpixel : (if layoutScaleEpsilon < delta then ((⌈body.x + delta - layoutScaleEpsilon⌉ : Int) : Rat)
      else if delta < -layoutScaleEpsilon then ((⌊body.x + delta + layoutScaleEpsilon⌋ : Int) : Rat)
      else body.x) = x) : horizontalAvoidance body corrected workspace
      = if ¬(workspace.x - layoutScaleEpsilon ≤ x ∧ x + body.width ≤ workspace.right + layoutScaleEpsilon) then none
        else if !visibleContentFits { body with x := x } corrected .full workspace then none
        else some { target := { x := x, y := body.y }, rawDisplacement := delta } := by
  subst hpixel
  subst hdelta
  exact if_neg (roomy_iff.mp hroomy)

/-- What passes the tests is where both fit. -/
theorem horizontalAvoidance_tested {delta : Rat} (h : horizontalAvoidance body corrected workspace
      = if ¬(workspace.x - layoutScaleEpsilon ≤ x ∧ x + body.width ≤ workspace.right + layoutScaleEpsilon) then none
        else if !visibleContentFits { body with x := x } corrected .full workspace then none
        else some { target := { x := x, y := body.y }, rawDisplacement := delta }) :
    (HeldAt layoutScaleEpsilon body corrected workspace x → horizontalAvoidance body corrected workspace
        = some { target := { x := x, y := body.y }, rawDisplacement := delta })
      ∧ (¬HeldAt layoutScaleEpsilon body corrected workspace x → horizontalAvoidance body corrected workspace = none) := by
  rw [h]
  constructor
  · intro hheld
    rw [if_neg (not_not.mpr ⟨hheld.bodyLeft, hheld.bodyRight⟩), if_neg (by simp [hheld.fits])]
  · intro hnot
    split
    next => rfl
    next hbody =>
      split
      next => rfl
      next hfits => exact absurd (heldAt_of_fits (not_not.mp hbody) (by simpa using hfits)) hnot

/-- The pixel that is tried: if both fit anywhere, then they fit there, and nowhere nearer. -/
theorem horizontalAvoidance_tries (hroomy : Roomy body corrected workspace)
    (hmoved : ¬(deltaLower body corrected workspace ≤ layoutScaleEpsilon
      ∧ -layoutScaleEpsilon ≤ deltaUpper body corrected workspace)) : ∃ (pixel : Int) (raw : Rat),
      (HeldAt layoutScaleEpsilon body corrected workspace pixel → horizontalAvoidance body corrected workspace
        = some { target := { x := pixel, y := body.y }, rawDisplacement := raw })
      ∧ (¬HeldAt layoutScaleEpsilon body corrected workspace pixel → horizontalAvoidance body corrected workspace = none)
      ∧ ∀ other : Int, HeldAt layoutScaleEpsilon body corrected workspace other →
        HeldAt layoutScaleEpsilon body corrected workspace pixel ∧ |(pixel : Rat) - body.x| ≤ |other - body.x| := by
  have heps := epsilon_pos
  by_cases hleftwards : deltaUpper body corrected workspace < -layoutScaleEpsilon
  · -- Too far right: the greatest pixel at which the right sides fit.
    have htries := horizontalAvoidance_tested (horizontalAvoidance_eq hroomy
      (by rw [if_neg hmoved, if_pos hleftwards]) (by rw [if_neg (by linarith), if_pos hleftwards]))
    refine ⟨_, _, htries.1, htries.2, fun other hother => ?_⟩
    obtain ⟨hlower, hupper, hvertical⟩ := heldAt_iff.mp hother
    have hle : (other : Rat) ≤ ⌊body.x + deltaUpper body corrected workspace + layoutScaleEpsilon⌋ :=
      Int.cast_le.mpr (Int.le_floor.mpr (by linarith))
    have hfloor := Int.floor_le (body.x + deltaUpper body corrected workspace + layoutScaleEpsilon)
    refine ⟨heldAt_iff.mpr ⟨by linarith, by linarith, hvertical⟩, ?_⟩
    rw [abs_of_nonpos (by linarith), abs_of_nonpos (by linarith)]
    linarith
  · -- Too far left: the least pixel at which the left sides fit.
    have hrightwards : layoutScaleEpsilon < deltaLower body corrected workspace := by
      by_contra hnot
      exact hmoved ⟨not_lt.mp hnot, not_lt.mp hleftwards⟩
    have htries := horizontalAvoidance_tested (horizontalAvoidance_eq hroomy
      (by rw [if_neg hmoved, if_neg hleftwards]) (by rw [if_pos hrightwards]))
    refine ⟨_, _, htries.1, htries.2, fun other hother => ?_⟩
    obtain ⟨hlower, hupper, hvertical⟩ := heldAt_iff.mp hother
    have hle : ((⌈body.x + deltaLower body corrected workspace - layoutScaleEpsilon⌉ : Int) : Rat) ≤ other :=
      Int.cast_le.mpr (Int.ceil_le.mpr (by linarith))
    have hceil := Int.le_ceil (body.x + deltaLower body corrected workspace - layoutScaleEpsilon)
    refine ⟨heldAt_iff.mpr ⟨by linarith, by linarith, hvertical⟩, ?_⟩
    rw [abs_of_nonneg (by linarith), abs_of_nonneg (by linarith)]
    linarith

/-- A place that is found is a whole pixel where both fit, and none is nearer. -/
theorem horizontalAvoidance_nearest (hnot : visibleContentFits body corrected .full workspace = false)
    {candidate : AvoidanceCandidate} (h : horizontalAvoidance body corrected workspace = some candidate) :
    ∃ pixel : Int, candidate.target.x = pixel ∧ HeldAt layoutScaleEpsilon body corrected workspace pixel
      ∧ ∀ other : Int, HeldAt layoutScaleEpsilon body corrected workspace other →
        |(pixel : Rat) - body.x| ≤ |other - body.x| := by
  have hroomy : Roomy body corrected workspace := by
    rw [roomy_iff]
    intro hnarrow
    have hnone : horizontalAvoidance body corrected workspace = none := if_pos hnarrow
    rw [hnone] at h
    cases h
  have hmoved : ¬(deltaLower body corrected workspace ≤ layoutScaleEpsilon
      ∧ -layoutScaleEpsilon ≤ deltaUpper body corrected workspace) := by
    intro hzero
    have hfits := horizontalAvoidance_fits h
    exact vertical_of_undisplaced hnot hzero (fits_full_iff.mp hfits).2.2
  obtain ⟨pixel, raw, hfound, hmissed, hnearest⟩ := horizontalAvoidance_tries hroomy hmoved
  have hheld : HeldAt layoutScaleEpsilon body corrected workspace pixel := by
    by_contra hunheld
    rw [hmissed hunheld] at h
    cases h
  rw [hfound hheld] at h
  cases h
  exact ⟨pixel, rfl, hheld, fun other hother => (hnearest other hother).2⟩

/-- Where there is room and a whole pixel at which both fit, a place is found. -/
theorem horizontalAvoidance_found (hnot : visibleContentFits body corrected .full workspace = false)
    (hroomy : Roomy body corrected workspace) {pixel : Int}
    (hpixel : HeldAt layoutScaleEpsilon body corrected workspace pixel) :
    ∃ candidate, horizontalAvoidance body corrected workspace = some candidate := by
  have hmoved : ¬(deltaLower body corrected workspace ≤ layoutScaleEpsilon
      ∧ -layoutScaleEpsilon ≤ deltaUpper body corrected workspace) :=
    fun hzero => vertical_of_undisplaced hnot hzero hpixel.vertical
  obtain ⟨tried, raw, hfound, -, hnearest⟩ := horizontalAvoidance_tries hroomy hmoved
  exact ⟨_, hfound (hnearest pixel hpixel).1⟩

/-! ## Scaling -/

/-- Between a point inside and one that is inside at a scale, every smaller scale is inside too. -/
theorem scaled_inside {bound pivot offset small large : Rat} (hpivot : bound ≤ pivot) (hsmall : 0 ≤ small)
    (hle : small ≤ large) (h : bound ≤ pivot + large * offset) : bound ≤ pivot + small * offset := by
  rcases le_total 0 offset with hoffset | hoffset
  · linarith [mul_nonneg hsmall hoffset]
  · linarith [mul_le_mul_of_nonpos_right hle hoffset]

theorem scaled_inside_above {bound pivot offset small large : Rat} (hpivot : pivot ≤ bound) (hsmall : 0 ≤ small)
    (hle : small ≤ large) (h : pivot + large * offset ≤ bound) : pivot + small * offset ≤ bound := by
  have hneg := @scaled_inside (-bound) (-pivot) (-offset) small large (by linarith) hsmall hle (by linarith)
  linarith

/-- With the foot in the workspace, content that fits at a scale fits at every smaller one. -/
theorem fits_smaller {small large : Scale} (hle : small.val ≤ large.val)
    (hleft : workspace.x ≤ body.x + corrected.bodyAnchor.x) (hright : body.x + corrected.bodyAnchor.x ≤ workspace.right)
    (htop : workspace.y ≤ body.y + bodyHeight) (hbottom : body.y + bodyHeight ≤ workspace.bottom)
    (h : visibleContentFits body corrected large workspace = true) :
    visibleContentFits body corrected small workspace = true := by
  have heps := epsilon_pos
  have hlift : 0 < maxSpecialEffectFloorLift := by norm_num [maxSpecialEffectFloorLift]
  have hpos := small.property.le
  obtain ⟨hx, hy, hr, hb⟩ := @desktopScaledContent_sides body corrected large
  obtain ⟨hx', hy', hr', hb'⟩ := @desktopScaledContent_sides body corrected small
  rw [visibleContentFits, decide_eq_true_eq, hx, hy, hr, hb] at h
  rw [visibleContentFits, decide_eq_true_eq, hx', hy', hr', hb']
  obtain ⟨hleftFits, htopFits, hrightFits, hbottomFits⟩ := h
  refine ⟨?_, ?_, ?_, ?_⟩
  · exact scaled_inside (by linarith) hpos hle hleftFits
  · exact scaled_inside (by linarith) hpos hle htopFits
  · exact scaled_inside_above (by linarith) hpos hle hrightFits
  · exact scaled_inside_above (by linarith) hpos hle hbottomFits

/-- Halving a range narrows it, and what fits lies below its upper end. -/
theorem narrowed_least (fits : Scale → Bool) (n : Nat) (r : ScaleRange) (s : Scale)
    (hbelow : fits s = true → s.val ≤ r.high)
    (hdown : ∀ small large : Scale, small.val ≤ large.val → fits large = true → fits small = true) (hs : fits s = true) :
    s.val ≤ (r.narrowed fits n).low + (r.high - r.low) / 2 ^ n := by
  induction n generalizing r with
  | zero =>
    have hle := hbelow hs
    rw [ScaleRange.narrowed, pow_zero]
    linarith
  | succ n ih =>
    have hhalf : (r.narrow fits).high - (r.narrow fits).low = (r.high - r.low) / 2 := by
      unfold ScaleRange.narrow
      split <;> simp only [ScaleRange.middle] <;> ring
    have hstill : fits s = true → s.val ≤ (r.narrow fits).high := by
      intro hs
      unfold ScaleRange.narrow
      split
      next => exact hbelow hs
      next hmiddle =>
        by_contra habove
        exact hmiddle (hdown _ s (not_le.mp habove).le hs)
    have hgap := ih (r.narrow fits) hstill
    rw [hhalf, div_div, ← pow_succ'] at hgap
    exact hgap

/-- Halving a range never reaches its upper end. -/
theorem narrowed_lt (fits : Scale → Bool) (n : Nat) (r : ScaleRange) (h : r.low < r.high) :
    (r.narrowed fits n).low < r.high := by
  induction n generalizing r with
  | zero => exact h
  | succ n ih =>
    have hmiddle : r.low < r.middle.val ∧ r.middle.val < r.high := by
      simp only [ScaleRange.middle]
      exact ⟨by linarith, by linarith⟩
    have hnarrow : (r.narrow fits).low < (r.narrow fits).high ∧ (r.narrow fits).high ≤ r.high := by
      unfold ScaleRange.narrow
      split
      next => exact ⟨hmiddle.2, le_rfl⟩
      next => exact ⟨hmiddle.1, hmiddle.2.le⟩
    exact (ih _ hnarrow.1).trans_le hnarrow.2

theorem viableScale_val {value : Option Rat} {scale : Scale} (h : viableScale value = some scale) :
    value = some scale.val := by
  unfold viableScale at h
  split at h
  next => cases h
  next =>
    split at h
    next =>
      obtain rfl := Option.some.inj h
      rfl
    next => cases h

/-- The foot of the body, which the content is scaled about, is in the workspace. -/
structure FootInside (body : Rect) (corrected : CorrectedFacing) (workspace : Rect) : Prop where
  left : workspace.x ≤ body.x + corrected.bodyAnchor.x
  right : body.x + corrected.bodyAnchor.x ≤ workspace.right
  top : workspace.y ≤ body.y + bodyHeight
  bottom : body.y + bodyHeight ≤ workspace.bottom

/-- With the foot in the workspace, the scales at which the content fits are closed downwards. -/
theorem FootInside.fits_smaller (h : FootInside body corrected workspace) (small large : Scale) (hle : small.val ≤ large.val)
    (hfits : visibleContentFits body corrected large workspace = true) :
    visibleContentFits body corrected small workspace = true :=
  RenderLayout.fits_smaller hle h.left h.right h.top h.bottom hfits

/-- What 64 halvings between nothing and the full scale come to. -/
def bisectedScale (body : Rect) (corrected : CorrectedFacing) (workspace : Rect) : Rat :=
  (ScaleRange.narrowed (visibleContentFits body corrected · workspace) 64
    { low := 0, high := 1, low_nonneg := zero_nonneg, high_pos := ofNat_pos trivial }).low

theorem largestFeasibleScale_full (hfull : visibleContentFits body corrected .full workspace = true) :
    largestFeasibleScale body corrected workspace = some 1 := if_pos hfull

theorem largestFeasibleScale_inside (hnot : visibleContentFits body corrected .full workspace = false)
    (hinside : FootInside body corrected workspace) :
    largestFeasibleScale body corrected workspace = some (bisectedScale body corrected workspace) := by
  unfold largestFeasibleScale
  rw [if_neg (by simp [hnot]), if_neg (not_not.mpr ⟨hinside.left, hinside.right, hinside.top, hinside.bottom⟩)]
  rfl

theorem largestFeasibleScale_outside (hnot : visibleContentFits body corrected .full workspace = false)
    (houtside : ¬FootInside body corrected workspace) : largestFeasibleScale body corrected workspace = none := by
  unfold largestFeasibleScale
  rw [if_neg (by simp [hnot]), if_pos fun ⟨hleft, hright, htop, hbottom⟩ => houtside ⟨hleft, hright, htop, hbottom⟩]

/-- The content fits at the scale the halvings come to, unless that is zero. -/
theorem bisectedScale_fits (hpos : 0 < bisectedScale body corrected workspace) :
    visibleContentFits body corrected ⟨_, hpos⟩ workspace = true :=
  (narrowed_spec _ 64 _ (by norm_num) le_rfl fun h => absurd h (lt_irrefl 0)).2 hpos

theorem bisectedScale_range : 0 ≤ bisectedScale body corrected workspace ∧ bisectedScale body corrected workspace < 1 :=
  ⟨ScaleRange.low_nonneg _, narrowed_lt _ 64 _ one_pos⟩

/-- No scale at which the content fits is larger than what the halvings come to, but for the last of them. -/
theorem bisectedScale_largest (hnot : visibleContentFits body corrected .full workspace = false)
    (hinside : FootInside body corrected workspace) (s : Scale) (hs : visibleContentFits body corrected s workspace = true) :
    s.val ≤ bisectedScale body corrected workspace + 1 / 2 ^ 64 := by
  have hbelow : visibleContentFits body corrected s workspace = true → s.val ≤ 1 := by
    intro hs
    by_contra habove
    have hfull := hinside.fits_smaller .full s (not_le.mp habove).le hs
    rw [hfull] at hnot
    cases hnot
  have hgap := narrowed_least (visibleContentFits body corrected · workspace) 64
    { low := 0, high := 1, low_nonneg := le_rfl, high_pos := by norm_num } s hbelow hinside.fits_smaller hs
  rwa [show (1 : Rat) - 0 = 1 from sub_zero 1] at hgap

/-- What the search for the largest scale returns: full scale, nothing, or what the halvings come to. -/
inductive LargestScale (body : Rect) (corrected : CorrectedFacing) (workspace : Rect) : Option Rat → Prop where
  | full (hfull : visibleContentFits body corrected .full workspace = true) :
      LargestScale body corrected workspace (some 1)
  | outside (hnot : visibleContentFits body corrected .full workspace = false)
      (houtside : ¬FootInside body corrected workspace) : LargestScale body corrected workspace none
  | bisected (r : Rat) (hnot : visibleContentFits body corrected .full workspace = false)
      (hinside : FootInside body corrected workspace) (hrange : 0 ≤ r ∧ r < 1)
      (hfits : r = 0 ∨ ∃ hpos : 0 < r, visibleContentFits body corrected ⟨r, hpos⟩ workspace = true)
      (hlargest : ∀ s : Scale, s.val ≤ 1 → visibleContentFits body corrected s workspace = true →
        s.val ≤ r + 1 / 2 ^ 64) : LargestScale body corrected workspace (some r)

/-- The search finds the largest scale up to its last halving, and where it halves, smaller scales fit too. -/
theorem largestFeasibleScale_best (body : Rect) (corrected : CorrectedFacing) (workspace : Rect) :
    LargestScale body corrected workspace (largestFeasibleScale body corrected workspace)
    ∧ (FootInside body corrected workspace → ∀ small large : Scale, small.val ≤ large.val →
      visibleContentFits body corrected large workspace = true →
        visibleContentFits body corrected small workspace = true) := by
  refine ⟨?_, fun hinside => hinside.fits_smaller⟩
  cases hfull : visibleContentFits body corrected .full workspace with
  | true =>
    rw [largestFeasibleScale_full hfull]
    exact .full hfull
  | false =>
    by_cases hinside : FootInside body corrected workspace
    · rw [largestFeasibleScale_inside hfull hinside]
      have hfits : bisectedScale body corrected workspace = 0
          ∨ ∃ hpos : 0 < bisectedScale body corrected workspace, visibleContentFits body corrected ⟨_, hpos⟩ workspace = true :=
        bisectedScale_range.1.eq_or_lt.imp Eq.symm fun hpos => ⟨hpos, bisectedScale_fits hpos⟩
      exact .bisected _ hfull hinside bisectedScale_range hfits fun s _ hs => bisectedScale_largest hfull hinside s hs
    · rw [largestFeasibleScale_outside hfull hinside]
      exact .outside hfull hinside

/-- Where the content does not fit at full scale it is scaled down, and no scale at which it fits is larger, but for the
last halving. -/
theorem viableScale_largest {scale : Scale}
    (h : viableScale (largestFeasibleScale body corrected workspace) = some scale)
    (hnot : visibleContentFits body corrected .full workspace = false) :
    scale.val < 1 ∧ ∀ s : Scale, visibleContentFits body corrected s workspace = true →
      s.val ≤ scale.val + layoutScaleEpsilon := by
  have hvalue := viableScale_val h
  by_cases hinside : FootInside body corrected workspace
  · rw [largestFeasibleScale_inside hnot hinside] at hvalue
    rw [← Option.some.inj hvalue]
    refine ⟨bisectedScale_range.2, fun s hs => ?_⟩
    have hgap := bisectedScale_largest hnot hinside s hs
    have hsmall : (1 : Rat) / 2 ^ 64 ≤ layoutScaleEpsilon := by norm_num [layoutScaleEpsilon]
    linarith
  · rw [largestFeasibleScale_outside hnot hinside] at hvalue
    cases hvalue

/-! ## The placement -/

/-- A layout at full scale, at the nearest whole pixel at which content and body fit up to a tolerance. -/
structure Displaced (tolerance : Rat) (body workspace : Rect) (envelope : ProjectedActionEnvelope)
    (layout : PetRenderLayout) : Prop where
  full : layout.scaleMultiplier = 1
  nearest : ∃ pixel : Int, layout.resolvedBodyPosition.x = pixel
    ∧ HeldAt tolerance body (correctedBy envelope layout.effectiveFacing) workspace pixel
    ∧ ∀ other : Int, HeldAt tolerance body (correctedBy envelope layout.effectiveFacing) workspace other →
      |(pixel : Rat) - body.x| ≤ |other - body.x|

/-- Where a layout places the content of an action. -/
structure BestPlacement (body workspace : Rect) (envelope : ProjectedActionEnvelope) (preferredFacing : PetFacing)
    (layout : PetRenderLayout) : Prop where
  visible : visibleContentFits { body with x := layout.resolvedBodyPosition.x }
    (correctedBy envelope layout.effectiveFacing) ⟨layout.scaleMultiplier, layout.scale_pos⟩ workspace = true
  footLine : layout.resolvedBodyPosition.y = body.y
  inPlace : layout.scaleMultiplier = 1 ∧ layout.resolvedBodyPosition.x = body.x
    ↔ visibleContentFits body (correctedBy envelope preferredFacing) .full workspace = true
      ∨ visibleContentFits body (correctedBy envelope (alternate preferredFacing)) .full workspace = true
  preferred : visibleContentFits body (correctedBy envelope preferredFacing) .full workspace = true →
    layout.effectiveFacing = preferredFacing
  other : visibleContentFits body (correctedBy envelope preferredFacing) .full workspace = false →
    visibleContentFits body (correctedBy envelope (alternate preferredFacing)) .full workspace = true →
      layout.effectiveFacing = alternate preferredFacing
  displaced : (∀ facing, visibleContentFits body (correctedBy envelope facing) .full workspace = false) →
    (∃ facing, Roomy body (correctedBy envelope facing) workspace
      ∧ ∃ pixel : Int, HeldAt layoutScaleEpsilon body (correctedBy envelope facing) workspace pixel) →
    Displaced layoutScaleEpsilon body workspace envelope layout
  scaled : layout.scaleMultiplier ≠ 1 → layout.scaleMultiplier < 1 ∧ layout.resolvedBodyPosition.x = body.x
    ∧ (∀ facing, visibleContentFits body (correctedBy envelope facing) .full workspace = false
      ∧ ¬(Roomy body (correctedBy envelope facing) workspace
        ∧ ∃ pixel : Int, HeldAt layoutScaleEpsilon body (correctedBy envelope facing) workspace pixel))
    ∧ ∀ s : Scale, visibleContentFits body (correctedBy envelope layout.effectiveFacing) s workspace = true →
      s.val ≤ layout.scaleMultiplier + layoutScaleEpsilon

/-- Two facings are all there are. -/
theorem forall_facing {P : PetFacing → Prop} (preferredFacing : PetFacing) (hpreferred : P preferredFacing)
    (hother : P (alternate preferredFacing)) : ∀ facing, P facing := by
  intro facing
  cases preferredFacing with
  | right =>
    cases facing with
    | right => exact hpreferred
    | left => exact hother
  | left =>
    cases facing with
    | right => exact hother
    | left => exact hpreferred

/-- If the selected facing has no place to move to, neither has. -/
theorem selectAvoidanceFacing_none {preferredFacing : PetFacing} {avoidance : PetFacing → Option AvoidanceCandidate}
    (h : avoidance (selectAvoidanceFacing preferredFacing (avoidance .right) (avoidance .left)) = none) :
    ∀ facing, avoidance facing = none := by
  cases hright : avoidance .right with
  | none =>
    rw [hright] at h
    exact forall_facing .right hright h
  | some right =>
    cases hleft : avoidance .left with
    | none =>
      rw [hright, hleft] at h
      exact nomatch hright.symm.trans h
    | some left =>
      rw [hright, hleft] at h
      generalize selectAvoidanceFacing preferredFacing (some right) (some left) = selected at h
      cases selected with
      | right => exact nomatch hright.symm.trans h
      | left => exact nomatch hleft.symm.trans h

/-- How the content can come to be placed. -/
inductive PlacedBy (body workspace : Rect) (envelope : ProjectedActionEnvelope) (preferredFacing : PetFacing) :
    Rect → PetFacing → Scale → Prop where
  | preferred (hfits : visibleContentFits body (correctedBy envelope preferredFacing) .full workspace = true) :
      PlacedBy body workspace envelope preferredFacing body preferredFacing .full
  | other (hpreferred : visibleContentFits body (correctedBy envelope preferredFacing) .full workspace = false)
      (hfits : visibleContentFits body (correctedBy envelope (alternate preferredFacing)) .full workspace = true) :
      PlacedBy body workspace envelope preferredFacing body (alternate preferredFacing) .full
  | displaced (facing : PetFacing) (candidate : AvoidanceCandidate)
      (hnot : ∀ facing, visibleContentFits body (correctedBy envelope facing) .full workspace = false)
      (hfound : horizontalAvoidance body (correctedBy envelope facing) workspace = some candidate) :
      PlacedBy body workspace envelope preferredFacing { body with x := candidate.target.x } facing .full
  | scaled (facing : PetFacing) (scale : Scale)
      (hnot : ∀ facing, visibleContentFits body (correctedBy envelope facing) .full workspace = false)
      (hnone : ∀ facing, horizontalAvoidance body (correctedBy envelope facing) workspace = none)
      (hscale : scaleOf body workspace envelope facing = some scale) :
      PlacedBy body workspace envelope preferredFacing body facing scale

variable {envelope : ProjectedActionEnvelope} {preferredFacing : PetFacing}

theorem fullPlacement_placedBy {placed : Rect} {facing : PetFacing} {scale : Scale}
    (h : fullPlacement body workspace envelope preferredFacing = some (placed, facing, scale)) :
    PlacedBy body workspace envelope preferredFacing placed facing scale := by
  unfold fullPlacement at h
  split at h
  next hfits => cases h; exact .preferred hfits
  next hpreferred =>
    rw [Bool.not_eq_true] at hpreferred
    split at h
    next hfits => cases h; exact .other hpreferred hfits
    next hother =>
      rw [Bool.not_eq_true] at hother
      have hnot := @forall_facing (fun facing => visibleContentFits body (correctedBy envelope facing) .full workspace = false)
        preferredFacing hpreferred hother
      dsimp only at h
      split at h
      next candidate hcandidate => cases h; exact .displaced _ candidate hnot hcandidate
      next hselected =>
        obtain ⟨⟨selected, scale'⟩, hscale, hplaced⟩ := Option.map_eq_some_iff.mp h
        cases hplaced
        exact .scaled _ _ hnot (@selectAvoidanceFacing_none preferredFacing
          (fun facing => horizontalAvoidance body (correctedBy envelope facing) workspace) hselected)
          (@selectScale_spec _ (scaleOf body workspace envelope) _ _ hscale)

/-- Every layout of a full plan shows its content in the workspace: at full scale in place where it fits there, else at
the nearest pixel at which content and body fit, else at the largest scale. -/
theorem plan_full_best (body workspace : Rect) (envelope : ProjectedActionEnvelope) (preferredFacing : PetFacing)
    (dpr : Rat) (display : Option Rect) (layout : PetRenderLayout)
    (h : planPetRenderLayout body workspace envelope preferredFacing .fullSampledBounds dpr display
      = .ok (.layout layout)) : BestPlacement body workspace envelope preferredFacing layout := by
  obtain ⟨placed, facing, scale, hplacement, -, rfl⟩ := plan_full_layout h
  obtain ⟨hplaced, -, hfits⟩ := fullPlacement_spec hplacement
  have hfootLine : placed.y = body.y := by rw [hplaced]
  have hvisible : visibleContentFits { body with x := placed.x } (correctedBy envelope facing) scale workspace = true := by
    rw [← hplaced]
    exact hfits
  cases fullPlacement_placedBy hplacement with
  | preferred hpreferred =>
    exact {
      visible := hvisible
      footLine := hfootLine
      inPlace := ⟨fun _ => .inl hpreferred, fun _ => ⟨rfl, rfl⟩⟩
      preferred := fun _ => rfl
      other := fun hnot => absurd hpreferred (by simp [hnot])
      displaced := fun hnot => absurd hpreferred (by simp [hnot])
      scaled := fun hscale => absurd rfl hscale }
  | other hpreferred hother =>
    exact {
      visible := hvisible
      footLine := hfootLine
      inPlace := ⟨fun _ => .inr hother, fun _ => ⟨rfl, rfl⟩⟩
      preferred := fun hfits => absurd hfits (by simp [hpreferred])
      other := fun _ _ => rfl
      displaced := fun hnot => absurd hother (by simp [hnot])
      scaled := fun hscale => absurd rfl hscale }
  | displaced facing candidate hnot hfound =>
    obtain ⟨pixel, hpixel, hheld, hnearest⟩ := horizontalAvoidance_nearest (hnot facing) hfound
    have hmoved : ¬candidate.target.x = body.x := by
      intro hsame
      have hfits := horizontalAvoidance_fits hfound
      rw [hsame] at hfits
      exact Bool.false_ne_true ((hnot facing).symm.trans hfits)
    exact {
      visible := hvisible
      footLine := hfootLine
      inPlace := ⟨fun hin => absurd hin.2 hmoved, fun hfits => absurd hfits (by simp [hnot])⟩
      preferred := fun hfits => absurd hfits (by simp [hnot])
      other := fun _ hfits => absurd hfits (by simp [hnot])
      displaced := fun _ _ => ⟨rfl, pixel, hpixel, hheld, hnearest⟩
      scaled := fun hscale => absurd rfl hscale }
  | scaled facing scale hnot hnone hscale =>
    obtain ⟨hless, hlargest⟩ := viableScale_largest hscale (hnot facing)
    have hnowhere : ∀ facing, ¬(Roomy body (correctedBy envelope facing) workspace
        ∧ ∃ pixel : Int, HeldAt layoutScaleEpsilon body (correctedBy envelope facing) workspace pixel) := by
      rintro facing ⟨hroomy, pixel, hheld⟩
      obtain ⟨candidate, hfound⟩ := horizontalAvoidance_found (hnot facing) hroomy hheld
      rw [hnone facing] at hfound
      cases hfound
    exact {
      visible := hvisible
      footLine := hfootLine
      inPlace := ⟨fun hin => absurd hin.1 hless.ne, fun hfits => absurd hfits (by simp [hnot])⟩
      preferred := fun hfits => absurd hfits (by simp [hnot])
      other := fun _ hfits => absurd hfits (by simp [hnot])
      displaced := fun _ ⟨facing, hroom⟩ => absurd hroom (hnowhere facing)
      scaled := fun _ => ⟨hless, rfl, fun facing => ⟨hnot facing, hnowhere facing⟩, hlargest⟩ }

/-! ## Content as wide as the body -/

/-- Content on the floor that is as wide as the body. -/
def wideEnvelope : ProjectedActionEnvelope :=
  projectActionEnvelope
    { x := -80, y := 0, width := 160, height := 100, width_pos := ofNat_pos trivial, height_pos := ofNat_pos trivial }
    { scale := 1, originX := 80, originY := 180, mirrorAxisX := 80, scale_pos := ofNat_pos trivial }

def wideBody (x : Rat) : Rect where
  x := x
  y := 0
  width := bodyWidth
  height := bodyHeight
  width_pos := bodyWidth_pos
  height_pos := bodyHeight_pos

/-- A workspace that is one and a half tolerances narrower than the body. -/
def narrowDesk : Rect where
  x := 3 / 4000000
  y := 0
  width := 160 - 3 / 2000000
  height := 1000
  width_pos := by norm_num
  height_pos := ofNat_pos trivial

/-- A workspace that starts half a tolerance behind a pixel. -/
def offsetDesk : Rect where
  x := 10 + 1 / 2000000
  y := 0
  width := 1000
  height := 1000
  width_pos := ofNat_pos trivial
  height_pos := ofNat_pos trivial

/-- The body moves to the pixel before the workspace. -/
def offsetLayout : PetRenderLayout := composed (wideBody 10) (correctedBy wideEnvelope .right) .right .full

theorem offset_plan :
    planPetRenderLayout (wideBody (1 / 2)) offsetDesk wideEnvelope .right .fullSampledBounds 1 none
      = .ok (.layout offsetLayout) := by
  decide +kernel

/-- Content left of the workspace is shown in it, half a tolerance before its left side. -/
theorem plan_full_best_offset : BestPlacement (wideBody (1 / 2)) offsetDesk wideEnvelope .right offsetLayout :=
  plan_full_best (wideBody (1 / 2)) offsetDesk wideEnvelope .right 1 none offsetLayout offset_plan

/-- A plan that comes to a layout at less than full scale. -/
def scalesDown : Except PetError PetRenderLayoutResult → Bool
  | .ok (.layout layout) => layout.scaleMultiplier ≠ 1
  | _ => false

theorem scalesDown_layout {result : Except PetError PetRenderLayoutResult} (h : scalesDown result = true) :
    ∃ layout, result = .ok (.layout layout) ∧ layout.scaleMultiplier ≠ 1 := by
  unfold scalesDown at h
  split at h
  next layout => exact ⟨layout, rfl, by simpa using h⟩
  next => cases h

/-- Up to the tolerance, a pixel at which both fit does not mean that the content is displaced; and without it, where it
is displaced to is not the nearest pixel at which both fit. -/
theorem nearest_within_tolerances :
    (∃ layout, planPetRenderLayout (wideBody (3 / 10)) narrowDesk wideEnvelope .right .fullSampledBounds 1 none
        = .ok (.layout layout)
      ∧ (∀ facing, visibleContentFits (wideBody (3 / 10)) (correctedBy wideEnvelope facing) .full narrowDesk = false)
      ∧ (∃ pixel : Int, HeldAt layoutScaleEpsilon (wideBody (3 / 10)) (correctedBy wideEnvelope .right) narrowDesk pixel)
      ∧ ¬Displaced layoutScaleEpsilon (wideBody (3 / 10)) narrowDesk wideEnvelope layout)
    ∧ planPetRenderLayout (wideBody (1 / 2)) offsetDesk wideEnvelope .right .fullSampledBounds 1 none
        = .ok (.layout offsetLayout)
      ∧ (∀ facing, visibleContentFits (wideBody (1 / 2)) (correctedBy wideEnvelope facing) .full offsetDesk = false)
      ∧ (∃ pixel : Int, HeldAt 0 (wideBody (1 / 2)) (correctedBy wideEnvelope .right) offsetDesk pixel)
      ∧ ¬Displaced 0 (wideBody (1 / 2)) offsetDesk wideEnvelope offsetLayout := by
  constructor
  · have hscales : scalesDown (planPetRenderLayout (wideBody (3 / 10)) narrowDesk wideEnvelope .right .fullSampledBounds 1
        none) = true := by decide +kernel
    obtain ⟨layout, hplan, hscale⟩ := scalesDown_layout hscales
    refine ⟨layout, hplan, fun facing => ?_, ⟨0, ?_⟩, fun hdisplaced => hscale hdisplaced.full⟩
    · cases facing <;> decide +kernel
    · exact ⟨by decide +kernel, by decide +kernel, by decide +kernel, by decide +kernel,
        by decide +kernel, by decide +kernel⟩
  · refine ⟨by decide +kernel, fun facing => ?_, ⟨11, ?_⟩, fun hdisplaced => ?_⟩
    · cases facing <;> decide +kernel
    · exact ⟨by decide +kernel, by decide +kernel, by decide +kernel, by decide +kernel,
        by decide +kernel, by decide +kernel⟩
    · obtain ⟨pixel, hpixel, hheld, -⟩ := hdisplaced.nearest
      have hleft := hheld.bodyLeft
      rw [← hpixel] at hleft
      exact absurd hleft (by decide +kernel)

end ArkClaw.Pet.RenderLayout
