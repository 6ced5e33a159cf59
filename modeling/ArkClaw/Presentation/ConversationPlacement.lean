import ArkClaw.Presentation.ConversationAnchor
import Mathlib.Algebra.Order.Ring.Int
import Mathlib.Data.Int.LeastGreatest

/-!
# Where the conversation capsule is placed

The capsule keeps its size where it has a legal position at it, and then takes the first one. A smaller capsule is legal
wherever a larger one is (`HasPlace.smaller`), so the loop finds the largest percentage up to its bound. The bound is
the percentage at which the capsule, not rounded, is as large as the work area. Rounded down, it can be no larger at a
percentage above the bound: then a larger size with a legal position is not tried, and `place_meets_iff` says when.
-/

namespace ArkClaw.Presentation.ConversationAnchor

open ArkClaw.Library

variable {anchor workArea : AnchorRect} {width height percent percent' : Int}

/-- A capsule reduced to a percentage has a legal position. -/
def HasPlaceAt (anchor workArea : AnchorRect) (width height percent : Int) : Prop :=
  HasPlace anchor workArea (reducedTo percent width) (reducedTo percent height)

/-- The largest percentage below a hundred at which the reduced capsule has a legal position. -/
structure LargestPlace (anchor workArea : AnchorRect) (width height percent : Int) : Prop where
  pos : 1 ≤ percent
  below : percent ≤ 99
  hasPlace : HasPlaceAt anchor workArea width height percent
  largest : ∀ q, percent < q → q ≤ 99 → ¬HasPlaceAt anchor workArea width height q

/-- The sizes that are asked for and given make sense. -/
structure Sized (workArea : AnchorRect) (width height : Int) : Prop where
  width_pos : 0 < width
  height_pos : 0 < height
  area_width_pos : 0 < workArea.width
  area_height_pos : 0 < workArea.height

/-- The placement of a capsule reduced to a percentage. -/
def reducedPlacement (anchor : AnchorRect) (width height percent : Int) (b : Beside) : AnchorPlacement where
  side := b.side
  rect := b.rect anchor (reducedTo percent width) (reducedTo percent height)
  fallback := [.reduceSize]
  reduced := true

/-- The capsule is placed as it should be: at its full size if it has a legal position there, else reduced as little as
it can be, and at the first legal position for its size. It is not placed only if nothing makes sense or is legal. -/
inductive Placed (anchor workArea : AnchorRect) (width height : Int) :
    Except AnchorPlacementUnavailable AnchorPlacement → Prop where
  | full (b : Beside) (hsized : Sized workArea width height) (hfirst : IsFirst anchor workArea width height b) :
      Placed anchor workArea width height (.ok { side := b.side, rect := b.rect anchor width height })
  | reduced (b : Beside) (percent : Int) (hsized : Sized workArea width height)
      (hfull : ¬HasPlace anchor workArea width height) (hlargest : LargestPlace anchor workArea width height percent)
      (hfirst : IsFirst anchor workArea (reducedTo percent width) (reducedTo percent height) b) :
      Placed anchor workArea width height (.ok (reducedPlacement anchor width height percent b))
  | unavailable (e : AnchorPlacementUnavailable)
      (h : ¬Sized workArea width height ∨ ∀ q, 1 ≤ q → q ≤ 99 → ¬HasPlaceAt anchor workArea width height q) :
      Placed anchor workArea width height (.error e)

/-- Not rounded, the capsule at a percentage is no larger than the work area. -/
def FitsUnrounded (workArea : AnchorRect) (width height percent : Int) : Prop :=
  width * percent ≤ workArea.width * 100 ∧ height * percent ≤ workArea.height * 100

/-- The capsule has at two percentages the same size. -/
def SameSize (width height percent percent' : Int) : Prop :=
  reducedTo percent width = reducedTo percent' width ∧ reducedTo percent height = reducedTo percent' height

/-- Every size with a legal position is one that is no larger than the work area before it is rounded, or the least. -/
def FoundUnrounded (anchor workArea : AnchorRect) (width height : Int) : Prop :=
  ∀ p, 1 ≤ p → p ≤ 99 → HasPlaceAt anchor workArea width height p →
    ∃ q, 1 ≤ q ∧ q ≤ p ∧ (q = 1 ∨ FitsUnrounded workArea width height q) ∧ SameSize width height q p

/-! ## The search -/

theorem maxScalePercent_range : 1 ≤ maxScalePercent workArea width height ∧ maxScalePercent workArea width height ≤ 100 := by
  unfold maxScalePercent
  exact ⟨le_max_left _ _, max_le (by omega) (min_le_left _ _)⟩

/-- The test of the search finds the first legal position for the reduced capsule. -/
theorem reducedCandidate_cases :
    (∃ b, IsFirst anchor workArea (reducedTo percent width) (reducedTo percent height) b
      ∧ reducedCandidate anchor workArea width height percent
        = some (b.candidate anchor (reducedTo percent width) (reducedTo percent height),
          reducedTo percent width, reducedTo percent height)) ∨ ¬HasPlaceAt anchor workArea width height percent
      ∧ reducedCandidate anchor workArea width height percent = none := by
  unfold reducedCandidate HasPlaceAt
  rcases @firstValidCandidate_cases anchor workArea (reducedTo percent width) (reducedTo percent height) with
    ⟨b, hfirst, heq⟩ | ⟨hnone, heq⟩
  · exact .inl ⟨b, hfirst, by simp only [heq, Option.map_some]⟩
  · exact .inr ⟨hnone, by simp only [heq, Option.map_none]⟩

theorem reducedCandidate_eq_none : reducedCandidate anchor workArea width height percent = none ↔
    ¬HasPlaceAt anchor workArea width height percent := by
  rcases @reducedCandidate_cases anchor workArea width height percent with ⟨b, hfirst, heq⟩ | ⟨hnone, heq⟩
  · rw [heq]
    exact ⟨nofun, fun hnot => absurd hfirst.hasPlace hnot⟩
  · exact ⟨fun _ => hnone, fun _ => heq⟩

section

variable (hsized : Sized workArea width height)

include hsized

/-- The bound of the search is the largest percentage at which the capsule is no larger before it is rounded. -/
theorem le_maxScalePercent (hpos : 1 ≤ percent) (hle : percent ≤ 100) :
    percent ≤ maxScalePercent workArea width height ↔ percent = 1 ∨ FitsUnrounded workArea width height percent := by
  unfold maxScalePercent FitsUnrounded
  dsimp only
  rw [le_max_iff, le_min_iff, le_min_iff, Int.le_ediv_iff_mul_le hsized.width_pos,
    Int.le_ediv_iff_mul_le hsized.height_pos, mul_comm percent, mul_comm percent]
  constructor
  · rintro (hone | ⟨-, hwidth, hheight⟩)
    · exact .inl (by omega)
    · exact .inr ⟨hwidth, hheight⟩
  · rintro (rfl | ⟨hwidth, hheight⟩)
    · exact .inl le_rfl
    · exact .inr ⟨hle, hwidth, hheight⟩

/-- At a smaller percentage the capsule has a legal position too. -/
theorem HasPlaceAt.smaller (hle : percent ≤ percent') (h : HasPlaceAt anchor workArea width height percent') :
    HasPlaceAt anchor workArea width height percent :=
  HasPlace.smaller (reducedTo_mono hsized.width_pos hle) (reducedTo_mono hsized.height_pos hle) h

/-- Without a legal position at the full size there is none at a hundred percent. -/
theorem not_hasPlaceAt_hundred (hfull : ¬HasPlace anchor workArea width height) :
    ¬HasPlaceAt anchor workArea width height 100 := by
  have hwidth : reducedTo 100 width = width := by
    have := hsized.width_pos
    unfold reducedTo
    omega
  have hheight : reducedTo 100 height = height := by
    have := hsized.height_pos
    unfold reducedTo
    omega
  unfold HasPlaceAt
  rwa [hwidth, hheight]

/-- What the search ends with: the largest percentage up to its bound. -/
structure SearchedTo (anchor workArea : AnchorRect) (width height percent : Int) : Prop where
  pos : 1 ≤ percent
  le_max : percent ≤ maxScalePercent workArea width height
  hasPlace : HasPlaceAt anchor workArea width height percent
  largest : ∀ q, percent < q → q ≤ maxScalePercent workArea width height → ¬HasPlaceAt anchor workArea width height q

theorem reducedCandidate_closedBelow : ClosedBelow (reducedCandidate anchor workArea width height) 1
    (maxScalePercent workArea width height) := by
  intro p q _ hle _ hq
  rw [Option.isSome_iff_ne_none, ne_eq, reducedCandidate_eq_none, not_not] at hq ⊢
  exact HasPlaceAt.smaller hsized hle hq

/-- Without a legal position at the full size, the capsule is reduced to the largest percentage up to the bound, unless
none has a legal position. -/
theorem place_searched (hfull : ¬HasPlace anchor workArea width height) :
    (∃ p b, SearchedTo anchor workArea width height p
        ∧ IsFirst anchor workArea (reducedTo p width) (reducedTo p height) b
        ∧ placeConversationCapsule anchor workArea width height = .ok (reducedPlacement anchor width height p b))
    ∨ (∀ p, 1 ≤ p → p ≤ maxScalePercent workArea width height → ¬HasPlaceAt anchor workArea width height p)
      ∧ ∃ e, placeConversationCapsule anchor workArea width height = .error e := by
  have hnone : firstValidCandidate anchor workArea width height = none := by
    rcases @firstValidCandidate_cases anchor workArea width height with ⟨b, hfirst, -⟩ | ⟨-, hnone⟩
    · exact absurd hfirst.hasPlace hfull
    · exact hnone
  have hrange := @maxScalePercent_range workArea width height
  have hsearch := bisect_largest (@reducedCandidate_closedBelow anchor workArea width height hsized)
    (show maxScalePercent workArea width height - 1 < (maxScalePercent workArea width height).toNat by omega)
  obtain ⟨hwidth, hheight, hareaWidth, hareaHeight⟩ := hsized
  unfold placeConversationCapsule
  rw [if_neg (by omega), if_neg (by omega), hnone]
  dsimp only
  cases hresult : bisect (reducedCandidate anchor workArea width height) (maxScalePercent workArea width height).toNat 1
      (maxScalePercent workArea width height) none with
  | none =>
    rw [hresult] at hsearch
    exact .inr ⟨fun p hpos hle => reducedCandidate_eq_none.mp (hsearch p hpos hle), _, rfl⟩
  | some found =>
    rw [hresult] at hsearch
    obtain ⟨p, hpos, hle, hpasses, hlargest⟩ := hsearch
    rcases @reducedCandidate_cases anchor workArea width height p with ⟨b, hfirst, heq⟩ | ⟨-, hnone⟩
    · obtain rfl := Option.some.inj (heq.symm.trans hpasses)
      exact .inl ⟨p, b, ⟨hpos, hle, hfirst.hasPlace, fun q hpq hq => reducedCandidate_eq_none.mp (hlargest q hpq hq)⟩,
        hfirst, rfl⟩
    · rw [hnone] at hpasses
      cases hpasses

/-- The percentage the search ends with is below a hundred. -/
theorem SearchedTo.below (h : SearchedTo anchor workArea width height percent)
    (hfull : ¬HasPlace anchor workArea width height) : percent ≤ 99 := by
  have hne : percent ≠ 100 := by
    rintro rfl
    exact not_hasPlaceAt_hundred hsized hfull h.hasPlace
  have := h.le_max
  have := (@maxScalePercent_range workArea width height).2
  omega

omit hsized in
/-- Above a percentage with a legal position there is a largest one. -/
theorem exists_largestPlace (hpos : 1 ≤ percent) (hbelow : percent ≤ 99)
    (hplace : HasPlaceAt anchor workArea width height percent) :
    ∃ p, percent ≤ p ∧ LargestPlace anchor workArea width height p := by
  obtain ⟨p, ⟨hp, hpbelow, hpplace⟩, hgreatest⟩ := Int.exists_greatest_of_bdd
    (P := fun p => percent ≤ p ∧ p ≤ 99 ∧ HasPlaceAt anchor workArea width height p)
    ⟨99, fun p hp => hp.2.1⟩ ⟨percent, le_rfl, hbelow, hplace⟩
  refine ⟨p, hp, by omega, hpbelow, hpplace, fun q hpq hq hqplace => ?_⟩
  have := hgreatest q ⟨by omega, hq, hqplace⟩
  omega

/-- Between two percentages of the same size there is no other size. -/
theorem SameSize.between {p q r : Int} (hpq : p ≤ q) (hqr : q ≤ r) (h : SameSize width height p r) :
    SameSize width height p q ∧ SameSize width height q r := by
  have hwidth := reducedTo_mono hsized.width_pos hpq
  have hwidth' := reducedTo_mono hsized.width_pos hqr
  have hheight := reducedTo_mono hsized.height_pos hpq
  have hheight' := reducedTo_mono hsized.height_pos hqr
  obtain ⟨hsameWidth, hsameHeight⟩ := h
  exact ⟨⟨by omega, by omega⟩, by omega, by omega⟩

/-- The percentage the search ends with has the size of the largest one exactly if no size is lost to the bound. -/
theorem SearchedTo.sameSize_iff {largest : Int} (h : SearchedTo anchor workArea width height percent)
    (hfull : ¬HasPlace anchor workArea width height) (hlargest : LargestPlace anchor workArea width height largest) :
    SameSize width height percent largest ↔ FoundUnrounded anchor workArea width height := by
  have hbelow := h.below hsized hfull
  have hle : percent ≤ largest := by
    by_contra habove
    exact hlargest.largest percent (by omega) hbelow h.hasPlace
  constructor
  · intro hsame p hpos hpbelow hplace
    have hple : p ≤ largest := by
      by_contra habove
      exact hlargest.largest p (by omega) hpbelow hplace
    rcases le_or_gt p percent with hp | hp
    · have hmax : p ≤ maxScalePercent workArea width height := hp.trans h.le_max
      exact ⟨p, hpos, le_rfl, (le_maxScalePercent hsized hpos (by omega)).mp hmax, rfl, rfl⟩
    · exact ⟨percent, h.pos, hp.le, (le_maxScalePercent hsized h.pos (by omega)).mp h.le_max,
        (hsame.between hsized hp.le hple).1⟩
  · intro hfound
    obtain ⟨q, hpos, hq, hunrounded, hsame⟩ := hfound largest hlargest.pos hlargest.below hlargest.hasPlace
    have hlargestBelow := hlargest.below
    have hmax := (le_maxScalePercent hsized hpos (by omega)).mpr hunrounded
    have hqle : q ≤ percent := by
      by_contra habove
      exact h.largest q (by omega) hmax (hlargest.hasPlace.smaller hsized hq)
    exact (hsame.between hsized hqle hle).2

end

/-! ## The placement -/

theorem place_unsized (hsized : ¬Sized workArea width height) :
    ∃ e, placeConversationCapsule anchor workArea width height = .error e := by
  unfold placeConversationCapsule
  by_cases hsize : width ≤ 0 ∨ height ≤ 0
  · exact ⟨_, if_pos hsize⟩
  · by_cases harea : workArea.width ≤ 0 ∨ workArea.height ≤ 0
    · exact ⟨_, by rw [if_neg hsize, if_pos harea]⟩
    · exact absurd ⟨by omega, by omega, by omega, by omega⟩ hsized

/-- With a legal position at the full size, the capsule keeps it and takes the first one. -/
theorem place_full (hsized : Sized workArea width height) (hfull : HasPlace anchor workArea width height) :
    ∃ b, IsFirst anchor workArea width height b
      ∧ placeConversationCapsule anchor workArea width height
        = .ok { side := b.side, rect := b.rect anchor width height } := by
  obtain ⟨hwidth, hheight, hareaWidth, hareaHeight⟩ := hsized
  rcases @firstValidCandidate_cases anchor workArea width height with ⟨b, hfirst, heq⟩ | ⟨hnot, -⟩
  · have hplace : placeConversationCapsule anchor workArea width height
        = .ok (toPlacement width height (b.candidate anchor width height)) := by
      unfold placeConversationCapsule
      rw [if_neg (by omega), if_neg (by omega), heq]
    exact ⟨b, hfirst, hplace⟩
  · exact absurd hfull hnot

/-- A reduced capsule is placed as it should be only if it has the size of the largest percentage. -/
theorem Placed.sameSize {b : Beside}
    (h : Placed anchor workArea width height (.ok (reducedPlacement anchor width height percent b))) :
    ∃ largest, LargestPlace anchor workArea width height largest ∧ SameSize width height percent largest := by
  generalize hresult : (.ok (reducedPlacement anchor width height percent b)
    : Except AnchorPlacementUnavailable AnchorPlacement) = result at h
  cases h with
  | full b' hsized hfirst => cases congrArg AnchorPlacement.reduced (Except.ok.inj hresult)
  | reduced b' largest hsized hfull hlargest hfirst =>
    have hrect := congrArg AnchorPlacement.rect (Except.ok.inj hresult)
    exact ⟨largest, hlargest, congrArg AnchorRect.width hrect, congrArg AnchorRect.height hrect⟩
  | unavailable e h => cases hresult

/-- A percentage of the same size as the largest one places the capsule in the same way. -/
theorem reducedPlacement_congr {percent percent' : Int} {b : Beside} (h : SameSize width height percent percent') :
    reducedPlacement anchor width height percent b = reducedPlacement anchor width height percent' b := by
  unfold reducedPlacement
  rw [h.1, h.2]

/-- Reduced, the capsule is placed as it should be exactly if no size is lost to the bound. -/
theorem place_reduced_iff (hsized : Sized workArea width height) (hfull : ¬HasPlace anchor workArea width height) :
    Placed anchor workArea width height (placeConversationCapsule anchor workArea width height) ↔
      FoundUnrounded anchor workArea width height := by
  rcases place_searched hsized hfull with ⟨p, b, hsearched, hfirst, heq⟩ | ⟨hnone, e, heq⟩
  · rw [heq]
    constructor
    · intro hplaced
      obtain ⟨largest, hlargest, hsame⟩ := hplaced.sameSize
      exact (hsearched.sameSize_iff hsized hfull hlargest).mp hsame
    · intro hfound
      obtain ⟨largest, -, hlargest⟩ := exists_largestPlace hsearched.pos (hsearched.below hsized hfull) hsearched.hasPlace
      have hsame := (hsearched.sameSize_iff hsized hfull hlargest).mpr hfound
      rw [hsame.1, hsame.2] at hfirst
      rw [reducedPlacement_congr hsame]
      exact .reduced b largest hsized hfull hlargest hfirst
  · -- The search tries one percent in any case, so that there is no legal position at any size.
    have hnever : ∀ q, 1 ≤ q → ¬HasPlaceAt anchor workArea width height q :=
      fun q hpos hplace => hnone 1 le_rfl maxScalePercent_range.1 (hplace.smaller hsized hpos)
    rw [heq]
    exact ⟨fun _ q hpos _ hplace => absurd hplace (hnever q hpos),
      fun _ => .unavailable e (.inr fun q hpos _ => hnever q hpos)⟩

/-- The capsule is placed as it should be exactly if nothing makes sense, if it has a legal position at its full size, or
if no size with a legal position is larger than the work area before it is rounded. -/
theorem place_meets_iff (anchor workArea : AnchorRect) (width height : Int) :
    Placed anchor workArea width height (placeConversationCapsule anchor workArea width height) ↔
      ¬Sized workArea width height ∨ HasPlace anchor workArea width height
      ∨ FoundUnrounded anchor workArea width height := by
  by_cases hsized : Sized workArea width height
  · by_cases hfull : HasPlace anchor workArea width height
    · obtain ⟨b, hfirst, heq⟩ := place_full hsized hfull
      rw [heq]
      exact ⟨fun _ => .inr (.inl hfull), fun _ => .full b hsized hfirst⟩
    · rw [place_reduced_iff hsized hfull]
      constructor
      · exact fun hfound => .inr (.inr hfound)
      · rintro (hnot | hplace | hfound)
        · exact absurd hsized hnot
        · exact absurd hplace hfull
        · exact hfound
  · obtain ⟨e, heq⟩ := @place_unsized anchor workArea width height hsized
    rw [heq]
    exact ⟨fun _ => .inl hsized, fun _ => .unavailable e (.inl hsized)⟩

/-- A capsule of 101 by 10 above an anchor of 50 by 10 in a work area of 50 by 200: at 50 percent its width is 50, but
50 percent of 101 is more than the work area is wide before it is rounded, and the capsule is reduced to 49 percent. -/
theorem reduced_below_half : placeConversationCapsule ⟨0, 100, 50, 10⟩ ⟨0, 0, 50, 200⟩ 101 10
        = .ok { side := .upper, rect := ⟨1, 96, 49, 4⟩, fallback := [.reduceSize], reduced := true }
      ∧ ¬Placed ⟨0, 100, 50, 10⟩ ⟨0, 0, 50, 200⟩ 101 10
        (placeConversationCapsule ⟨0, 100, 50, 10⟩ ⟨0, 0, 50, 200⟩ 101 10) := by
  have heq : placeConversationCapsule ⟨0, 100, 50, 10⟩ ⟨0, 0, 50, 200⟩ 101 10
      = .ok (reducedPlacement ⟨0, 100, 50, 10⟩ 101 10 49 ⟨.upper, .far⟩) := by decide +kernel
  have hfifty : HasPlaceAt ⟨0, 100, 50, 10⟩ ⟨0, 0, 50, 200⟩ 101 10 50 :=
    ⟨⟨.upper, .far⟩, by decide, ⟨by decide, by decide, by decide, by decide⟩, .inr (.inr (.inl (by decide)))⟩
  refine ⟨heq, fun hplaced => ?_⟩
  rw [heq] at hplaced
  obtain ⟨largest, hlargest, hsame⟩ := hplaced.sameSize
  have habove : 50 ≤ largest := by
    by_contra hbelow
    exact hlargest.largest 50 (by omega) (by decide) hfifty
  have hwidth : reducedTo 50 101 ≤ reducedTo largest 101 := reducedTo_mono (by decide) habove
  rw [← hsame.1] at hwidth
  exact absurd hwidth (by decide)

end ArkClaw.Presentation.ConversationAnchor
