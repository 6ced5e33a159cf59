import ArkClaw.Library.Bisection

/-!
# The anchor of the conversation capsule

The capsule stands beside the character, at the first of twelve positions that is inside the work area and off the
anchor. Where none is at its full size, it is reduced: the loop looks for the largest percentage with a position, up to
the percentage at which the capsule is as large as the work area.
-/

namespace ArkClaw.Presentation.ConversationAnchor

open ArkClaw.Library

/-- No legal capsule rectangle exists in the supplied work area. -/
structure AnchorPlacementUnavailable where
  message : String
deriving DecidableEq, Repr

structure AnchorRect where
  x : Int
  y : Int
  width : Int
  height : Int
deriving DecidableEq, Repr

namespace AnchorRect

def right (r : AnchorRect) : Int := r.x + r.width

def bottom (r : AnchorRect) : Int := r.y + r.height

end AnchorRect

inductive Side where
  | upper | below | left | right
deriving DecidableEq, Repr

/-- The fallback a placement reports. -/
inductive Fallback where
  | reduceSize
deriving DecidableEq, Repr

structure AnchorPlacement where
  side : Side
  rect : AnchorRect
  fallback : List Fallback := []
  reduced : Bool := false
deriving DecidableEq, Repr

structure Candidate where
  side : Side
  x : Int
  y : Int
deriving DecidableEq, Repr

section

variable (anchor workArea : AnchorRect) (width height : Int)

def orderedCandidates : List Candidate :=
  let xAlignments := [anchor.right - width, anchor.x + anchor.width / 2 - width / 2, anchor.x]
  let upper : List Candidate := xAlignments.map fun x => { side := .upper, x, y := anchor.y - height }
  let below : List Candidate := xAlignments.map fun x => { side := .below, x, y := anchor.bottom }
  let yAlignments := [anchor.bottom - height, anchor.y + anchor.height / 2 - height / 2, anchor.y]
  let leftClearance := anchor.x - workArea.x
  let rightClearance := workArea.right - anchor.right
  let sideOrder : List Side := if leftClearance > rightClearance then [.left, .right] else [.right, .left]
  upper ++ below ++ sideOrder.flatMap fun side =>
    let x := if side = .left then anchor.x - width else anchor.right
    yAlignments.map fun y => ({ side, x, y } : Candidate)

def isValid (candidate : Candidate) : Bool :=
  if candidate.x < workArea.x ∨ candidate.y < workArea.y then false
  else if candidate.x + width > workArea.right then false
  else if candidate.y + height > workArea.bottom then false
  else
    decide (candidate.x + width ≤ anchor.x ∨ anchor.right ≤ candidate.x ∨ candidate.y + height ≤ anchor.y
      ∨ anchor.bottom ≤ candidate.y)

def firstValidCandidate : Option Candidate :=
  (orderedCandidates anchor workArea width height).find? (isValid anchor workArea width height)

def toPlacement (candidate : Candidate) : AnchorPlacement where
  side := candidate.side
  rect := { x := candidate.x, y := candidate.y, width, height }

def maxScalePercent : Int :=
  let widthPercent := workArea.width * 100 / width
  let heightPercent := workArea.height * 100 / height
  max 1 (min 100 (min widthPercent heightPercent))

/-- A side of the capsule, reduced. -/
def reducedTo (percent side : Int) : Int := max 1 (side * percent / 100)

/-- A candidate at a percentage, with the size it has there. -/
def reducedCandidate (percent : Int) : Option (Candidate × Int × Int) :=
  let reducedWidth := reducedTo percent width
  let reducedHeight := reducedTo percent height
  (firstValidCandidate anchor workArea reducedWidth reducedHeight).map fun candidate =>
    (candidate, reducedWidth, reducedHeight)

/-- The first legal placement for the preferred capsule size, or one of a reduced size. -/
def placeConversationCapsule : Except AnchorPlacementUnavailable AnchorPlacement :=
  if width ≤ 0 ∨ height ≤ 0 then .error ⟨"capsule size must be positive"⟩
  else if workArea.width ≤ 0 ∨ workArea.height ≤ 0 then .error ⟨"work area must be positive"⟩
  else
    match firstValidCandidate anchor workArea width height with
    | some candidate => .ok (toPlacement width height candidate)
    | none =>
      let maxPercent := maxScalePercent workArea width height
      match bisect (reducedCandidate anchor workArea width height) maxPercent.toNat 1 maxPercent none with
      | none => .error ⟨"anchor blocks every legal capsule placement"⟩
      | some (candidate, reducedWidth, reducedHeight) =>
        .ok { toPlacement reducedWidth reducedHeight candidate with fallback := [.reduceSize], reduced := true }

end

/-! ## The positions a capsule may take -/

/-- How the capsule stands along a side of the anchor: their far ends meet, their middles, or their near ends. -/
inductive Alignment where
  | far | middle | near
deriving DecidableEq, Repr

/-- A position beside the anchor. -/
structure Beside where
  side : Side
  alignment : Alignment
deriving DecidableEq, Repr

/-- Where a length begins that is aligned with an extent. -/
def Alignment.start (origin extent length : Int) : Alignment → Int
  | .far => origin + extent - length
  | .middle => origin + extent / 2 - length / 2
  | .near => origin

def alignments : List Alignment := [.far, .middle, .near]

/-- The horizontal sides, the one with more room first; the right one where they have the same. -/
def horizontalSides (anchor workArea : AnchorRect) : List Side :=
  if anchor.x - workArea.x > workArea.right - anchor.right then [.left, .right] else [.right, .left]

/-- The documented order: above, below, then the clearer side. -/
def preferences (anchor workArea : AnchorRect) : List Beside :=
  (.upper :: .below :: horizontalSides anchor workArea).flatMap fun side => alignments.map fun alignment => { side, alignment }

variable {anchor workArea : AnchorRect} {width height width' height' : Int}

/-- The rectangle at a position. -/
def Beside.rect (anchor : AnchorRect) (width height : Int) (b : Beside) : AnchorRect where
  x := match b.side with
    | .left => anchor.x - width
    | .right => anchor.right
    | _ => b.alignment.start anchor.x anchor.width width
  y := match b.side with
    | .upper => anchor.y - height
    | .below => anchor.bottom
    | _ => b.alignment.start anchor.y anchor.height height
  width
  height

def Beside.candidate (anchor : AnchorRect) (width height : Int) (b : Beside) : Candidate where
  side := b.side
  x := (b.rect anchor width height).x
  y := (b.rect anchor width height).y

theorem orderedCandidates_eq : orderedCandidates anchor workArea width height =
    (preferences anchor workArea).map (Beside.candidate anchor width height) := by
  unfold orderedCandidates preferences horizontalSides
  dsimp only
  split <;> rfl

/-- One rectangle lies in another. -/
structure Inside (workArea rect : AnchorRect) : Prop where
  left : workArea.x ≤ rect.x
  top : workArea.y ≤ rect.y
  right : rect.right ≤ workArea.right
  bottom : rect.bottom ≤ workArea.bottom

/-- One rectangle is on one side of another. -/
def Apart (anchor rect : AnchorRect) : Prop :=
  rect.right ≤ anchor.x ∨ anchor.right ≤ rect.x ∨ rect.bottom ≤ anchor.y ∨ anchor.bottom ≤ rect.y

structure Legal (anchor workArea rect : AnchorRect) : Prop where
  inside : Inside workArea rect
  apart : Apart anchor rect

/-- A capsule of this size has a legal position. -/
def HasPlace (anchor workArea : AnchorRect) (width height : Int) : Prop :=
  ∃ b ∈ preferences anchor workArea, Legal anchor workArea (b.rect anchor width height)

/-- The first legal position for a capsule of this size. -/
def IsFirst (anchor workArea : AnchorRect) (width height : Int) (b : Beside) : Prop :=
  Legal anchor workArea (b.rect anchor width height) ∧ ∃ before after, preferences anchor workArea = before ++ b :: after
    ∧ ∀ earlier ∈ before, ¬Legal anchor workArea (earlier.rect anchor width height)

theorem isValid_iff {c : Candidate} : isValid anchor workArea width height c = true ↔
    Legal anchor workArea { x := c.x, y := c.y, width, height } := by
  have hlegal : Legal anchor workArea { x := c.x, y := c.y, width, height } ↔
      (workArea.x ≤ c.x ∧ workArea.y ≤ c.y ∧ c.x + width ≤ workArea.right ∧ c.y + height ≤ workArea.bottom)
      ∧ (c.x + width ≤ anchor.x ∨ anchor.right ≤ c.x ∨ c.y + height ≤ anchor.y ∨ anchor.bottom ≤ c.y) :=
    ⟨fun h => ⟨⟨h.inside.left, h.inside.top, h.inside.right, h.inside.bottom⟩, h.apart⟩,
      fun ⟨⟨hl, ht, hr, hb⟩, hapart⟩ => ⟨⟨hl, ht, hr, hb⟩, hapart⟩⟩
  rw [hlegal]
  unfold isValid
  split_ifs <;> simp <;> omega

theorem IsFirst.hasPlace {b : Beside} (h : IsFirst anchor workArea width height b) :
    HasPlace anchor workArea width height := by
  obtain ⟨hlegal, before, after, horder, -⟩ := h
  exact ⟨b, horder ▸ List.mem_append_right before List.mem_cons_self, hlegal⟩

/-- The first candidate that is valid stands at the first legal position. -/
theorem firstValidCandidate_cases : (∃ b, IsFirst anchor workArea width height b
      ∧ firstValidCandidate anchor workArea width height = some (b.candidate anchor width height))
    ∨ ¬HasPlace anchor workArea width height ∧ firstValidCandidate anchor workArea width height = none := by
  have hvalid : ∀ b : Beside, isValid anchor workArea width height (b.candidate anchor width height) = true ↔
      Legal anchor workArea (b.rect anchor width height) := fun b => isValid_iff
  unfold firstValidCandidate
  rw [orderedCandidates_eq, List.find?_map]
  cases hfind : (preferences anchor workArea).find?
      (isValid anchor workArea width height ∘ Beside.candidate anchor width height) with
  | none =>
    refine .inr ⟨?_, rfl⟩
    rintro ⟨b, hb, hlegal⟩
    exact List.find?_eq_none.mp hfind b hb ((hvalid b).mpr hlegal)
  | some b =>
    obtain ⟨hb, before, after, horder, hbefore⟩ := List.find?_eq_some_iff_append.mp hfind
    refine .inl ⟨b, ⟨(hvalid b).mp hb, before, after, horder, fun earlier hearlier hlegal => ?_⟩, rfl⟩
    have hfails := hbefore earlier hearlier
    rw [Function.comp, (hvalid earlier).mpr hlegal] at hfails
    cases hfails

/-! ## Smaller capsules -/

/-- At every position, a smaller capsule is legal where a larger one is. -/
theorem Legal.smaller {b : Beside} (hwidth : width' ≤ width) (hheight : height' ≤ height)
    (h : Legal anchor workArea (b.rect anchor width height)) :
    Legal anchor workArea (b.rect anchor width' height') := by
  obtain ⟨⟨hleft, htop, hright, hbottom⟩, -⟩ := h
  obtain ⟨side, alignment⟩ := b
  cases side <;> cases alignment <;>
    simp only [Beside.rect, Alignment.start, AnchorRect.right, AnchorRect.bottom] at hleft htop hright hbottom <;>
    refine ⟨⟨?_, ?_, ?_, ?_⟩, ?_⟩ <;>
    simp only [Apart, Beside.rect, Alignment.start, AnchorRect.right, AnchorRect.bottom] <;> omega

theorem HasPlace.smaller (hwidth : width' ≤ width) (hheight : height' ≤ height)
    (h : HasPlace anchor workArea width height) : HasPlace anchor workArea width' height' := by
  obtain ⟨b, hb, hlegal⟩ := h
  exact ⟨b, hb, hlegal.smaller hwidth hheight⟩

variable {percent percent' side : Int}

theorem reducedTo_mono (hside : 0 < side) (hle : percent ≤ percent') : reducedTo percent side ≤ reducedTo percent' side := by
  have hscaled : side * percent ≤ side * percent' := Int.mul_le_mul_of_nonneg_left hle (Int.le_of_lt hside)
  unfold reducedTo
  omega

end ArkClaw.Presentation.ConversationAnchor
