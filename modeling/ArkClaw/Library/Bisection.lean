import Mathlib.Order.Basic

/-!
# Bisection for the largest number that passes a test

The loop keeps what it found last at a number that passes, and goes on above it; at one that does not, it goes on below.
If with every number the smaller ones pass too, it ends with what it finds at the largest number of the range that
passes, and with nothing only if no number of the range does (`bisect_largest`).
-/

namespace ArkClaw.Library

variable {α : Type} (test : Int → Option α)

/-- `while low <= high`, with what has been found so far. -/
def bisect : Nat → Int → Int → Option α → Option α
  | 0, _, _, best => best
  | fuel + 1, low, high, best =>
    if low ≤ high then
      match test ((low + high) / 2) with
      | none => bisect fuel low ((low + high) / 2 - 1) best
      | some found => bisect fuel ((low + high) / 2 + 1) high (some found)
    else best

/-- Every number of the range has something smaller passing below it. -/
def ClosedBelow (low high : Int) : Prop := ∀ p q, low ≤ p → p ≤ q → q ≤ high → (test q).isSome → (test p).isSome

/-- What is found at the largest number of a range that passes. -/
structure FoundLargest (low high p : Int) (found : α) : Prop where
  low_le : low ≤ p
  le_high : p ≤ high
  passes : test p = some found
  largest : ∀ q, p < q → q ≤ high → test q = none

variable {test}

theorem ClosedBelow.mono {low high low' high' : Int} (h : ClosedBelow test low high) (hlow : low ≤ low')
    (hhigh : high' ≤ high) : ClosedBelow test low' high' :=
  fun p q hp hpq hq => h p q (Int.le_trans hlow hp) hpq (Int.le_trans hq hhigh)

theorem ClosedBelow.fails_above {low high p q : Int} (h : ClosedBelow test low high) (hp : low ≤ p) (hpq : p ≤ q)
    (hq : q ≤ high) (hfails : test p = none) : test q = none := by
  by_contra hpasses
  have hsome := h p q hp hpq hq (Option.isSome_iff_ne_none.mpr hpasses)
  rw [hfails] at hsome
  cases hsome

/-- The loop ends with what it finds at the largest number that passes, or with what it had if none does. -/
theorem bisect_cases {fuel : Nat} {low high : Int} (hclosed : ClosedBelow test low high) (hfuel : high - low < fuel)
    (best : Option α) : (∃ p found, FoundLargest test low high p found ∧ bisect test fuel low high best = some found)
      ∨ (∀ p, low ≤ p → p ≤ high → test p = none) ∧ bisect test fuel low high best = best := by
  induction fuel generalizing low high best with
  | zero => exact .inr ⟨fun p _ _ => by omega, rfl⟩
  | succ fuel ih =>
    rw [bisect]
    by_cases hrange : low ≤ high
    · rw [if_pos hrange]
      have hmiddle : low ≤ (low + high) / 2 ∧ (low + high) / 2 ≤ high := by omega
      cases hfound : test ((low + high) / 2) with
      | none =>
        have habove : ∀ q, (low + high) / 2 ≤ q → q ≤ high → test q = none :=
          fun q hq hhigh => hclosed.fails_above hmiddle.1 hq hhigh hfound
        have hlower : ClosedBelow test low ((low + high) / 2 - 1) := hclosed.mono (Int.le_refl _) (by omega)
        rcases ih hlower (by omega) best with ⟨p, found, hp, heq⟩ | ⟨hnone, heq⟩
        · refine .inl ⟨p, found, ⟨hp.low_le, by have := hp.le_high; omega, hp.passes, fun q hpq hq => ?_⟩, heq⟩
          by_cases hbelow : q ≤ (low + high) / 2 - 1
          · exact hp.largest q hpq hbelow
          · exact habove q (by omega) hq
        · refine .inr ⟨fun p hp hhigh => ?_, heq⟩
          by_cases hbelow : p ≤ (low + high) / 2 - 1
          · exact hnone p hp hbelow
          · exact habove p (by omega) hhigh
      | some found =>
        have hupper : ClosedBelow test ((low + high) / 2 + 1) high := hclosed.mono (by omega) (Int.le_refl _)
        rcases ih hupper (by omega) (some found) with ⟨p, found', hp, heq⟩ | ⟨hnone, heq⟩
        · exact .inl ⟨p, found', ⟨by have := hp.low_le; omega, hp.le_high, hp.passes, hp.largest⟩, heq⟩
        · exact .inl ⟨_, found, ⟨hmiddle.1, hmiddle.2, hfound, fun q hq hhigh => hnone q (by omega) hhigh⟩, heq⟩
    · rw [if_neg hrange]
      exact .inr ⟨fun p _ _ => by omega, rfl⟩

/-- With nothing found before, the loop finds the largest number that passes, or nothing if none does. -/
theorem bisect_largest {fuel : Nat} {low high : Int} (hclosed : ClosedBelow test low high) (hfuel : high - low < fuel) :
    match bisect test fuel low high none with
    | some found => ∃ p, FoundLargest test low high p found
    | none => ∀ p, low ≤ p → p ≤ high → test p = none := by
  rcases bisect_cases hclosed hfuel none with ⟨p, found, hp, heq⟩ | ⟨hnone, heq⟩
  · rw [heq]
    exact ⟨p, hp⟩
  · rw [heq]
    exact hnone

end ArkClaw.Library
