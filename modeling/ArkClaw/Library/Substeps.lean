import ArkClaw.Library.Program
import ArkClaw.Library.Runs

/-!
# Operations in sub-steps

An operation of several sub-steps passes through points: `next p` is the sub-step at the point `p`, and answers the point
that comes after it, or none at the end. A sub-step that raises ends the operation. Between two sub-steps the system is
`Midway`. The sub-steps of a list of operations are a run of it, so a condition on the state before every sub-step is one
on the steps of that run, and what it gives of each operation holds of the run of the operations.
-/

namespace ArkClaw.Library

variable {ε σ π α : Type}

/-- The state between two sub-steps, and the point of the operation that is under way. -/
structure Midway (σ π : Type) where
  state : σ
  point : Option π := none

/-- An operation is begun, or the one that is under way goes on. -/
inductive Substep (α : Type) where
  | begins (a : α)
  | goesOn

section

variable (first : α → π) (next : π → EStateM ε σ (Option π))

/-- One sub-step; behind the end there is none. -/
def substep (m : Midway σ π) : Substep α → Midway σ π
  | .begins a => { m with point := some (first a) }
  | .goesOn =>
    match m.point with
    | none => m
    | some p =>
      match (next p).run m.state with
      | .ok q s => ⟨s, q⟩
      | .error _ s => ⟨s, none⟩

/-- The sub-steps of operations; an operation `a` has at most `n a` points. -/
def substeps (n : α → Nat) (as : List α) : List (Substep α) := as.flatMap fun a => .begins a :: List.replicate (n a) .goesOn

/-- A condition on the sub-step at a point, taken at the state the sub-step begins in. -/
def AtPoint (ok : π → σ → Prop) (m : Midway σ π) : Substep α → Prop
  | .begins _ => True
  | .goesOn => ∀ p ∈ m.point, ok p m.state

instance {ok : π → σ → Prop} [∀ p s, Decidable (ok p s)] (m : Midway σ π) :
    ∀ a : Substep α, Decidable (AtPoint ok m a)
  | .begins _ => isTrue trivial
  | .goesOn => inferInstanceAs (Decidable (∀ p ∈ m.point, ok p m.state))

theorem AtPoint.mono {ok ok' : π → σ → Prop} (h : ∀ p s, ok p s → ok' p s) {m : Midway σ π} :
    ∀ {a : Substep α}, AtPoint ok m a → AtPoint ok' m a
  | .begins _, _ => trivial
  | .goesOn, hok => fun p hp => h p m.state (hok p hp)

/-- The operation as it goes on from a point, for at most `n` sub-steps. -/
def through : Nat → π → EStateM ε σ Unit
  | 0, _ => pure ()
  | n + 1, p => do
    match ← next p with
    | none => pure ()
    | some q => through n q

end

section

variable {first : α → π} {next : π → EStateM ε σ (Option π)} {ok : π → σ → Prop} {n : α → Nat}

theorem run_ended (s : σ) (n : Nat) : run (substep first next) ⟨s, none⟩ (List.replicate n .goesOn) = ⟨s, none⟩ := by
  induction n with
  | zero => rfl
  | succ n ih => exact ih

/-- The sub-steps of an operation lead where the operation leads. -/
theorem run_goesOn (n : Nat) : ∀ (p : π) (s : σ),
    (run (substep first next) ⟨s, some p⟩ (List.replicate n .goesOn)).state = stateAfter (through next n p) s := by
  induction n with
  | zero => exact fun _ _ => rfl
  | succ n ih =>
    intro p s
    have hends : Wp (through next (n + 1) p)
        (fun _ s' => (run (substep first next) ⟨s, some p⟩ (List.replicate (n + 1) .goesOn)).state = s')
        (fun _ s' => (run (substep first next) ⟨s, some p⟩ (List.replicate (n + 1) .goesOn)).state = s') s := by
      refine wp_bind.mpr ((wp_run (next p) s).mono (fun q s' hrun => ?_) fun e s' hrun => ?_)
      · rw [List.replicate_succ, run_cons, substep]
        simp only [hrun]
        cases q with
        | none => exact wp_pure.mpr (congrArg Midway.state (run_ended s' n))
        | some q =>
          rw [ih q s']
          exact Wp.of_stateAfter rfl
      · rw [List.replicate_succ, run_cons, substep]
        simp only [hrun]
        exact congrArg Midway.state (run_ended s' n)
    exact Wp.stateAfter
      (P := fun s' => (run (substep first next) ⟨s, some p⟩ (List.replicate (n + 1) .goesOn)).state = s') hends

/-- What a sub-step comes to: the end, or a point of a lower rank. -/
def Proceeds (At : π → σ → Prop) (End : σ → Prop) (rank : π → Nat) (p : π) : Option π → σ → Prop
  | none, s => End s
  | some q, s => At q s ∧ rank q < rank p

/-- What the sub-steps keep from point to point, and establish at the end, the operation establishes. -/
theorem wp_through {At : π → σ → Prop} {End : σ → Prop} {rank : π → Nat}
    (hnext : ∀ p s, At p s → ok p s → Wp (next p) (Proceeds At End rank p) (fun _ => End) s) :
    ∀ (n : Nat) (p : π) (s : σ), rank p < n → At p s →
      StepsMeet (substep first next) (AtPoint ok) ⟨s, some p⟩ (List.replicate n .goesOn) →
      Wp (through next n p) (fun _ => End) (fun _ => End) s
  | 0, _, _, hrank, _, _ => absurd hrank (Nat.not_lt_zero _)
  | n + 1, p, s, hrank, hp, ⟨hok, hrest⟩ => by
    refine wp_bind.mpr (((hnext p s hp (hok p rfl)).and (wp_run (next p) s)).mono (fun q s' h => ?_) fun _ _ h => h.1)
    obtain ⟨hafter, hrun⟩ := h
    cases q with
    | none => exact wp_pure.mpr hafter
    | some q =>
      refine wp_through hnext n q s' (Nat.lt_of_lt_of_le hafter.2 (Nat.le_of_lt_succ hrank)) hafter.1 ?_
      have hwent : substep first next ⟨s, some p⟩ .goesOn = ⟨s', some q⟩ := by
        simp only [substep, hrun]
      rw [hwent] at hrest
      exact hrest

/-- What the sub-steps of an operation give of it, all of its sub-steps having met the condition, they give of every
operation of a run. -/
theorem StepsMeet.of_substeps {step : σ → α → σ} {I : σ → Prop} {good : σ → α → Prop}
    (hstep : ∀ s a, step s a = stateAfter (through next (n a) (first a)) s)
    (hgives : ∀ s a, I s →
      StepsMeet (substep first next) (AtPoint ok) ⟨s, some (first a)⟩ (List.replicate (n a) .goesOn) →
      I (step s a) ∧ good s a) :
    ∀ (m : Midway σ π) (as : List α), I m.state →
      StepsMeet (substep first next) (AtPoint ok) m (substeps n as) → StepsMeet step good m.state as
  | _, [], _, _ => trivial
  | m, a :: as, hm, hmeets => by
    obtain ⟨⟨-, hone⟩, hrest⟩ := StepsMeet.append_iff.mp hmeets
    obtain ⟨hinv, hgood⟩ := hgives m.state a hm hone
    have hends : (run (substep first next) m (.begins a :: List.replicate (n a) .goesOn)).state = step m.state a :=
      (run_goesOn (n a) (first a) m.state).trans (hstep m.state a).symm
    rw [← hends] at hinv
    refine ⟨hgood, ?_⟩
    rw [← hends]
    exact StepsMeet.of_substeps hstep hgives _ as hinv hrest

end

end ArkClaw.Library
