/-!
# Runs of a deterministic system

A system takes operations one at a time: `step s a` is what the operation `a` does to the state `s`.
`trace` lists the steps of a run, each with the state it starts from. An invariant of every step is an
invariant of the run; when the step keeps it only under a condition on the operation and the state
before it, the run keeps it as long as every one of its steps meets the condition.
-/

namespace ArkClaw.Library

variable {σ α : Type}
variable {Inv : σ → Prop}

/-- The state a run ends in. -/
def run (step : σ → α → σ) (s : σ) : List α → σ
  | [] => s
  | a :: as => run step (step s a) as

@[simp] theorem run_nil (step : σ → α → σ) (s : σ) : run step s [] = s := rfl

@[simp] theorem run_cons (step : σ → α → σ) (s : σ) (a : α) (as : List α) :
    run step s (a :: as) = run step (step s a) as := rfl

theorem run_append (step : σ → α → σ) (s : σ) (as bs : List α) :
    run step s (as ++ bs) = run step (run step s as) bs := by
  induction as generalizing s with
  | nil => rfl
  | cons a as ih => exact ih (step s a)

/-- Every step of a run meets the condition `ok`, taken at the state the step starts from. -/
def StepsMeet (step : σ → α → σ) (ok : σ → α → Prop) (s : σ) : List α → Prop
  | [] => True
  | a :: as => ok s a ∧ StepsMeet step ok (step s a) as

theorem StepsMeet.mono {step : σ → α → σ} {ok ok' : σ → α → Prop} (h : ∀ s a, ok s a → ok' s a) :
    ∀ {s : σ} {as : List α}, StepsMeet step ok s as → StepsMeet step ok' s as
  | _, [], _ => trivial
  | _, _ :: _, ⟨ha, has⟩ => ⟨h _ _ ha, StepsMeet.mono h has⟩

theorem StepsMeet.of_forall {step : σ → α → σ} {ok : σ → α → Prop} (h : ∀ s a, ok s a) :
    ∀ (s : σ) (as : List α), StepsMeet step ok s as
  | _, [] => trivial
  | s, a :: as => ⟨h s a, StepsMeet.of_forall h (step s a) as⟩

/-- What every step keeps, the run keeps. -/
theorem run_induction {step : σ → α → σ} {ok : σ → α → Prop}
    (keeps : ∀ s a, Inv s → ok s a → Inv (step s a)) :
    ∀ (s : σ) (as : List α), Inv s → StepsMeet step ok s as → Inv (run step s as)
  | _, [], hs, _ => hs
  | s, a :: as, hs, ⟨ha, has⟩ => run_induction keeps (step s a) as (keeps s a hs ha) has

/-- What an invariant gives of every step, every step of a run has. -/
theorem StepsMeet.of_invariant {step : σ → α → σ} {ok ok' : σ → α → Prop}
    (keeps : ∀ s a, Inv s → ok s a → Inv (step s a)) (gives : ∀ s a, Inv s → ok s a → ok' s a) :
    ∀ (s : σ) (as : List α), Inv s → StepsMeet step ok s as → StepsMeet step ok' s as
  | _, [], _, _ => trivial
  | s, a :: as, hs, ⟨ha, has⟩ =>
    ⟨gives s a hs ha, StepsMeet.of_invariant keeps gives (step s a) as (keeps s a hs ha) has⟩

/-- An invariant no condition guards is kept by every run. -/
theorem run_invariant {step : σ → α → σ}
    (keeps : ∀ s a, Inv s → Inv (step s a)) : ∀ (s : σ) (as : List α), Inv s → Inv (run step s as)
  | _, [], hs => hs
  | s, a :: as, hs => run_invariant keeps (step s a) as (keeps s a hs)

/-- What an invariant that no condition guards gives of every step, every step of a run has. -/
theorem run_gives {step : σ → α → σ} {ok : σ → α → Prop} (keeps : ∀ s a, Inv s → Inv (step s a))
    (gives : ∀ s a, Inv s → ok s a) : ∀ (s : σ) (as : List α), Inv s → StepsMeet step ok s as
  | _, [], _ => trivial
  | s, a :: as, hs => ⟨gives s a hs, run_gives keeps gives (step s a) as (keeps s a hs)⟩

theorem StepsMeet.append_iff {step : σ → α → σ} {ok : σ → α → Prop} : ∀ {s : σ} {as bs : List α},
    StepsMeet step ok s (as ++ bs) ↔ StepsMeet step ok s as ∧ StepsMeet step ok (run step s as) bs
  | _, [], _ => (and_iff_right trivial).symm
  | s, a :: as, bs => by
    show ok s a ∧ StepsMeet step ok (step s a) (as ++ bs) ↔ _
    rw [StepsMeet.append_iff, ← and_assoc]
    exact Iff.rfl

instance {step : σ → α → σ} {ok : σ → α → Prop} [∀ s a, Decidable (ok s a)] :
    ∀ (s : σ) (as : List α), Decidable (StepsMeet step ok s as)
  | _, [] => isTrue trivial
  | s, a :: as =>
    have : Decidable (StepsMeet step ok (step s a) as) := instDecidableStepsMeet (step s a) as
    inferInstanceAs (Decidable (ok s a ∧ _))

/-- A run whose steps meet the condition leads from `s` to `s'`. -/
def Reaches (step : σ → α → σ) (ok : σ → α → Prop) (s s' : σ) : Prop :=
  ∃ as, StepsMeet step ok s as ∧ run step s as = s'

theorem Reaches.refl (step : σ → α → σ) (ok : σ → α → Prop) (s : σ) : Reaches step ok s s := ⟨[], trivial, rfl⟩

theorem Reaches.tail {step : σ → α → σ} {ok : σ → α → Prop} {s s' : σ} {a : α} (h : Reaches step ok s s') (ha : ok s' a) :
    Reaches step ok s (step s' a) := by
  obtain ⟨as, has, rfl⟩ := h
  exact ⟨as ++ [a], StepsMeet.append_iff.mpr ⟨has, ha, trivial⟩, run_append step s as [a]⟩

theorem Reaches.trans {step : σ → α → σ} {ok : σ → α → Prop} {s s' s'' : σ} (h : Reaches step ok s s')
    (h' : Reaches step ok s' s'') : Reaches step ok s s'' := by
  obtain ⟨as, has, rfl⟩ := h
  obtain ⟨bs, hbs, rfl⟩ := h'
  exact ⟨as ++ bs, StepsMeet.append_iff.mpr ⟨has, hbs⟩, run_append step s as bs⟩

theorem Reaches.invariant {step : σ → α → σ} {ok : σ → α → Prop} {s s' : σ} (h : Reaches step ok s s')
    (keeps : ∀ s a, Inv s → ok s a → Inv (step s a)) (hs : Inv s) : Inv s' := by
  obtain ⟨as, has, rfl⟩ := h
  exact run_induction keeps s as hs has

/-- The states a system can be in: the ends of its runs from an initial state. -/
def Reachable (step : σ → α → σ) (init : σ → Prop) (s : σ) : Prop :=
  ∃ s₀ as, init s₀ ∧ run step s₀ as = s

/-- An invariant of the initial states and of every step holds of every reachable state. -/
theorem Reachable.invariant {step : σ → α → σ} {init : σ → Prop}
    (start : ∀ s, init s → Inv s) (keeps : ∀ s a, Inv s → Inv (step s a))
    {s : σ} (h : Reachable step init s) : Inv s := by
  obtain ⟨s₀, as, hs₀, rfl⟩ := h
  exact run_invariant keeps s₀ as (start s₀ hs₀)

end ArkClaw.Library
