import Mathlib.Data.List.Forall2

/-!
# Checks that refuse

A sequence of checks that each refuse or return a value. It returns if every check of it does.
-/

namespace ArkClaw.Library

variable {ε α β : Type}
variable {f : α → Except ε β} {xs : List α}

theorem check_bind_ok {c : Except ε α} {b : β} : (c >>= f) = .ok b ↔ ∃ a, c = .ok a ∧ f a = .ok b := by
  cases c <;> simp [bind, Except.bind]

theorem check_bind_error {c : Except ε α} {e : ε} :
    (c >>= f) = .error e ↔ c = .error e ∨ ∃ a, c = .ok a ∧ f a = .error e := by
  cases c <;> simp [bind, Except.bind]

theorem check_pure_error {a : α} {e : ε} : (pure a : Except ε α) = .error e ↔ False := by
  simp [pure, Except.pure]

theorem check_pure_ok {a b : α} : (pure a : Except ε α) = .ok b ↔ a = b := by
  simp [pure, Except.pure]

/-- Every element is checked, and returned as its check returns it. -/
theorem check_mapM_ok {ys : List β} : xs.mapM f = .ok ys ↔ List.Forall₂ (fun x y => f x = .ok y) xs ys := by
  induction xs generalizing ys with
  | nil =>
    rw [List.mapM_nil, check_pure_ok, List.forall₂_nil_left_iff, eq_comm]
  | cons x rest ih =>
    simp only [List.mapM_cons, check_bind_ok, check_pure_ok, List.forall₂_cons_left_iff, ih]
    constructor
    · rintro ⟨y, hy, ys', hrest, rfl⟩
      exact ⟨y, ys', hy, hrest, rfl⟩
    · rintro ⟨y, ys', hy, hrest, rfl⟩
      exact ⟨y, hy, ys', hrest, rfl⟩

/-- What is returned was returned for an element. -/
theorem check_mapM_mem {ys : List β} (h : xs.mapM f = .ok ys) : ∀ y ∈ ys, ∃ x ∈ xs, f x = .ok y := by
  induction check_mapM_ok.mp h with
  | nil => nofun
  | cons hy hrest ih =>
    intro y hmem
    rcases List.mem_cons.mp hmem with rfl | hmem
    · exact ⟨_, List.mem_cons_self, hy⟩
    · obtain ⟨x, hx, hcheck⟩ := ih (check_mapM_ok.mpr hrest) y hmem
      exact ⟨x, List.mem_cons_of_mem _ hx, hcheck⟩

theorem check_mapM_exists : (∃ ys, xs.mapM f = .ok ys) ↔ ∀ x ∈ xs, ∃ y, f x = .ok y := by
  induction xs with
  | nil => exact ⟨fun _ => nofun, fun _ => ⟨[], rfl⟩⟩
  | cons x rest ih =>
    simp only [List.mapM_cons, check_bind_ok, check_pure_ok, List.forall_mem_cons, ← ih]
    constructor
    · rintro ⟨_, y, hy, ys, hys, -⟩
      exact ⟨⟨y, hy⟩, ys, hys⟩
    · rintro ⟨⟨y, hy⟩, ys, hys⟩
      exact ⟨_, y, hy, ys, hys, rfl⟩

/-- What is refused is refused for an element. -/
theorem check_mapM_error {e : ε} (h : xs.mapM f = .error e) : ∃ x ∈ xs, f x = .error e := by
  induction xs with
  | nil =>
    rw [List.mapM_nil] at h
    exact (check_pure_error.mp h).elim
  | cons x rest ih =>
    simp only [List.mapM_cons, check_bind_error, check_pure_error, and_false, exists_false, or_false] at h
    rcases h with h | ⟨_, -, h⟩
    · exact ⟨x, List.mem_cons_self, h⟩
    · obtain ⟨y, hy, hcheck⟩ := ih h
      exact ⟨y, List.mem_cons_of_mem _ hy, hcheck⟩

/-- Elements that are each returned as they are. -/
theorem check_mapM_id {f : α → Except ε α} (h : ∀ x ∈ xs, f x = .ok x) : xs.mapM f = .ok xs := by
  rw [check_mapM_ok, List.forall₂_same]
  exact h

end ArkClaw.Library
