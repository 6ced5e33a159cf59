import ArkClaw.Library.Coroutine

/-!
# A component inside a whole

`within` runs a coroutine of a component inside a whole: its writes are writes of the component, and where it awaits, a
program of the whole answers, which may suspend itself but raises nothing. The rules take such a coroutine apart as it
is written; `Wp.within` carries over what is known of the component alone.
-/

namespace ArkClaw.Library.Coroutine

variable {ι κ ω ω' σ τ ε α β : Type}

/-- A coroutine that raises nothing, where exceptions are expected. -/
def quiet : Coroutine ι ω σ Empty α → Coroutine ι ω σ ε α
  | returns a => returns a
  | raises e => e.elim
  | runs write next => runs write fun s => (next s).quiet
  | awaits point resume => awaits point fun answer => (resume answer).quiet

/-- A coroutine of the component `part`, its awaits answered by programs of the whole. -/
def within (part : τ → σ) (update : τ → σ → τ) (answer : ι → Coroutine κ ω' τ Empty ω) :
    Coroutine ι ω σ ε α → Coroutine κ ω' τ ε α
  | returns a => returns a
  | raises e => raises e
  | runs write next => runs (fun t => update t (write (part t))) fun t => (next (part t)).within part update answer
  | awaits point resume => (quiet (answer point)).bind fun w => (resume w).within part update answer

section

variable {rely : κ → τ → τ → Prop} {at_ : κ → τ → Prop}

@[simp] theorem wp_quiet {c : Coroutine κ ω τ Empty α} {Q : α → τ → Prop} {R : ε → τ → Prop} {t : τ} :
    (quiet c : Coroutine κ ω τ ε α).Wp (interference rely at_) Q R t ↔
      c.Wp (interference rely at_) Q (fun e _ => e.elim) t := by
  induction c generalizing t with
  | returns a => exact Iff.rfl
  | raises e => exact e.elim
  | runs write next ih => exact ih t
  | awaits point resume ih =>
    exact and_congr Iff.rfl (forall_congr' fun t' => forall_congr' fun _ => forall_congr' fun answer => ih answer)

theorem Preserves.quiet {P : τ → Prop} {c : Coroutine κ ω τ Empty α} (h : c.Preserves P) :
    (Coroutine.quiet c : Coroutine κ ω τ ε α).Preserves P := by
  induction c with
  | returns a => exact trivial
  | raises e => exact e.elim
  | runs write next ih => exact ⟨h.1, fun t => ih t (h.2 t)⟩
  | awaits point resume ih => exact fun answer => ih answer (h answer)

theorem bind_assoc {γ : Type} (c : Coroutine ι ω σ ε α) (f : α → Coroutine ι ω σ ε β) (g : β → Coroutine ι ω σ ε γ) :
    (c.bind f).bind g = c.bind fun a => (f a).bind g := by
  induction c with
  | returns a => rfl
  | raises e => rfl
  | runs write next ih => exact congrArg (runs write) (funext ih)
  | awaits point resume ih => exact congrArg (awaits point) (funext ih)

end

section

variable {part : τ → σ} {update : τ → σ → τ} {answer : ι → Coroutine κ ω' τ Empty ω} {c : Coroutine ι ω σ ε α}

theorem within_bind (f : α → Coroutine ι ω σ ε β) : (c >>= f).within part update answer =
    c.within part update answer >>= fun a => (f a).within part update answer := by
  show (c.bind f).within part update answer =
    (c.within part update answer).bind fun a => (f a).within part update answer
  induction c with
  | returns a => rfl
  | raises e => rfl
  | runs write next ih => exact congrArg (runs _) (funext fun t => ih (part t))
  | awaits point resume ih =>
    exact Eq.trans (congrArg ((quiet (answer point)).bind ·) (funext ih)) (bind_assoc _ _ _).symm

theorem within_ite {p : Prop} [Decidable p] {d : Coroutine ι ω σ ε α} :
    (if p then c else d).within part update answer =
      if p then c.within part update answer else d.within part update answer := by
  split <;> rfl

/-- The component and the answers keep `P`. -/
theorem Preserves.within {P : τ → Prop} (hupdate : ∀ t s, P t → P (update t s)) (hanswer : ∀ p, (answer p).Preserves P) :
    (c.within part update answer).Preserves P := by
  induction c with
  | returns a => exact trivial
  | raises e => exact trivial
  | runs write next ih => exact ⟨fun t => hupdate t _, fun t => ih (part t)⟩
  | awaits point resume ih => exact Preserves.bind (hanswer point).quiet ih

end

/-! ## The rules -/

section

variable {part : τ → σ} {update : τ → σ → τ} {answer : ι → Coroutine κ ω' τ Empty ω} {rely : κ → τ → τ → Prop}
  {at_ : κ → τ → Prop} {c : Coroutine ι ω σ ε α} {Q : α → τ → Prop} {R : ε → τ → Prop} {t : τ}

theorem wp_within_bind {Q : β → τ → Prop} (f : α → Coroutine ι ω σ ε β) :
    ((c >>= f).within part update answer).Wp (interference rely at_) Q R t ↔
      (c.within part update answer).Wp (interference rely at_)
        (fun a t' => ((f a).within part update answer).Wp (interference rely at_) Q R t') R t := by
  rw [within_bind, wp_bind]

@[simp] theorem wp_within_get {Q : σ → τ → Prop} :
    ((get : Coroutine ι ω σ ε σ).within part update answer).Wp (interference rely at_) Q R t ↔
      Q (part t) (update t (part t)) := Iff.rfl

@[simp] theorem wp_within_modify {Q : PUnit → τ → Prop} (f : σ → σ) :
    ((modify f : Coroutine ι ω σ ε PUnit).within part update answer).Wp (interference rely at_) Q R t ↔
      Q ⟨⟩ (update t (f (part t))) := Iff.rfl

@[simp] theorem wp_within_await {Q : ω → τ → Prop} (point : ι) :
    ((await point : Coroutine ι ω σ ε ω).within part update answer).Wp (interference rely at_) Q R t ↔
      (answer point).Wp (interference rely at_) Q (fun e _ => e.elim) t := by
  refine (wp_bind (c := quiet (answer point))).trans (wp_quiet.trans ?_)
  exact Iff.rfl

theorem wp_within_ite {p : Prop} [Decidable p] {d : Coroutine ι ω σ ε α} :
    ((if p then c else d).within part update answer).Wp (interference rely at_) Q R t ↔
      (p → (c.within part update answer).Wp (interference rely at_) Q R t) ∧
        (¬p → (d.within part update answer).Wp (interference rely at_) Q R t) := by
  rw [within_ite, wp_ite]

/-- What the component does alone it does inside the whole, if every answer leaves it as others would; with it holds
what the answers keep of the rest. -/
theorem Wp.within {rely₀ : ι → σ → σ → Prop} {at₀ : ι → σ → Prop} {Q : α → σ → Prop} {R : ε → σ → Prop} {J : τ → Prop}
    (hupdate : ∀ t s, part (update t s) = s) (hkept : ∀ t s, J t → J (update t s))
    (hanswer : ∀ p t, J t → at₀ p (part t) →
      (answer p).Wp (interference rely at_) (fun _ t' => rely₀ p (part t) (part t') ∧ J t') (fun e _ => e.elim) t)
    (ht : J t) (h : c.Wp (interference rely₀ at₀) Q R (part t)) :
    (c.within part update answer).Wp (interference rely at_) (fun a t' => Q a (part t') ∧ J t')
      (fun e t' => R e (part t') ∧ J t') t := by
  induction c generalizing t with
  | returns a => exact ⟨h, ht⟩
  | raises e => exact ⟨h, ht⟩
  | runs write next ih => exact ih (part t) (hkept t _ ht) (hupdate t _ ▸ h)
  | awaits point resume ih =>
    refine (wp_bind (c := quiet (answer point))).mpr (wp_quiet.mpr ((hanswer point t ht h.1).mono ?_ fun e _ => e.elim))
    rintro w t' ⟨hrely, ht'⟩
    exact ih w ht' (h.2 (part t') hrely w)

end

end ArkClaw.Library.Coroutine
