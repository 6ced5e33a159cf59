/-!
# Programs over a state that may raise

A program of type `EStateM ε σ α` runs from a state and ends in a value or in an exception. What it
wrote before the exception stays written: nothing is rolled back. `Wp c Q R s` is the weakest
precondition of such a run. The value satisfies `Q` at the state it is returned in, or the exception
satisfies `R` at the state it is raised in.

The rules are equations, so a proof runs a program by rewriting with them and meets its callees by
their own `Wp` lemmas through `Wp.mono`. `onPart` runs a program of a component inside a program of
the whole; its rule is `wp_onPart`.
-/

namespace ArkClaw.Library

variable {ε σ τ α β : Type}
variable {c : EStateM ε σ α} {Q : α → σ → Prop}

/-- The run of `c` from `s` ends in a value satisfying `Q` or in an exception satisfying `R`. -/
def Wp (c : EStateM ε σ α) (Q : α → σ → Prop) (R : ε → σ → Prop) (s : σ) : Prop :=
  match c.run s with
  | .ok a s' => Q a s'
  | .error e s' => R e s'

/-- A larger postcondition is easier to meet. -/
theorem Wp.mono {Q Q' : α → σ → Prop} {R R' : ε → σ → Prop} {s : σ}
    (h : Wp c Q R s) (hQ : ∀ a s', Q a s' → Q' a s') (hR : ∀ e s', R e s' → R' e s') : Wp c Q' R' s := by
  unfold Wp at h ⊢
  split at h
  next => exact hQ _ _ h
  next => exact hR _ _ h

theorem Wp.imp {Q Q' : α → σ → Prop} {R : ε → σ → Prop} {s : σ} (h : Wp c Q R s) (hQ : ∀ a s', Q a s' → Q' a s') :
    Wp c Q' R s :=
  h.mono hQ fun _ _ => id

/-- Equivalent postconditions are met by the same runs. -/
theorem Wp.congr {Q Q' : α → σ → Prop} {R R' : ε → σ → Prop} {s : σ}
    (hQ : ∀ a s', Q a s' ↔ Q' a s') (hR : ∀ e s', R e s' ↔ R' e s') : Wp c Q R s ↔ Wp c Q' R' s :=
  ⟨fun h => h.mono (fun a s' => (hQ a s').mp) fun e s' => (hR e s').mp,
    fun h => h.mono (fun a s' => (hQ a s').mpr) fun e s' => (hR e s').mpr⟩

/-- Two postconditions of one run hold together: the run is deterministic. -/
theorem Wp.and {Q Q' : α → σ → Prop} {R R' : ε → σ → Prop} {s : σ} (h : Wp c Q R s) (h' : Wp c Q' R' s) :
    Wp c (fun a s' => Q a s' ∧ Q' a s') (fun e s' => R e s' ∧ R' e s') s := by
  unfold Wp at h h' ⊢
  split at h
  next heq => rw [heq] at h'; exact ⟨h, h'⟩
  next heq => rw [heq] at h'; exact ⟨h, h'⟩

@[simp] theorem wp_pure {a : α} {R : ε → σ → Prop} {s : σ} : Wp (pure a) Q R s ↔ Q a s := Iff.rfl

@[simp] theorem wp_throw {e : ε} {R : ε → σ → Prop} {s : σ} : Wp (throw e) Q R s ↔ R e s := Iff.rfl

@[simp] theorem wp_bind {f : α → EStateM ε σ β} {Q : β → σ → Prop} {R : ε → σ → Prop} {s : σ} :
    Wp (c >>= f) Q R s ↔ Wp c (fun a s' => Wp (f a) Q R s') R s := by
  show Wp (EStateM.bind c f) Q R s ↔ _
  unfold Wp EStateM.run EStateM.bind
  split
  next h => split at h <;> simp_all
  next h => split at h <;> simp_all

@[simp] theorem wp_map {f : α → β} {Q : β → σ → Prop} {R : ε → σ → Prop} {s : σ} :
    Wp (f <$> c) Q R s ↔ Wp c (fun a s' => Q (f a) s') R s := by
  show Wp (EStateM.map f c) Q R s ↔ _
  unfold Wp EStateM.run EStateM.map
  split
  next h => split at h <;> simp_all
  next h => split at h <;> simp_all

@[simp] theorem wp_get {Q : σ → σ → Prop} {R : ε → σ → Prop} {s : σ} : Wp get Q R s ↔ Q s s := Iff.rfl

@[simp] theorem wp_set {s s' : σ} {Q : PUnit → σ → Prop} {R : ε → σ → Prop} :
    Wp (set s') Q R s ↔ Q ⟨⟩ s' := Iff.rfl

@[simp] theorem wp_modify {f : σ → σ} {Q : PUnit → σ → Prop} {R : ε → σ → Prop} {s : σ} :
    Wp (modify f) Q R s ↔ Q ⟨⟩ (f s) := Iff.rfl

theorem wp_get_bind {f : σ → EStateM ε σ β} {Q : β → σ → Prop} {R : ε → σ → Prop} {s : σ} :
    Wp (get >>= f) Q R s ↔ Wp (f s) Q R s := wp_bind.trans wp_get

theorem wp_modify_bind {g : σ → σ} {f : PUnit → EStateM ε σ β} {Q : β → σ → Prop} {R : ε → σ → Prop} {s : σ} :
    Wp (modify g >>= f) Q R s ↔ Wp (f ⟨⟩) Q R (g s) := wp_bind.trans wp_modify

/-- The rest of a program goes on from what the first part leaves; both raise in the same states. -/
theorem Wp.bind {P : α → σ → Prop} {f : α → EStateM ε σ β} {Q : β → σ → Prop} {R : ε → σ → Prop} {s : σ}
    (h : Wp c P R s) (hf : ∀ a s', P a s' → Wp (f a) Q R s') : Wp (c >>= f) Q R s :=
  wp_bind.mpr (h.mono hf fun _ _ => id)

theorem wp_ite {p : Prop} [Decidable p] {c d : EStateM ε σ α} {R : ε → σ → Prop} {s : σ} :
    Wp (if p then c else d) Q R s ↔ (p → Wp c Q R s) ∧ (¬p → Wp d Q R s) := by
  split <;> simp_all

/-- A check that raises where its condition holds. -/
theorem wp_check {p : Prop} [Decidable p] {e : ε} {R : ε → σ → Prop} {s : σ}
    (hR : R e s) (h : ¬p → Wp c Q R s) : Wp (do
      if p then throw e
      c) Q R s :=
  wp_ite.mpr ⟨fun _ => wp_bind.mpr (wp_throw.mpr hR), h⟩

/-- What a loop has established for the elements behind it, it has in the end established for all. -/
theorem wp_forM {I : List α → σ → Prop} {R : ε → σ → Prop} {f : α → EStateM ε σ PUnit} {l : List α}
    (h : ∀ done a rest s, l = done ++ a :: rest → I done s → Wp (f a) (fun _ => I (done ++ [a])) R s)
    {s : σ} (hs : I [] s) : Wp (l.forM f) (fun _ => I l) R s := by
  have hfrom : ∀ rest done s, l = done ++ rest → I done s → Wp (rest.forM f) (fun _ => I l) R s := by
    intro rest
    induction rest with
    | nil =>
      intro done s hl hs
      rw [List.append_nil] at hl
      exact hl ▸ hs
    | cons a rest ih =>
      intro done s hl hs
      refine wp_bind.mpr ((h done a rest s hl hs).imp (fun _ s' hs' => ?_))
      exact ih (done ++ [a]) s' (by rw [hl, List.append_assoc, List.singleton_append]) hs'
  exact hfrom l [] s rfl hs

/-- The postcondition of a run whose result is known. -/
theorem Wp.of_run {R : ε → σ → Prop} {s s' : σ} {a : α}
    (h : Wp c Q R s) (hr : c.run s = .ok a s') : Q a s' := by
  unfold Wp at h
  rw [hr] at h
  exact h

/-- The postcondition of a run that is known to raise. -/
theorem Wp.of_raise {R : ε → σ → Prop} {s s' : σ} {e : ε}
    (h : Wp c Q R s) (hr : c.run s = .error e s') : R e s' := by
  unfold Wp at h
  rw [hr] at h
  exact h

/-- A run ends in what it ends in. -/
theorem wp_run (c : EStateM ε σ α) (s : σ) :
    Wp c (fun a s' => c.run s = .ok a s') (fun e s' => c.run s = .error e s') s := by
  unfold Wp
  split <;> assumption

/-- A postcondition that amounts to one condition on either end of a run amounts to it for the run. -/
theorem Wp.iff_of {R : ε → σ → Prop} {s : σ} {C : Prop}
    (h : Wp c (fun a s' => Q a s' ↔ C) (fun e s' => R e s' ↔ C) s) : Wp c Q R s ↔ C := by
  unfold Wp at h ⊢
  split at h
  next => exact h
  next => exact h

/-- The state a run leaves behind, whether it returned or raised. -/
def stateAfter (c : EStateM ε σ α) (s : σ) : σ :=
  match c.run s with
  | .ok _ s' => s'
  | .error _ s' => s'

/-- What a run establishes on both of its ends holds of the state it leaves. -/
theorem Wp.stateAfter {P : σ → Prop} {s : σ} (h : Wp c (fun _ => P) (fun _ => P) s) : P (stateAfter c s) := by
  unfold Wp at h
  unfold ArkClaw.Library.stateAfter
  split <;> simp_all

/-- What holds of the state a run leaves, the run establishes on both of its ends. -/
theorem Wp.of_stateAfter {P : σ → Prop} {s : σ} (h : P (ArkClaw.Library.stateAfter c s)) :
    Wp c (fun _ => P) (fun _ => P) s := by
  unfold ArkClaw.Library.stateAfter at h
  unfold Wp
  split <;> simp_all

/-- The run returns a value. -/
def returns (c : EStateM ε σ α) (s : σ) : Bool :=
  match c.run s with
  | .ok _ _ => true
  | .error _ _ => false

/-- A run that is seen to return meets its postcondition in the state it leaves. -/
theorem Wp.of_returns {R : ε → σ → Prop} {s : σ} (h : Wp c Q R s)
    (hr : returns c s = true) : ∃ a, Q a (ArkClaw.Library.stateAfter c s) := by
  unfold Wp at h
  unfold returns at hr
  unfold ArkClaw.Library.stateAfter
  cases heq : c.run s with
  | ok a s' =>
    rw [heq] at h
    exact ⟨a, h⟩
  | error e s' =>
    rw [heq] at hr
    cases hr

/-! ## Programs of a component -/

/-- Run a program of the component `part` inside a program of the whole. -/
def onPart (part : σ → τ) (update : σ → τ → σ) (c : EStateM ε τ α) : EStateM ε σ α := fun s =>
  match c.run (part s) with
  | .ok a t => .ok a (update s t)
  | .error e t => .error e (update s t)

@[simp] theorem wp_onPart {part : σ → τ} {update : σ → τ → σ} {c : EStateM ε τ α} {R : ε → σ → Prop} {s : σ} :
    Wp (onPart part update c) Q R s ↔
      Wp c (fun a t => Q a (update s t)) (fun e t => R e (update s t)) (part s) := by
  show (match onPart part update c s with | .ok a s' => Q a s' | .error e s' => R e s') ↔
    (match c (part s) with | .ok a t => Q a (update s t) | .error e t => R e (update s t))
  unfold onPart EStateM.run
  cases c (part s) <;> rfl

theorem onPart_bind {part : σ → τ} {update : σ → τ → σ} {c : EStateM ε τ α} {f : α → EStateM ε τ β}
    (hpart : ∀ s t, part (update s t) = t) (hupdate : ∀ s t t', update (update s t) t' = update s t') :
    onPart part update (c >>= f) = onPart part update c >>= fun a => onPart part update (f a) := by
  funext s
  simp only [bind, EStateM.bind, onPart, EStateM.run]
  cases c (part s) with
  | ok a t => simp only [hpart, hupdate]
  | error e t => rfl

/-- Run a program and hand its exception on as a value. -/
def attempt {ε' : Type} (c : EStateM ε σ α) : EStateM ε' σ (Except ε α) := fun s =>
  match c.run s with
  | .ok a s' => .ok (.ok a) s'
  | .error e s' => .ok (.error e) s'

@[simp] theorem wp_attempt {ε' : Type} {Q : Except ε α → σ → Prop} {R : ε' → σ → Prop} {s : σ} :
    Wp (attempt c) Q R s ↔ Wp c (fun a => Q (.ok a)) (fun e => Q (.error e)) s := by
  have hrun : (attempt c : EStateM ε' σ (Except ε α)) s = match c s with
      | .ok a s' => .ok (.ok a) s'
      | .error e s' => .ok (.error e) s' := rfl
  unfold Wp EStateM.run
  rw [hrun]
  cases c s <;> rfl

theorem attempt_bind {ε' : Type} {f : α → EStateM ε σ β} :
    (attempt (c >>= f) : EStateM ε' σ (Except ε β)) = (do
      match ← (attempt c : EStateM ε' σ (Except ε α)) with
      | .ok a => attempt (f a)
      | .error e => pure (.error e)) := by
  funext s
  simp only [bind, EStateM.bind, attempt, EStateM.run]
  cases c s <;> rfl

/-- A program whose exceptions are reported as others. -/
@[simp] theorem wp_adaptExcept {ε' : Type} {report : ε → ε'} {R : ε' → σ → Prop}
    {s : σ} : Wp (c.adaptExcept report) Q R s ↔ Wp c Q (fun e => R (report e)) s := by
  have hrun : c.adaptExcept report s = match c s with
      | .ok a s' => .ok a s'
      | .error e s' => .error (report e) s' := by
    unfold EStateM.adaptExcept
    cases c s <;> rfl
  unfold Wp EStateM.run
  rw [hrun]
  cases c s <;> rfl

/-- Run a program that only reads and may raise: a plain `Except` value. -/
def getOrRaise (x : Except ε α) : EStateM ε σ α :=
  match x with
  | .ok a => pure a
  | .error e => throw e

@[simp] theorem wp_getOrRaise {x : Except ε α} {R : ε → σ → Prop} {s : σ} :
    Wp (getOrRaise x) Q R s ↔ (∀ a, x = .ok a → Q a s) ∧ (∀ e, x = .error e → R e s) := by
  cases x <;> simp [getOrRaise]

/-! ## What a run returns -/

/-- The run of `c` from `s` returns `a` in the state `s'`. -/
def Gives (c : EStateM ε σ α) (s : σ) (a : α) (s' : σ) : Prop := c.run s = .ok a s'

section

variable {s s' : σ}

@[simp] theorem gives_pure {a b : α} : Gives (pure a : EStateM ε σ α) s b s' ↔ a = b ∧ s = s' := by
  show EStateM.Result.ok a s = .ok b s' ↔ _
  rw [EStateM.Result.ok.injEq]

@[simp] theorem gives_throw {e : ε} {b : α} : ¬Gives (throw e : EStateM ε σ α) s b s' := nofun

@[simp] theorem gives_get {a : σ} : Gives (get : EStateM ε σ σ) s a s' ↔ s = a ∧ s = s' := by
  show EStateM.Result.ok s s = .ok a s' ↔ _
  rw [EStateM.Result.ok.injEq]

@[simp] theorem gives_modify {f : σ → σ} {a : PUnit} : Gives (modify f : EStateM ε σ PUnit) s a s' ↔ f s = s' := by
  show EStateM.Result.ok ⟨⟩ (f s) = .ok a s' ↔ _
  simp

@[simp] theorem gives_bind {c : EStateM ε σ α} {f : α → EStateM ε σ β} {b : β} {s'' : σ} :
    Gives (c >>= f) s b s'' ↔ ∃ a s', Gives c s a s' ∧ Gives (f a) s' b s'' := by
  unfold Gives
  show EStateM.bind c f s = .ok b s'' ↔ _
  unfold EStateM.bind EStateM.run
  cases c s with
  | ok a₀ s₀ =>
    constructor
    · intro h
      exact ⟨a₀, s₀, rfl, h⟩
    · rintro ⟨a, s', hc, hf⟩
      obtain ⟨rfl, rfl⟩ := EStateM.Result.ok.inj hc
      exact hf
  | error => simp

@[simp] theorem gives_onPart {part : σ → τ} {update : σ → τ → σ} {c : EStateM ε τ α} {a : α} :
    Gives (onPart part update c) s a s' ↔ ∃ t, Gives c (part s) a t ∧ update s t = s' := by
  unfold Gives
  show onPart part update c s = .ok a s' ↔ _
  unfold onPart EStateM.run
  cases c (part s) with
  | ok a₀ t₀ =>
    constructor
    · intro h
      obtain ⟨rfl, rfl⟩ := EStateM.Result.ok.inj h
      exact ⟨t₀, rfl, rfl⟩
    · rintro ⟨t, hc, rfl⟩
      obtain ⟨rfl, rfl⟩ := EStateM.Result.ok.inj hc
      rfl
  | error => simp

end

/-! ## Relations a run leads along -/

/-- Any two postconditions that always hold are met. -/
theorem wp_trivial (c : EStateM ε σ α) {R : ε → σ → Prop} {s : σ}
    (hQ : ∀ a s', Q a s') (hR : ∀ e s', R e s') : Wp c Q R s := by
  unfold Wp
  split
  next => exact hQ _ _
  next => exact hR _ _

/-- Every run of `c` leads along `R` from its first state to its last, whether it returns or raises. -/
def Follows (R : σ → σ → Prop) (c : EStateM ε σ α) : Prop := ∀ s, Wp c (fun _ => R s) (fun _ => R s) s

section

variable {R : σ → σ → Prop}

theorem Follows.mono {R' : σ → σ → Prop} {c : EStateM ε σ α} (h : Follows R c)
    (hR : ∀ s s', R s s' → R' s s') : Follows R' c :=
  fun s => (h s).mono (fun _ s' => hR s s') (fun _ s' => hR s s')

theorem Follows.modify {f : σ → σ} (h : ∀ s, R s (f s)) : Follows R (modify f : EStateM ε σ PUnit) := h

theorem Follows.pure [Std.Refl R] (a : α) : Follows R (pure a : EStateM ε σ α) :=
  fun s => wp_pure.mpr (Std.Refl.refl s)

theorem Follows.throw [Std.Refl R] (e : ε) : Follows R (throw e : EStateM ε σ α) :=
  fun s => wp_throw.mpr (Std.Refl.refl s)

theorem Follows.getOrRaise [Std.Refl R] (x : Except ε α) : Follows R (getOrRaise x : EStateM ε σ α) :=
  fun s => wp_getOrRaise.mpr ⟨fun _ _ => Std.Refl.refl s, fun _ _ => Std.Refl.refl s⟩

/-- What reads the state leads where it leads from any state it could have read. -/
theorem Follows.get {f : σ → EStateM ε σ α} (h : ∀ s, Follows R (f s)) : Follows R (get >>= f) :=
  fun s => wp_bind.mpr (h s s)

/-- What goes on along the relation ends along it. -/
theorem Follows.after [Trans R R R] {c : EStateM ε σ α} (h : Follows R c) {s s' : σ} (hs : R s s') :
    Wp c (fun _ => R s) (fun _ => R s) s' :=
  (h s').mono (fun _ _ => Trans.trans hs) (fun _ _ => Trans.trans hs)

theorem Follows.bind [Trans R R R] {c : EStateM ε σ α} {f : α → EStateM ε σ β} (h : Follows R c)
    (hf : ∀ a, Follows R (f a)) : Follows R (c >>= f) := fun s =>
  wp_bind.mpr ((h s).imp (fun a _ hs => (hf a).after hs))

/-- What goes on from an answer, and from none. -/
theorem Follows.bindOption [Trans R R R] {c : EStateM ε σ (Option α)} {f : Option α → EStateM ε σ β}
    (h : Follows R c) (hnone : Follows R (f none)) (hsome : ∀ a, Follows R (f (some a))) : Follows R (c >>= f) := by
  refine h.bind fun answer => ?_
  cases answer with
  | none => exact hnone
  | some a => exact hsome a

theorem Follows.map {c : EStateM ε σ α} (f : α → β) (h : Follows R c) : Follows R (f <$> c) :=
  fun s => wp_map.mpr (h s)

/-- A program and the one that stands in where it raises. -/
theorem Follows.orElse [Trans R R R] {c d : EStateM ε σ α} (h : Follows R c) (h' : Follows R d) :
    Follows R (c <|> d) := by
  intro s
  have hc := h s
  unfold Wp EStateM.run at hc
  show match (EStateM.orElse c fun _ => d) s with | .ok _ s' => R s s' | .error _ s' => R s s'
  unfold EStateM.orElse
  cases hrun : c s with
  | ok a s' =>
    rw [hrun] at hc
    exact hc
  | error e s' =>
    rw [hrun] at hc
    exact (h' s').mono (fun _ _ => Trans.trans hc) (fun _ _ => Trans.trans hc)

/-- The state a run leaves lies along the relation. -/
theorem Follows.stateAfter {c : EStateM ε σ α} (h : Follows R c) (s : σ) : R s (stateAfter c s) :=
  Wp.stateAfter (h s)

end

end ArkClaw.Library
