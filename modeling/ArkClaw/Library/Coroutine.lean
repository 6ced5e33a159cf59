import ArkClaw.Library.Program

/-!
# Coroutines over a shared state

A coroutine runs from one await to the next without interruption. It is suspended at a point `ι` and resumed with an
answer `ω`. It ends in a value or in an exception, and what it wrote before an exception stays written.

`Coroutine.Wp` is its weakest precondition under an interpretation of its awaits. Under `interference` others may
change the state along `rely p` while the coroutine is suspended at `p`, and every answer may come; `wp_iff_ends`
says that this covers every run; `chance` is its dual, and under `answered` only some answers come. Under `served` some
awaits are answered by a program of the same state: that is how the consumer of a generator takes what is yielded.
-/

namespace ArkClaw.Library

/-- A program that may be suspended. `runs write next` writes the state and goes on from what it read before. -/
inductive Coroutine (ι ω σ ε α : Type) where
  | returns (a : α)
  | raises (e : ε)
  | runs (write : σ → σ) (next : σ → Coroutine ι ω σ ε α)
  | awaits (point : ι) (resume : ω → Coroutine ι ω σ ε α)

namespace Coroutine

variable {ι κ ω σ ε ε' α β : Type}
variable {trace : List (ι × ω)} {r : Except ε α}

def bind : Coroutine ι ω σ ε α → (α → Coroutine ι ω σ ε β) → Coroutine ι ω σ ε β
  | returns a, f => f a
  | raises e, _ => raises e
  | runs write next, f => runs write fun s => (next s).bind f
  | awaits point resume, f => awaits point fun answer => (resume answer).bind f

/-- Run a coroutine and hand its exception on as a value. -/
def attempt : Coroutine ι ω σ ε α → Coroutine ι ω σ ε' (Except ε α)
  | returns a => returns (.ok a)
  | raises e => returns (.error e)
  | runs write next => runs write fun s => (next s).attempt
  | awaits point resume => awaits point fun answer => (resume answer).attempt

instance : Monad (Coroutine ι ω σ ε) where
  pure := returns
  bind := bind

instance : MonadStateOf σ (Coroutine ι ω σ ε) where
  get := runs id returns
  set s := runs (fun _ => s) fun _ => returns ⟨⟩
  modifyGet f := runs (fun s => (f s).2) fun s => returns (f s).1

/-- `raise`. -/
def raise (e : ε) : Coroutine ι ω σ ε α := raises e

/-- Suspend at a point and go on with the answer. -/
def await (point : ι) : Coroutine ι ω σ ε ω := awaits point returns

/-- A program that never suspends. -/
def lift (c : EStateM ε σ α) : Coroutine ι ω σ ε α :=
  runs (stateAfter c) fun s => match c.run s with
    | .ok a _ => returns a
    | .error e _ => raises e

/-- Answer some awaits by a program, and pass the others on. -/
def serve (handler : ι → κ ⊕ EStateM ε σ ω) : Coroutine ι ω σ ε α → Coroutine κ ω σ ε α
  | returns a => returns a
  | raises e => raises e
  | runs write next => runs write fun s => (next s).serve handler
  | awaits point resume => match handler point with
    | .inl point => awaits point fun answer => (resume answer).serve handler
    | .inr c => (lift c).bind fun answer => (resume answer).serve handler

/-- A coroutine of the component `part` inside the whole. -/
def onPart {τ : Type} (part : τ → σ) (update : τ → σ → τ) : Coroutine ι ω σ ε α → Coroutine ι ω τ ε α
  | returns a => returns a
  | raises e => raises e
  | runs write next => runs (fun t => update t (write (part t))) fun t => (next (part t)).onPart part update
  | awaits point resume => awaits point fun answer => (resume answer).onPart part update

/-- Run a coroutine until it is suspended or ends. -/
def advance : Coroutine ι ω σ ε α → σ → Coroutine ι ω σ ε α × σ
  | returns a, s => (returns a, s)
  | raises e, s => (raises e, s)
  | runs write next, s => (next s).advance (write s)
  | awaits point resume, s => (awaits point resume, s)

section

variable {c : Coroutine ι ω σ ε α} {f : α → Coroutine ι ω σ ε β} {s s' : σ}

/-- Running on never stops at a write. -/
theorem advance_ne_runs (c : Coroutine ι ω σ ε α) (s : σ) {write : σ → σ} {next : σ → Coroutine ι ω σ ε α} :
    (c.advance s).1 ≠ runs write next := by
  induction c generalizing s with
  | returns a => simp [advance]
  | raises e => simp [advance]
  | runs write' next' ih => exact ih s (write' s)
  | awaits point resume => simp [advance]

theorem advance_bind_returns {a : α} (h : c.advance s = (returns a, s')) : (c >>= f).advance s = (f a).advance s' := by
  show (c.bind f).advance s = _
  induction c generalizing s with
  | returns b =>
    obtain ⟨rfl, rfl⟩ : b = a ∧ s = s' := by simpa [advance] using h
    rfl
  | raises e => simp [advance] at h
  | runs write next ih => exact ih s h
  | awaits point resume ih => simp [advance] at h

theorem advance_bind_awaits {point : ι} {resume : ω → Coroutine ι ω σ ε α} (h : c.advance s = (awaits point resume, s')) :
    (c >>= f).advance s = (awaits point fun answer => resume answer >>= f, s') := by
  show (c.bind f).advance s = _
  induction c generalizing s with
  | returns b => simp [advance] at h
  | raises e => simp [advance] at h
  | runs write next ih => exact ih s h
  | awaits p r ih =>
    simp only [advance, Prod.mk.injEq, awaits.injEq] at h
    obtain ⟨⟨rfl, rfl⟩, rfl⟩ := h
    rfl

end

/-! ## Weakest preconditions -/

/-- What is required of the state at an await, for the postconditions of what follows. -/
structure Interpretation (ι ω σ ε : Type) where
  wp : ι → (ω → σ → Prop) → (ε → σ → Prop) → σ → Prop
  mono : ∀ {p Q Q' R R' s}, wp p Q R s → (∀ w s', Q w s' → Q' w s') → (∀ e s', R e s' → R' e s') → wp p Q' R' s

/-- While the coroutine is suspended at `p`, where `at_ p` holds, others act along `rely p`; any answer comes. -/
def interference (rely : ι → σ → σ → Prop) (at_ : ι → σ → Prop) : Interpretation ι ω σ ε where
  wp p Q _ s := at_ p s ∧ ∀ s', rely p s s' → ∀ w, Q w s'
  mono h hQ _ := ⟨h.1, fun s' hs' w => hQ w s' (h.2 s' hs' w)⟩

/-- Some answer comes, after something that others may do along `rely p`. -/
def chance (rely : ι → σ → σ → Prop) : Interpretation ι ω σ ε where
  wp p Q _ s := ∃ s', rely p s s' ∧ ∃ w, Q w s'
  mono h hQ _ := by
    obtain ⟨s', hs', w, hw⟩ := h
    exact ⟨s', hs', w, hQ w s' hw⟩

/-- Others act along `rely p`, and the answer is one of `answers p`. -/
def answered (rely : ι → σ → σ → Prop) (answers : ι → ω → Prop) : Interpretation ι ω σ ε where
  wp p Q _ s := ∀ s', rely p s s' → ∀ w, answers p w → Q w s'
  mono h hQ _ s' hs' w hw := hQ w s' (h s' hs' w hw)

/-- The awaits a handler serves are met as its programs are. -/
def served (handler : ι → κ ⊕ EStateM ε σ ω) (I : Interpretation κ ω σ ε) : Interpretation ι ω σ ε where
  wp p Q R s := match handler p with
    | .inl p => I.wp p Q R s
    | .inr c => ArkClaw.Library.Wp c Q R s
  mono {p Q Q' R R' s} h hQ hR := by
    cases hp : handler p with
    | inl p =>
      simp only [hp] at h
      exact I.mono h hQ hR
    | inr c =>
      simp only [hp] at h
      exact h.mono hQ hR

/-- The coroutine ends in a value satisfying `Q` or in an exception satisfying `R`. -/
def Wp (I : Interpretation ι ω σ ε) :
    Coroutine ι ω σ ε α → (α → σ → Prop) → (ε → σ → Prop) → σ → Prop
  | returns a, Q, _, s => Q a s
  | raises e, _, R, s => R e s
  | runs write next, Q, R, s => (next s).Wp I Q R (write s)
  | awaits point resume, Q, R, s => I.wp point (fun answer s' => (resume answer).Wp I Q R s') R s

section

variable {I : Interpretation ι ω σ ε} {rely : ι → σ → σ → Prop} {at_ : ι → σ → Prop} {c : Coroutine ι ω σ ε α}
  {Q Q' : α → σ → Prop} {R R' : ε → σ → Prop} {s : σ}

/-- A larger postcondition is easier to meet. -/
theorem Wp.mono (h : c.Wp I Q R s) (hQ : ∀ a s', Q a s' → Q' a s') (hR : ∀ e s', R e s' → R' e s') :
    c.Wp I Q' R' s := by
  induction c generalizing s with
  | returns a => exact hQ a s h
  | raises e => exact hR e s h
  | runs write next ih => exact ih s h
  | awaits point resume ih => exact I.mono h (fun answer _ => ih answer) hR

theorem Wp.imp (h : c.Wp I Q R s) (hQ : ∀ a s', Q a s' → Q' a s') : c.Wp I Q' R s := h.mono hQ fun _ _ => id

/-- Less may be said of the states the coroutine is suspended in. -/
theorem Wp.weaken {at_' : ι → σ → Prop} (h : c.Wp (interference rely at_) Q R s) (hat : ∀ p s', at_ p s' → at_' p s') :
    c.Wp (interference rely at_') Q R s := by
  induction c generalizing s with
  | returns a => exact h
  | raises e => exact h
  | runs write next ih => exact ih s h
  | awaits point resume ih => exact ⟨hat _ _ h.1, fun s' hs' answer => ih answer (h.2 s' hs' answer)⟩

/-- What two preconditions say of a coroutine holds together. -/
theorem Wp.and {at_' : ι → σ → Prop} (h : c.Wp (interference rely at_) Q R s)
    (h' : c.Wp (interference rely at_') Q' R' s) :
    c.Wp (interference rely fun p s' => at_ p s' ∧ at_' p s') (fun a s' => Q a s' ∧ Q' a s')
      (fun e s' => R e s' ∧ R' e s') s := by
  induction c generalizing s with
  | returns a => exact ⟨h, h'⟩
  | raises e => exact ⟨h, h'⟩
  | runs write next ih => exact ih s h h'
  | awaits point resume ih =>
    exact ⟨⟨h.1, h'.1⟩, fun s' hs' answer => ih answer (h.2 s' hs' answer) (h'.2 s' hs' answer)⟩

@[simp] theorem wp_pure {a : α} : (pure a : Coroutine ι ω σ ε α).Wp I Q R s ↔ Q a s := Iff.rfl

@[simp] theorem wp_raise {e : ε} : (raise e : Coroutine ι ω σ ε α).Wp I Q R s ↔ R e s := Iff.rfl

@[simp] theorem wp_bind {Q : β → σ → Prop} {f : α → Coroutine ι ω σ ε β} :
    (c >>= f).Wp I Q R s ↔ c.Wp I (fun a s' => (f a).Wp I Q R s') R s := by
  show (c.bind f).Wp I Q R s ↔ _
  induction c generalizing s with
  | returns a => exact Iff.rfl
  | raises e => exact Iff.rfl
  | runs write next ih => exact ih s
  | awaits point resume ih =>
    exact ⟨fun h => I.mono h (fun answer s' => (ih answer).mp) fun _ _ => id,
      fun h => I.mono h (fun answer s' => (ih answer).mpr) fun _ _ => id⟩

@[simp] theorem wp_attempt {Q : Except ε α → σ → Prop} {R : ε' → σ → Prop} :
    (c.attempt).Wp (interference rely at_) Q R s ↔
      c.Wp (interference rely at_) (fun a => Q (.ok a)) (fun e => Q (.error e)) s := by
  induction c generalizing s with
  | returns a => exact Iff.rfl
  | raises e => exact Iff.rfl
  | runs write next ih => exact ih s
  | awaits point resume ih =>
    exact and_congr Iff.rfl (forall_congr' fun s' => forall_congr' fun _ => forall_congr' fun answer => ih answer)

@[simp] theorem wp_get {Q : σ → σ → Prop} : (get : Coroutine ι ω σ ε σ).Wp I Q R s ↔ Q s s := Iff.rfl

@[simp] theorem wp_modify {Q : PUnit → σ → Prop} {f : σ → σ} :
    (modify f : Coroutine ι ω σ ε PUnit).Wp I Q R s ↔ Q ⟨⟩ (f s) := Iff.rfl

@[simp] theorem wp_await {Q : ω → σ → Prop} {point : ι} :
    (await point : Coroutine ι ω σ ε ω).Wp I Q R s ↔ I.wp point Q R s := Iff.rfl

@[simp] theorem wp_lift (c : EStateM ε σ α) :
    (lift c : Coroutine ι ω σ ε α).Wp I Q R s ↔ ArkClaw.Library.Wp c Q R s := by
  show (match c.run s with | .ok a _ => returns a | .error e _ => raises e :
    Coroutine ι ω σ ε α).Wp I Q R (stateAfter c s) ↔ _
  unfold ArkClaw.Library.Wp stateAfter
  cases c.run s <;> exact Iff.rfl

theorem wp_ite {p : Prop} [Decidable p] {d : Coroutine ι ω σ ε α} :
    (if p then c else d).Wp I Q R s ↔ (p → c.Wp I Q R s) ∧ (¬p → d.Wp I Q R s) := by
  split <;> simp_all

/-- What a coroutine does of its component, it does of it inside the whole, if others change the component along
`rely`. -/
theorem Wp.onPart {τ : Type} {part : τ → σ} {update : τ → σ → τ} {rely' : ι → τ → τ → Prop} {at_' : ι → τ → Prop}
    {Q' : α → τ → Prop} {R' : ε → τ → Prop} {t : τ} (hupdate : ∀ t s, part (update t s) = s)
    (hrely : ∀ p t t', rely' p t t' → rely p (part t) (part t')) (hat : ∀ p t, at_ p (part t) → at_' p t)
    (hQ : ∀ a t, Q a (part t) → Q' a t) (hR : ∀ e t, R e (part t) → R' e t)
    (h : c.Wp (interference rely at_) Q R (part t)) : (c.onPart part update).Wp (interference rely' at_') Q' R' t := by
  induction c generalizing t with
  | returns a => exact hQ a t h
  | raises e => exact hR e t h
  | runs write next ih => exact ih (part t) (hupdate t _ ▸ h)
  | awaits point resume ih =>
    refine ⟨hat point t h.1, fun t' ht' answer => ?_⟩
    exact ih answer (h.2 (part t') (hrely point t t' ht') answer)

/-- Running on to the next await keeps the precondition. -/
theorem wp_advance : (c.advance s).1.Wp I Q R (c.advance s).2 ↔ c.Wp I Q R s := by
  induction c generalizing s with
  | returns a => exact Iff.rfl
  | raises e => exact Iff.rfl
  | runs write next ih => exact ih s
  | awaits point resume ih => exact Iff.rfl

end

/-! ## Runs -/

/-- A run of the coroutine to its end, with what others do at its awaits. -/
inductive Ends (rely : ι → σ → σ → Prop) : Coroutine ι ω σ ε α → σ → Except ε α → σ → Prop
  | returns (a : α) (s : σ) : Ends rely (.returns a) s (.ok a) s
  | raises (e : ε) (s : σ) : Ends rely (.raises e) s (.error e) s
  | runs {write next s r s'} : Ends rely (next s) (write s) r s' → Ends rely (.runs write next) s r s'
  | awaits {point resume s s' answer r s''} : rely point s s' → Ends rely (resume answer) s' r s'' →
      Ends rely (.awaits point resume) s r s''

/-- A coroutine whose awaits are answered comes to an end. -/
theorem exists_ends [Inhabited ω] {rely : ι → σ → σ → Prop} (hrely : ∀ p s, ∃ s', rely p s s')
    (c : Coroutine ι ω σ ε α) (s : σ) : ∃ r s', Ends rely c s r s' := by
  induction c generalizing s with
  | returns a => exact ⟨_, _, .returns a s⟩
  | raises e => exact ⟨_, _, .raises e s⟩
  | runs write next ih =>
    obtain ⟨r, s', hends⟩ := ih s (write s)
    exact ⟨r, s', .runs hends⟩
  | awaits point resume ih =>
    obtain ⟨s', hs'⟩ := hrely point s
    obtain ⟨r, s'', hends⟩ := ih default s'
    exact ⟨r, s'', .awaits hs' hends⟩

/-- What chance may meet is met by a run. -/
theorem Wp.exists_end {rely : ι → σ → σ → Prop} {c : Coroutine ι ω σ ε α} {P : Except ε α → σ → Prop} {s : σ}
    (h : c.Wp (chance rely) (fun a => P (.ok a)) (fun e => P (.error e)) s) : ∃ r s', Ends rely c s r s' ∧ P r s' := by
  induction c generalizing s with
  | returns a => exact ⟨_, _, .returns a s, h⟩
  | raises e => exact ⟨_, _, .raises e s, h⟩
  | runs write next ih =>
    obtain ⟨r, s', hends, hr⟩ := ih s h
    exact ⟨r, s', .runs hends, hr⟩
  | awaits point resume ih =>
    obtain ⟨s', hs', answer, hanswer⟩ := h
    obtain ⟨r, s'', hends, hr⟩ := ih answer hanswer
    exact ⟨r, s'', .awaits hs' hends, hr⟩

/-- The weakest precondition under interference is what every run establishes. -/
theorem wp_iff_ends {rely : ι → σ → σ → Prop} {c : Coroutine ι ω σ ε α} {P : Except ε α → σ → Prop} {s : σ} :
    c.Wp (interference rely fun _ _ => True) (fun a => P (.ok a)) (fun e => P (.error e)) s ↔
      ∀ r s', Ends rely c s r s' → P r s' := by
  induction c generalizing s with
  | returns a =>
    refine ⟨fun h r s' hends => ?_, fun h => h _ _ (.returns a s)⟩
    cases hends
    exact h
  | raises e =>
    refine ⟨fun h r s' hends => ?_, fun h => h _ _ (.raises e s)⟩
    cases hends
    exact h
  | runs write next ih =>
    refine ⟨fun h r s' hends => ?_, fun h => (ih s).mpr fun r s' hends => h r s' (.runs hends)⟩
    cases hends with
    | runs hends => exact (ih s).mp h r s' hends
  | awaits point resume ih =>
    refine ⟨fun h r s' hends => ?_, fun h => ⟨trivial, fun s' hs' answer => ?_⟩⟩
    · cases hends with
      | awaits hrely hends => exact (ih _).mp (h.2 _ hrely _) r s' hends
    · exact (ih answer).mpr fun r s'' hends => h r s'' (.awaits hs' hends)

/-- A run of the coroutine to its end, with the answers its awaits get. -/
inductive Traces (rely : ι → σ → σ → Prop) : Coroutine ι ω σ ε α → σ → List (ι × ω) → Except ε α → σ → Prop
  | returns (a : α) (s : σ) : Traces rely (.returns a) s [] (.ok a) s
  | raises (e : ε) (s : σ) : Traces rely (.raises e) s [] (.error e) s
  | runs {write next s trace r s'} : Traces rely (next s) (write s) trace r s' →
      Traces rely (.runs write next) s trace r s'
  | awaits {point resume s s' answer trace r s''} : rely point s s' → Traces rely (resume answer) s' trace r s'' →
      Traces rely (.awaits point resume) s ((point, answer) :: trace) r s''

theorem Traces.ends {rely : ι → σ → σ → Prop} {c : Coroutine ι ω σ ε α} {s s' : σ}
    (h : Traces rely c s trace r s') : Ends rely c s r s' := by
  induction h with
  | returns a s => exact .returns a s
  | raises e s => exact .raises e s
  | runs _ ih => exact .runs ih
  | awaits hrely _ ih => exact .awaits hrely ih

/-- A run starts by running on to the first await. -/
theorem traces_advance {rely : ι → σ → σ → Prop} {c : Coroutine ι ω σ ε α} {s s' : σ} :
    Traces rely (c.advance s).1 (c.advance s).2 trace r s' ↔ Traces rely c s trace r s' := by
  induction c generalizing s with
  | returns a => exact Iff.rfl
  | raises e => exact Iff.rfl
  | runs write next ih =>
    refine (ih s).trans ⟨.runs, fun h => ?_⟩
    cases h with
    | runs h => exact h
  | awaits point resume ih => exact Iff.rfl

/-- A coroutine whose awaits get such answers comes to an end. -/
theorem exists_traces (rely : ι → σ → σ → Prop) (answers : ι → ω → Prop) (hrely : ∀ p s, ∃ s', rely p s s')
    (hanswers : ∀ p, ∃ w, answers p w) (c : Coroutine ι ω σ ε α) (s : σ) :
    ∃ trace r s', Traces rely c s trace r s' ∧ ∀ step ∈ trace, answers step.1 step.2 := by
  induction c generalizing s with
  | returns a => exact ⟨_, _, _, .returns a s, nofun⟩
  | raises e => exact ⟨_, _, _, .raises e s, nofun⟩
  | runs write next ih =>
    obtain ⟨trace, r, s', htrace, htrue⟩ := ih s (write s)
    exact ⟨trace, r, s', .runs htrace, htrue⟩
  | awaits point resume ih =>
    obtain ⟨s', hs'⟩ := hrely point s
    obtain ⟨answer, hanswer⟩ := hanswers point
    obtain ⟨trace, r, s'', htrace, htrue⟩ := ih answer s'
    exact ⟨_, r, s'', .awaits hs' htrace, List.forall_mem_cons.mpr ⟨hanswer, htrue⟩⟩

/-- What the weakest precondition says of the answers is what every run establishes that got them. -/
theorem Traces.answered {rely : ι → σ → σ → Prop} {c : Coroutine ι ω σ ε α} {P : Except ε α → σ → Prop} {s s' : σ}
    (h : Traces rely c s trace r s') (answers : ι → ω → Prop) (hanswers : ∀ step ∈ trace, answers step.1 step.2)
    (hwp : c.Wp (Coroutine.answered rely answers) (fun a => P (.ok a)) (fun e => P (.error e)) s) : P r s' := by
  induction h with
  | returns a s => exact hwp
  | raises e s => exact hwp
  | runs _ ih => exact ih hanswers hwp
  | awaits hrely _ ih =>
    obtain ⟨hanswer, hanswers⟩ := List.forall_mem_cons.mp hanswers
    exact ih hanswers (hwp _ hrely _ hanswer)

/-- Others may do less than what is allowed where the coroutine is suspended. -/
theorem Wp.narrow {rely rely' : ι → σ → σ → Prop} {at_ : ι → σ → Prop} {c : Coroutine ι ω σ ε α} {Q : α → σ → Prop}
    {R : ε → σ → Prop} {s : σ} (h : c.Wp (interference rely at_) Q R s)
    (hrely : ∀ p s s', at_ p s → rely' p s s' → rely p s s') : c.Wp (interference rely' at_) Q R s := by
  induction c generalizing s with
  | returns a => exact h
  | raises e => exact h
  | runs write next ih => exact ih s h
  | awaits point resume ih => exact ⟨h.1, fun s' hs' answer => ih answer (h.2 s' (hrely point s s' h.1 hs') answer)⟩

/-- Where a run is suspended. -/
theorem Traces.points {rely : ι → σ → σ → Prop} {at_ : ι → σ → Prop} {c : Coroutine ι ω σ ε α} {Q : α → σ → Prop}
    {R : ε → σ → Prop} {s s' : σ} (h : Traces rely c s trace r s')
    (hwp : c.Wp (interference rely at_) Q R s) : ∀ step ∈ trace, ∃ s, at_ step.1 s := by
  induction h with
  | returns a s => nofun
  | raises e s => nofun
  | runs _ ih => exact ih hwp
  | awaits hrely _ ih =>
    exact List.forall_mem_cons.mpr ⟨⟨_, hwp.1⟩, ih (hwp.2 _ hrely _)⟩

/-! ## Served awaits -/

theorem Interpretation.congr (I : Interpretation ι ω σ ε) {p : ι} {Q Q' : ω → σ → Prop} {R : ε → σ → Prop} {s : σ}
    (hQ : ∀ w s', Q w s' ↔ Q' w s') : I.wp p Q R s ↔ I.wp p Q' R s :=
  ⟨fun h => I.mono h (fun w s' => (hQ w s').mp) fun _ _ => id, fun h => I.mono h (fun w s' => (hQ w s').mpr) fun _ _ => id⟩

/-- A coroutine with some awaits served does what it does where they are answered so. -/
@[simp] theorem wp_serve {handler : ι → κ ⊕ EStateM ε σ ω} {I : Interpretation κ ω σ ε} {c : Coroutine ι ω σ ε α}
    {Q : α → σ → Prop} {R : ε → σ → Prop} {s : σ} :
    (c.serve handler).Wp I Q R s ↔ c.Wp (served handler I) Q R s := by
  induction c generalizing s with
  | returns a => exact Iff.rfl
  | raises e => exact Iff.rfl
  | runs write next ih => exact ih s
  | awaits point resume ih =>
    unfold serve
    cases hpoint : handler point with
    | inl p =>
      simp only [Wp, served, hpoint]
      exact I.congr fun answer _ => ih answer
    | inr d =>
      refine (wp_bind (c := lift d)).trans ((wp_lift d).trans ?_)
      simp only [Wp, served, hpoint]
      exact ArkClaw.Library.Wp.congr (fun answer _ => ih answer) fun _ _ => Iff.rfl

/-! ## Coroutines that only read -/

/-- The coroutine only reads the state; it is suspended at points of `P` only, and what it returns is in `Q`. -/
def Reads (P : ι → Prop) : Coroutine ι ω σ ε α → (α → Prop) → Prop
  | returns a, Q => Q a
  | raises _, _ => True
  | runs write next, Q => write = id ∧ ∀ s, (next s).Reads P Q
  | awaits point resume, Q => P point ∧ ∀ answer, (resume answer).Reads P Q

section

variable {P : ι → Prop} {Q : α → Prop} {c : Coroutine ι ω σ ε α}

theorem Reads.bind {Q' : β → Prop} {f : α → Coroutine ι ω σ ε β} (h : c.Reads P Q) (hf : ∀ a, Q a → (f a).Reads P Q') :
    (c >>= f).Reads P Q' := by
  show (c.bind f).Reads P Q'
  induction c with
  | returns a => exact hf a h
  | raises e => exact trivial
  | runs write next ih => exact ⟨h.1, fun s => ih s (h.2 s)⟩
  | awaits point resume ih => exact ⟨h.1, fun answer => ih answer (h.2 answer)⟩

theorem Reads.get {f : σ → Coroutine ι ω σ ε α} (hf : ∀ s, (f s).Reads P Q) :
    ((MonadState.get : Coroutine ι ω σ ε σ) >>= f).Reads P Q :=
  ⟨rfl, hf⟩

theorem Reads.await {point : ι} {f : ω → Coroutine ι ω σ ε α} (hpoint : P point) (hf : ∀ answer, (f answer).Reads P Q) :
    (Coroutine.await point >>= f).Reads P Q :=
  ⟨hpoint, hf⟩

theorem Reads.ite {p : Prop} [Decidable p] {d : Coroutine ι ω σ ε α} (hc : p → c.Reads P Q) (hd : ¬p → d.Reads P Q) :
    (if p then c else d).Reads P Q := by
  split
  next hp => exact hc hp
  next hp => exact hd hp

/-- The awaits outside `P` do not matter. -/
def Interpretation.atPoints (P : ι → Prop) (I : Interpretation ι ω σ ε) : Interpretation ι ω σ ε where
  wp p Q R s := P p → I.wp p Q R s
  mono h hQ hR hp := I.mono (h hp) hQ hR

/-- What holds if the awaits outside `P` do not matter holds where the coroutine never comes to them. -/
theorem Wp.of_reads {I : Interpretation ι ω σ ε} {Q' : α → σ → Prop} {R : ε → σ → Prop} {s : σ}
    (h : c.Wp (I.atPoints P) Q' R s) (hreads : c.Reads P Q) : c.Wp I Q' R s := by
  induction c generalizing s with
  | returns a => exact h
  | raises e => exact h
  | runs write next ih => exact ih s h (hreads.2 s)
  | awaits point resume ih => exact I.mono (h hreads.1) (fun answer s' hs' => ih answer hs' (hreads.2 answer)) fun _ _ => id

end

/-- Go on with an answer, or start. -/
def proceed (answer : ω) : Coroutine ι ω σ ε α → Coroutine ι ω σ ε α
  | awaits _ resume => resume answer
  | c => c

/-! ## What every write keeps -/

/-- Every write of the coroutine keeps `P`. -/
def Preserves (P : σ → Prop) : Coroutine ι ω σ ε α → Prop
  | returns _ => True
  | raises _ => True
  | runs write next => (∀ s, P s → P (write s)) ∧ ∀ s, (next s).Preserves P
  | awaits _ resume => ∀ answer, (resume answer).Preserves P

section

variable {P : σ → Prop} {c : Coroutine ι ω σ ε α} {s : σ}

theorem Preserves.bind {f : α → Coroutine ι ω σ ε β} (hc : c.Preserves P) (hf : ∀ a, (f a).Preserves P) :
    (c >>= f).Preserves P := by
  show (c.bind f).Preserves P
  induction c with
  | returns a => exact hf a
  | raises e => exact trivial
  | runs write next ih => exact ⟨hc.1, fun s => ih s (hc.2 s)⟩
  | awaits point resume ih => exact fun answer => ih answer (hc answer)

theorem Preserves.modify {f : σ → σ} (h : ∀ s, P s → P (f s)) :
    (modify f : Coroutine ι ω σ ε PUnit).Preserves P :=
  ⟨h, fun _ => trivial⟩

theorem Preserves.attempt (hc : c.Preserves P) : (c.attempt : Coroutine ι ω σ ε' _).Preserves P := by
  induction c with
  | returns a => exact trivial
  | raises e => exact trivial
  | runs write next ih => exact ⟨hc.1, fun s => ih s (hc.2 s)⟩
  | awaits point resume ih => exact fun answer => ih answer (hc answer)

theorem Preserves.get : (get : Coroutine ι ω σ ε σ).Preserves P := ⟨fun _ => id, fun _ => trivial⟩

theorem Preserves.ite {p : Prop} [Decidable p] {d : Coroutine ι ω σ ε α} (hc : c.Preserves P) (hd : d.Preserves P) :
    (if p then c else d).Preserves P := by
  split
  next => exact hc
  next => exact hd

theorem Preserves.lift {d : EStateM ε σ α} (h : ∀ s, P s → P (stateAfter d s)) : (Coroutine.lift d :
    Coroutine ι ω σ ε α).Preserves P := by
  refine ⟨h, fun s => ?_⟩
  dsimp only
  split <;> exact trivial

theorem Preserves.serve {handler : ι → κ ⊕ EStateM ε σ ω} (hc : c.Preserves P)
    (hserved : ∀ p d, handler p = .inr d → ∀ s, P s → P (stateAfter d s)) : (c.serve handler).Preserves P := by
  induction c with
  | returns a => exact trivial
  | raises e => exact trivial
  | runs write next ih => exact ⟨hc.1, fun s => ih s (hc.2 s)⟩
  | awaits point resume ih =>
    unfold Coroutine.serve
    cases hpoint : handler point with
    | inl p => exact fun answer => ih answer (hc answer)
    | inr d => exact Preserves.bind (Preserves.lift (hserved point d hpoint)) fun answer => ih answer (hc answer)

theorem Reads.preserves {at_ : ι → Prop} {Q : α → Prop} (h : c.Reads at_ Q) : c.Preserves P := by
  induction c with
  | returns a => exact trivial
  | raises e => exact trivial
  | runs write next ih =>
    obtain ⟨rfl, hnext⟩ := h
    exact ⟨fun _ => id, fun s => ih s (hnext s)⟩
  | awaits point resume ih => exact fun answer => ih answer (h.2 answer)

theorem Preserves.proceed (hc : c.Preserves P) (answer : ω) : (c.proceed answer).Preserves P := by
  cases c with
  | returns a => exact hc
  | raises e => exact hc
  | runs write next => exact hc
  | awaits point resume => exact hc answer

/-- What every write keeps and others keep holds wherever the coroutine is suspended, and at its end. -/
theorem Preserves.wp {rely : ι → σ → σ → Prop} (hc : c.Preserves P) (hrely : ∀ p s s', P s → rely p s s' → P s') (hs : P s) :
    c.Wp (interference rely fun _ => P) (fun _ => P) (fun _ => P) s := by
  induction c generalizing s with
  | returns a => exact hs
  | raises e => exact hs
  | runs write next ih => exact ih s (hc.2 s) (hc.1 s hs)
  | awaits point resume ih => exact ⟨hs, fun s' hs' answer => ih answer (hc answer) (hrely point s s' hs hs')⟩

/-- Running on keeps what every write keeps. -/
theorem Preserves.advance (hc : c.Preserves P) (s : σ) : (c.advance s).1.Preserves P ∧ (P s → P (c.advance s).2) := by
  induction c generalizing s with
  | returns a => exact ⟨trivial, id⟩
  | raises e => exact ⟨trivial, id⟩
  | runs write next ih =>
    obtain ⟨hnext, hwrite⟩ := ih s (hc.2 s) (write s)
    exact ⟨hnext, fun hs => hwrite (hc.1 s hs)⟩
  | awaits point resume ih => exact ⟨hc, id⟩

end

end Coroutine

end ArkClaw.Library
