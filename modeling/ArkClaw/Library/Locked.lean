import ArkClaw.Library.Coroutine
import ArkClaw.Library.Runs

/-!
# Operations behind one lock

Operations are called at any time and wait for a lock that one of them holds until it ends, across all of its
awaits. A caller may give up while it waits. Mutations do not take the lock: they run whenever nothing else
runs, also while the holder is suspended.

An invariant of the lock-free states is kept by every run if each operation, started where the invariant holds,
ends where it holds again under the interference of the mutations, and each mutation keeps it (`Locked.Keeps`,
`Locked.run_invariant`). An operation may have a precondition that holds when it is called and that everything else
keeps until it gets the lock (`Locked.KeepsCalled`). What every write keeps needs no such argument
(`Locked.step_shared`).
-/

namespace ArkClaw.Library

/-- The operations `κ` on a shared state behind its lock. -/
structure Locked (κ ι ω σ ε α : Type) where
  shared : σ
  /-- The operation that holds the lock, and what is left of it. -/
  holder : Option (κ × Coroutine ι ω σ ε α) := none
  waiting : List κ := []
  /-- The operations that have held the lock and released it, with how they ended. -/
  ended : List (κ × Except ε α) := []

/-- What may happen next. -/
inductive LockEvent (κ ω μ : Type) where
  | call (op : κ)
  | acquire (i : Nat)
  | abandon (i : Nat)
  | resume (answer : ω)
  | mutate (m : μ)

namespace Locked

variable {κ ι ω σ ε α μ : Type}

/-- Let an operation run on: it is suspended again and keeps the lock, or it ends and releases it. -/
def goOn (s : Locked κ ι ω σ ε α) (op : κ) (c : Coroutine ι ω σ ε α) : Locked κ ι ω σ ε α :=
  match c.advance s.shared with
  | (.returns a, shared) => { s with shared, holder := none, ended := (op, .ok a) :: s.ended }
  | (.raises e, shared) => { s with shared, holder := none, ended := (op, .error e) :: s.ended }
  | (c, shared) => { s with shared, holder := some (op, c) }

/-- Where the operation that holds the lock is suspended. -/
def point (s : Locked κ ι ω σ ε α) : Option ι :=
  match s.holder with
  | some (_, .awaits p _) => some p
  | _ => none

/-- One event; an event that cannot happen changes nothing. -/
def step (body : κ → Coroutine ι ω σ ε α) (mutate : μ → σ → σ) (s : Locked κ ι ω σ ε α) :
    LockEvent κ ω μ → Locked κ ι ω σ ε α
  | .call op => { s with waiting := s.waiting ++ [op] }
  | .acquire i =>
    match s.holder, s.waiting[i]? with
    | none, some op => goOn { s with waiting := s.waiting.eraseIdx i } op (body op)
    | _, _ => s
  | .abandon i => { s with waiting := s.waiting.eraseIdx i }
  | .resume answer =>
    match s.holder with
    | some (op, .awaits _ resume) => goOn s op (resume answer)
    | _ => s
  | .mutate m => { s with shared := mutate m s.shared }

section

variable (body : κ → Coroutine ι ω σ ε α) (mutate : μ → σ → σ) (ok : Option ι → σ → μ → Prop)

/-- `Inv` is an invariant of the lock-free states under the mutations `ok` allows: what the operations that
have ended left behind, and the state. -/
structure Keeps (rely : ι → σ → σ → Prop) (at_ : List (κ × Except ε α) → ι → σ → Prop)
    (Inv : List (κ × Except ε α) → σ → Prop) : Prop where
  /-- An operation that starts where the invariant holds ends where it holds again. -/
  operation : ∀ ended s op, Inv ended s →
    (body op).Wp (Coroutine.interference rely (at_ ended)) (fun a => Inv ((op, .ok a) :: ended))
    (fun e => Inv ((op, .error e) :: ended)) s
  mutation : ∀ ended s m, Inv ended s → ok none s m → Inv ended (mutate m s)
  interferes : ∀ ended p s m, at_ ended p s → ok (some p) s m → rely p s (mutate m s)
  stable : ∀ ended p s s', at_ ended p s → rely p s s' → at_ ended p s'
  refl : ∀ p s, rely p s s
  trans : ∀ p s s' s'', rely p s s' → rely p s' s'' → rely p s s''

/-- The invariant holds while the lock is free; while it is held, what is left of the holder leads there. -/
def Invariant (rely : ι → σ → σ → Prop) (at_ : List (κ × Except ε α) → ι → σ → Prop) (Inv : List (κ × Except ε α) → σ → Prop)
    (s : Locked κ ι ω σ ε α) : Prop :=
  match s.holder with
  | none => Inv s.ended s.shared
  | some (op, c) => c.Wp (Coroutine.interference rely (at_ s.ended)) (fun a => Inv ((op, .ok a) :: s.ended))
      (fun e => Inv ((op, .error e) :: s.ended)) s.shared ∧ ∃ p resume, c = .awaits p resume

/-- The mutations of a run happen where they are allowed. -/
def Allows (s : Locked κ ι ω σ ε α) : LockEvent κ ω μ → Prop
  | .mutate m => ok s.point s.shared m
  | _ => True

end

section

variable {body : κ → Coroutine ι ω σ ε α} {mutate : μ → σ → σ} {ok : Option ι → σ → μ → Prop}
  {rely : ι → σ → σ → Prop}
  {at_ : List (κ × Except ε α) → ι → σ → Prop} {Inv : List (κ × Except ε α) → σ → Prop}
variable {s : Locked κ ι ω σ ε α}

theorem Invariant.of_free (h : Invariant rely at_ Inv s) (hfree : s.holder = none) : Inv s.ended s.shared := by
  unfold Invariant at h
  rw [hfree] at h
  exact h

/-- Where the holder of the lock is suspended. -/
theorem Invariant.at_point (h : Invariant rely at_ Inv s) (hheld : s.holder ≠ none) :
    ∃ p, s.point = some p ∧ at_ s.ended p s.shared := by
  unfold Invariant at h
  unfold point
  split at h
  next hfree => exact (hheld hfree).elim
  next op c hholder =>
    obtain ⟨hc, p, resume, rfl⟩ := h
    exact ⟨p, by rw [hholder], hc.1⟩

theorem Invariant.of_held (h : Invariant rely at_ Inv s) (hheld : s.holder ≠ none) :
    ∃ p, at_ s.ended p s.shared :=
  (h.at_point hheld).imp fun _ => And.right

@[simp] theorem goOn_waiting (s : Locked κ ι ω σ ε α) (op : κ) (c : Coroutine ι ω σ ε α) :
    (goOn s op c).waiting = s.waiting := by
  unfold goOn
  split <;> rfl

theorem goOn_invariant {op : κ} {c : Coroutine ι ω σ ε α}
    (h : c.Wp (Coroutine.interference rely (at_ s.ended)) (fun a => Inv ((op, .ok a) :: s.ended))
      (fun e => Inv ((op, .error e) :: s.ended)) s.shared) : Invariant rely at_ Inv (goOn s op c) := by
  rw [← Coroutine.wp_advance] at h
  unfold goOn
  rcases hc : c.advance s.shared with ⟨c', shared⟩
  rw [hc] at h
  cases c' with
  | returns a => exact h
  | raises e => exact h
  | awaits p resume => exact ⟨h, p, resume, rfl⟩
  | runs write next =>
    exact absurd (congrArg Prod.fst hc) (Coroutine.advance_ne_runs c s.shared)

/-- One event keeps the invariant, if the operation that gets the lock leads back to it. -/
theorem step_invariant_of (hmutation : ∀ ended s m, Inv ended s → ok none s m → Inv ended (mutate m s))
    (hinterferes : ∀ ended p s m, at_ ended p s → ok (some p) s m → rely p s (mutate m s))
    (hstable : ∀ ended p s s', at_ ended p s → rely p s s' → at_ ended p s') (hrefl : ∀ p s, rely p s s)
    (htrans : ∀ p s s' s'', rely p s s' → rely p s' s'' → rely p s s'') (s : Locked κ ι ω σ ε α)
    (event : LockEvent κ ω μ) (h : Invariant rely at_ Inv s) (hok : Allows ok s event)
    (hoperation : ∀ op ∈ s.waiting, Inv s.ended s.shared →
      (body op).Wp (Coroutine.interference rely (at_ s.ended)) (fun a => Inv ((op, .ok a) :: s.ended))
        (fun e => Inv ((op, .error e) :: s.ended)) s.shared) :
    Invariant rely at_ Inv (step body mutate s event) := by
  cases event with
  | call op => exact h
  | abandon i => exact h
  | acquire i =>
    simp only [step]
    split
    next op hfree hop => exact goOn_invariant (hoperation op (List.mem_of_getElem? hop) (h.of_free hfree))
    next => exact h
  | resume answer =>
    simp only [step]
    split
    next op p resume hholder =>
      unfold Invariant at h
      rw [hholder] at h
      exact goOn_invariant (h.1.2 s.shared (hrefl _ _) answer)
    next => exact h
  | mutate m =>
    unfold Invariant at h ⊢
    show (match s.holder with | none => _ | some (op, c) => _)
    cases hholder : s.holder with
    | none =>
      rw [hholder] at h
      have hok : ok s.point s.shared m := hok
      unfold point at hok
      rw [hholder] at hok
      exact hmutation _ _ m h hok
    | some held =>
      rw [hholder] at h
      obtain ⟨op, c⟩ := held
      obtain ⟨hc, p, resume, rfl⟩ := h
      have hok : ok s.point s.shared m := hok
      unfold point at hok
      rw [hholder] at hok
      have hrely := hinterferes s.ended p s.shared m hc.1 hok
      exact ⟨⟨hstable s.ended p _ _ hc.1 hrely, fun s' hs' => hc.2 s' (htrans _ _ _ _ hrely hs')⟩, p, resume, rfl⟩

/-- One event keeps the invariant. -/
theorem step_invariant (keeps : Keeps body mutate ok rely at_ Inv) (s : Locked κ ι ω σ ε α)
    (event : LockEvent κ ω μ) (h : Invariant rely at_ Inv s) (hok : Allows ok s event) :
    Invariant rely at_ Inv (step body mutate s event) :=
  step_invariant_of keeps.mutation keeps.interferes keeps.stable keeps.refl keeps.trans s event h hok
    fun op _ hs => keeps.operation _ _ op hs

/-- A run whose mutations are all allowed keeps the invariant at its lock-free points. -/
theorem run_invariant (keeps : Keeps body mutate ok rely at_ Inv) {s₀ : Locked κ ι ω σ ε α}
    {events : List (LockEvent κ ω μ)} (hfree : s₀.holder = none) (h : Inv s₀.ended s₀.shared)
    (hok : StepsMeet (step body mutate) (Allows ok) s₀ events) :
    Invariant rely at_ Inv (run (step body mutate) s₀ events) := by
  have hstart : Invariant rely at_ Inv s₀ := by
    unfold Invariant
    rw [hfree]
    exact h
  exact run_induction (fun s event hs hok => step_invariant keeps s event hs hok) s₀ events hstart hok

end

/-! ## What every write keeps -/

section

variable {body : κ → Coroutine ι ω σ ε α} {mutate : μ → σ → σ} {P : σ → Prop}

/-- The holder of the lock keeps `P` where it runs on. -/
theorem goOn_preserves (s : Locked κ ι ω σ ε α) (op : κ) {c : Coroutine ι ω σ ε α} (h : c.Preserves P) :
    (∀ held ∈ (goOn s op c).holder, held.2.Preserves P) ∧ (P s.shared → P (goOn s op c).shared) := by
  obtain ⟨hnext, hshared⟩ := h.advance s.shared
  unfold goOn
  generalize c.advance s.shared = advanced at hnext hshared
  obtain ⟨c', shared⟩ := advanced
  cases c' with
  | returns a => exact ⟨fun held hheld => (by cases hheld), hshared⟩
  | raises e => exact ⟨fun held hheld => (by cases hheld), hshared⟩
  | runs write next =>
    refine ⟨fun held hheld => ?_, hshared⟩
    cases hheld
    exact hnext
  | awaits point resume =>
    refine ⟨fun held hheld => ?_, hshared⟩
    cases hheld
    exact hnext

/-- The holder of the lock keeps what the operations keep. -/
theorem step_holder (hbody : ∀ op, (body op).Preserves P) (s : Locked κ ι ω σ ε α) (event : LockEvent κ ω μ)
    (h : ∀ held ∈ s.holder, held.2.Preserves P) : ∀ held ∈ (step body mutate s event).holder, held.2.Preserves P := by
  cases event with
  | call op => exact h
  | abandon i => exact h
  | acquire i =>
    simp only [step]
    split
    next op hfree hop => exact (goOn_preserves _ _ (hbody op)).1
    next => exact h
  | resume answer =>
    simp only [step]
    split
    next op p resume hheld => exact (goOn_preserves _ _ (h _ hheld answer)).1
    next => exact h
  | mutate m => exact h

/-- One event keeps what the operations and this mutation keep. -/
theorem step_shared (hbody : ∀ op, (body op).Preserves P) (s : Locked κ ι ω σ ε α) (event : LockEvent κ ω μ)
    (hmutate : ∀ m, event = .mutate m → P s.shared → P (mutate m s.shared)) (h : ∀ held ∈ s.holder, held.2.Preserves P)
    (hs : P s.shared) : P (step body mutate s event).shared := by
  cases event with
  | call op => exact hs
  | abandon i => exact hs
  | acquire i =>
    simp only [step]
    split
    next op hfree hop => exact (goOn_preserves { s with waiting := s.waiting.eraseIdx i } _ (hbody op)).2 hs
    next => exact hs
  | resume answer =>
    simp only [step]
    split
    next op p resume hheld => exact (goOn_preserves s _ (h _ hheld answer)).2 hs
    next => exact hs
  | mutate m => exact hmutate m rfl hs

end

theorem goOn_ended (s : Locked κ ι ω σ ε α) (op : κ) (c : Coroutine ι ω σ ε α) {x : κ × Except ε α} (hx : x ∈ s.ended) :
    x ∈ (goOn s op c).ended := by
  unfold goOn
  split
  next => exact List.mem_cons_of_mem _ hx
  next => exact List.mem_cons_of_mem _ hx
  next => exact hx

/-- What has ended stays ended. -/
theorem step_ended (body : κ → Coroutine ι ω σ ε α) (mutate : μ → σ → σ) (s : Locked κ ι ω σ ε α) (event : LockEvent κ ω μ)
    {x : κ × Except ε α} (hx : x ∈ s.ended) : x ∈ (step body mutate s event).ended := by
  cases event with
  | call op => exact hx
  | abandon i => exact hx
  | acquire i =>
    simp only [step]
    split
    next => exact goOn_ended _ _ _ hx
    next => exact hx
  | resume answer =>
    simp only [step]
    split
    next => exact goOn_ended _ _ _ hx
    next => exact hx
  | mutate m => exact hx

/-! ## Operations with a precondition -/

section

variable (body : κ → Coroutine ι ω σ ε α) (mutate : μ → σ → σ) (ok : Option ι → σ → μ → Prop) (pre : κ → σ → Prop)

/-- `Inv` is an invariant of the lock-free states, as for `Keeps`, of operations that are called where their
precondition holds. -/
structure KeepsCalled (rely : ι → σ → σ → Prop) (at_ : List (κ × Except ε α) → ι → σ → Prop)
    (Inv : List (κ × Except ε α) → σ → Prop) : Prop where
  operation : ∀ ended s op, Inv ended s → pre op s →
    (body op).Wp (Coroutine.interference rely (at_ ended)) (fun a => Inv ((op, .ok a) :: ended))
    (fun e => Inv ((op, .error e) :: ended)) s
  mutation : ∀ ended s m, Inv ended s → ok none s m → Inv ended (mutate m s)
  interferes : ∀ ended p s m, at_ ended p s → ok (some p) s m → rely p s (mutate m s)
  stable : ∀ ended p s s', at_ ended p s → rely p s s' → at_ ended p s'
  refl : ∀ p s, rely p s s
  trans : ∀ p s s' s'', rely p s s' → rely p s' s'' → rely p s s''
  /-- Nothing takes the precondition of an operation away that waits for the lock. -/
  preserves : ∀ op op', (body op).Preserves (pre op')
  mutates : ∀ point s m op, ok point s m → pre op s → pre op (mutate m s)

/-- The preconditions of what waits hold, and the holder of the lock keeps them. -/
structure Called (s : Locked κ ι ω σ ε α) : Prop where
  waiting : ∀ op ∈ s.waiting, pre op s.shared
  holder : ∀ held ∈ s.holder, ∀ op, held.2.Preserves (pre op)

/-- The operations of a run are called and its mutations happen where they are allowed. -/
def AllowsCalls (s : Locked κ ι ω σ ε α) : LockEvent κ ω μ → Prop
  | .call op => pre op s.shared
  | event => Allows ok s event

end

section

variable {body : κ → Coroutine ι ω σ ε α} {mutate : μ → σ → σ} {ok : Option ι → σ → μ → Prop} {pre : κ → σ → Prop}
  {rely : ι → σ → σ → Prop}
  {at_ : List (κ × Except ε α) → ι → σ → Prop} {Inv : List (κ × Except ε α) → σ → Prop}

theorem AllowsCalls.allows {s : Locked κ ι ω σ ε α} {event : LockEvent κ ω μ} (h : AllowsCalls ok pre s event) :
    Allows ok s event := by
  cases event with
  | call op => exact trivial
  | _ => exact h

theorem step_called (keeps : KeepsCalled body mutate ok pre rely at_ Inv) (s : Locked κ ι ω σ ε α)
    (event : LockEvent κ ω μ) (h : Called pre s) (hok : AllowsCalls ok pre s event) :
    Called pre (step body mutate s event) := by
  cases event with
  | call op =>
    refine ⟨fun op' hop' => ?_, h.holder⟩
    rcases List.mem_append.mp hop' with hop' | hop'
    · exact h.waiting op' hop'
    · obtain rfl := List.mem_singleton.mp hop'
      exact hok
  | abandon i => exact ⟨fun op' hop' => h.waiting op' (List.mem_of_mem_eraseIdx hop'), h.holder⟩
  | acquire i =>
    simp only [step]
    split
    next op hfree hop =>
      have hgoOn := fun op' => goOn_preserves { s with waiting := s.waiting.eraseIdx i } op (keeps.preserves op op')
      refine ⟨fun op' hop' => (hgoOn op').2 (h.waiting op' ?_), fun held hheld op' => (hgoOn op').1 held hheld⟩
      rw [goOn_waiting] at hop'
      exact List.mem_of_mem_eraseIdx hop'
    next => exact h
  | resume answer =>
    simp only [step]
    split
    next op p resume hheld =>
      have hgoOn := fun op' => goOn_preserves s op (h.holder _ hheld op' answer)
      refine ⟨fun op' hop' => (hgoOn op').2 (h.waiting op' ?_), fun held hheld op' => (hgoOn op').1 held hheld⟩
      rw [goOn_waiting] at hop'
      exact hop'
    next => exact h
  | mutate m =>
    refine ⟨fun op hop => ?_, h.holder⟩
    exact keeps.mutates s.point s.shared m op hok (h.waiting op hop)

/-- One event keeps the invariant and the preconditions. -/
theorem step_invariant_called (keeps : KeepsCalled body mutate ok pre rely at_ Inv) (s : Locked κ ι ω σ ε α)
    (event : LockEvent κ ω μ) (h : Invariant rely at_ Inv s) (hcalled : Called pre s)
    (hok : AllowsCalls ok pre s event) : Invariant rely at_ Inv (step body mutate s event) :=
  step_invariant_of keeps.mutation keeps.interferes keeps.stable keeps.refl keeps.trans s event h hok.allows
    fun op hop hs => keeps.operation _ _ op hs (hcalled.waiting op hop)

end

end Locked

end ArkClaw.Library
