import ArkClaw.Pet.Scheduler
import ArkClaw.Library.Runs

/-!
# What the scheduler does with boundary events

Each evaluation is described once: what it ignores, what it consumes, and what it decides. Over a run the boundaries of
a playback are consumed in order as long as the playback is watched; entered again, it is watched from its start.
-/

namespace ArkClaw.Pet

open ArkClaw.Library

namespace AutonomousActionScheduler

theorem wp_sampleDwell (rng : RandomSource) (state : AutonomousState) (n : Nat)
    {Q : Option Rat → Nat → Prop} {R : PetError → Nat → Prop} (h : ∀ dwell draws, Q dwell draws) :
    Wp (sampleDwell rng state) Q R n := by
  unfold sampleDwell
  split
  next => exact h _ _
  next =>
    simp only [RandomSource.drawUniform, wp_map, wp_bind, wp_get, wp_set, wp_pure]
    exact h _ _

/-! ## The choice of a destination -/

/-- The destination can be chosen: it has weight in the row, its action is available, and it is another state where
staying is excluded. -/
structure Choosable (current : AutonomousState) (capabilities : List ProductionAction) (excludeStay : Bool)
    (destination : AutonomousState) : Prop where
  weighs : ∃ row weight, weights current = some row ∧ (destination, weight) ∈ row ∧ 0 < weight
  available : actionByState destination ∈ capabilities
  leaves : excludeStay = true → destination ≠ current

/-- A ticket below the weights' sum falls on one of the destinations. -/
theorem pickWeighted_of_lt {ticket cumulative : Nat} {available : List (AutonomousState × Nat)}
    (hlow : cumulative ≤ ticket) (hhigh : ticket < cumulative + (available.map Prod.snd).sum) :
    ∃ destination weight, pickWeighted ticket cumulative available = some destination ∧
      (destination, weight) ∈ available := by
  induction available generalizing cumulative with
  | nil =>
    simp only [List.map_nil, List.sum_nil] at hhigh
    omega
  | cons entry rest ih =>
    obtain ⟨destination, weight⟩ := entry
    simp only [List.map_cons, List.sum_cons] at hhigh
    unfold pickWeighted
    by_cases hhere : ticket < cumulative + weight
    · rw [if_pos hhere]
      exact ⟨destination, weight, rfl, List.mem_cons_self⟩
    · rw [if_neg hhere]
      have hlow' : cumulative + weight ≤ ticket := not_lt.mp hhere
      obtain ⟨other, weight', hpick, hmem⟩ := ih hlow' (by omega)
      exact ⟨other, weight', hpick, List.mem_cons_of_mem _ hmem⟩

/-- Every row gives relaxing some weight. -/
theorem relax_weighs {current : AutonomousState} {row : List (AutonomousState × Nat)} (h : weights current = some row) :
    ∃ weight, (AutonomousState.relax, weight) ∈ row ∧ 0 < weight := by
  cases current <;> simp only [weights, Option.some.injEq, reduceCtorEq] at h <;> subst h <;>
    exact ⟨_, List.mem_cons_self, by decide⟩

/-- A chosen destination can be chosen, or it is relaxing on and nothing can be chosen. -/
theorem selectDestination_spec (rng : RandomSource) (current : AutonomousState) (capabilities : List ProductionAction)
    (excludeStay : Bool) (n : Nat) : Wp (selectDestination rng current capabilities excludeStay)
      (fun choice _ => ∀ destination, choice = some destination →
        Choosable current capabilities excludeStay destination ∨
          destination = current ∧ ∀ other, ¬Choosable current capabilities excludeStay other)
      (fun _ _ => False) n := by
  unfold selectDestination
  split
  next => simp
  next row hrow =>
    dsimp only
    generalize havailable : row.filter _ = available
    have hmem : ∀ destination weight, (destination, weight) ∈ available ↔ (destination, weight) ∈ row ∧ 0 < weight ∧
        actionByState destination ∈ capabilities ∧ (excludeStay = true → destination ≠ current) := by
      intro destination weight
      rw [← havailable, List.mem_filter]
      cases excludeStay <;> simp
    have hchoosable : ∀ destination, Choosable current capabilities excludeStay destination ↔
        ∃ weight, (destination, weight) ∈ available := by
      intro destination
      constructor
      · rintro ⟨⟨row', weight, hrow', hin, hpos⟩, hcapable, hleaves⟩
        obtain rfl : row = row' := Option.some.inj (hrow.symm.trans hrow')
        exact ⟨weight, (hmem destination weight).mpr ⟨hin, hpos, hcapable, hleaves⟩⟩
      · rintro ⟨weight, hin⟩
        obtain ⟨hin, hpos, hcapable, hleaves⟩ := (hmem destination weight).mp hin
        exact ⟨⟨row, weight, hrow, hin, hpos⟩, hcapable, hleaves⟩
    split
    next htotal =>
      -- nothing has weight: relaxing is left only where the pet relaxes
      have hnone : ∀ other, ¬Choosable current capabilities excludeStay other := by
        intro other hother
        obtain ⟨weight, hin⟩ := (hchoosable other).mp hother
        have hpos := ((hmem other weight).mp hin).2.1
        have hzero := List.sum_eq_zero_iff_forall_eq_nat.mp htotal weight (List.mem_map.mpr ⟨(other, weight), hin, rfl⟩)
        omega
      simp only [wp_pure]
      intro destination hdestination
      split at hdestination
      next hrelax =>
        obtain rfl := Option.some.inj hdestination
        apply Or.inr
        refine ⟨?_, hnone⟩
        by_contra hother
        obtain ⟨weight, hin, hpos⟩ := relax_weighs hrow
        exact hnone .relax ⟨⟨row, weight, hrow, hin, hpos⟩, hrelax, fun _ => hother⟩
      next => cases hdestination
    next htotal =>
      simp only [RandomSource.drawRandrange, wp_bind, wp_get, wp_set, wp_pure]
      have hticket := rng.randrange_lt n _ (Nat.pos_of_ne_zero htotal)
      obtain ⟨destination, weight, hpick, hin⟩ := pickWeighted_of_lt (Nat.zero_le _) (by simpa using hticket)
      rw [hpick]
      intro destination' hdestination
      obtain rfl := Option.some.inj hdestination
      exact Or.inl ((hchoosable destination).mpr ⟨weight, hin⟩)

/-! ## One evaluation -/

/-- The event is of another playback, or of a boundary that was consumed. -/
def Stale (state : AutonomousSchedulerState) (event : AutonomousBoundaryEvent) : Prop :=
  state.playbackGeneration.map (fun g => (g : Int)) ≠ some event.generation ∨
    state.playbackToken ≠ some event.playbackToken ∨ event.boundaryIndex ≤ state.lastConsumedBoundaryIndex

/-- Relaxing has gone on for a minute. -/
def Overdue (state : AutonomousSchedulerState) (event : AutonomousBoundaryEvent) : Prop :=
  state.lastCommittedState = .relax ∧ state.eligibilityStartedAt + 60 ≤ event.observedAt

instance (state : AutonomousSchedulerState) (event : AutonomousBoundaryEvent) : Decidable (Overdue state event) :=
  inferInstanceAs (Decidable (_ ∧ _))

/-- What an evaluation from draw `n` on decides. -/
structure Decides (state : AutonomousSchedulerState) (snapshot : AutonomousRuntimeSnapshot)
    (event : Option AutonomousBoundaryEvent) (n : Nat) (decision : AutonomousSchedulerDecision) (n' : Nat) : Prop where
  ignores : snapshot.executionMode ≠ .autonomous ∨ (∀ e ∈ event, Stale state e) →
    n' = n ∧ decision.proposedState = none ∧ decision.intent = none ∧ decision.stay = false ∧
      decision.state = { state with proposalEligible := decision.state.proposalEligible }
  consumes : snapshot.executionMode = .autonomous → ∀ e, event = some e → ¬Stale state e →
    decision.state.lastConsumedBoundaryIndex = e.boundaryIndex
  playback : decision.state.playbackGeneration = state.playbackGeneration ∧
    decision.state.playbackToken = state.playbackToken
  due : decision.stay = true ∨ decision.proposedState ≠ none → ∃ e dwell, event = some e ∧
    state.dwellTargetSeconds = some dwell ∧
    (state.enteredAt + dwell ≤ e.observedAt ∨ 2 ≤ state.consecutiveStays ∨ Overdue state e)
  stays : decision.state.consecutiveStays = state.consecutiveStays + (if decision.stay then 1 else 0)
  leaves : decision.stay = true → 2 ≤ state.consecutiveStays →
    ∀ other, ¬Choosable state.lastCommittedState snapshot.capabilities true other
  proposes : ∀ destination, decision.proposedState = some destination →
    Choosable state.lastCommittedState snapshot.capabilities true destination

theorem matchesNewBoundary_iff {state : AutonomousSchedulerState} {event : AutonomousBoundaryEvent} :
    matchesNewBoundary state event = true ↔ ¬Stale state event := by
  simp [matchesNewBoundary, Stale]

theorem proposalDue_iff {state : AutonomousSchedulerState} {event : AutonomousBoundaryEvent} :
    proposalDue state event = true ↔ ∃ dwell, state.dwellTargetSeconds = some dwell ∧
      (state.enteredAt + dwell ≤ event.observedAt ∨ 2 ≤ state.consecutiveStays ∨ Overdue state event) := by
  unfold proposalDue Overdue
  cases state.dwellTargetSeconds with
  | none => simp
  | some dwell =>
    simp only [Bool.decide_or, Bool.decide_and, Bool.or_eq_true, Bool.and_eq_true, decide_eq_true_eq,
      Option.some.injEq, exists_eq_left']
    constructor
    · rintro (h | h | h)
      · exact Or.inr (Or.inr h)
      · exact Or.inr (Or.inl h)
      · exact Or.inl h
    · rintro (h | h | h)
      · exact Or.inr (Or.inr h)
      · exact Or.inr (Or.inl h)
      · exact Or.inl h

/-- The evaluation of any event in any state decides; it never raises. -/
theorem evaluate_decides (rng : RandomSource) (state : AutonomousSchedulerState) (snapshot : AutonomousRuntimeSnapshot)
    (event : Option AutonomousBoundaryEvent) (requestToken : ObjectId) (n : Nat) :
    Wp (evaluate rng state snapshot event requestToken) (Decides state snapshot event n) (fun _ _ => False) n := by
  unfold evaluate
  by_cases hmode : snapshot.executionMode = .autonomous
  · rw [if_neg (not_not.mpr hmode)]
    cases event with
    | none =>
      refine ⟨fun _ => ⟨rfl, rfl, rfl, rfl, rfl⟩, ?_, ⟨rfl, rfl⟩, ?_, rfl, ?_, ?_⟩ <;> simp
    | some event =>
      dsimp only
      cases hmatches : matchesNewBoundary state event with
      | false =>
        have hstale : Stale state event := by
          by_contra hfresh
          rw [matchesNewBoundary_iff.mpr hfresh] at hmatches
          cases hmatches
        refine ⟨fun _ => ⟨rfl, rfl, rfl, rfl, rfl⟩, ?_, ⟨rfl, rfl⟩, ?_, rfl, ?_, ?_⟩ <;> simp [hstale]
      | true =>
        have hfresh := matchesNewBoundary_iff.mp hmatches
        have hheard : ¬(snapshot.executionMode ≠ .autonomous ∨ ∀ e ∈ some event, Stale state e) := by
          simp [hmode, hfresh]
        simp only [Bool.not_true, Bool.false_eq_true, if_false]
        cases hdue : proposalDue state event with
        | false =>
          refine ⟨fun h => absurd h hheard, fun _ e he _ => ?_, ⟨rfl, rfl⟩, ?_, rfl, ?_, ?_⟩
          · obtain rfl := Option.some.inj he
            rfl
          all_goals simp
        | true =>
          obtain ⟨dwell, hdwell, hwhy⟩ := proposalDue_iff.mp hdue
          simp only [Bool.not_true, Bool.false_eq_true, if_false]
          refine (selectDestination_spec rng _ _ _ n).bind ?_
          intro choice draws hchoice
          have hindex : ∀ {e : AutonomousBoundaryEvent}, some event = some e → event.boundaryIndex = e.boundaryIndex :=
            fun he => congrArg _ (Option.some.inj he)
          cases choice with
          | none =>
            refine ⟨fun h => absurd h hheard, fun _ _ he _ => hindex he, ⟨rfl, rfl⟩, ?_, rfl, ?_, ?_⟩ <;> simp
          | some destination =>
            unfold proposeDestination
            dsimp only
            by_cases hstay : destination = state.lastCommittedState
            · rw [if_pos hstay]
              refine wp_bind.mpr (wp_sampleDwell rng _ _ fun dwell' draws' => ?_)
              refine ⟨fun h => absurd h hheard, fun _ _ he _ => hindex he, ⟨rfl, rfl⟩,
                fun _ => ⟨event, dwell, rfl, hdwell, hwhy⟩, rfl, fun _ htwice => ?_, by simp⟩
              rcases hchoice destination rfl with hchoosable | ⟨_, hnone⟩
              · exact absurd hstay (hchoosable.leaves (by simp [htwice]))
              · simpa [htwice] using hnone
            · rw [if_neg hstay]
              refine ⟨fun h => absurd h hheard, fun _ _ he _ => hindex he, ⟨rfl, rfl⟩,
                fun _ => ⟨event, dwell, rfl, hdwell, hwhy⟩, rfl, by simp, ?_⟩
              intro other hother
              obtain rfl : destination = other := Option.some.inj hother
              rcases hchoice destination rfl with hchoosable | ⟨hsame, _⟩
              · exact ⟨hchoosable.weighs, hchoosable.available, fun _ => hstay⟩
              · exact absurd hsame hstay
  · rw [if_pos hmode]
    refine ⟨fun _ => ⟨rfl, rfl, rfl, rfl, rfl⟩, ?_, ⟨rfl, rfl⟩, ?_, rfl, ?_, ?_⟩ <;> simp [hmode]

/-! ## Runs -/

/-- A boundary that was consumed, with the playback and the number of its entry. -/
structure ConsumedBoundary where
  entry : Nat
  playbackGeneration : Option Nat
  playbackToken : Option ObjectId
  index : Int
deriving DecidableEq

/-- A scheduler at work: the state it is in, the last decision until that is settled, and what it has done so far. -/
structure Scheduling where
  state : Option AutonomousSchedulerState := none
  decision : Option AutonomousSchedulerDecision := none
  draws : Nat := 0
  /-- How often a playback was entered. -/
  entries : Nat := 0
  consumed : List ConsumedBoundary := []
  /-- How often it stayed since the last entry. -/
  stays : Nat := 0

inductive SchedulerOperation where
  | enter (state : AutonomousState) (enteredAt : Rat) (playbackGeneration : Option Nat)
    (playbackToken : Option ObjectId)
  | evaluate (snapshot : AutonomousRuntimeSnapshot) (event : Option AutonomousBoundaryEvent) (requestToken : ObjectId)
  | commitAccepted (committedAt : Rat) (playbackGeneration : Nat) (playbackToken : ObjectId)
  | reject (rejectedAt : Rat)

variable (rng : RandomSource)

/-- A playback is entered if the program for it returns. -/
def Scheduling.entered (x : Scheduling) (program : Program Nat AutonomousSchedulerState) : Scheduling :=
  match program.run x.draws with
  | .ok state draws => { x with state := some state, decision := none, draws, entries := x.entries + 1, stays := 0 }
  | .error _ draws => { x with draws }

/-- The boundary an evaluation consumed. -/
def Scheduling.newlyConsumed (x : Scheduling) (before after : AutonomousSchedulerState) : List ConsumedBoundary :=
  if after.lastConsumedBoundaryIndex = before.lastConsumedBoundaryIndex then []
  else [⟨x.entries, after.playbackGeneration, after.playbackToken, after.lastConsumedBoundaryIndex⟩]

def step (x : Scheduling) : SchedulerOperation → Scheduling
  | .enter state enteredAt playbackGeneration playbackToken =>
    x.entered (enter rng state enteredAt playbackGeneration playbackToken)
  | .evaluate snapshot event requestToken =>
    match x.state with
    | none => x
    | some state =>
      match (evaluate rng state snapshot event requestToken).run x.draws with
      | .ok decision draws =>
        { x with
          state := some decision.state, decision := some decision, draws
          consumed := x.consumed ++ x.newlyConsumed state decision.state
          stays := x.stays + (if decision.stay then 1 else 0) }
      | .error _ draws => { x with draws }
  | .commitAccepted committedAt playbackGeneration playbackToken =>
    match x.decision with
    | none => x
    | some decision => x.entered (commitAccepted rng decision committedAt playbackGeneration playbackToken)
  | .reject rejectedAt =>
    match x.decision with
    | none => x
    | some decision =>
      match (reject rng decision rejectedAt).run x.draws with
      | .ok state draws => { x with state := some state, decision := none, draws }
      | .error _ draws => { x with draws }

/-- An evaluation returns and decides as it should. It stays for a third time in a row only if nothing else can be
chosen. -/
def Sound (x : Scheduling) : SchedulerOperation → Prop
  | .evaluate snapshot event requestToken => ∀ state, x.state = some state →
    ∃ decision draws, (evaluate rng state snapshot event requestToken).run x.draws = .ok decision draws ∧
      Decides state snapshot event x.draws decision draws ∧
      (decision.stay = true → 2 ≤ x.stays →
        ∀ other, ¬Choosable state.lastCommittedState snapshot.capabilities true other)
  | _ => True

/-- Between two entries every boundary is consumed at most once, and in order. -/
def InOrder (consumed : List ConsumedBoundary) : Prop :=
  consumed.Pairwise fun a b => a.entry = b.entry → a.index < b.index

/-- What the run has done so far fits the state it is in. -/
structure Fits (x : Scheduling) : Prop where
  inOrder : InOrder x.consumed
  entries : ∀ boundary ∈ x.consumed, boundary.entry ≤ x.entries
  behind : ∀ state, x.state = some state → ∀ boundary ∈ x.consumed, boundary.entry = x.entries →
    boundary.index ≤ state.lastConsumedBoundaryIndex
  stays : ∀ state, x.state = some state → state.consecutiveStays = x.stays
  decision : ∀ decision, x.decision = some decision → x.state = some decision.state

variable {rng} {x : Scheduling}

theorem Fits.entered (h : Fits x) {program : Program Nat AutonomousSchedulerState}
    (hprogram : Wp program (fun state _ => state.lastConsumedBoundaryIndex = 0 ∧ state.consecutiveStays = 0)
      (fun _ _ => True) x.draws) : Fits (x.entered program) := by
  unfold Scheduling.entered
  unfold Wp at hprogram
  split
  next state draws hrun =>
    rw [hrun] at hprogram
    obtain ⟨_, hstays⟩ := hprogram
    constructor
    · exact h.inOrder
    · exact fun boundary hboundary => Nat.le_succ_of_le (h.entries boundary hboundary)
    · intro _ _ boundary hboundary hentry
      have := h.entries boundary hboundary
      rw [hentry] at this
      exact absurd this (Nat.not_succ_le_self _)
    · intro state' hstate
      rw [← Option.some.inj hstate]
      exact hstays
    · intro decision hdecision
      cases hdecision
  next => exact { h with }

theorem wp_enter_start (state : AutonomousState) (enteredAt : Rat) (playbackGeneration : Option Nat)
    (playbackToken : Option ObjectId) (n : Nat) :
    Wp (enter rng state enteredAt playbackGeneration playbackToken)
      (fun state _ => state.lastConsumedBoundaryIndex = 0 ∧ state.consecutiveStays = 0) (fun _ _ => True) n :=
  wp_bind.mpr (wp_sampleDwell rng state n fun _ _ => ⟨rfl, rfl⟩)

/-- What an evaluation consumes is later than what was consumed since the entry. -/
theorem Decides.consumedLater {state : AutonomousSchedulerState} {snapshot : AutonomousRuntimeSnapshot}
    {event : Option AutonomousBoundaryEvent} {n n' : Nat} {decision : AutonomousSchedulerDecision}
    (h : Decides state snapshot event n decision n') :
    state.lastConsumedBoundaryIndex ≤ decision.state.lastConsumedBoundaryIndex := by
  by_cases hheard : snapshot.executionMode ≠ .autonomous ∨ ∀ e ∈ event, Stale state e
  · obtain ⟨_, _, _, _, hstate⟩ := h.ignores hheard
    rw [hstate]
  · rw [not_or] at hheard
    obtain ⟨hmode, hfresh⟩ := hheard
    simp only [not_forall] at hfresh
    obtain ⟨e, he, hfresh⟩ := hfresh
    rw [h.consumes (not_not.mp hmode) e he hfresh]
    simp only [Stale, not_or, not_le] at hfresh
    exact le_of_lt hfresh.2.2

theorem step_fits (h : Fits x) (op : SchedulerOperation) : Fits (step rng x op) := by
  cases op with
  | enter state enteredAt playbackGeneration playbackToken =>
    exact h.entered (wp_enter_start state enteredAt playbackGeneration playbackToken _)
  | commitAccepted committedAt playbackGeneration playbackToken =>
    unfold step
    cases x.decision with
    | none => exact h
    | some decision =>
      apply h.entered
      unfold commitAccepted
      cases decision.proposedState with
      | none => trivial
      | some destination => exact wp_enter_start _ _ _ _ _
  | reject rejectedAt =>
    unfold step
    cases hdecision : x.decision with
    | none => exact h
    | some decision =>
      have hreject : Wp (reject rng decision rejectedAt)
          (fun state _ => state.lastConsumedBoundaryIndex = decision.state.lastConsumedBoundaryIndex ∧
            state.consecutiveStays = decision.state.consecutiveStays) (fun _ _ => True) x.draws := by
        unfold reject
        cases decision.proposedState with
        | none => trivial
        | some destination => exact wp_bind.mpr (wp_sampleDwell rng _ _ fun _ _ => ⟨rfl, rfl⟩)
      have hstate := h.decision decision hdecision
      unfold Wp at hreject
      dsimp only
      split
      next state draws hrun =>
        rw [hrun] at hreject
        obtain ⟨hindex, hstays⟩ := hreject
        constructor
        · exact h.inOrder
        · exact h.entries
        · intro state' hstate' boundary hboundary hentry
          rw [← Option.some.inj hstate', hindex]
          exact h.behind _ hstate boundary hboundary hentry
        · intro state' hstate'
          rw [← Option.some.inj hstate', hstays]
          exact h.stays _ hstate
        · intro _ hnone
          cases hnone
      next error draws hrun =>
        have hdraws : Fits { x with draws } := { h with }
        rw [hdecision] at hdraws
        exact hdraws
  | evaluate snapshot event requestToken =>
    unfold step
    cases hstate : x.state with
    | none => exact h
    | some state =>
      have hdecides := evaluate_decides rng state snapshot event requestToken x.draws
      unfold Wp at hdecides
      dsimp only
      split
      next decision draws hrun =>
        rw [hrun] at hdecides
        have hlater := hdecides.consumedLater
        have hnew : ∀ boundary ∈ x.newlyConsumed state decision.state, boundary.entry = x.entries ∧
            boundary.index = decision.state.lastConsumedBoundaryIndex ∧
            state.lastConsumedBoundaryIndex < decision.state.lastConsumedBoundaryIndex := by
          intro boundary hboundary
          unfold Scheduling.newlyConsumed at hboundary
          split at hboundary
          · cases hboundary
          next hchanged =>
            rw [List.mem_singleton.mp hboundary]
            exact ⟨rfl, rfl, lt_of_le_of_ne hlater (Ne.symm hchanged)⟩
        constructor
        · refine List.pairwise_append.mpr ⟨h.inOrder, ?_, ?_⟩
          · unfold Scheduling.newlyConsumed
            split
            · exact List.Pairwise.nil
            · exact List.pairwise_singleton _ _
          · intro earlier hearlier later hlater' hentry
            obtain ⟨hcurrent, hindex, hlt⟩ := hnew later hlater'
            have hbehind := h.behind state hstate earlier hearlier (hentry.trans hcurrent)
            omega
        · intro boundary hboundary
          rcases List.mem_append.mp hboundary with hearlier | hlast
          · exact h.entries boundary hearlier
          · exact le_of_eq (hnew boundary hlast).1
        · intro state' hstate' boundary hboundary hentry
          obtain rfl := Option.some.inj hstate'
          rcases List.mem_append.mp hboundary with hearlier | hlast
          · exact le_trans (h.behind state hstate boundary hearlier hentry) hlater
          · exact le_of_eq (hnew boundary hlast).2.1
        · intro state' hstate'
          rw [← Option.some.inj hstate', hdecides.stays, h.stays state hstate]
        · intro decision' hdecision
          rw [← Option.some.inj hdecision]
      next error draws hrun =>
        have hdraws : Fits { x with draws } := { h with }
        rw [hstate] at hdraws
        exact hdraws

theorem step_sound (h : Fits x) (op : SchedulerOperation) : Sound rng x op := by
  cases op with
  | evaluate snapshot event requestToken =>
    intro state hstate
    have hdecides := evaluate_decides rng state snapshot event requestToken x.draws
    unfold Wp at hdecides
    cases hrun : (evaluate rng state snapshot event requestToken).run x.draws with
    | ok decision draws =>
      rw [hrun] at hdecides
      refine ⟨decision, draws, rfl, hdecides, fun hstay htwice => hdecides.leaves hstay ?_⟩
      rw [h.stays state hstate]
      exact htwice
    | error e draws =>
      rw [hrun] at hdecides
      exact hdecides.elim
  | _ => trivial

/-- In every run each evaluation decides as it should, and between two entries each boundary is consumed at most once and
in order. -/
theorem run_sound (rng : RandomSource) (ops : List SchedulerOperation) :
    StepsMeet (step rng) (Sound rng) {} ops ∧ InOrder (run (step rng) {} ops).consumed := by
  have hstart : Fits {} := by
    constructor <;> simp [InOrder]
  have hkeeps : ∀ x op, Fits x → Fits (step rng x op) := fun _ op h => step_fits h op
  have hgives : ∀ x op, Fits x → Sound rng x op := fun _ op h => step_sound h op
  exact ⟨run_gives hkeeps hgives _ ops hstart, (run_invariant hkeeps _ ops hstart).inOrder⟩

/-- A playback is entered, its first boundary comes, and the same happens again. -/
def enteredTwice : List SchedulerOperation :=
  let enter := SchedulerOperation.enter .relax 0 (some 1) (some (.given 1))
  let boundary := SchedulerOperation.evaluate ⟨1, .autonomous, [.relax]⟩
    (some ⟨1, .given 1, 1, 1, by decide, by decide⟩) (.given 2)
  [enter, boundary, enter, boundary]

/-- The same boundary of the same playback is consumed twice. -/
theorem entered_twice_consumes_twice :
    (run (step .lowest) {} enteredTwice).consumed = [⟨1, some 1, some (.given 1), 1⟩, ⟨2, some 1, some (.given 1), 1⟩] ∧
    ¬∀ (rng : RandomSource) (ops : List SchedulerOperation), (run (step rng) {} ops).consumed.Pairwise fun a b =>
      a.playbackGeneration = b.playbackGeneration → a.playbackToken = b.playbackToken → a.index < b.index := by
  have hconsumed : (run (step .lowest) {} enteredTwice).consumed =
      [⟨1, some 1, some (.given 1), 1⟩, ⟨2, some 1, some (.given 1), 1⟩] := by decide +kernel
  refine ⟨hconsumed, fun hordered => ?_⟩
  have htwice := hordered .lowest enteredTwice
  rw [hconsumed] at htwice
  simp at htwice

end AutonomousActionScheduler

end ArkClaw.Pet
