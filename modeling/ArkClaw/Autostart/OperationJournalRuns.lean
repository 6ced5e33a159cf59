import ArkClaw.Autostart.OperationJournal

/-!
# What a journal leaves on disk

The journal file always holds the lines of the records that returned (`records_hold`). A record that raises should leave
nothing else behind. It does when the part file is not created, and when it cannot replace the journal and is removed
again. A part file whose writing fails stays, and with it on its path no journal can record any more: a run keeps what
the journal promises exactly if its records cause neither (`records_meet_iff`).
-/

namespace ArkClaw.Autostart

open ArkClaw.Library

/-- The lines of records, numbered from one. -/
def Lines (nonce : Text) (calls : List RecordCall) (events : List Bytes) : Prop :=
  (events.map fun event => Except.ok event) = calls.mapIdx fun i c => recordLine nonce (i + 1) c

/-- The journal file is absent or holds the lines of the records that were made. -/
def Holds (nonce : Text) (calls : List RecordCall) : Option Bytes → Prop
  | none => calls = []
  | some content => calls ≠ [] ∧ ∃ events, Lines nonce calls events ∧ content = events.flatten

theorem Lines.append {nonce : Text} {calls : List RecordCall} {events : List Bytes} {c : RecordCall} {line : Bytes}
    (h : Lines nonce calls events) (hline : recordLine nonce (events.length + 1) c = .ok line) :
    Lines nonce (calls ++ [c]) (events ++ [line]) := by
  have hlength : events.length = calls.length := by
    have := congrArg List.length h
    rwa [List.length_map, List.length_mapIdx] at this
  unfold Lines at h ⊢
  rw [List.map_append, List.mapIdx_append, h, List.map_singleton, List.mapIdx_singleton, ← hlength, Nat.zero_add, hline]

namespace JournalState

variable {s : JournalState} {c : RecordCall} {nonce : Text}
variable {calls : List RecordCall}

/-- The records of a run that returned. -/
def succeeded (s : JournalState) : List RecordCall → List RecordCall
  | [] => []
  | c :: calls =>
    match (s.record c).1 with
    | .ok () => c :: succeeded (s.step c) calls
    | .error _ => succeeded (s.step c) calls

/-- Nothing goes wrong with the file system, and the record has a line. -/
structure Undisturbed (c : RecordCall) : Prop where
  printable : Printable (c.context.getD {}).controllerRevision
  opens : c.answers.opens = true
  fills : ∀ lines, c.answers.fills lines = true
  replaces : c.answers.replaces = true

/-- A record that raises leaves no trace: the journal file is as it was, no part file stands in the way of a journal
that is opened later, and this journal records nothing any more. -/
structure FailsCleanly (s : JournalState) (c : RecordCall) : Prop where
  kept : (s.step c).directory.journal = s.directory.journal
  removed : (s.step c).directory.part = none
  again : ∀ nonce c', Undisturbed c' → ¬(opened nonce (s.step c).directory).Raises c'
  final : ∀ calls, StepsMeet step Raises (s.step c) calls

/-- Records that are made one after another keep what the journal promises. -/
structure Kept (nonce : Text) (calls : List RecordCall) : Prop where
  holds : Holds nonce (succeeded (opened nonce {}) calls) (run step (opened nonce {}) calls).directory.journal
  clean : StepsMeet step (fun s c => s.Raises c → s.FailsCleanly c) (opened nonce {}) calls

/-- A record does no harm: its number can be written; once the part file is created it is written to its end, and if it
does not replace the journal it is removed. -/
def Harmless (s : JournalState) (c : RecordCall) : Prop :=
  s.journal.failed = true ∨ Printable (c.context.getD {}).controllerRevision ∧ (c.answers.opens = true →
    c.answers.fills (s.journal.events.length + 1) = true ∧ (c.answers.replaces = true ∨ c.answers.removes = true))

/-! ## One record -/

/-- What a record does. -/
inductive Recorded (s : JournalState) (c : RecordCall) : Except RecordError Unit × JournalState → Prop where
  | failed (hfailed : s.journal.failed = true) : Recorded s c (.error .autostartOperationJournal, s)
  | unprintable (hfailed : s.journal.failed = false) (h : ¬Printable (c.context.getD {}).controllerRevision) :
    Recorded s c (.error .value, s)
  | unopened (hfailed : s.journal.failed = false) (hprintable : Printable (c.context.getD {}).controllerRevision)
    (h : s.directory.part ≠ none ∨ c.answers.opens = false) :
    Recorded s c (.error .autostartOperationJournal, { s with journal := { s.journal with failed := true } })
  | unfilled (hfailed : s.journal.failed = false) (hpart : s.directory.part = none) (hopens : c.answers.opens = true)
    (h : c.answers.fills (s.journal.events.length + 1) = false) :
    Recorded s c (.error .autostartOperationJournal,
      { journal := { s.journal with failed := true }, directory := { s.directory with part := some c.answers.left } })
  | unreplaced (line : Bytes) (hfailed : s.journal.failed = false)
    (hprintable : Printable (c.context.getD {}).controllerRevision) (hopens : c.answers.opens = true)
    (hfills : c.answers.fills (s.journal.events.length + 1) = true) (h : c.answers.replaces = false) :
    Recorded s c (.error .autostartOperationJournal,
      { journal := { s.journal with failed := true }
        directory := { s.directory with
          part := if c.answers.removes then none else some (s.journal.events ++ [line]).flatten } })
  | recorded (line : Bytes) (hprintable : Printable (c.context.getD {}).controllerRevision)
    (hline : recordLine s.journal.nonce (s.journal.events.length + 1) c = .ok line) (hpart : s.directory.part = none)
    (hfills : c.answers.fills (s.journal.events.length + 1) = true) (h : c.answers.replaces = true) :
    Recorded s c (.ok (),
      { journal := { s.journal with events := s.journal.events ++ [line] }
        directory := { journal := some (s.journal.events ++ [line]).flatten } })

theorem record_cases (s : JournalState) (c : RecordCall) : Recorded s c (s.record c) := by
  unfold record
  cases hfailed : s.journal.failed with
  | true => exact .failed hfailed
  | false =>
    rw [if_neg (by decide)]
    by_cases hprintable : Printable (c.context.getD {}).controllerRevision
    · obtain ⟨line, hline⟩ := @recordLine_eq_ok s.journal.nonce (s.journal.events.length + 1) c hprintable
      rw [hline]
      dsimp only
      unfold writeAll
      rw [List.length_append, List.length_singleton]
      by_cases hopen : s.directory.part ≠ none ∨ c.answers.opens = false
      · rw [if_pos (by simpa [Option.isSome_iff_ne_none] using hopen)]
        exact .unopened hfailed hprintable hopen
      · obtain ⟨hpart, hopens⟩ := not_or.mp hopen
        rw [not_not] at hpart
        rw [Bool.not_eq_false] at hopens
        rw [if_neg (by simp [hpart, hopens])]
        cases hfills : c.answers.fills (s.journal.events.length + 1) with
        | false => exact .unfilled hfailed hpart hopens hfills
        | true =>
          cases hreplaces : c.answers.replaces with
          | true => exact .recorded line hprintable hline hpart hfills hreplaces
          | false => exact .unreplaced line hfailed hprintable hopens hfills hreplaces
    · rw [recordLine_eq_error hprintable]
      exact .unprintable hfailed hprintable

/-- On a path without a part file, a record that is not disturbed returns. -/
theorem not_raises_undisturbed (hfailed : s.journal.failed = false) (hpart : s.directory.part = none)
    (h : Undisturbed c) : ¬s.Raises c := by
  rintro ⟨e, hraises⟩
  have hcases := record_cases s c
  generalize s.record c = result at hcases hraises
  cases hcases with
  | failed hfailed' => rw [hfailed] at hfailed'; cases hfailed'
  | unprintable _ hunprintable => exact hunprintable h.printable
  | unopened _ _ hopen =>
    rcases hopen with hopen | hopen
    · exact hopen hpart
    · rw [h.opens] at hopen; cases hopen
  | unfilled _ _ _ hfills => rw [h.fills] at hfills; cases hfills
  | unreplaced _ _ _ _ _ hreplaces => rw [h.replaces] at hreplaces; cases hreplaces
  | recorded line _ _ _ _ _ => cases hraises

/-- With a part file on its path no journal records. -/
theorem raises_of_part (h : s.directory.part ≠ none) (c : RecordCall) : s.Raises c := by
  have hcases := record_cases s c
  have hraises : s.Raises c ↔ ∃ e, (s.record c).1 = .error e := Iff.rfl
  generalize s.record c = result at hcases hraises
  rw [hraises]
  cases hcases with
  | recorded line _ _ hpart _ _ => exact absurd hpart h
  | _ => exact ⟨_, rfl⟩

theorem record_of_failed (h : s.journal.failed = true) : s.record c = (.error .autostartOperationJournal, s) := if_pos h

/-- A journal that has failed records nothing any more. -/
theorem raises_of_failed (h : s.journal.failed = true) (calls : List RecordCall) : StepsMeet step Raises s calls := by
  have hkeeps : ∀ (s : JournalState) c, s.journal.failed = true → (s.step c).journal.failed = true := by
    intro s c hfailed
    rwa [step, record_of_failed hfailed]
  have hgives : ∀ (s : JournalState) c, s.journal.failed = true → s.Raises c :=
    fun s c hfailed => ⟨_, congrArg Prod.fst (record_of_failed hfailed)⟩
  exact run_gives hkeeps hgives s calls h

theorem failsCleanly_of_failed (hkept : (s.step c).directory.journal = s.directory.journal)
    (hpart : (s.step c).directory.part = none) (hfailed : (s.step c).journal.failed = true) : s.FailsCleanly c :=
  ⟨hkept, hpart, fun _ _ hc' => not_raises_undisturbed rfl hpart hc', raises_of_failed hfailed⟩

/-- On a path without a part file, a record that raises leaves no trace exactly if it does no harm. -/
theorem failsCleanly_iff (hpart : s.directory.part = none) : (s.Raises c → s.FailsCleanly c) ↔ s.Harmless c := by
  have hcases := record_cases s c
  have hraises : s.Raises c ↔ ∃ e, (s.record c).1 = .error e := Iff.rfl
  have hstep : s.step c = (s.record c).2 := rfl
  generalize s.record c = result at hcases hraises hstep
  cases hcases with
  | failed hfailed =>
    refine iff_of_true (fun _ => failsCleanly_of_failed ?_ ?_ ?_) (.inl hfailed)
    · rw [hstep]
    · rwa [hstep]
    · rwa [hstep]
  | unprintable hfailed hunprintable =>
    refine iff_of_false (fun hclean => ?_) ?_
    · -- The journal has not failed, and a record without a number is made.
      have hlater := ((hclean (hraises.mpr ⟨_, rfl⟩)).final [{ event := .commandSubmitted }]).1
      rw [hstep] at hlater
      exact not_raises_undisturbed hfailed hpart ⟨by decide, rfl, fun lines => by simp [FileAnswers.fills], rfl⟩ hlater
    · rintro (hfailed' | ⟨hprintable, -⟩)
      · rw [hfailed] at hfailed'; cases hfailed'
      · exact hunprintable hprintable
  | unopened hfailed hprintable hopen =>
    have hopens : c.answers.opens = false := hopen.resolve_left (not_not.mpr hpart)
    refine iff_of_true (fun _ => failsCleanly_of_failed ?_ ?_ ?_) (.inr ⟨hprintable, fun hopens' => ?_⟩)
    · rw [hstep]
    · rwa [hstep]
    · rw [hstep]
    · rw [hopens] at hopens'; cases hopens'
  | unfilled hfailed _ hopens hfills =>
    refine iff_of_false (fun hclean => ?_) ?_
    · have hremoved := (hclean (hraises.mpr ⟨_, rfl⟩)).removed
      rw [hstep] at hremoved
      cases hremoved
    · rintro (hfailed' | ⟨-, hwritten⟩)
      · rw [hfailed] at hfailed'; cases hfailed'
      · rw [(hwritten hopens).1] at hfills; cases hfills
  | unreplaced line hfailed hprintable hopens hfills hreplaces =>
    cases hremoves : c.answers.removes with
    | true =>
      refine iff_of_true (fun _ => failsCleanly_of_failed ?_ ?_ ?_) (.inr ⟨hprintable, fun _ => ⟨hfills, .inr hremoves⟩⟩)
      · rw [hstep]
      · rw [hstep, hremoves]; rfl
      · rw [hstep]
    | false =>
      refine iff_of_false (fun hclean => ?_) ?_
      · have hremoved := (hclean (hraises.mpr ⟨_, rfl⟩)).removed
        rw [hstep, hremoves] at hremoved
        cases hremoved
      · rintro (hfailed' | ⟨-, hwritten⟩)
        · rw [hfailed] at hfailed'; cases hfailed'
        · rcases (hwritten hopens).2 with hreplaces' | hremoves'
          · rw [hreplaces] at hreplaces'; cases hreplaces'
          · rw [hremoves] at hremoves'; cases hremoves'
  | recorded line hprintable _ _ hfills hreplaces =>
    refine iff_of_true (fun hraised => ?_) (.inr ⟨hprintable, fun _ => ⟨hfills, .inl hreplaces⟩⟩)
    obtain ⟨e, he⟩ := hraises.mp hraised
    cases he

/-- A record that does no harm leaves no part file. -/
theorem Harmless.part (h : s.Harmless c) (hpart : s.directory.part = none) : (s.step c).directory.part = none := by
  have hclean := (failsCleanly_iff hpart).mpr h
  by_cases hraises : s.Raises c
  · exact (hclean hraises).removed
  · have hcases := record_cases s c
    have hstep : s.step c = (s.record c).2 := rfl
    have hreturns : ∀ e, (s.record c).1 ≠ .error e := fun e he => hraises ⟨e, he⟩
    generalize s.record c = result at hcases hstep hreturns
    cases hcases with
    | recorded line _ _ _ _ _ => rw [hstep]
    | _ => exact absurd rfl (hreturns _)

/-! ## Runs -/

/-- A journal holds in memory the lines of the records that were made, and the file holds what the memory does. -/
structure Consistent (nonce : Text) (calls : List RecordCall) (s : JournalState) : Prop where
  named : s.journal.nonce = nonce
  lines : Lines nonce calls s.journal.events
  file : s.directory.journal = if calls = [] then none else some s.journal.events.flatten

theorem Consistent.holds (h : Consistent nonce calls s) : Holds nonce calls s.directory.journal := by
  rw [h.file]
  split
  next hnone => exact hnone
  next hsome => exact ⟨hsome, s.journal.events, h.lines, rfl⟩

/-- A record that raises changes neither the memory nor the file, one that returns adds its line to both. -/
theorem Consistent.step (h : Consistent nonce calls s) (c : RecordCall) :
    Consistent nonce (calls ++ s.succeeded [c]) (s.step c) := by
  have hcases := record_cases s c
  have hstep : s.step c = (s.record c).2 := rfl
  rw [succeeded, hstep]
  generalize s.record c = result at hcases
  cases hcases with
  | recorded line _ hline _ _ _ =>
    rw [h.named] at hline
    exact ⟨h.named, h.lines.append hline, (if_neg (by simp)).symm⟩
  | _ =>
    rw [succeeded, List.append_nil]
    exact ⟨h.named, h.lines, h.file⟩

theorem succeeded_cons (s : JournalState) (c : RecordCall) (calls : List RecordCall) :
    s.succeeded (c :: calls) = s.succeeded [c] ++ (s.step c).succeeded calls := by
  rw [succeeded, succeeded]
  cases (s.record c).1 with
  | ok => rfl
  | error e => rfl

theorem Consistent.run (h : Consistent nonce calls s) (later : List RecordCall) :
    Consistent nonce (calls ++ s.succeeded later) (run JournalState.step s later) := by
  induction later generalizing s calls with
  | nil => rwa [succeeded, List.append_nil]
  | cons c later ih =>
    rw [succeeded_cons, ← List.append_assoc]
    exact ih (h.step c)

/-- Whatever the file system answers, the file holds the lines of the records that returned. -/
theorem records_hold (nonce : Text) (calls : List RecordCall) :
    Holds nonce ((opened nonce {}).succeeded calls) (run step (opened nonce {}) calls).directory.journal := by
  have hopened : Consistent nonce [] (opened nonce {}) := ⟨rfl, rfl, rfl⟩
  exact (hopened.run calls).holds

/-- No part file stands in the way of a record. -/
def Clear (s : JournalState) : Prop := s.directory.part = none

/-- Records keep what the journal promises exactly if none of them does harm. -/
theorem records_meet_iff (nonce : Text) (calls : List RecordCall) :
    Kept nonce calls ↔ StepsMeet step Harmless (opened nonce {}) calls := by
  have hopened : (opened nonce {}).Clear := rfl
  have hkeeps : ∀ (s : JournalState) c, s.Clear → s.Harmless c → (s.step c).Clear :=
    fun s c hclear hharmless => hharmless.part hclear
  have hharmless : ∀ (s : JournalState) c, s.Clear → (s.Raises c → s.FailsCleanly c) → s.Harmless c :=
    fun s c hclear => (failsCleanly_iff hclear).mp
  have hclean : ∀ (s : JournalState) c, s.Clear → s.Harmless c → s.Raises c → s.FailsCleanly c :=
    fun s c hclear => (failsCleanly_iff hclear).mpr
  constructor
  · intro h
    have hkeeps' : ∀ (s : JournalState) c, s.Clear → (s.Raises c → s.FailsCleanly c) → (s.step c).Clear :=
      fun s c hclear h => hkeeps s c hclear (hharmless s c hclear h)
    exact StepsMeet.of_invariant hkeeps' hharmless (opened nonce {}) calls hopened h.clean
  · intro h
    exact ⟨records_hold nonce calls, StepsMeet.of_invariant hkeeps hclean (opened nonce {}) calls hopened h⟩

/-- A record whose line is not written leaves the part file, and no journal that is opened later can record. -/
theorem unwritten_part_stays :
    ¬Kept (lit "n") [{ event := .commandSubmitted, answers := { writes := fun _ => false } }]
      ∧ ∀ nonce c, (opened nonce ((opened (lit "n") {}).step
        { event := .commandSubmitted, answers := { writes := fun _ => false } }).directory).Raises c := by
  have hunwritten : ({ writes := fun _ => false } : FileAnswers).fills 1 = false := rfl
  constructor
  · intro hkept
    rcases (failsCleanly_iff rfl).mp hkept.clean.1 with hfailed | ⟨-, hwritten⟩
    · cases hfailed
    · exact absurd (hwritten rfl).1 (Bool.eq_false_iff.mp hunwritten)
  · intro nonce c
    refine raises_of_part ?_ c
    have hcases := record_cases (opened (lit "n") {})
      { event := .commandSubmitted, answers := { writes := fun _ => false } }
    rw [step]
    generalize (opened (lit "n") {}).record { event := .commandSubmitted, answers := { writes := fun _ => false } } = result
      at hcases
    cases hcases with
    | failed hfailed => cases hfailed
    | unprintable _ hunprintable => exact absurd (by decide) hunprintable
    | unopened _ _ hopen => exact absurd hopen (by decide)
    | unfilled _ _ _ _ => exact nofun
    | unreplaced _ _ _ _ hfills _ => exact absurd hfills (Bool.eq_false_iff.mp hunwritten)
    | recorded _ _ _ _ hfills _ => exact absurd hfills (Bool.eq_false_iff.mp hunwritten)

end JournalState

end ArkClaw.Autostart
