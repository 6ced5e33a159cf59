import ArkClaw.Autostart.AutostartRuns

/-!
# What a mutation answers

While the journal takes every record, the result of a mutation carries the service's own snapshot, backend failures
included: these put the previous snapshot back in both. A failing record, at whatever step, ends the operation in one
way: the result retains the previous snapshot and names the journal, and the service itself is in error.
-/

namespace ArkClaw.Autostart

open ArkClaw.Library

namespace AutostartService

/-- There is a journal and it has failed, in the last operation or before. -/
def JournalFails (s : AutostartService) : Prop := s.hasJournal = true ∧ s.journalFailed = true

/-- The last read among the accesses returned this value. -/
def LastRead (accesses : List Access) (value : Option AutostartStoredValue) : Prop :=
  ∃ before after, accesses = before ++ .read (some value) :: after ∧ ∀ a ∈ after, ¬a.IsRead

/-- The value is what the user asked for: the command of the running executable, or none. -/
def Requested (enabled : Bool) (expected : Text) (value : Option AutostartStoredValue) : Prop :=
  if enabled then Owns expected value else value = none

/-- What a mutation answers that began in `s`. A record of it failed exactly if the journal has failed after it. -/
structure Answers (s : AutostartService) (enabled : Bool) (io : OperationIo) (result : AutostartOperationResult)
    (after : AutostartService) : Prop where
  shows : result.snapshot = after.snapshot ↔ (after.JournalFails → s.snapshot = .forStatus .error)
  unrecorded : after.JournalFails → result = journalFailure s.snapshot ∧ after.snapshot = .forStatus .error
  succeeds : result.success = true → ∃ expected value, (s.expectedCommand io).1 = some expected ∧
    LastRead after.accesses value ∧ Requested enabled expected value

/-- How a mutation ends. -/
inductive Ends (previous : AutostartSnapshot) (requested : Option AutostartStoredValue → Prop) :
    AutostartOperationResult × AutostartService → Prop where
  | unrecorded (u : AutostartService) (hfails : u.JournalFails) (hsnapshot : u.snapshot = .forStatus .error) :
    Ends previous requested (journalFailure previous, u)
  | failed (result : AutostartOperationResult) (u : AutostartService) (hrecords : ¬u.JournalFails)
    (hfailed : result.success = false) (hsnapshot : result.snapshot = u.snapshot) : Ends previous requested (result, u)
  | completed (u : AutostartService) (value : Option AutostartStoredValue) (hrecords : ¬u.JournalFails)
    (hread : LastRead u.accesses value) (hvalue : requested value) :
    Ends previous requested (.completed u.snapshot, u)

section

variable {s : AutostartService} {io : OperationIo} {point : JournalPoint} {previous : AutostartSnapshot}
  {requested : Option AutostartStoredValue → Prop} {expected : Text} {stored : Option AutostartStoredValue}

theorem Ends.mono {requested' : Option AutostartStoredValue → Prop} {r : AutostartOperationResult × AutostartService}
    (h : Ends previous requested r) (himp : ∀ value, requested value → requested' value) :
    Ends previous requested' r := by
  cases h with
  | unrecorded u hfails hsnapshot => exact .unrecorded u hfails hsnapshot
  | failed result u hrecords hfailed hsnapshot => exact .failed result u hrecords hfailed hsnapshot
  | completed u value hrecords hread hvalue => exact .completed u value hrecords hread (himp value hvalue)

/-- The last access was the read. -/
theorem lastRead_access (s : AutostartService) (value : Option AutostartStoredValue) :
    LastRead (s.access (.read (some value))).accesses value :=
  ⟨s.accesses, [], rfl, by simp⟩

theorem not_journalFails_of (h : s.records io point = true) : ¬s.JournalFails := by
  rintro ⟨hjournal, hfailed⟩
  simp [records, hjournal, hfailed] at h

/-- A record that fails ends the operation. -/
theorem ends_of_false (h : s.records io point = false) : Ends previous requested
    (journalFailure previous, { s with journalFailed := true, snapshot := .forStatus .error }) := by
  have hjournal : s.hasJournal = true := by
    unfold records at h
    cases hjournal : s.hasJournal with
    | true => rfl
    | false => simp [hjournal] at h
  exact .unrecorded _ ⟨hjournal, rfl⟩ rfl

theorem readValue_of_false (h : s.records io point = false) (answer : Option (Option AutostartStoredValue)) :
    s.readValue io point answer = (.journalFailure, { s with journalFailed := true, snapshot := .forStatus .error }) := by
  unfold readValue
  rw [record_of_false h]
  rfl

theorem classify_journalFails (s : AutostartService) (stored : Option AutostartStoredValue) (expected : Text) :
    (s.classify stored expected).JournalFails ↔ s.JournalFails := by
  unfold classify
  split_ifs <;> rfl

/-- Only the service's own value is classified as enabled. -/
theorem owns_of_classify (h : (s.classify stored expected).snapshot.status = .enabled) : Owns expected stored := by
  by_contra hforeign
  unfold classify at h
  split_ifs at h <;> simp [withStatus, lose, AutostartSnapshot.forStatus] at h

/-- Classifying a value that was just read, the operation fails with what it was classified as. -/
theorem ends_refused {u : AutostartService} (h : ¬u.JournalFails) :
    Ends previous requested (.refused (u.classify stored expected).snapshot, u.classify stored expected) :=
  .failed _ _ (by rwa [classify_journalFails]) rfl rfl

/-- Classifying a value that was just read, the operation succeeds. -/
theorem ends_completed (h : ¬s.JournalFails) (hread : LastRead s.accesses stored) (hvalue : requested stored) :
    Ends previous requested (.completed (s.classify stored expected).snapshot, s.classify stored expected) := by
  apply Ends.completed _ stored
  · rwa [classify_journalFails]
  · rwa [classify_accesses]
  · exact hvalue

theorem verifyWrite_ends : Ends previous (Owns expected) (s.verifyWrite previous expected io) := by
  unfold verifyWrite
  cases hentered : s.records io .readbackEntered with
  | false =>
    rw [readValue_of_false hentered]
    exact ends_of_false hentered
  | true =>
    have hrecords : ¬s.JournalFails := not_journalFails_of hentered
    rw [readValue_of_true hentered]
    cases io.readback with
    | none => exact .failed _ _ hrecords rfl rfl
    | some verified =>
      dsimp only
      cases hcompleted : (s.access (.read (some verified))).records io .readbackCompleted with
      | false =>
        rw [record_of_false hcompleted]
        exact ends_of_false hcompleted
      | true =>
        rw [record_of_true hcompleted]
        simp only [Bool.not_true, Bool.false_eq_true, if_false]
        split
        next => exact .failed _ _ ((classify_journalFails _ _ _).not.mpr hrecords) rfl rfl
        next henabled =>
          exact ends_completed hrecords (s.lastRead_access verified) (owns_of_classify (not_not.mp henabled))

theorem enable_ends (hrecords : ¬s.JournalFails) (hread : LastRead s.accesses stored) :
    Ends previous (Owns expected) (s.enable previous stored expected io) := by
  unfold enable
  split
  next =>
    dsimp only
    split
    next henabled => exact ends_completed hrecords hread (owns_of_classify henabled)
    next => exact ends_refused hrecords
  next =>
    cases hentered : s.records io .backendWriteEntered with
    | false =>
      rw [record_of_false hentered]
      exact ends_of_false hentered
    | true =>
      rw [record_of_true hentered]
      simp only [Bool.not_true, Bool.false_eq_true, if_false]
      split
      next => exact .failed _ _ hrecords rfl rfl
      next =>
        cases hcompleted : (s.access (.write expected io.write)).records io .backendWriteCompleted with
        | false =>
          rw [record_of_false hcompleted]
          exact ends_of_false hcompleted
        | true =>
          rw [record_of_true hcompleted]
          exact verifyWrite_ends

theorem verifyDelete_ends : Ends previous (· = none) (s.verifyDelete previous expected io) := by
  unfold verifyDelete
  cases hentered : s.records io .readbackEntered with
  | false =>
    rw [readValue_of_false hentered]
    exact ends_of_false hentered
  | true =>
    have hrecords : ¬s.JournalFails := not_journalFails_of hentered
    rw [readValue_of_true hentered]
    cases io.readback with
    | none => exact .failed _ _ hrecords rfl rfl
    | some verified =>
      dsimp only
      cases hcompleted : (s.access (.read (some verified))).records io .readbackCompleted with
      | false =>
        rw [record_of_false hcompleted]
        exact ends_of_false hcompleted
      | true =>
        rw [record_of_true hcompleted]
        simp only [Bool.not_true, Bool.false_eq_true, if_false]
        split
        next => exact .failed _ _ hrecords rfl rfl
        next hvalue =>
          obtain rfl : verified = none := not_not.mp hvalue
          exact ends_completed hrecords (s.lastRead_access none) rfl

theorem disable_ends (hrecords : ¬s.JournalFails) (hread : LastRead s.accesses stored) :
    Ends previous (· = none) (s.disable previous stored expected io) := by
  unfold disable
  split
  next hstored =>
    subst hstored
    dsimp only
    split
    next => exact ends_refused hrecords
    next => exact ends_completed hrecords hread rfl
  next =>
    split
    next => exact .failed _ _ hrecords rfl rfl
    next =>
      cases hentered : s.records io .backendDeleteEntered with
      | false =>
        rw [record_of_false hentered]
        exact ends_of_false hentered
      | true =>
        rw [record_of_true hentered]
        simp only [Bool.not_true, Bool.false_eq_true, if_false]
        split
        next => exact .failed _ _ hrecords rfl rfl
        next =>
          cases hcompleted : (s.access (.delete io.delete)).records io .backendDeleteCompleted with
          | false =>
            rw [record_of_false hcompleted]
            exact ends_of_false hcompleted
          | true =>
            rw [record_of_true hcompleted]
            exact verifyDelete_ends

theorem expectedCommand_journalFails (s : AutostartService) (io : OperationIo) :
    (s.expectedCommand io).2.JournalFails ↔ s.JournalFails := by
  unfold expectedCommand
  split
  next => rfl
  next => split <;> rfl

theorem setEnabled_ends (s : AutostartService) (enabled : Bool) (io : OperationIo) :
    Ends s.snapshot (fun value => ∃ expected, (s.expectedCommand io).1 = some expected ∧ Requested enabled expected value)
      (s.setEnabled enabled io) := by
  unfold setEnabled
  cases hservice : s.records io (if enabled then .serviceEnableEntered else .serviceDisableEntered) with
  | false =>
    rw [record_of_false hservice]
    exact ends_of_false hservice
  | true =>
    rw [record_of_true hservice]
    simp only [Bool.not_true, Bool.false_eq_true, if_false]
    have hrecords := (s.expectedCommand_journalFails io).not.mpr (not_journalFails_of hservice)
    generalize s.expectedCommand io = found at hrecords ⊢
    obtain ⟨expected, u⟩ := found
    cases expected with
    | none => exact .failed _ _ hrecords rfl rfl
    | some expected =>
      dsimp only
      split
      next => exact .failed _ _ hrecords rfl rfl
      next =>
        cases hentered : u.records io .backendReadEntered with
        | false =>
          rw [readValue_of_false hentered]
          exact ends_of_false hentered
        | true =>
          rw [readValue_of_true hentered]
          cases io.read with
          | none => exact .failed _ _ hrecords rfl rfl
          | some stored =>
            have hread := u.lastRead_access stored
            have hrecords : ¬(u.access (.read (some stored))).JournalFails := hrecords
            cases enabled with
            | true => exact (enable_ends hrecords hread).mono fun _ hvalue => ⟨expected, rfl, hvalue⟩
            | false => exact (disable_ends hrecords hread).mono fun _ hvalue => ⟨expected, rfl, hvalue⟩

end

/-- Whatever the registry and the journal do, the result and the service carry one snapshot unless the journal fails a
record (and the snapshot before was no error already), a failing record is reported alike at every step, and a success
rests on a read that showed what the user asked for. -/
theorem setEnabled_answers (s : AutostartService) (enabled : Bool) (io : OperationIo) :
    let begun : AutostartService := { s with accesses := [] }
    Answers begun enabled io (begun.setEnabled enabled io).1 (begun.setEnabled enabled io).2 := by
  intro begun
  have hends := begun.setEnabled_ends enabled io
  generalize begun.setEnabled enabled io = r at hends ⊢
  cases hends with
  | unrecorded u hfails hsnapshot =>
    constructor
    · simp only [hfails, hsnapshot, forall_true_left, journalFailure, AutostartOperationResult.failed]
    · exact fun _ => ⟨rfl, hsnapshot⟩
    · exact nofun
  | failed result u hrecords hfailed hsnapshot =>
    constructor
    · simp only [hrecords, hsnapshot, false_imp_iff]
    · exact fun hfails => absurd hfails hrecords
    · exact fun hsuccess => absurd (hfailed.symm.trans hsuccess) nofun
  | completed u value hrecords hread hvalue =>
    obtain ⟨expected, hcommand, hvalue⟩ := hvalue
    constructor
    · simp only [hrecords, false_imp_iff, AutostartOperationResult.completed]
    · exact fun hfails => absurd hfails hrecords
    · exact fun _ => ⟨expected, value, hcommand, hread, hvalue⟩

/-- The service after a query that found no value. -/
def queried : AutostartService :=
  run step { available := true, hasJournal := true } [{ enabling with kind := .query }]

/-- The value is written, then the journal cannot record it. The result still shows autostart disabled, while the
service is in error. -/
theorem setEnabled_retains :
    (queried.setEnabled true { enabling.io with records := (· ≠ .backendWriteCompleted) }).1 =
      journalFailure (.forStatus .disabled) ∧
    (queried.setEnabled true { enabling.io with records := (· ≠ .backendWriteCompleted) }).2.snapshot =
      .forStatus .error ∧ AutostartSnapshot.forStatus .disabled ≠ .forStatus .error := by
  refine ⟨by decide, by decide, by decide⟩

end AutostartService

end ArkClaw.Autostart
