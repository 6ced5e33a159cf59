import ArkClaw.Autostart.AutostartService

/-!
# What the autostart service does to the registry

It writes over nothing and deletes nothing but its own command, whatever others do to the value between its
accesses. Once it has confirmed that it owns the value and then finds it missing or foreign, it gives the value up
for good. Two ways out of that are left open: enabling writes a value anew that went missing, and a failing journal
hides what a read-back has found.
-/

namespace ArkClaw.Autostart

open ArkClaw.Library
open Bool (false_eq_true)

/-- The access changes nothing. -/
def Access.IsRead : Access → Prop
  | .read _ => True
  | _ => False

namespace AutostartService

/-- The command the operation would register. -/
def Operation.command (op : Operation) : Option Text :=
  op.io.executable.map fun resolved => lit "\"" ++ resolved ++ lit "\" --startup"

/-- The journal, if there is one, takes the event. -/
def records (s : AutostartService) (io : OperationIo) (point : JournalPoint) : Bool :=
  !s.hasJournal || (!s.journalFailed && io.records point)

/-- The value is given up. -/
def GivenUp (s : AutostartService) : Prop := s.ownershipLost = true ∧ s.snapshot.status = .ownershipLost

/-- The last operation changed nothing, the value stays given up, and no status says otherwise. -/
structure StaysLost (s : AutostartService) : Prop where
  lost : s.ownershipLost = true
  abstains : ∀ a ∈ s.accesses, a.IsRead
  status : s.snapshot.status ∉ [.disabled, .enabled, .occupied]

/-- The service took the value for its own when the operation had made these accesses: it did before the operation, or
wrote the value, or found its own command. -/
def Confirmed (s : AutostartService) (expected : Text) (before : List Access) : Prop :=
  s.ownershipConfirmed = true ∨ .write expected true ∈ before ∨
    ∃ value, Owns expected value ∧ .read (some value) ∈ before

/-- What an operation keeps. It writes right after it found no value, deletes right after it found its own, and when it
finds a value of its own missing or foreign, other than by its own deletion, it gives the value up for good. -/
structure Safe (s : AutostartService) (op : Operation) : Prop where
  writes : ∀ before command done after, (s.step op).accesses = before ++ .write command done :: after →
    op.command = some command ∧ before = [.read (some none)]
  deletes : ∀ before done after, (s.step op).accesses = before ++ .delete done :: after →
    ∃ command value, op.command = some command ∧ Owns command value ∧ before = [.read (some value)]
  disturbed : ∀ command before value after, op.command = some command →
    (s.step op).accesses = before ++ .read (some value) :: after → s.Confirmed command before →
    ¬Owns command value → ¬(value = none ∧ .delete true ∈ before) →
    (∀ a ∈ after, a.IsRead) ∧ (s.step op).GivenUp ∧
      ∀ later, StepsMeet step (fun s op => (s.step op).StaysLost) (s.step op) later

/-- The operation comes past these points of its journal. -/
structure Passes (s : AutostartService) (op : Operation) (points : List JournalPoint) : Prop where
  available : s.available = true
  kept : s.ownershipLost = false
  recorded : ∀ point ∈ points, s.records op.io point = true

/-- The operation finds the value missing or foreign and does not give it up: it enables and writes the missing value
anew, or the journal fails after a read-back. -/
inductive Overlooks (s : AutostartService) (op : Operation) : Prop where
  | writesAnew (command : Text) (hcommand : op.command = some command) (hkind : op.kind = .enable)
    (hpasses : s.Passes op [.serviceEnableEntered, .backendReadEntered]) (hread : op.io.read = some none)
    (hconfirmed : s.ownershipConfirmed = true)
  | writeUnrecorded (command : Text) (value : Option AutostartStoredValue) (hcommand : op.command = some command)
    (hkind : op.kind = .enable)
    (hpasses : s.Passes op
      [.serviceEnableEntered, .backendReadEntered, .backendWriteEntered, .backendWriteCompleted, .readbackEntered])
    (hread : op.io.read = some none) (hwrite : op.io.write = true) (hreadback : op.io.readback = some value)
    (hforeign : ¬Owns command value) (hrecords : s.records op.io .readbackCompleted = false)
  | deleteUnrecorded (command : Text) (stored value : Option AutostartStoredValue)
    (hcommand : op.command = some command) (hkind : op.kind = .disable)
    (hpasses : s.Passes op
      [.serviceDisableEntered, .backendReadEntered, .backendDeleteEntered, .backendDeleteCompleted, .readbackEntered])
    (hread : op.io.read = some stored) (howns : Owns command stored) (hdelete : op.io.delete = true)
    (hreadback : op.io.readback = some value) (hsome : value ≠ none) (hforeign : ¬Owns command value)
    (hrecords : s.records op.io .readbackCompleted = false)

/-- What an operation did and what it has come to. `confirmed` tells whether the value was taken for the service's own
before. -/
inductive Outcome (expected : Text) (confirmed : Bool) (s : AutostartService) : Prop where
  | unread (h : s.accesses = [.read none])
  | read (value : Option AutostartStoredValue) (h : s.accesses = [.read (some value)])
    (hvalue : Owns expected value ∨ confirmed = false ∨ s.GivenUp)
  | wrote (done : Bool) (h : s.accesses = [.read (some none), .write expected done]) (hnever : confirmed = false)
  | wroteUnread (h : s.accesses = [.read (some none), .write expected true, .read none]) (hnever : confirmed = false)
  | verified (value : Option AutostartStoredValue)
    (h : s.accesses = [.read (some none), .write expected true, .read (some value)]) (hnever : confirmed = false)
    (hvalue : Owns expected value ∨ s.GivenUp)
  | deleted (stored : Option AutostartStoredValue) (done : Bool) (howns : Owns expected stored)
    (h : s.accesses = [.read (some stored), .delete done])
  | deletedUnread (stored : Option AutostartStoredValue) (howns : Owns expected stored)
    (h : s.accesses = [.read (some stored), .delete true, .read none])
  | released (stored value : Option AutostartStoredValue) (howns : Owns expected stored)
    (h : s.accesses = [.read (some stored), .delete true, .read (some value)])
    (hvalue : value = none ∨ Owns expected value ∨ s.GivenUp)

section

variable {s : AutostartService} {op : Operation} {io : OperationIo} {point : JournalPoint}
  {previous : AutostartSnapshot} {expected : Text} {stored : Option AutostartStoredValue} {confirmed : Bool}

theorem givenUp_lose (s : AutostartService) : s.lose.GivenUp := ⟨rfl, rfl⟩

theorem record_of_true (h : s.records io point = true) : s.record io point = (true, s) := by
  unfold records at h
  unfold record
  cases hjournal : s.hasJournal <;> simp_all

theorem record_of_false (h : s.records io point = false) :
    s.record io point = (false, { s with journalFailed := true, snapshot := .forStatus .error }) := by
  unfold records at h
  unfold record
  cases hjournal : s.hasJournal <;> simp_all

theorem classify_accesses : (s.classify stored expected).accesses = s.accesses := by
  unfold classify
  split_ifs <;> rfl

/-- A read ends unrecorded, without an answer, or with what it returned. -/
theorem readValue_cases (s : AutostartService) (io : OperationIo) (point : JournalPoint)
    (answer : Option (Option AutostartStoredValue)) :
    s.readValue io point answer = (.journalFailure, { s with journalFailed := true, snapshot := .forStatus .error }) ∨
    s.readValue io point answer = (.backendFailure, (s.access (.read none)).withStatus .error) ∨
    ∃ value, answer = some value ∧ s.records io point = true ∧
      s.readValue io point answer = (.stored value, s.access (.read (some value))) := by
  unfold readValue
  cases hentered : s.records io point with
  | false =>
    rw [record_of_false hentered]
    exact Or.inl rfl
  | true =>
    rw [record_of_true hentered]
    cases answer with
    | none => exact Or.inr (Or.inl rfl)
    | some value => exact Or.inr (Or.inr ⟨value, rfl, rfl, rfl⟩)

/-- A value that is classified is the service's own, or was never confirmed to be, or is given up. -/
theorem classify_spec :
    Owns expected stored ∨ s.ownershipConfirmed = false ∨ (s.classify stored expected).GivenUp := by
  by_cases howns : Owns expected stored
  · exact Or.inl howns
  cases hconfirmed : s.ownershipConfirmed with
  | false => exact Or.inr (Or.inl rfl)
  | true =>
    apply Or.inr
    apply Or.inr
    unfold classify
    split_ifs with hlost
    · exact ⟨hlost, rfl⟩
    · exact s.givenUp_lose
    · exact s.givenUp_lose

/-! ## Enabling -/

/-- The read-back of a written value. -/
theorem verifyWrite_outcome (haccesses : s.accesses = [.read (some none), .write expected true])
    (hnever : confirmed = false) (hconfirmed : s.ownershipConfirmed = true)
    (hrecords : ∀ value, io.readback = some value → ¬Owns expected value →
      s.records io .readbackEntered = true → s.records io .readbackCompleted = true) :
    Outcome expected confirmed (s.verifyWrite previous expected io).2 := by
  unfold verifyWrite
  rcases s.readValue_cases io .readbackEntered io.readback with
    hread | hread | ⟨value, hreadback, hentered, hread⟩
  · rw [hread]
    exact .wrote true haccesses hnever
  · rw [hread]
    exact .wroteUnread (by simp [withSnapshot, withStatus, access, haccesses]) hnever
  · rw [hread]
    have hread : (s.access (.read (some value))).accesses =
        [.read (some none), .write expected true, .read (some value)] := by
      rw [access, haccesses]
      rfl
    dsimp only
    cases hcompleted : (s.access (.read (some value))).records io .readbackCompleted with
    | false =>
      have howns : Owns expected value := by
        by_contra hforeign
        have h := hrecords value hreadback hforeign hentered
        rw [show s.records io .readbackCompleted = false from hcompleted] at h
        cases h
      rw [record_of_false hcompleted]
      exact .verified value hread hnever (Or.inl howns)
    | true =>
      rw [record_of_true hcompleted]
      have hvalue : Owns expected value ∨ (s.access (.read (some value))).ownershipConfirmed = false
          ∨ ((s.access (.read (some value))).classify value expected).GivenUp := classify_spec
      simp only [Bool.not_true, false_eq_true, if_false]
      split
      all_goals
        refine .verified value (classify_accesses.trans hread) hnever ?_
        rcases hvalue with howns | hnever' | hlost
        · exact Or.inl howns
        · rw [show s.ownershipConfirmed = false from hnever'] at hconfirmed
          cases hconfirmed
        · exact Or.inr hlost

/-- Enabling after a read. -/
theorem enable_outcome (haccesses : s.accesses = [.read (some stored)])
    (hanew : stored = none → s.ownershipConfirmed = false)
    (hrecords : ∀ value, stored = none → io.write = true → io.readback = some value → ¬Owns expected value →
      s.records io .backendWriteEntered = true → s.records io .backendWriteCompleted = true →
      s.records io .readbackEntered = true → s.records io .readbackCompleted = true) :
    Outcome expected s.ownershipConfirmed (s.enable previous stored expected io).2 := by
  unfold enable
  by_cases hstored : stored = none
  · have hnever := hanew hstored
    simp only [hstored, ne_eq, not_true_eq_false, if_false] at haccesses ⊢
    cases hentered : s.records io .backendWriteEntered with
    | false =>
      rw [record_of_false hentered]
      exact .read none haccesses (Or.inr (Or.inl hnever))
    | true =>
      rw [record_of_true hentered]
      have hwrote : (s.access (.write expected io.write)).accesses = [.read (some none), .write expected io.write] := by
        simp [access, haccesses]
      simp only [Bool.not_true, false_eq_true, if_false]
      cases hwrite : io.write with
      | false =>
        rw [hwrite] at hwrote
        exact .wrote false hwrote hnever
      | true =>
        rw [hwrite] at hwrote
        simp only [Bool.not_true, false_eq_true, if_false]
        cases hcompleted : (s.access (.write expected true)).records io .backendWriteCompleted with
        | false =>
          rw [record_of_false hcompleted]
          exact .wrote true hwrote hnever
        | true =>
          rw [record_of_true hcompleted]
          exact verifyWrite_outcome hwrote hnever rfl fun value hreadback hforeign hreadbackEntered =>
            hrecords value hstored hwrite hreadback hforeign hentered hcompleted hreadbackEntered
  · rw [if_pos hstored]
    exact .read stored (classify_accesses.trans haccesses) classify_spec

/-! ## Disabling -/

/-- The read-back of a deleted value. -/
theorem verifyDelete_outcome (howns : Owns expected stored)
    (haccesses : s.accesses = [.read (some stored), .delete true])
    (hrecords : ∀ value, io.readback = some value → value ≠ none → ¬Owns expected value →
      s.records io .readbackEntered = true → s.records io .readbackCompleted = true) :
    Outcome expected confirmed (s.verifyDelete previous expected io).2 := by
  unfold verifyDelete
  rcases s.readValue_cases io .readbackEntered io.readback with
    hread | hread | ⟨value, hreadback, hentered, hread⟩
  · rw [hread]
    exact .deleted stored true howns haccesses
  · rw [hread]
    exact .deletedUnread stored howns (by simp [withSnapshot, withStatus, access, haccesses])
  · rw [hread]
    have hread : (s.access (.read (some value))).accesses =
        [.read (some stored), .delete true, .read (some value)] := by
      rw [access, haccesses]
      rfl
    dsimp only
    cases hcompleted : (s.access (.read (some value))).records io .readbackCompleted with
    | false =>
      have hvalue : value = none ∨ Owns expected value := by
        by_contra hforeign
        have h := hrecords value hreadback (fun h => hforeign (Or.inl h)) (fun h => hforeign (Or.inr h)) hentered
        rw [show s.records io .readbackCompleted = false from hcompleted] at h
        cases h
      rw [record_of_false hcompleted]
      exact .released stored value howns hread (hvalue.imp_right Or.inl)
    | true =>
      rw [record_of_true hcompleted]
      simp only [Bool.not_true, false_eq_true, if_false]
      split
      next => exact .released stored value howns hread (Or.inr (Or.inr (givenUp_lose _)))
      next hvalue =>
        exact .released stored value howns (classify_accesses.trans hread) (Or.inl (not_not.mp hvalue))

/-- Disabling after a read. -/
theorem disable_outcome (haccesses : s.accesses = [.read (some stored)])
    (hrecords : ∀ value, Owns expected stored → io.delete = true → io.readback = some value → value ≠ none →
      ¬Owns expected value → s.records io .backendDeleteEntered = true → s.records io .backendDeleteCompleted = true →
      s.records io .readbackEntered = true → s.records io .readbackCompleted = true) :
    Outcome expected s.ownershipConfirmed (s.disable previous stored expected io).2 := by
  unfold disable
  split
  next hstored =>
    subst hstored
    exact .read none (classify_accesses.trans haccesses) classify_spec
  next =>
    split
    next => exact .read stored haccesses (Or.inr (Or.inr (givenUp_lose s)))
    next hforeign =>
      have howns := not_not.mp hforeign
      cases hentered : s.records io .backendDeleteEntered with
      | false =>
        rw [record_of_false hentered]
        exact .read stored haccesses (Or.inl howns)
      | true =>
        rw [record_of_true hentered]
        have hdeleted : (s.access (.delete io.delete)).accesses = [.read (some stored), .delete io.delete] := by
          simp [access, haccesses]
        simp only [Bool.not_true, false_eq_true, if_false]
        cases hdelete : io.delete with
        | false =>
          rw [hdelete] at hdeleted
          exact .deleted stored false howns hdeleted
        | true =>
          rw [hdelete] at hdeleted
          simp only [Bool.not_true, false_eq_true, if_false]
          cases hcompleted : (s.access (.delete true)).records io .backendDeleteCompleted with
          | false =>
            rw [record_of_false hcompleted]
            exact .deleted stored true howns hdeleted
          | true =>
            rw [record_of_true hcompleted]
            exact verifyDelete_outcome howns hdeleted fun value hreadback hsome hforeign hreadbackEntered =>
              hrecords value howns hdelete hreadback hsome hforeign hentered hcompleted hreadbackEntered

/-! ## One operation -/

/-- There is no command, or the service is available and the command is the operation's. -/
theorem expectedCommand_cases (s : AutostartService) (op : Operation) :
    (∃ status, status ∉ [.disabled, .enabled, .occupied] ∧ s.expectedCommand op.io = (none, s.withStatus status)) ∨
    ∃ command, op.command = some command ∧ s.available = true ∧ s.expectedCommand op.io = (some command, s) := by
  unfold expectedCommand Operation.command
  cases havailable : s.available with
  | false => exact Or.inl ⟨.unavailable, by decide, rfl⟩
  | true =>
    cases op.io.executable with
    | none => exact Or.inl ⟨.invalidExecutable, by decide, rfl⟩
    | some resolved => exact Or.inr ⟨_, rfl, rfl, rfl⟩

theorem query_outcome (hempty : s.accesses = []) : (s.query op.io).accesses = [] ∨
    ∃ command, op.command = some command ∧ Outcome command s.ownershipConfirmed (s.query op.io) := by
  unfold query
  rcases s.expectedCommand_cases op with ⟨status, _, hnone⟩ | ⟨command, hcommand, _, hsame⟩
  · rw [hnone]
    exact Or.inl hempty
  · rw [hsame]
    dsimp only
    rcases s.readValue_cases op.io .backendReadEntered op.io.read with hread | hread | ⟨value, _, _, hread⟩
    · rw [hread]
      exact Or.inl hempty
    · rw [hread]
      exact Or.inr ⟨command, hcommand, .unread (by simp [withStatus, access, hempty])⟩
    · rw [hread]
      exact Or.inr ⟨command, hcommand, .read value (classify_accesses.trans (by rw [access, hempty]; rfl))
        (classify_spec (s := s.access (.read (some value))))⟩

/-- An operation that is not to overlook a change of the value. -/
theorem setEnabled_outcome {enabled : Bool} (hkind : op.kind = if enabled then .enable else .disable)
    (hempty : s.accesses = []) (hnot : ¬s.Overlooks op) : (s.setEnabled enabled op.io).2.accesses = [] ∨
    ∃ command, op.command = some command ∧
      Outcome command s.ownershipConfirmed (s.setEnabled enabled op.io).2 := by
  unfold setEnabled
  cases hservice : s.records op.io (if enabled then .serviceEnableEntered else .serviceDisableEntered) with
  | false =>
    rw [record_of_false hservice]
    exact Or.inl hempty
  | true =>
    rw [record_of_true hservice]
    simp only [Bool.not_true, false_eq_true, if_false]
    rcases s.expectedCommand_cases op with ⟨status, _, hnone⟩ | ⟨command, hcommand, havailable, hsame⟩
    · rw [hnone]
      exact Or.inl hempty
    · rw [hsame]
      dsimp only
      cases hkept : s.ownershipLost with
      | true => exact Or.inl hempty
      | false =>
        simp only [false_eq_true, if_false]
        rcases s.readValue_cases op.io .backendReadEntered op.io.read with
          hread | hread | ⟨stored, hstored, hentered, hread⟩
        · rw [hread]
          exact Or.inl hempty
        · rw [hread]
          exact Or.inr ⟨command, hcommand, .unread (by simp [withSnapshot, withStatus, access, hempty])⟩
        · rw [hread]
          apply Or.inr
          refine ⟨command, hcommand, ?_⟩
          have hfirst : (s.access (.read (some stored))).accesses = [.read (some stored)] := by
            rw [access, hempty]
            rfl
          cases enabled with
          | true =>
            apply enable_outcome hfirst
            · intro hnone
              by_contra hconfirmed
              exact hnot (.writesAnew command hcommand hkind ⟨havailable, hkept, by simpa [hentered] using hservice⟩
                (by rw [hstored, hnone]) (Bool.not_eq_false _ ▸ hconfirmed))
            · intro value hnone hwrite hreadback hforeign hwriteEntered hwriteCompleted hreadbackEntered
              by_contra hrecords
              exact hnot (.writeUnrecorded command value hcommand hkind
                ⟨havailable, hkept, by simp_all [records, access]⟩ (by rw [hstored, hnone]) hwrite hreadback hforeign
                (Bool.not_eq_true _ ▸ hrecords))
          | false =>
            apply disable_outcome hfirst
            intro value howns hdelete hreadback hsome hforeign hdeleteEntered hdeleteCompleted hreadbackEntered
            by_contra hrecords
            exact hnot (.deleteUnrecorded command stored value hcommand hkind
              ⟨havailable, hkept, by simp_all [records, access]⟩ hstored howns hdelete hreadback hsome hforeign
              (Bool.not_eq_true _ ▸ hrecords))

theorem step_outcome (hnot : ¬s.Overlooks op) : (s.step op).accesses = [] ∨
    ∃ command, op.command = some command ∧ Outcome command s.ownershipConfirmed (s.step op) := by
  have hnot' : ¬({ s with accesses := [] } : AutostartService).Overlooks op := by
    intro hoverlooks
    apply hnot
    cases hoverlooks with
    | writesAnew command hcommand hkind hpasses hread hconfirmed =>
      exact .writesAnew command hcommand hkind ⟨hpasses.1, hpasses.2, hpasses.3⟩ hread hconfirmed
    | writeUnrecorded command value hcommand hkind hpasses hread hwrite hreadback hforeign hrecords =>
      exact .writeUnrecorded command value hcommand hkind ⟨hpasses.1, hpasses.2, hpasses.3⟩ hread hwrite hreadback
        hforeign hrecords
    | deleteUnrecorded command stored value hcommand hkind hpasses hread howns hdelete hreadback hsome hforeign
        hrecords =>
      exact .deleteUnrecorded command stored value hcommand hkind ⟨hpasses.1, hpasses.2, hpasses.3⟩ hread howns
        hdelete hreadback hsome hforeign hrecords
  unfold step
  cases hkind : op.kind with
  | query => exact query_outcome (s := { s with accesses := [] }) rfl
  | enable => exact setEnabled_outcome (s := { s with accesses := [] }) hkind rfl hnot'
  | disable => exact setEnabled_outcome (s := { s with accesses := [] }) hkind rfl hnot'

/-! ## A value that is given up -/

theorem staysLost_of (status : AutostartStatus) (hlost : s.ownershipLost = true)
    (haccesses : s.accesses = [] ∨ ∃ answer, s.accesses = [.read answer]) (hsnapshot : s.snapshot = .forStatus status)
    (hstatus : status ∉ [.disabled, .enabled, .occupied]) : s.StaysLost := by
  constructor
  · exact hlost
  · intro a ha
    rcases haccesses with hnone | ⟨answer, hread⟩
    · rw [hnone] at ha
      cases ha
    · rw [hread] at ha
      rw [List.mem_singleton.mp ha]
      trivial
  · rw [hsnapshot]
    exact hstatus

theorem query_staysLost (hlost : s.ownershipLost = true) (hempty : s.accesses = []) : (s.query op.io).StaysLost := by
  unfold query
  rcases s.expectedCommand_cases op with ⟨status, hstatus, hnone⟩ | ⟨command, _, _, hsame⟩
  · rw [hnone]
    exact staysLost_of status hlost (Or.inl hempty) rfl hstatus
  · rw [hsame]
    dsimp only
    have hone : ∀ answer, (s.access (.read answer)).accesses = [.read answer] := by
      intro answer
      rw [access, hempty]
      rfl
    rcases s.readValue_cases op.io .backendReadEntered op.io.read with hread | hread | ⟨value, _, _, hread⟩
    · rw [hread]
      exact staysLost_of .error hlost (Or.inl hempty) rfl (by decide)
    · rw [hread]
      exact staysLost_of .error hlost (Or.inr ⟨none, hone none⟩) rfl (by decide)
    · rw [hread]
      have hclassify : (s.access (.read (some value))).classify value command =
          (s.access (.read (some value))).withStatus .ownershipLost := if_pos hlost
      dsimp only
      rw [hclassify]
      exact staysLost_of .ownershipLost hlost (Or.inr ⟨some value, hone (some value)⟩) rfl (by decide)

theorem setEnabled_staysLost (hlost : s.ownershipLost = true) (hempty : s.accesses = []) (enabled : Bool) :
    (s.setEnabled enabled op.io).2.StaysLost := by
  unfold setEnabled
  cases hservice : s.records op.io (if enabled then .serviceEnableEntered else .serviceDisableEntered) with
  | false =>
    rw [record_of_false hservice]
    exact staysLost_of .error hlost (Or.inl hempty) rfl (by decide)
  | true =>
    rw [record_of_true hservice]
    simp only [Bool.not_true, false_eq_true, if_false]
    rcases s.expectedCommand_cases op with ⟨status, hstatus, hnone⟩ | ⟨command, _, _, hsame⟩
    · rw [hnone]
      exact staysLost_of status hlost (Or.inl hempty) rfl hstatus
    · rw [hsame]
      dsimp only
      rw [if_pos hlost]
      exact staysLost_of .ownershipLost hlost (Or.inl hempty) rfl (by decide)

/-- Whatever an operation does, a value that is given up stays so. -/
theorem step_staysLost (h : s.ownershipLost = true) (op : Operation) : (s.step op).StaysLost := by
  unfold step
  cases op.kind with
  | query => exact query_staysLost (s := { s with accesses := [] }) h rfl
  | enable => exact setEnabled_staysLost (s := { s with accesses := [] }) h rfl true
  | disable => exact setEnabled_staysLost (s := { s with accesses := [] }) h rfl false

theorem run_staysLost (h : s.ownershipLost = true) (ops : List Operation) :
    StepsMeet step (fun s op => (s.step op).StaysLost) s ops := by
  have hkeeps : ∀ (s : AutostartService) op, s.ownershipLost = true → (s.step op).ownershipLost = true :=
    fun _ op hs => (step_staysLost hs op).lost
  exact run_gives hkeeps (fun _ op hs => step_staysLost hs op) s ops h

/-! ## What a result shows -/

/-- The journal takes every record of an operation. -/
def Recorded (s : AutostartService) (io : OperationIo) : Prop := ∀ point, s.records io point = true

theorem readValue_of_true (h : s.records io point = true) (answer : Option (Option AutostartStoredValue)) :
    s.readValue io point answer = match answer with
      | none => (.backendFailure, (s.access (.read none)).withStatus .error)
      | some value => (.stored value, s.access (.read (some value))) := by
  unfold readValue
  rw [record_of_true h]
  rfl

theorem verifyWrite_shows (h : s.Recorded io) :
    (s.verifyWrite previous expected io).1.snapshot = (s.verifyWrite previous expected io).2.snapshot := by
  unfold verifyWrite
  rw [readValue_of_true (h _)]
  cases io.readback with
  | none => rfl
  | some verified =>
    have hread : (s.access (.read (some verified))).Recorded io := h
    simp only [record_of_true (hread _), Bool.not_true, false_eq_true, if_false]
    split <;> rfl

theorem enable_shows (h : s.Recorded io) :
    (s.enable previous stored expected io).1.snapshot = (s.enable previous stored expected io).2.snapshot := by
  unfold enable
  split
  next => dsimp only; split <;> rfl
  next =>
    simp only [record_of_true (h _), Bool.not_true, false_eq_true, if_false]
    split
    next => rfl
    next =>
      have hwritten : (s.access (.write expected io.write)).Recorded io := h
      simp only [record_of_true (hwritten _), Bool.not_true, false_eq_true, if_false]
      exact verifyWrite_shows h

theorem verifyDelete_shows (h : s.Recorded io) :
    (s.verifyDelete previous expected io).1.snapshot = (s.verifyDelete previous expected io).2.snapshot := by
  unfold verifyDelete
  rw [readValue_of_true (h _)]
  cases io.readback with
  | none => rfl
  | some verified =>
    have hread : (s.access (.read (some verified))).Recorded io := h
    simp only [record_of_true (hread _), Bool.not_true, false_eq_true, if_false]
    split <;> rfl

theorem disable_shows (h : s.Recorded io) :
    (s.disable previous stored expected io).1.snapshot = (s.disable previous stored expected io).2.snapshot := by
  unfold disable
  split
  next => dsimp only; split <;> rfl
  next =>
    split
    next => rfl
    next =>
      simp only [record_of_true (h _), Bool.not_true, false_eq_true, if_false]
      split
      next => rfl
      next =>
        have hdeleted : (s.access (.delete io.delete)).Recorded io := h
        simp only [record_of_true (hdeleted _), Bool.not_true, false_eq_true, if_false]
        exact verifyDelete_shows h

theorem expectedCommand_recorded (h : s.Recorded io) : (s.expectedCommand io).2.Recorded io := by
  unfold expectedCommand
  split
  next => exact h
  next => split <;> exact h

/-- While the journal takes what is recorded, the result of a mutation carries the snapshot the service then has. -/
theorem setEnabled_shows (h : s.Recorded io) (enabled : Bool) :
    (s.setEnabled enabled io).1.snapshot = (s.setEnabled enabled io).2.snapshot := by
  have hexpected := expectedCommand_recorded h
  unfold setEnabled
  simp only [record_of_true (h _), Bool.not_true, false_eq_true, if_false]
  generalize s.expectedCommand io = found at hexpected ⊢
  obtain ⟨expected, u⟩ := found
  cases expected with
  | none => rfl
  | some expected =>
    dsimp only
    split
    next => rfl
    next =>
      rw [readValue_of_true (hexpected _)]
      cases io.read with
      | none => rfl
      | some value =>
        cases enabled
        · exact disable_shows hexpected
        · exact enable_shows hexpected

/-! ## Runs -/

variable {before after : List Access}

theorem Outcome.length_accesses (h : Outcome expected confirmed s) : s.accesses.length ≤ 3 := by
  cases h <;> simp_all

/-- At most two accesses stand before another. -/
theorem Outcome.before_cases (h : Outcome expected confirmed s) {a : Access} (hcut : s.accesses = before ++ a :: after) :
    before = [] ∨ (∃ first, before = [first]) ∨ ∃ first second, before = [first, second] ∧ after = [] := by
  have hlength := h.length_accesses
  rw [hcut] at hlength
  rcases before with _ | ⟨first, _ | ⟨second, _ | ⟨third, rest⟩⟩⟩
  · exact Or.inl rfl
  · exact Or.inr (Or.inl ⟨first, rfl⟩)
  · have hafter : after = [] := by
      rw [List.eq_nil_iff_length_eq_zero]
      simp only [List.length_append, List.length_cons] at hlength
      omega
    exact Or.inr (Or.inr ⟨first, second, rfl, hafter⟩)
  · simp only [List.length_append, List.length_cons] at hlength
    omega

/-- It writes its command right after it found no value. -/
theorem Outcome.writes (h : Outcome expected confirmed s) {command : Text} {done : Bool}
    (hcut : s.accesses = before ++ .write command done :: after) :
    expected = command ∧ before = [.read (some none)] := by
  rcases h.before_cases hcut with rfl | ⟨first, rfl⟩ | ⟨first, second, rfl, rfl⟩ <;> cases h <;> simp_all

/-- It deletes right after it found its own value. -/
theorem Outcome.deletes (h : Outcome expected confirmed s) {done : Bool}
    (hcut : s.accesses = before ++ .delete done :: after) :
    ∃ value, Owns expected value ∧ before = [.read (some value)] := by
  rcases h.before_cases hcut with rfl | ⟨first, rfl⟩ | ⟨first, second, rfl, rfl⟩ <;> cases h <;> simp_all
  all_goals exact ⟨_, ‹_›, hcut.1.symm⟩

/-- After it found a value that it had taken for its own missing or foreign, it accesses nothing and has given it up. -/
theorem Outcome.disturbed (h : Outcome expected confirmed s) {value : Option AutostartStoredValue}
    (hcut : s.accesses = before ++ .read (some value) :: after)
    (hconfirmed : confirmed = true ∨ .write expected true ∈ before ∨
      ∃ value, Owns expected value ∧ .read (some value) ∈ before)
    (hforeign : ¬Owns expected value) (hdeleted : ¬(value = none ∧ .delete true ∈ before)) :
    after = [] ∧ s.GivenUp := by
  rcases h.before_cases hcut with rfl | ⟨first, rfl⟩ | ⟨first, second, rfl, rfl⟩ <;> cases h <;> simp_all

theorem step_safe (hnot : ¬s.Overlooks op) : s.Safe op := by
  rcases step_outcome hnot with hempty | ⟨expected, hcommand, houtcome⟩
  · constructor
    · intro before command done after hcut
      simp [hempty] at hcut
    · intro before done after hcut
      simp [hempty] at hcut
    · intro command before value after _ hcut
      simp [hempty] at hcut
  · constructor
    · intro before command done after hcut
      obtain ⟨rfl, hbefore⟩ := houtcome.writes hcut
      exact ⟨hcommand, hbefore⟩
    · intro before done after hcut
      obtain ⟨value, howns, hbefore⟩ := houtcome.deletes hcut
      exact ⟨expected, value, hcommand, howns, hbefore⟩
    · intro command before value after hcommand' hcut hconfirmed hforeign hdeleted
      obtain rfl : expected = command := Option.some.inj (hcommand.symm.trans hcommand')
      obtain ⟨rfl, hgivenUp⟩ := houtcome.disturbed hcut hconfirmed hforeign hdeleted
      exact ⟨by simp, hgivenUp, fun later => run_staysLost hgivenUp.1 later⟩

end

/-- In a run that overlooks no change of the value, every operation writes over nothing, deletes only its own value, and
gives a value of its own up for good when it finds it missing or foreign. -/
theorem run_safe (s : AutostartService) (ops : List Operation)
    (h : StepsMeet step (fun s op => ¬s.Overlooks op) s ops) : StepsMeet step Safe s ops :=
  h.mono fun _ _ => step_safe

/-- Enabling finds no value, and finds its own command when it reads back. -/
def enabling : Operation where
  kind := .enable
  io := {
    executable := some (lit "C:/ArkClaw.exe")
    read := some none
    readback := some (some ⟨registryStringValueType, some (lit "\"C:/ArkClaw.exe\" --startup")⟩) }

/-- A first registration, then a query that finds the value deleted. -/
theorem run_safe_deleted : StepsMeet step Safe { available := true, hasJournal := false }
    [enabling, { enabling with kind := .query }] := by
  apply run_safe
  refine ⟨?_, ?_, trivial⟩
  · intro hoverlooks
    cases hoverlooks with
    | writesAnew _ _ _ _ _ hconfirmed => cases hconfirmed
    | writeUnrecorded _ _ _ _ _ _ _ _ _ hrecords => cases hrecords
    | deleteUnrecorded _ _ _ _ hkind => cases hkind
  · intro hoverlooks
    cases hoverlooks with
    | writesAnew _ _ hkind => cases hkind
    | writeUnrecorded _ _ _ hkind => cases hkind
    | deleteUnrecorded _ _ _ _ hkind => cases hkind

/-- The value is registered, another deletes it, and enabling finds it missing: it is written anew. -/
theorem enabling_writes_anew :
    (run step { available := true, hasJournal := false } [enabling]).ownershipConfirmed = true ∧
    (run step { available := true, hasJournal := false } [enabling, enabling]).snapshot.status = .enabled ∧
    (run step { available := true, hasJournal := false } [enabling, enabling]).accesses.drop 1 =
      [.write (lit "\"C:/ArkClaw.exe\" --startup") true, .read enabling.io.readback] ∧
    ¬StepsMeet step Safe { available := true, hasJournal := false } [enabling, enabling] := by
  refine ⟨by decide, by decide, by decide, ?_⟩
  rintro ⟨_, hsafe, _⟩
  obtain ⟨habstains, _⟩ := hsafe.disturbed (lit "\"C:/ArkClaw.exe\" --startup") [] none
    [.write (lit "\"C:/ArkClaw.exe\" --startup") true, .read enabling.io.readback] (by decide) (by decide)
    (Or.inl (by decide)) (by decide) (by simp)
  exact habstains (.write (lit "\"C:/ArkClaw.exe\" --startup") true) (by simp)

end AutostartService

end ArkClaw.Autostart
