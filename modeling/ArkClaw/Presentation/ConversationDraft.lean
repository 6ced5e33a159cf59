import ArkClaw.Library.Text

/-!
# The conversation draft

The model owns the one unsent draft of a conversation. A submission captures the draft and leaves it; the answer
to a submission comes later, under its identity. The acceptance of the submission in flight clears the draft if
its revision is still the captured one.
-/

namespace ArkClaw.Presentation

open ArkClaw.Library

/-- Exact immutable snapshot captured at submit time. -/
structure SubmittedDraftSnapshot where
  identity : Text
  revision : Nat
  text : Text
deriving DecidableEq

/-- Committed (or in-progress composition) edit request from a host. -/
structure DraftEditIntent where
  text : Text
  caret : Int
  selection : Option (Int × Int) := none
  imeComposition : Option Text := none
deriving DecidableEq

/-- Immutable projection of the authoritative draft state. -/
structure ConversationDraftSnapshot where
  text : Text
  hasDraft : Bool
  revision : Nat
  caret : Int
  selection : Option (Int × Int)
  submittedSnapshotIdentity : Option Text
  imeComposition : Option Text
deriving DecidableEq

/-- Single owner of the unsent draft state for one conversation context. -/
structure ConversationDraftModel where
  text : Text := []
  revision : Nat := 0
  caret : Int := 0
  selection : Option (Int × Int) := none
  imeComposition : Option Text := none
  submittedIdentity : Option Text := none
  /-- The captured snapshots that no answer has come to, under their identities. -/
  submittedSnapshots : List SubmittedDraftSnapshot := []
deriving DecidableEq

namespace ConversationDraftModel

variable (m : ConversationDraftModel)

def snapshot : ConversationDraftSnapshot where
  text := m.text
  hasDraft := decide (m.text ≠ [])
  revision := m.revision
  caret := m.caret
  selection := m.selection
  submittedSnapshotIdentity := m.submittedIdentity
  imeComposition := m.imeComposition

/-- The snapshot captured under an identity. -/
def submitted (identity : Text) : Option SubmittedDraftSnapshot :=
  m.submittedSnapshots.find? fun s => s.identity = identity

/-- The snapshots without those of an identity. -/
def forget (identity : Text) : ConversationDraftModel :=
  { m with submittedSnapshots := m.submittedSnapshots.filter fun s => s.identity ≠ identity }

/-- A submission that is in flight is no longer, if it has this identity. -/
def settle (identity : Text) : ConversationDraftModel :=
  if m.submittedIdentity = some identity then { m with submittedIdentity := none } else m

/-- Apply one committed edit or an in-progress composition update. -/
def edit (intent : DraftEditIntent) : ConversationDraftModel :=
  match intent.imeComposition with
  | some composition => { m with caret := intent.caret, selection := intent.selection, imeComposition := some composition }
  | none =>
    let m := { m with caret := intent.caret, selection := intent.selection, imeComposition := none }
    if intent.text ≠ m.text then { m with text := intent.text, revision := m.revision + 1 } else m

/-- Capture a submit snapshot under a new identity, unless there is nothing to submit, a composition is in progress
or a submission is in flight. -/
def submit (identity : Text) : Option SubmittedDraftSnapshot × ConversationDraftModel :=
  if m.text = [] ∨ m.imeComposition ≠ none ∨ m.submittedIdentity ≠ none then (none, m)
  else
    let captured : SubmittedDraftSnapshot := { identity, revision := m.revision, text := m.text }
    (some captured,
      { m with submittedIdentity := some identity
               submittedSnapshots := (m.forget identity).submittedSnapshots ++ [captured] })

def clearDraft : ConversationDraftModel := { m with text := [], caret := 0, selection := none, imeComposition := none }

/-- Clear the draft only when the accepted snapshot is still current. -/
def accept (identity : Text) : ConversationDraftModel :=
  match m.submitted identity with
  | none => m
  | some captured =>
    let m := m.forget identity
    if m.submittedIdentity = some identity ∧ m.revision = captured.revision then (m.clearDraft).settle identity
    else m.settle identity

/-- Failure never discards the draft. -/
def reject (identity : Text) : ConversationDraftModel := (m.forget identity).settle identity

/-- A cancellation never discards the draft. -/
def cancel (identity : Text) : ConversationDraftModel := (m.forget identity).settle identity

/-- An explicit discard destroys the draft. -/
def discard : ConversationDraftModel := { m.clearDraft with submittedIdentity := none }

/-- The operations on a draft. -/
inductive DraftOperation where
  | edit (intent : DraftEditIntent)
  | submit (identity : Text)
  | accept (identity : Text)
  | reject (identity : Text)
  | cancel (identity : Text)
  | discard
deriving DecidableEq

def apply : DraftOperation → ConversationDraftModel
  | .edit intent => m.edit intent
  | .submit identity => (m.submit identity).2
  | .accept identity => m.accept identity
  | .reject identity => m.reject identity
  | .cancel identity => m.cancel identity
  | .discard => m.discard

/-! ## What the operations keep -/

/-- A submission in flight was captured under its identity and not later than now; at the revision of the draft it
has its text. -/
def Sound : Prop :=
  ∀ identity, m.submittedIdentity = some identity → ∃ captured, m.submitted identity = some captured ∧
    captured.revision ≤ m.revision ∧ (captured.revision = m.revision → captured.text = m.text)

/-- What an operation may do to the draft. -/
structure Kept (op : DraftOperation) (m' : ConversationDraftModel) : Prop where
  empties : m.text ≠ [] → m'.text = [] →
    (∃ intent, op = .edit intent ∧ intent.imeComposition = none ∧ intent.text = []) ∨ op = .discard ∨
      ∃ identity captured, op = .accept identity ∧ m.submittedIdentity = some identity ∧
        m.submitted identity = some captured ∧ captured.text = m.text
  single : ∀ identity, op = .submit identity → m.submittedIdentity ≠ none → m' = m
  stale : ∀ identity, op = .accept identity ∨ op = .reject identity ∨ op = .cancel identity →
    m.submittedIdentity ≠ some identity → m' = m.forget identity ∧ m'.snapshot = m.snapshot
  composed : ∀ identity, op = .accept identity → m'.imeComposition = m.imeComposition
  typed : ∀ identity captured, op = .accept identity → m.submitted identity = some captured →
    captured.revision ≠ m.revision ∨ captured.text ≠ m.text → m'.text = m.text

/-- The acceptance of a submission that is still current comes while a composition is in progress. -/
def LosesComposition (op : DraftOperation) : Prop :=
  m.imeComposition ≠ none ∧ ∃ identity captured, op = .accept identity ∧ m.submittedIdentity = some identity ∧
    m.submitted identity = some captured ∧ captured.revision = m.revision

section

variable {m} {identity : Text}

theorem submitted_forget {other : Text} (h : identity ≠ other) :
    (m.forget other).submitted identity = m.submitted identity := by
  unfold submitted forget
  rw [List.find?_filter]
  congr 1
  funext s
  by_cases hs : s.identity = identity <;> simp [hs, h]

theorem submitted_forget_self (identity : Text) : (m.forget identity).submitted identity = none := by
  unfold submitted forget
  rw [List.find?_eq_none]
  intro s hs
  simpa using (List.mem_filter.mp hs).2

/-- An identity that no snapshot has is forgotten already. -/
theorem forget_of_none (h : m.submitted identity = none) : m.forget identity = m := by
  have hfilter : (m.submittedSnapshots.filter fun s => s.identity ≠ identity) = m.submittedSnapshots := by
    rw [List.filter_eq_self]
    intro s hs
    simpa using List.find?_eq_none.mp h s hs
  unfold forget
  rw [hfilter]

theorem settle_of_ne (h : m.submittedIdentity ≠ some identity) : m.settle identity = m := if_neg h

theorem settle_submittedIdentity (h : m.submittedIdentity = some identity) :
    (m.settle identity).submittedIdentity = none := by
  unfold settle
  rw [if_pos h]

theorem settle_text : (m.settle identity).text = m.text := by
  unfold settle
  split <;> rfl

theorem settle_imeComposition : (m.settle identity).imeComposition = m.imeComposition := by
  unfold settle
  split <;> rfl

/-- An answer to a submission that is not in flight takes away its snapshot only. -/
theorem answer_stale (h : m.submittedIdentity ≠ some identity) :
    (m.forget identity).settle identity = m.forget identity := settle_of_ne h

/-- With nothing in flight there is nothing to be sound of. -/
theorem Sound.of_none (h : m.submittedIdentity = none) : m.Sound := by
  intro identity hidentity
  rw [h] at hidentity
  cases hidentity

/-- An answer leaves what is in flight as it was, or nothing in flight. -/
theorem Sound.forget_settle (h : m.Sound) : ((m.forget identity).settle identity).Sound := by
  by_cases hinFlight : m.submittedIdentity = some identity
  · exact Sound.of_none (settle_submittedIdentity hinFlight)
  · rw [answer_stale hinFlight]
    intro other hother
    obtain ⟨captured, hcaptured, hrevision⟩ := h other hother
    refine ⟨captured, ?_, hrevision⟩
    rw [submitted_forget, hcaptured]
    rintro rfl
    exact hinFlight hother

theorem Sound.edit (h : m.Sound) (intent : DraftEditIntent) : (m.edit intent).Sound := by
  intro identity hidentity
  unfold ConversationDraftModel.edit at hidentity ⊢
  split at hidentity
  next composition _ => exact h identity hidentity
  next =>
    dsimp only at hidentity ⊢
    by_cases htext : intent.text ≠ m.text
    · rw [if_pos htext] at hidentity ⊢
      obtain ⟨captured, hcaptured, hle, -⟩ := h identity hidentity
      refine ⟨captured, hcaptured, Nat.le_succ_of_le hle, ?_⟩
      intro hrevision
      have hrevision : captured.revision = m.revision + 1 := hrevision
      omega
    · rw [if_neg htext] at hidentity ⊢
      exact h identity hidentity

theorem Sound.submit (h : m.Sound) (identity : Text) : (m.submit identity).2.Sound := by
  unfold ConversationDraftModel.submit
  split
  · exact h
  · intro other hother
    obtain rfl : identity = other := Option.some.inj hother
    refine ⟨{ identity, revision := m.revision, text := m.text }, ?_, le_rfl, fun _ => rfl⟩
    show ((m.forget identity).submittedSnapshots ++ [_]).find? _ = _
    rw [List.find?_append]
    show ((m.forget identity).submitted identity).or _ = _
    rw [submitted_forget_self]
    simp

/-- Every operation keeps the draft sound. -/
theorem Sound.apply (h : m.Sound) (op : DraftOperation) : (m.apply op).Sound := by
  cases op with
  | edit intent => exact h.edit intent
  | submit identity => exact h.submit identity
  | accept identity =>
    show (m.accept identity).Sound
    unfold accept
    split
    · exact h
    · dsimp only
      split
      next hcurrent => exact Sound.of_none (settle_submittedIdentity hcurrent.1)
      next => exact h.forget_settle
  | reject identity => exact h.forget_settle
  | cancel identity => exact h.forget_settle
  | discard => exact Sound.of_none rfl

/-- An acceptance clears the draft, or it is like the other answers. -/
theorem accept_eq (h : m.Sound) (identity : Text) : m.accept identity = (m.forget identity).settle identity ∨
      ∃ captured, m.submittedIdentity = some identity ∧ m.submitted identity = some captured ∧
        captured.revision = m.revision ∧ m.accept identity = (m.forget identity).clearDraft.settle identity := by
  unfold accept
  cases hsubmitted : m.submitted identity with
  | none =>
    have hstale : m.submittedIdentity ≠ some identity := by
      intro hinFlight
      obtain ⟨captured, hcaptured, -⟩ := h identity hinFlight
      rw [hsubmitted] at hcaptured
      cases hcaptured
    left
    rw [answer_stale hstale, forget_of_none hsubmitted]
  | some captured =>
    dsimp only
    split
    next hcurrent => exact Or.inr ⟨captured, hcurrent.1, rfl, hcurrent.2.symm, rfl⟩
    next => exact Or.inl rfl

/-- An answer that does not clear the draft keeps what it should. -/
theorem kept_forget_settle {op : DraftOperation} (hop : op = .accept identity ∨ op = .reject identity ∨ op = .cancel identity) :
    m.Kept op ((m.forget identity).settle identity) where
  empties htext hempty := absurd (settle_text.symm.trans hempty) htext
  single other h := by rcases hop with rfl | rfl | rfl <;> cases h
  stale other h hstale := by
    obtain rfl : identity = other := by
      rcases hop with rfl | rfl | rfl <;> rcases h with h | h | h <;> cases h <;> rfl
    rw [answer_stale hstale]
    exact ⟨rfl, rfl⟩
  composed _ _ := settle_imeComposition
  typed _ _ _ _ _ := settle_text

theorem kept_edit (intent : DraftEditIntent) : m.Kept (.edit intent) (m.edit intent) where
  empties htext hempty := by
    refine Or.inl ⟨intent, rfl, ?_⟩
    unfold ConversationDraftModel.edit at hempty
    split at hempty
    next => exact (htext hempty).elim
    next hcomposition =>
      dsimp only at hempty
      split at hempty
      next => exact ⟨hcomposition, hempty⟩
      next => exact (htext hempty).elim
  single _ h := nomatch h
  stale _ h := by rcases h with h | h | h <;> cases h
  composed _ h := nomatch h
  typed _ _ h := nomatch h

theorem kept_submit (identity : Text) : m.Kept (.submit identity) (m.submit identity).2 where
  empties htext hempty := by
    unfold ConversationDraftModel.submit at hempty
    split at hempty
    · exact (htext hempty).elim
    · exact (htext hempty).elim
  single _ _ hinFlight := by
    unfold ConversationDraftModel.submit
    rw [if_pos (Or.inr (Or.inr hinFlight))]
  stale _ h := by rcases h with h | h | h <;> cases h
  composed _ h := nomatch h
  typed _ _ h := nomatch h

theorem kept_discard : m.Kept .discard m.discard where
  empties _ _ := Or.inr (Or.inl rfl)
  single _ h := nomatch h
  stale _ h := by rcases h with h | h | h <;> cases h
  composed _ h := nomatch h
  typed _ _ h := nomatch h

/-- The acceptance of the current submission clears the draft, and a composition with it. -/
theorem accept_current {captured : SubmittedDraftSnapshot} (hinFlight : m.submittedIdentity = some identity)
    (hcaptured : m.submitted identity = some captured) (hrevision : captured.revision = m.revision) :
    m.accept identity = (m.forget identity).clearDraft.settle identity := by
  unfold accept
  rw [hcaptured]
  exact if_pos ⟨hinFlight, hrevision.symm⟩

/-- An operation keeps what it should, exactly if no acceptance of the current submission comes while a composition
is in progress. -/
theorem kept_apply_iff (h : m.Sound) (op : DraftOperation) : m.Kept op (m.apply op) ↔ ¬m.LosesComposition op := by
  constructor
  · rintro hkept ⟨hcomposition, identity, captured, rfl, hinFlight, hcaptured, hrevision⟩
    have hcomposed : (m.accept identity).imeComposition = m.imeComposition := hkept.composed identity rfl
    rw [accept_current hinFlight hcaptured hrevision, settle_imeComposition] at hcomposed
    exact hcomposition hcomposed.symm
  intro hloses
  cases op with
  | edit intent => exact kept_edit intent
  | submit identity => exact kept_submit identity
  | reject identity => exact kept_forget_settle (Or.inr (Or.inl rfl))
  | cancel identity => exact kept_forget_settle (Or.inr (Or.inr rfl))
  | discard => exact kept_discard
  | accept identity =>
    show m.Kept (.accept identity) (m.accept identity)
    rcases accept_eq h identity with heq | ⟨captured, hinFlight, hcaptured, hrevision, heq⟩
    · rw [heq]
      exact kept_forget_settle (Or.inl rfl)
    rw [heq]
    obtain ⟨captured', hcaptured', -, htext⟩ := h identity hinFlight
    obtain rfl : captured = captured' := Option.some.inj (hcaptured.symm.trans hcaptured')
    have hcomposition : m.imeComposition = none := by
      by_contra hcomposition
      exact hloses ⟨hcomposition, identity, captured, rfl, hinFlight, hcaptured, hrevision⟩
    constructor
    · intro _ _
      exact Or.inr (Or.inr ⟨identity, captured, rfl, hinFlight, hcaptured, htext hrevision⟩)
    · intro _ hop
      cases hop
    · intro other hop hstale
      rcases hop with hop | hop | hop <;> cases hop
      exact (hstale hinFlight).elim
    · intro _ _
      rw [settle_imeComposition, hcomposition]
      rfl
    · intro other other' hop hother hchanged
      cases hop
      obtain rfl : captured = other' := Option.some.inj (hcaptured.symm.trans hother)
      rcases hchanged with hchanged | hchanged
      · exact (hchanged hrevision).elim
      · exact (hchanged (htext hrevision)).elim

end

end ConversationDraftModel

end ArkClaw.Presentation
