import ArkClaw.Agent.ContextManager
import Mathlib.Data.List.TakeDrop

/-!
# What a request keeps of its context

A request holds the end of the recent history and the beginning of the memories in the order of their importance. What
is dropped is dropped in turn: history from its oldest message on, and memories from the least important one on once no
history is left. `SparesInTurn` says that it stops as soon as the rest fits.

It does not say that the rest could hold nothing more: a history that made room in vain, since a memory had to go as
well, is not taken back (`dropped_for_a_dropped_memory`).
-/

namespace ArkClaw.Agent

open ArkClaw.Library ArkClaw.Domain

namespace ContextManager

/-! ## Dropping until the rest fits -/

/-- The first elements are dropped up to where the rest fits, all of them if none does. -/
theorem dropUntil_spec {α : Type} (fits : List α → Bool) (l : List α) :
    ∃ k ≤ l.length, dropUntil fits l = l.drop k ∧ (∀ j < k, fits (l.drop j) = false)
      ∧ (k = l.length ∨ fits (l.drop k) = true) := by
  induction l with
  | nil => exact ⟨0, le_rfl, rfl, fun _ hj => absurd hj (Nat.not_lt_zero _), .inl rfl⟩
  | cons a rest ih =>
    rw [dropUntil]
    cases hfits : fits (a :: rest) with
    | true => exact ⟨0, Nat.zero_le _, rfl, fun _ hj => absurd hj (Nat.not_lt_zero _), .inr hfits⟩
    | false =>
      obtain ⟨k, hk, hdrop, hbefore, hend⟩ := ih
      refine ⟨k + 1, Nat.succ_le_succ hk, hdrop, ?_, hend.imp (congrArg (· + 1)) id⟩
      intro j hj
      cases j with
      | zero => exact hfits
      | succ j => exact hbefore j (Nat.lt_of_succ_lt_succ hj)

/-- The last elements are dropped up to where the rest fits. -/
theorem dropUntil_reverse_spec {α : Type} (fits : List α → Bool) (l : List α) :
    ∃ k ≤ l.length, (dropUntil (fun rest => fits rest.reverse) l.reverse).reverse = l.take k
      ∧ (∀ j, k < j → j ≤ l.length → fits (l.take j) = false) ∧ (k = 0 ∨ fits (l.take k) = true) := by
  obtain ⟨k, hk, hdrop, hbefore, hend⟩ := dropUntil_spec (fun rest => fits rest.reverse) l.reverse
  rw [List.length_reverse] at hk hend
  have htake : ∀ j, (l.reverse.drop j).reverse = l.take (l.length - j) := by
    intro j
    rw [List.drop_reverse, List.reverse_reverse]
  refine ⟨l.length - k, Nat.sub_le _ _, by rw [hdrop, htake], ?_, ?_⟩
  · intro j hkj hj
    have hdropped := hbefore (l.length - j) (by omega)
    rwa [htake, Nat.sub_sub_self hj] at hdropped
  · rw [← htake]
    exact hend.imp (fun hall => by omega) id

/-! ## What is selected -/

variable (m : ContextManager)

/-- The end of the history that a request may hold. -/
def recentHistory (history : List ChatMessage) : List ChatMessage :=
  history.drop (history.length - m.config.maxRecentMessages)

/-- With this history and these memories, a request is within the budget. -/
def Fits (command : UserMessageCommand) (history : List ChatMessage) (memories : List MemoryRecord) : Prop :=
  contextSize m.renderInstructions (history ++ [command.message]) memories ≤ m.config.maxContextChars

instance (command : UserMessageCommand) (history : List ChatMessage) (memories : List MemoryRecord) :
    Decidable (m.Fits command history memories) := inferInstanceAs (Decidable (_ ≤ _))

/-- The characters of a request that count. -/
def countedSize (request : LLMRequest) : Nat :=
  request.instructions.length + (request.messages.map fun message => message.content.length).sum
    + (request.memoryContext.map fun memory => memory.content.length).sum

/-- The active ones of the memories, the most important first. -/
structure ByImportance (memories ordered : List MemoryRecord) : Prop where
  active : ordered.Perm (memories.filter MemoryRecord.isRetrievable)
  sorted : ordered.Pairwise fun a b => moreImportant a b = true

theorem moreImportant_iff {a b : MemoryRecord} : moreImportant a b = true ↔
    a.pinned = b.pinned ∧ b.updatedAt ≤ a.updatedAt ∨ a.pinned = true ∧ b.pinned = false := by
  unfold moreImportant
  cases ha : a.pinned <;> cases hb : b.pinned <;> simp

theorem moreImportant_trans (a b c : MemoryRecord) (hab : moreImportant a b = true) (hbc : moreImportant b c = true) :
    moreImportant a c = true := by
  rw [moreImportant_iff] at *
  rcases hab with ⟨hab, hle⟩ | ⟨ha, hb⟩
  · rw [hab]
    exact hbc.imp (fun ⟨hbc, hle'⟩ => ⟨hbc, Int.le_trans hle' hle⟩) id
  · refine .inr ⟨ha, ?_⟩
    rcases hbc with ⟨hbc, -⟩ | ⟨hb', -⟩
    · exact hbc.symm.trans hb
    · rw [hb] at hb'
      cases hb'

theorem moreImportant_total (a b : MemoryRecord) : (moreImportant a b || moreImportant b a) = true := by
  rw [Bool.or_eq_true, moreImportant_iff, moreImportant_iff]
  rcases Int.le_total b.updatedAt a.updatedAt with hle | hle <;>
    cases ha : a.pinned <;> cases hb : b.pinned <;> simp [hle]

theorem byImportance_mergeSort (memories : List MemoryRecord) :
    ByImportance memories ((memories.filter MemoryRecord.isRetrievable).mergeSort moreImportant) :=
  ⟨List.mergeSort_perm _ _, List.pairwise_mergeSort moreImportant_trans moreImportant_total _⟩

/-- So many messages of the recent history are dropped, and so many of the selected memories kept. -/
structure Selection (command : UserMessageCommand) (recent : List ChatMessage) (selected : List MemoryRecord)
    (request : LLMRequest) (dropped kept : Nat) : Prop where
  dropped_le : dropped ≤ recent.length
  kept_le : kept ≤ selected.length
  instructions : request.instructions = m.renderInstructions
  messages : request.messages = recent.drop dropped ++ [command.message]
  memoryContext : request.memoryContext = (selected.take kept).map MemoryContext.fromRecord

/-- Nothing is dropped that there would be room for. -/
structure SparesAll (command : UserMessageCommand) (recent : List ChatMessage) (selected : List MemoryRecord)
    (dropped kept : Nat) : Prop where
  history : 0 < dropped → ¬m.Fits command (recent.drop (dropped - 1)) (selected.take kept)
  memories : kept < selected.length →
    dropped = recent.length ∧ ¬m.Fits command (recent.drop dropped) (selected.take (kept + 1))

/-- A message is dropped as long as all memories are kept and the rest does not fit; a memory, as long as no history is
left and the rest does not fit. -/
structure SparesInTurn (command : UserMessageCommand) (recent : List ChatMessage) (selected : List MemoryRecord)
    (dropped kept : Nat) : Prop where
  history : ∀ d < dropped, ¬m.Fits command (recent.drop d) selected
  memories : kept < selected.length →
    dropped = recent.length ∧ ∀ k, kept < k → k ≤ selected.length → ¬m.Fits command [] (selected.take k)

/-- A request within the budget, unless the mandatory fields alone exceed it. -/
inductive Selects (command : UserMessageCommand) (history : List ChatMessage) (memories : List MemoryRecord)
    (Spares : List ChatMessage → List MemoryRecord → Nat → Nat → Prop) : Option LLMRequest → Prop where
  | exceeded (h : ¬m.Fits command [] []) : Selects command history memories Spares none
  | selected (request : LLMRequest) (ordered : List MemoryRecord) (dropped kept : Nat)
      (hmandatory : m.Fits command [] [])
      (hbudget : countedSize request ≤ m.config.maxContextChars)
      (hordered : ByImportance memories ordered)
      (hselection : m.Selection command (m.recentHistory history) (ordered.take m.config.maxMemories) request dropped kept)
      (hspares : Spares (m.recentHistory history) (ordered.take m.config.maxMemories) dropped kept) :
      Selects command history memories Spares (some request)

/-! ## Building a request -/

variable {m} {command : UserMessageCommand} {history : List ChatMessage} {memories : List MemoryRecord}
  {recent : List ChatMessage} {selected : List MemoryRecord} {request : LLMRequest} {dropped kept : Nat}

/-- What fits still fits without history and memories. -/
theorem Fits.mandatory (h : m.Fits command recent selected) : m.Fits command [] [] := by
  unfold Fits contextSize at *
  simp only [List.map_append, List.sum_append, List.map_nil, List.sum_nil, List.nil_append] at h ⊢
  omega

theorem Selection.countedSize_eq (h : m.Selection command recent selected request dropped kept) :
    countedSize request =
      contextSize m.renderInstructions (recent.drop dropped ++ [command.message]) (selected.take kept) := by
  unfold countedSize contextSize
  rw [h.instructions, h.messages, h.memoryContext, List.map_map]
  rfl

/-- The two loops stop in turn. -/
theorem spares_inTurn (hhistory : ∀ d < dropped, ¬m.Fits command (recent.drop d) selected)
    (hhistoryEnd : dropped = recent.length ∨ m.Fits command (recent.drop dropped) selected)
    (hmemories : ∀ k, kept < k → k ≤ selected.length → ¬m.Fits command (recent.drop dropped) (selected.take k)) :
    m.SparesInTurn command recent selected dropped kept := by
  refine ⟨hhistory, fun hkept => ?_⟩
  have hnot := hmemories selected.length hkept le_rfl
  rw [List.take_length] at hnot
  have hall := hhistoryEnd.resolve_right hnot
  refine ⟨hall, fun k hk hle => ?_⟩
  have hempty : recent.drop dropped = [] := List.drop_eq_nil_of_le hall.ge
  rw [← hempty]
  exact hmemories k hk hle

/-- The request that keeps this history and these memories. -/
def requestOf (m : ContextManager) (command : UserMessageCommand) (history : List ChatMessage)
    (memories : List MemoryRecord) (tools : List ToolSpec) (continuation : Option ProviderContinuation) : LLMRequest where
  instructions := m.renderInstructions
  messages := history ++ [command.message]
  memoryContext := memories.map MemoryContext.fromRecord
  tools
  store := false
  maxOutputTokens := m.config.maxOutputTokens
  continuation

theorem buildRequest_eq (tools : List ToolSpec) (continuation : Option ProviderContinuation)
    {keptHistory : List ChatMessage} {keptMemories : List MemoryRecord}
    (hhistory : dropUntil (fun rest => decide (m.Fits command rest (m.selectMemories memories))) (m.recentHistory history)
      = keptHistory) (hmemories : (dropUntil (fun rest => decide (m.Fits command keptHistory rest.reverse))
      (m.selectMemories memories).reverse).reverse = keptMemories) :
    m.buildRequest command history memories tools continuation =
      if m.Fits command keptHistory keptMemories then
        some (m.requestOf command keptHistory keptMemories tools continuation) else none := by
  subst hhistory hmemories
  exact if_congr decide_eq_true_iff rfl rfl

/-- A request is built within the budget, and nothing is dropped before its turn; none is built only if the mandatory
fields exceed the budget. -/
theorem buildRequest_selects (m : ContextManager) (command : UserMessageCommand) (history : List ChatMessage)
    (memories : List MemoryRecord) (tools : List ToolSpec) (continuation : Option ProviderContinuation) :
    m.Selects command history memories (m.SparesInTurn command)
      (m.buildRequest command history memories tools continuation) := by
  obtain ⟨dropped, hdropped, hdrop, hbefore, hend⟩ :=
    dropUntil_spec (fun rest => decide (m.Fits command rest (m.selectMemories memories))) (m.recentHistory history)
  obtain ⟨kept, hkept, htake, hbehind, hstop⟩ := dropUntil_reverse_spec
    (fun rest => decide (m.Fits command ((m.recentHistory history).drop dropped) rest)) (m.selectMemories memories)
  simp only [decide_eq_false_iff_not, decide_eq_true_eq] at hbefore hend hbehind hstop
  have hspares : m.SparesInTurn command (m.recentHistory history) (m.selectMemories memories) dropped kept :=
    spares_inTurn hbefore hend hbehind
  rw [buildRequest_eq tools continuation hdrop htake]
  split
  next hfits =>
    have hselection : m.Selection command (m.recentHistory history) (m.selectMemories memories)
        (m.requestOf command _ _ tools continuation) dropped kept := ⟨hdropped, hkept, rfl, rfl, rfl⟩
    exact .selected _ _ dropped kept hfits.mandatory (hselection.countedSize_eq.trans_le hfits)
      (byImportance_mergeSort memories) hselection hspares
  next hfits =>
    -- nothing is left: a memory would have been dropped before it, and history before the memory
    have hnone : kept = 0 := hstop.resolve_right hfits
    have hall : dropped = (m.recentHistory history).length := by
      rcases Nat.eq_zero_or_pos (m.selectMemories memories).length with hlength | hlength
      · rw [List.take_of_length_le (by omega)] at hfits
        exact hend.resolve_right hfits
      · exact (hspares.memories (by omega)).1
    rw [List.drop_eq_nil_of_le hall.ge, hnone, List.take_zero] at hfits
    exact .exceeded hfits

/-! ## A history that makes room in vain -/

/-- Ten characters, and no instructions. -/
def narrow : ContextManager where
  config := { maxContextChars := 10 }
  systemPrompt := []

def greeting : UserMessageCommand where
  turnId := lit "turn"
  sessionId := lit "session"
  content := lit "hello"
  turnId_ne := by decide
  sessionId_ne := by decide
  nonblank := by decide

def shortMessage : ChatMessage := ⟨.assistant, lit "ok", by decide⟩

/-- A memory that is longer than the budget. -/
def longMemory : MemoryRecord where
  id := lit "memory"
  kind := .semantic
  content := lit "twenty characters..."
  status := .active
  sourceSessionId := lit "session"
  updatedAt := 0

theorem narrow_buildRequest :
    narrow.buildRequest greeting [shortMessage] [longMemory] [] none = some (narrow.requestOf greeting [] [] [] none) := by
  have hselected : narrow.selectMemories [longMemory] = [longMemory] := by
    simp [selectMemories, longMemory, MemoryRecord.isRetrievable, narrow]
  have hhistory : dropUntil (fun rest => decide (narrow.Fits greeting rest (narrow.selectMemories [longMemory])))
      (narrow.recentHistory [shortMessage]) = [] := by
    rw [hselected]
    decide
  have hmemories : (dropUntil (fun rest => decide (narrow.Fits greeting [] rest.reverse))
      (narrow.selectMemories [longMemory]).reverse).reverse = [] := by
    rw [hselected]
    rfl
  rw [buildRequest_eq [] none hhistory hmemories]
  exact if_pos (by decide)

/-- The message would fit beside what is kept: it was dropped for the sake of a memory that was dropped after it. -/
theorem dropped_for_a_dropped_memory :
    ¬narrow.Selects greeting [shortMessage] [longMemory] (narrow.SparesAll greeting)
      (narrow.buildRequest greeting [shortMessage] [longMemory] [] none) := by
  rw [narrow_buildRequest]
  intro h
  cases h with
  | selected request ordered dropped kept hmandatory hbudget hordered hselection hspares =>
    have hmessages : ([] : List ChatMessage) = [shortMessage].drop dropped := List.append_cancel_right hselection.messages
    have hpos : 0 < dropped := by
      rw [Nat.pos_iff_ne_zero]
      rintro rfl
      cases hmessages
    have hdropped : dropped = 1 := Nat.le_antisymm hselection.dropped_le hpos
    have hmemories : (ordered.take narrow.config.maxMemories).take kept = [] :=
      List.map_eq_nil_iff.mp hselection.memoryContext.symm
    have hnot := hspares.history hpos
    rw [hmemories, hdropped] at hnot
    exact hnot (by decide)

end ContextManager

end ArkClaw.Agent
