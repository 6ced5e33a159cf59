import ArkClaw.Domain.Models
import Mathlib.Algebra.GroupWithZero.Nat

/-!
# The context manager

A request to the provider holds the recent history, the latest user message and the confirmed memories that fit
the budget. History is dropped from its oldest message on, then memories from the least important one on.
-/

namespace ArkClaw.Agent

open ArkClaw.Library ArkClaw.Domain

/-- Simple character-based limits. -/
structure ContextConfig where
  maxRecentMessages : Nat := 12
  maxMemories : Nat := 5
  maxContextChars : Nat := 24000
  maxOutputTokens : Nat := 1024

structure ContextManager where
  config : ContextConfig := {}
  systemPrompt : Text

namespace ContextManager

variable (m : ContextManager)

def renderInstructions : Text := m.systemPrompt.strip

def contextSize (instructions : Text) (messages : List ChatMessage) (memories : List MemoryRecord) : Nat :=
  instructions.length + (messages.map fun message => message.content.length).sum
    + (memories.map fun memory => memory.content.length).sum

/-- `(pinned, updated_at)`, the greatest first. -/
def moreImportant (a b : MemoryRecord) : Bool :=
  if a.pinned = b.pinned then decide (b.updatedAt ≤ a.updatedAt) else a.pinned

def selectMemories (memories : List MemoryRecord) : List MemoryRecord :=
  ((memories.filter MemoryRecord.isRetrievable).mergeSort moreImportant).take m.config.maxMemories

/-- The list without the first elements that `fits` asks to drop. -/
def dropUntil {α : Type} (fits : List α → Bool) : List α → List α
  | [] => []
  | a :: rest => if fits (a :: rest) then a :: rest else dropUntil fits rest

/-- Build a bounded request; `none` if the mandatory fields alone exceed the budget. -/
def buildRequest (command : UserMessageCommand) (history : List ChatMessage) (memories : List MemoryRecord)
    (tools : List ToolSpec) (continuation : Option ProviderContinuation) : Option LLMRequest :=
  let instructions := m.renderInstructions
  let fits (history : List ChatMessage) (memories : List MemoryRecord) : Bool :=
    decide (contextSize instructions (history ++ [command.message]) memories ≤ m.config.maxContextChars)
  let selectedMemories := m.selectMemories memories
  let selectedHistory := dropUntil (fun history => fits history selectedMemories)
    (history.drop (history.length - m.config.maxRecentMessages))
  let selectedMemories := (dropUntil (fun memories => fits selectedHistory memories.reverse)
    selectedMemories.reverse).reverse
  if fits selectedHistory selectedMemories then
    some
      { instructions
        messages := selectedHistory ++ [command.message]
        memoryContext := selectedMemories.map MemoryContext.fromRecord
        tools
        store := false
        maxOutputTokens := m.config.maxOutputTokens
        continuation }
  else none

end ContextManager

end ArkClaw.Agent
