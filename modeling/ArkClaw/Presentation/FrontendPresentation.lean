import ArkClaw.Library.Runs
import ArkClaw.Presentation.ConversationDraft

/-!
# The frontend presentation

The model owns what is shown and the one draft. Its intents open, collapse and close the conversation and move
overlays; each returns the effects for the hosts. A draft exists only for a conversation context, and the context
once made stays. Over every run a draft is emptied by an edit, a discard or an exact acceptance only; what is lost
is a composition in progress when the current submission is accepted.
-/

namespace ArkClaw.Presentation

open ArkClaw.Library
open ConversationDraftModel (DraftOperation kept_apply_iff)

inductive PrimaryPresentation where
  | character | capsule | expanded | workspace
deriving DecidableEq, Repr

inductive ForegroundOverlay where
  | none | palette | confirmation | criticalError | ambient
deriving DecidableEq, Repr

/-- Layer of the one action palette. -/
inductive ActionPaletteLayer where
  | root | character | animation | system
deriving DecidableEq, Repr

inductive SemanticFocusTarget where
  | none | palette | conversationInput | workspaceControl | external
deriving DecidableEq, Repr

inductive PresentationEffectKind where
  | showForegroundOverlay | dismissForegroundOverlay | createConversation | restoreConversation | closeConversation
  | hideConversation | setSemanticFocus | paletteLayerChanged
deriving DecidableEq, Repr

structure ConversationContext where
  contextId : Text
deriving DecidableEq

structure FrontendPresentationSnapshot where
  primaryPresentation : PrimaryPresentation := .character
  foregroundOverlay : ForegroundOverlay := .none
  conversationContext : Option ConversationContext := none
  semanticFocusTarget : SemanticFocusTarget := .none
  semanticFocusReturnTarget : Option SemanticFocusTarget := none
  paletteLayer : ActionPaletteLayer := .root
deriving DecidableEq

structure PresentationEffect where
  kind : PresentationEffectKind
  overlay : Option ForegroundOverlay := none
  conversationId : Option Text := none
  focusTarget : Option SemanticFocusTarget := none
  layer : Option ActionPaletteLayer := none
deriving DecidableEq

inductive FrontendPresentationIntent where
  | openOrRestore
  /-- Visibility-only close. -/
  | close
  | collapse
  | showForegroundOverlay (overlay : ForegroundOverlay)
  | dismissForegroundOverlay
  | setPaletteLayer (layer : ActionPaletteLayer)
deriving DecidableEq

def conversationContextId : Text := lit "arkclaw-conversation"

/-- The overlays that only their own flow takes away. -/
def blockingOverlays : List ForegroundOverlay := [.confirmation, .criticalError]

/-- Single owner of frontend presentation state, with its draft. -/
structure FrontendPresentationModel where
  snapshot : FrontendPresentationSnapshot := {}
  draftModel : ConversationDraftModel := {}
deriving DecidableEq

namespace FrontendPresentationModel

variable (m : FrontendPresentationModel)

/-- An operation of the draft, which takes effect only while a conversation context owns the draft. -/
def onDraft (f : ConversationDraftModel → ConversationDraftModel) : FrontendPresentationModel :=
  if m.snapshot.conversationContext = none then m else { m with draftModel := f m.draftModel }

def applyDraftEdit (intent : DraftEditIntent) : FrontendPresentationModel := m.onDraft fun d => d.edit intent
def submitDraft (identity : Text) : FrontendPresentationModel := m.onDraft fun d => (d.submit identity).2
def acceptDraft (identity : Text) : FrontendPresentationModel := m.onDraft fun d => d.accept identity
def rejectDraft (identity : Text) : FrontendPresentationModel := m.onDraft fun d => d.reject identity
def cancelDraft (identity : Text) : FrontendPresentationModel := m.onDraft fun d => d.cancel identity
def discardDraft : FrontendPresentationModel := { m with draftModel := m.draftModel.discard }

/-- Show the capsule; a new conversation starts with a fresh draft, an existing one keeps its draft. -/
def openConversation : List PresentationEffect × FrontendPresentationModel :=
  let snapshot := m.snapshot
  if snapshot.foregroundOverlay ∈ blockingOverlays then ([], m)
  else
    let dismissed : List PresentationEffect :=
      if snapshot.foregroundOverlay = .none then []
      else [{ kind := .dismissForegroundOverlay, overlay := some snapshot.foregroundOverlay }]
    let (context, kind, draftModel) := match snapshot.conversationContext with
      | none => (({ contextId := conversationContextId } : ConversationContext),
          PresentationEffectKind.createConversation, m.draftModel.discard)
      | some existing => (existing, PresentationEffectKind.restoreConversation, m.draftModel)
    (dismissed ++
        [{ kind, conversationId := some context.contextId },
          { kind := .setSemanticFocus, focusTarget := some .conversationInput }],
      { snapshot :=
          { primaryPresentation := .capsule, conversationContext := some context
            semanticFocusTarget := .conversationInput }
        draftModel })

/-- Hide the capsule; the context and its draft stay. -/
def hideConversation : List PresentationEffect × FrontendPresentationModel :=
  match m.snapshot.conversationContext with
  | none => ([], m)
  | some context =>
    if m.snapshot.primaryPresentation ≠ .capsule then ([], m)
    else
      ([{ kind := .hideConversation, conversationId := some context.contextId },
          { kind := .setSemanticFocus, focusTarget := some .none }],
        { m with snapshot :=
            { m.snapshot with
              primaryPresentation := .character
              semanticFocusTarget := .none
              semanticFocusReturnTarget := none } })

def closeConversation : List PresentationEffect × FrontendPresentationModel := m.hideConversation

def collapseConversation : List PresentationEffect × FrontendPresentationModel := m.hideConversation

def dismissForegroundOverlay : List PresentationEffect × FrontendPresentationModel :=
  let snapshot := m.snapshot
  if snapshot.foregroundOverlay = .none ∨ snapshot.foregroundOverlay ∈ blockingOverlays then ([], m)
  else
    let focusTarget := snapshot.semanticFocusReturnTarget.getD snapshot.semanticFocusTarget
    ([{ kind := .dismissForegroundOverlay, overlay := some snapshot.foregroundOverlay },
        { kind := .setSemanticFocus, focusTarget := some focusTarget }],
      { m with snapshot :=
          { snapshot with
            foregroundOverlay := .none
            semanticFocusTarget := focusTarget
            semanticFocusReturnTarget := none
            paletteLayer := .root } })

def showForegroundOverlay (overlay : ForegroundOverlay) : List PresentationEffect × FrontendPresentationModel :=
  let snapshot := m.snapshot
  if overlay = .none then m.dismissForegroundOverlay
  else if snapshot.foregroundOverlay ∈ blockingOverlays ∨ snapshot.foregroundOverlay = overlay then ([], m)
  else
    let next := { snapshot with
      foregroundOverlay := overlay
      semanticFocusReturnTarget := some snapshot.semanticFocusTarget }
    if overlay = .palette then
      -- the palette always opens at its root
      ([{ kind := .showForegroundOverlay, overlay := some overlay, layer := some .root },
          { kind := .setSemanticFocus, focusTarget := some .palette }],
        { m with snapshot := { next with semanticFocusTarget := .palette, paletteLayer := .root } })
    else ([{ kind := .showForegroundOverlay, overlay := some overlay }], { m with snapshot := next })

/-- One navigation step inside the palette. -/
def setPaletteLayer (layer : ActionPaletteLayer) : List PresentationEffect × FrontendPresentationModel :=
  if m.snapshot.foregroundOverlay ≠ .palette ∨ m.snapshot.paletteLayer = layer then ([], m)
  else ([{ kind := .paletteLayerChanged, layer := some layer }],
    { m with snapshot := { m.snapshot with paletteLayer := layer } })

def dispatch : FrontendPresentationIntent → List PresentationEffect × FrontendPresentationModel
  | .openOrRestore => m.openConversation
  | .collapse => m.collapseConversation
  | .close => m.closeConversation
  | .showForegroundOverlay overlay => m.showForegroundOverlay overlay
  | .dismissForegroundOverlay => m.dismissForegroundOverlay
  | .setPaletteLayer layer => m.setPaletteLayer layer

/-! ## Runs -/

/-- The operations on the model: those of the draft, through the model or on the draft it was given, and intents. -/
inductive Operation where
  | draft (op : DraftOperation)
  | ownDraft (op : DraftOperation)
  | dispatch (intent : FrontendPresentationIntent)

def step (m : FrontendPresentationModel) : Operation → FrontendPresentationModel
  | .draft (.edit intent) => m.applyDraftEdit intent
  | .draft (.submit identity) => m.submitDraft identity
  | .draft (.accept identity) => m.acceptDraft identity
  | .draft (.reject identity) => m.rejectDraft identity
  | .draft (.cancel identity) => m.cancelDraft identity
  | .draft .discard => m.discardDraft
  | .ownDraft op => { m with draftModel := m.draftModel.apply op }
  | .dispatch intent => (m.dispatch intent).2

/-- What an operation does to the draft, if anything. -/
def draftOperation : Operation → Option DraftOperation
  | .draft .discard => some .discard
  | .draft op => if m.snapshot.conversationContext = none then none else some op
  | .ownDraft op => some op
  | .dispatch .openOrRestore =>
    if m.snapshot.foregroundOverlay ∉ blockingOverlays ∧ m.snapshot.conversationContext = none then some .discard
    else none
  | .dispatch _ => none

theorem hideConversation_kept : m.hideConversation.2.draftModel = m.draftModel ∧
    m.hideConversation.2.snapshot.conversationContext = m.snapshot.conversationContext := by
  unfold hideConversation
  split
  · exact ⟨rfl, rfl⟩
  · split <;> exact ⟨rfl, rfl⟩

theorem dismissForegroundOverlay_kept : m.dismissForegroundOverlay.2.draftModel = m.draftModel ∧
    m.dismissForegroundOverlay.2.snapshot.conversationContext = m.snapshot.conversationContext := by
  unfold dismissForegroundOverlay
  dsimp only
  split <;> exact ⟨rfl, rfl⟩

theorem showForegroundOverlay_kept (overlay : ForegroundOverlay) :
    (m.showForegroundOverlay overlay).2.draftModel = m.draftModel ∧
      (m.showForegroundOverlay overlay).2.snapshot.conversationContext = m.snapshot.conversationContext := by
  unfold showForegroundOverlay
  dsimp only
  split_ifs
  · exact m.dismissForegroundOverlay_kept
  · exact ⟨rfl, rfl⟩
  · exact ⟨rfl, rfl⟩
  · exact ⟨rfl, rfl⟩

theorem setPaletteLayer_kept (layer : ActionPaletteLayer) : (m.setPaletteLayer layer).2.draftModel = m.draftModel ∧
    (m.setPaletteLayer layer).2.snapshot.conversationContext = m.snapshot.conversationContext := by
  unfold setPaletteLayer
  split <;> exact ⟨rfl, rfl⟩

theorem onDraft_draftModel (f : ConversationDraftModel → ConversationDraftModel) :
    (m.onDraft f).draftModel = if m.snapshot.conversationContext = none then m.draftModel else f m.draftModel := by
  unfold onDraft
  split <;> rfl

theorem onDraft_snapshot (f : ConversationDraftModel → ConversationDraftModel) :
    (m.onDraft f).snapshot = m.snapshot := by
  unfold onDraft
  split <;> rfl

theorem openConversation_draftModel : m.openConversation.2.draftModel =
    if m.snapshot.foregroundOverlay ∉ blockingOverlays ∧ m.snapshot.conversationContext = none then m.draftModel.discard
    else m.draftModel := by
  unfold openConversation
  cases hcontext : m.snapshot.conversationContext <;> by_cases hblocked : m.snapshot.foregroundOverlay ∈ blockingOverlays <;>
    simp [hblocked, hcontext]

theorem openConversation_context {context : ConversationContext}
    (h : m.snapshot.conversationContext = some context) :
    m.openConversation.2.snapshot.conversationContext = some context := by
  unfold openConversation
  dsimp only
  split
  · exact h
  · simp [h]

/-- The draft after an operation is what its draft operation makes of it. -/
theorem step_draftModel (op : Operation) :
    (m.step op).draftModel = (m.draftOperation op).elim m.draftModel m.draftModel.apply := by
  cases op with
  | draft op =>
    cases op with
    | discard => rfl
    | _ =>
      refine (m.onDraft_draftModel _).trans ?_
      unfold draftOperation
      split <;> rfl
  | ownDraft op => rfl
  | dispatch intent =>
    cases intent with
    | openOrRestore =>
      refine m.openConversation_draftModel.trans ?_
      unfold draftOperation
      split <;> rfl
    | close => exact m.hideConversation_kept.1
    | collapse => exact m.hideConversation_kept.1
    | showForegroundOverlay overlay => exact (m.showForegroundOverlay_kept overlay).1
    | dismissForegroundOverlay => exact m.dismissForegroundOverlay_kept.1
    | setPaletteLayer layer => exact (m.setPaletteLayer_kept layer).1

/-- A conversation context stays. -/
theorem step_context (op : Operation) {context : ConversationContext}
    (h : m.snapshot.conversationContext = some context) :
    (m.step op).snapshot.conversationContext = some context := by
  cases op with
  | draft op =>
    cases op with
    | discard => exact h
    | _ => exact (congrArg (·.conversationContext) (m.onDraft_snapshot _)).trans h
  | ownDraft op => exact h
  | dispatch intent =>
    cases intent with
    | openOrRestore => exact m.openConversation_context h
    | close => exact m.hideConversation_kept.2.trans h
    | collapse => exact m.hideConversation_kept.2.trans h
    | showForegroundOverlay overlay => exact (m.showForegroundOverlay_kept overlay).2.trans h
    | dismissForegroundOverlay => exact m.dismissForegroundOverlay_kept.2.trans h
    | setPaletteLayer layer => exact (m.setPaletteLayer_kept layer).2.trans h

/-- What an operation keeps: a context that is there, the draft under an intent while there is one, and what the
draft operation it comes to should keep. -/
structure Keeps (op : Operation) : Prop where
  context : ∀ context, m.snapshot.conversationContext = some context →
    (m.step op).snapshot.conversationContext = some context
  intent : ∀ intent, op = .dispatch intent → m.snapshot.conversationContext ≠ none →
    (m.step op).draftModel = m.draftModel
  untouched : m.draftOperation op = none → (m.step op).draftModel = m.draftModel
  draft : ∀ d, m.draftOperation op = some d → m.draftModel.Kept d (m.step op).draftModel

/-- The operation accepts the current submission while a composition is in progress. -/
def LosesComposition (op : Operation) : Prop :=
  ∃ d, m.draftOperation op = some d ∧ m.draftModel.LosesComposition d

theorem keeps_iff (h : m.draftModel.Sound) (op : Operation) : m.Keeps op ↔ ¬m.LosesComposition op := by
  constructor
  · rintro hkeeps ⟨d, hd, hloses⟩
    have hkept := hkeeps.draft d hd
    rw [step_draftModel, hd] at hkept
    exact (kept_apply_iff h d).mp hkept hloses
  · intro hloses
    constructor
    · intro context hcontext
      exact m.step_context op hcontext
    · rintro intent rfl hcontext
      have hnone : m.draftOperation (.dispatch intent) = none := by
        cases intent <;> simp [draftOperation, hcontext]
      rw [step_draftModel, hnone]
      rfl
    · intro hnone
      rw [step_draftModel, hnone]
      rfl
    · intro d hd
      rw [step_draftModel, hd]
      exact (kept_apply_iff h d).mpr fun hd' => hloses ⟨d, hd, hd'⟩

theorem step_sound (op : Operation) (h : m.draftModel.Sound) : (m.step op).draftModel.Sound := by
  rw [step_draftModel]
  cases m.draftOperation op with
  | none => exact h
  | some d => exact h.apply d

/-- Every operation of a run keeps the draft as it should, exactly if no acceptance of the current submission comes
while a composition is in progress. -/
theorem run_keeps_iff (snapshot : FrontendPresentationSnapshot) (ops : List Operation) :
    StepsMeet step Keeps { snapshot } ops ↔ StepsMeet step (fun m op => ¬m.LosesComposition op) { snapshot } ops := by
  have hstart : ({ snapshot } : FrontendPresentationModel).draftModel.Sound :=
    ConversationDraftModel.Sound.of_none rfl
  constructor
  · exact StepsMeet.of_invariant (fun m op hm _ => m.step_sound op hm) (fun m op hm => (m.keeps_iff hm op).mp) _ _ hstart
  · exact StepsMeet.of_invariant (fun m op hm _ => m.step_sound op hm) (fun m op hm => (m.keeps_iff hm op).mpr) _ _ hstart

/-- A submission is accepted while the user goes on composing. -/
def composingRun : List Operation :=
  [.dispatch .openOrRestore, .draft (.edit { text := lit "hello", caret := 5 }), .draft (.submit (lit "s")),
    .draft (.edit { text := lit "hello", caret := 5, imeComposition := some (lit "ni") })]

/-- What is being composed is lost with the accepted text. -/
theorem composition_lost : (run step {} composingRun).draftModel.imeComposition = some (lit "ni") ∧
      ((run step {} composingRun).step (.draft (.accept (lit "s")))).draftModel.imeComposition = none ∧
      ¬(run step {} composingRun).Keeps (.draft (.accept (lit "s"))) := by
  refine ⟨by decide, by decide, fun hkeeps => ?_⟩
  have hcomposed := (hkeeps.draft (.accept (lit "s")) (by decide)).composed (lit "s") rfl
  exact absurd hcomposed (by decide)

end FrontendPresentationModel

end ArkClaw.Presentation
