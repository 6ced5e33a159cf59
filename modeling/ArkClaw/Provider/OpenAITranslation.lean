import ArkClaw.Provider.OpenAIStreamLaws

/-!
# What a response is translated to

The events of a response are heard one after another until one of them ends or breaks it. What is yielded up to there
are the texts and the finished calls of what was heard: a call is assembled from its start, the deltas of its arguments
and its end. One terminal event follows, and it completes the turn only if the response was complete.
-/

namespace ArkClaw.Provider.OpenAI

open ArkClaw.Library ArkClaw.Domain
open List (lookup_cons filter_append map_append append_nil mem_append_left mem_append mem_singleton)

/-! ## What is heard and what is yielded -/

/-- The texts of a response; empty ones say nothing. -/
def texts (events : List ResponseEvent) : List Text :=
  (events.filter fun e => e.kind = .textDelta ∧ e.text ≠ []).map (·.text)

/-- The arguments of the call at a place of the output, as far as its deltas say. -/
def argumentDeltas (events : List ResponseEvent) (index : Int) : Text :=
  ((events.filter fun e => e.kind = .toolArgumentsDelta ∧ e.outputIndex = some index).map (·.arguments)).flatten

/-- There was some output: a text, a call, an item that was added, or an item of the completion. -/
def HasOutput (events : List ResponseEvent) : Prop :=
  ∃ e ∈ events, e.kind = .textDelta ∧ e.text ≠ [] ∨ e.kind = .toolArgumentsDone ∨
    e.kind = .metadata ∧ e.rawType = lit "response.output_item.added" ∨ e.kind = .completed ∧ e.outputItems ≠ []

def yieldedTexts (yielded : List LLMEvent) : List Text :=
  (yielded.filter fun e => e.type = .textDelta).map (·.text)

def yieldedCalls (yielded : List LLMEvent) : List ToolCall := yielded.filterMap (·.toolCall)

/-- The event ends the turn. -/
def IsTerminal (e : LLMEvent) : Prop := e.type = .completed ∨ e.type = .error

section

variable (p : Primitives)

/-- The call was started and finished at this place of the output. Its arguments are the final ones, and those of its
deltas if these say anything. -/
structure FinishedCall (heard : List ResponseEvent) (index : Int) (call : ToolCall) : Prop where
  started : ∃ e ∈ heard, e.kind = .toolAdded ∧ e.outputIndex = some index ∧ e.callId = call.callId ∧ e.name = call.name
  finished : ∃ e ∈ heard, e.kind = .toolArgumentsDone ∧ e.outputIndex = some index ∧
    (argumentDeltas heard index = [] ∨ argumentDeltas heard index = e.arguments) ∧
    strictJsonObject p e.arguments maxToolArgumentBytes = .ok call.arguments

/-- The tools are assembled from what was heard, and these calls of them are finished. -/
structure Assembles (heard : List ResponseEvent) (tools : Tools) (finished : List (Int × ToolCall)) : Prop where
  started : ∀ index assembly, tools.lookup index = some assembly → ∃ e ∈ heard,
    e.kind = .toolAdded ∧ e.outputIndex = some index ∧ e.callId = assembly.callId ∧ e.name = assembly.name
  known : ∀ e ∈ heard, e.kind = .toolAdded → ∃ index, e.outputIndex = some index ∧ (tools.lookup index).isSome
  parts : ∀ index assembly, tools.lookup index = some assembly →
    assembly.argumentParts.flatten = argumentDeltas heard index ∧ ∀ part ∈ assembly.argumentParts, part ≠ []
  silent : ∀ index, tools.lookup index = none → argumentDeltas heard index = []
  completed : ∀ index assembly, tools.lookup index = some assembly →
    (assembly.completed = true ↔ index ∈ finished.map (·.1))
  calls : ∀ entry ∈ finished, (tools.lookup entry.1).isSome ∧ FinishedCall p heard entry.1 entry.2
  once : (finished.map (·.1)).Nodup

/-- What the loop has heard and yielded while it reads. -/
structure Heard (heard : List ResponseEvent) (yielded : List LLMEvent) (finished : List (Int × ToolCall))
    (state : Reception) : Prop where
  reading : state.terminalKind = none ∧ state.failureCode = none
  incomplete : ∀ e ∈ heard, e.kind ≠ .completed
  texts : yieldedTexts yielded = texts heard
  calls : yieldedCalls yielded = finished.map (·.2)
  output : state.outputSeen = true → HasOutput heard
  unended : ∀ e ∈ yielded, ¬IsTerminal e
  assembles : Assembles p heard state.tools finished

/-- The loop hears nothing more behind this event. -/
def Stops (state : Reception) (e : ResponseEvent) : Prop :=
  (receive p state e).goesOn = false ∨ (receive p state e).state.terminalKind ≠ none

end

section

variable {p : Primitives} {heard : List ResponseEvent} {e : ResponseEvent} {index : Int} {tools tools' : Tools}
  {finished : List (Int × ToolCall)}

/-! ## The tools -/

theorem lookup_set (tools : Tools) (index i : Int) (assembly : ToolAssembly) :
    (tools.set index assembly).lookup i =
      if i = index then (tools.lookup index).map fun _ => assembly else tools.lookup i := by
  induction tools with
  | nil => simp [Tools.set]
  | cons entry tools ih =>
    obtain ⟨j, a⟩ := entry
    rw [Tools.set, List.map_cons, ← Tools.set]
    by_cases hj : j = index
    · subst hj
      by_cases hi : i = j
      · subst hi
        simp
      · have hne : (i == j) = false := by simpa using hi
        simp only [if_true, lookup_cons, hne, ih, if_neg hi]
    · have hne : (index == j) = false := by simpa using fun h => hj h.symm
      by_cases hi : i = j
      · subst hi
        simp [hj]
      · have hne' : (i == j) = false := by simpa using hi
        simp only [if_neg hj, lookup_cons, hne, hne', ih]

theorem lookup_start (tools : Tools) (index i : Int) (assembly : ToolAssembly) (hnone : tools.lookup index = none) :
    (tools ++ [(index, assembly)]).lookup i = if i = index then some assembly else tools.lookup i := by
  rw [List.lookup_append]
  by_cases hi : i = index
  · subst hi
    simp [hnone]
  · have hne : (i == index) = false := by simpa using hi
    simp [hi, lookup_cons, hne]

theorem argumentDeltas_concat (heard : List ResponseEvent) (e : ResponseEvent) (index : Int) :
    argumentDeltas (heard ++ [e]) index = argumentDeltas heard index ++
      if e.kind = .toolArgumentsDelta ∧ e.outputIndex = some index then e.arguments else [] := by
  unfold argumentDeltas
  rw [filter_append, map_append, List.flatten_append]
  congr 1
  by_cases hdelta : e.kind = .toolArgumentsDelta ∧ e.outputIndex = some index <;> simp [hdelta]

/-- What was heard of a finished call is heard still. -/
theorem FinishedCall.concat {call : ToolCall} (h : FinishedCall p heard index call)
    (hdelta : e.kind ≠ .toolArgumentsDelta ∨ e.outputIndex ≠ some index) : FinishedCall p (heard ++ [e]) index call := by
  have hsame : argumentDeltas (heard ++ [e]) index = argumentDeltas heard index := by
    rw [argumentDeltas_concat, if_neg (by tauto), append_nil]
  obtain ⟨⟨e₁, he₁, hstarted⟩, e₂, he₂, hkind, hindex, hdeltas, harguments⟩ := h
  exact ⟨⟨e₁, mem_append_left _ he₁, hstarted⟩, e₂, mem_append_left _ he₂, hkind, hindex,
    by rwa [hsame], harguments⟩

theorem startTool_spec (h : startTool tools e = some tools') : ∃ index, e.outputIndex = some index ∧
    tools.lookup index = none ∧
    tools' = tools ++ [(index, { itemId := e.itemId, callId := e.callId, name := e.name })] := by
  unfold startTool at h
  cases hindex : e.outputIndex with
  | none => simp [hindex] at h
  | some index =>
    simp only [hindex, Option.bind_eq_bind, Option.bind_some, Option.ite_none_left_eq_some, not_or,
      Option.some.injEq, Bool.not_eq_true, Option.isSome_eq_false_iff, Option.isNone_iff_eq_none] at h
    exact ⟨index, rfl, h.1.1, h.2.symm⟩

theorem appendToolArguments_spec (h : appendToolArguments tools e = some tools') : ∃ index assembly,
    e.outputIndex = some index ∧ tools.lookup index = some assembly ∧ assembly.completed = false ∧
    (e.arguments = [] ∧ tools' = tools ∨ e.arguments ≠ [] ∧ tools' = tools.set index { assembly with
      argumentBytes := assembly.argumentBytes + e.arguments.utf8Length
      argumentParts := assembly.argumentParts ++ [e.arguments] }) := by
  unfold appendToolArguments at h
  cases hindex : e.outputIndex with
  | none => simp [hindex] at h
  | some index =>
    cases hlookup : tools.lookup index with
    | none => simp [hindex, hlookup] at h
    | some assembly =>
      simp only [hindex, hlookup, Option.bind_eq_bind, Option.bind_some, Option.ite_none_left_eq_some, not_or,
        Bool.not_eq_true] at h
      obtain ⟨⟨hopen, -⟩, -, -, h⟩ := h
      refine ⟨index, assembly, rfl, hlookup, hopen, ?_⟩
      split at h
      next hempty => exact Or.inl ⟨hempty, (Option.some.inj h).symm⟩
      next hempty =>
        simp only [Option.ite_none_left_eq_some, Option.some.injEq] at h
        exact Or.inr ⟨hempty, h.2.symm⟩

theorem finishTool_spec {call : ToolCall} (h : finishTool p tools e = some (tools', call)) : ∃ index assembly,
    e.outputIndex = some index ∧ tools.lookup index = some assembly ∧ assembly.completed = false ∧
    (assembly.argumentParts = [] ∨ assembly.argumentParts.flatten = e.arguments) ∧
    strictJsonObject p e.arguments maxToolArgumentBytes = .ok call.arguments ∧
    assembly.callId = call.callId ∧ assembly.name = call.name ∧
    tools' = tools.set index { assembly with completed := true } := by
  unfold finishTool at h
  cases hindex : e.outputIndex with
  | none => simp [hindex] at h
  | some index =>
    cases hlookup : tools.lookup index with
    | none => simp [hindex, hlookup] at h
    | some assembly =>
      simp only [hindex, hlookup, Option.bind_eq_bind, Option.bind_some, Option.ite_none_left_eq_some, not_or,
        Bool.not_eq_true, not_and, not_not] at h
      obtain ⟨⟨hopen, -⟩, hparts, h⟩ := h
      cases harguments : strictJsonObject p e.arguments maxToolArgumentBytes with
      | error refusal => simp [harguments, Except.toOption] at h
      | ok arguments =>
        simp only [harguments, Except.toOption, Option.bind_some, Option.some.injEq, Prod.mk.injEq] at h
        obtain ⟨rfl, rfl⟩ := h
        exact ⟨index, assembly, rfl, hlookup, hopen, or_iff_not_imp_left.mpr hparts, rfl, rfl, rfl, rfl⟩

/-- An event that is about no tool leaves them as they are. -/
theorem Assembles.other (h : Assembles p heard tools finished) (hadded : e.kind ≠ .toolAdded)
    (hdelta : e.kind ≠ .toolArgumentsDelta) : Assembles p (heard ++ [e]) tools finished := by
  have hsame : ∀ index, argumentDeltas (heard ++ [e]) index = argumentDeltas heard index := by
    intro index
    rw [argumentDeltas_concat, if_neg fun h => hdelta h.1, append_nil]
  constructor
  · intro index assembly hlookup
    obtain ⟨e₁, he₁, hstarted⟩ := h.started index assembly hlookup
    exact ⟨e₁, mem_append_left _ he₁, hstarted⟩
  · intro e₁ he₁ hkind
    rcases mem_append.mp he₁ with hbefore | hlast
    · exact h.known e₁ hbefore hkind
    · exact absurd (mem_singleton.mp hlast ▸ hkind) hadded
  · intro index assembly hlookup
    rw [hsame]
    exact h.parts index assembly hlookup
  · intro index hnone
    rw [hsame]
    exact h.silent index hnone
  · exact h.completed
  · intro entry hentry
    exact ⟨(h.calls entry hentry).1, (h.calls entry hentry).2.concat (Or.inl hdelta)⟩
  · exact h.once

theorem Assembles.start (h : Assembles p heard tools finished) (hkind : e.kind = .toolAdded)
    (hstart : startTool tools e = some tools') : Assembles p (heard ++ [e]) tools' finished := by
  obtain ⟨index, hindex, hnone, rfl⟩ := startTool_spec hstart
  have hsame : ∀ i, argumentDeltas (heard ++ [e]) i = argumentDeltas heard i := by
    intro i
    rw [argumentDeltas_concat, if_neg (by simp [hkind]), append_nil]
  have hlookup := fun i => lookup_start tools index i ⟨e.itemId, e.callId, e.name, [], 0, false⟩ hnone
  have hunfinished : index ∉ finished.map (·.1) := by
    intro hmem
    obtain ⟨entry, hentry, rfl⟩ := List.mem_map.mp hmem
    simpa [hnone] using (h.calls entry hentry).1
  constructor
  · intro i assembly hi
    rw [hlookup] at hi
    split at hi
    next heq =>
      obtain rfl := Option.some.inj hi
      exact ⟨e, by simp, hkind, by rw [hindex, heq], rfl, rfl⟩
    next =>
      obtain ⟨e₁, he₁, hstarted⟩ := h.started i assembly hi
      exact ⟨e₁, mem_append_left _ he₁, hstarted⟩
  · intro e₁ he₁ hadded
    rcases mem_append.mp he₁ with hbefore | hlast
    · obtain ⟨i, hi, hsome⟩ := h.known e₁ hbefore hadded
      refine ⟨i, hi, ?_⟩
      rw [hlookup]
      split
      next => rfl
      next => exact hsome
    · obtain rfl := mem_singleton.mp hlast
      exact ⟨index, hindex, by simp [hlookup]⟩
  · intro i assembly hi
    rw [hsame]
    rw [hlookup] at hi
    split at hi
    next heq =>
      obtain rfl := Option.some.inj hi
      rw [heq, h.silent index hnone]
      exact ⟨rfl, nofun⟩
    next => exact h.parts i assembly hi
  · intro i hi
    rw [hlookup] at hi
    rw [hsame]
    split at hi
    next => cases hi
    next => exact h.silent i hi
  · intro i assembly hi
    rw [hlookup] at hi
    split at hi
    next heq =>
      obtain rfl := Option.some.inj hi
      rw [heq]
      simp only [Bool.false_eq_true, false_iff]
      exact hunfinished
    next => exact h.completed i assembly hi
  · intro entry hentry
    obtain ⟨hsome, hcall⟩ := h.calls entry hentry
    refine ⟨?_, hcall.concat (Or.inl (by simp [hkind]))⟩
    rw [hlookup]
    split
    next => rfl
    next => exact hsome
  · exact h.once

/-- The assembly at a place changes, with its start and its name kept. -/
theorem lookup_set_cases {i : Int} {assembly assembly' found : ToolAssembly}
    (hlookup : tools.lookup index = some assembly) (h : (tools.set index assembly').lookup i = some found) :
    i = index ∧ found = assembly' ∨ i ≠ index ∧ tools.lookup i = some found := by
  rw [lookup_set] at h
  split at h
  next heq =>
    rw [hlookup] at h
    exact Or.inl ⟨heq, (Option.some.inj h).symm⟩
  next hne => exact Or.inr ⟨hne, h⟩

theorem lookup_set_isSome {i : Int} {assembly assembly' : ToolAssembly} (hlookup : tools.lookup index = some assembly) :
    ((tools.set index assembly').lookup i).isSome = (tools.lookup i).isSome := by
  rw [lookup_set]
  split
  next heq => simp [heq, hlookup]
  next => rfl

/-- What is assembled was started, also where an assembly has changed. -/
theorem Assembles.started_set {i : Int} {assembly assembly' found : ToolAssembly} (h : Assembles p heard tools finished)
    (hlookup : tools.lookup index = some assembly) (hi : (tools.set index assembly').lookup i = some found)
    (hcallId : assembly.callId = assembly'.callId) (hname : assembly.name = assembly'.name) :
    ∃ e₁ ∈ heard ++ [e], e₁.kind = .toolAdded ∧ e₁.outputIndex = some i ∧ e₁.callId = found.callId ∧
      e₁.name = found.name := by
  have hbefore : ∃ before, tools.lookup i = some before ∧ before.callId = found.callId ∧ before.name = found.name := by
    rcases lookup_set_cases hlookup hi with ⟨rfl, rfl⟩ | ⟨-, hi⟩
    · exact ⟨assembly, hlookup, hcallId, hname⟩
    · exact ⟨found, hi, rfl, rfl⟩
  obtain ⟨before, hi, hcallId, hname⟩ := hbefore
  obtain ⟨e₁, he₁, hadded, hindex₁, hcallId₁, hname₁⟩ := h.started i before hi
  exact ⟨e₁, mem_append_left _ he₁, hadded, hindex₁, hcallId₁.trans hcallId, hname₁.trans hname⟩

/-- What was started is known, also where an assembly has changed. -/
theorem Assembles.known_set {assembly assembly' : ToolAssembly} (h : Assembles p heard tools finished)
    (hlookup : tools.lookup index = some assembly) (hkind : e.kind ≠ .toolAdded) :
    ∀ e₁ ∈ heard ++ [e], e₁.kind = .toolAdded →
      ∃ i, e₁.outputIndex = some i ∧ ((tools.set index assembly').lookup i).isSome := by
  intro e₁ he₁ hadded
  rcases mem_append.mp he₁ with hbefore | hlast
  · obtain ⟨i, hi, hsome⟩ := h.known e₁ hbefore hadded
    exact ⟨i, hi, by rwa [lookup_set_isSome hlookup]⟩
  · exact absurd (mem_singleton.mp hlast ▸ hadded) hkind

theorem Assembles.append (h : Assembles p heard tools finished) (hkind : e.kind = .toolArgumentsDelta)
    (happend : appendToolArguments tools e = some tools') : Assembles p (heard ++ [e]) tools' finished := by
  obtain ⟨index, assembly, hindex, hlookup, hopen, htools⟩ := appendToolArguments_spec happend
  have hunfinished : index ∉ finished.map (·.1) := by
    rw [← h.completed index assembly hlookup, hopen]
    exact Bool.false_ne_true
  have hdeltas : ∀ i, argumentDeltas (heard ++ [e]) i =
      argumentDeltas heard i ++ if i = index then e.arguments else [] := by
    intro i
    rw [argumentDeltas_concat, hkind, hindex]
    simp [eq_comm]
  have hcalls : ∀ entry ∈ finished, FinishedCall p (heard ++ [e]) entry.1 entry.2 := by
    intro entry hentry
    apply (h.calls entry hentry).2.concat
    right
    rw [hindex]
    intro heq
    exact hunfinished (Option.some.inj heq ▸ List.mem_map_of_mem hentry)
  rcases htools with ⟨hempty, rfl⟩ | ⟨hsome, rfl⟩
  · have hsame : ∀ i, argumentDeltas (heard ++ [e]) i = argumentDeltas heard i := by
      intro i
      rw [hdeltas, hempty, ite_self, append_nil]
    constructor
    · intro i found hi
      obtain ⟨e₁, he₁, hfound⟩ := h.started i found hi
      exact ⟨e₁, mem_append_left _ he₁, hfound⟩
    · intro e₁ he₁ hadded
      rcases mem_append.mp he₁ with hbefore | hlast
      · exact h.known e₁ hbefore hadded
      · rw [mem_singleton.mp hlast, hkind] at hadded
        cases hadded
    · intro i found hi
      rw [hsame]
      exact h.parts i found hi
    · intro i hi
      rw [hsame]
      exact h.silent i hi
    · exact h.completed
    · exact fun entry hentry => ⟨(h.calls entry hentry).1, hcalls entry hentry⟩
    · exact h.once
  · constructor
    · exact fun i found hi => h.started_set hlookup hi rfl rfl
    · exact h.known_set hlookup (by simp [hkind])
    · intro i found hi
      rw [hdeltas]
      rcases lookup_set_cases hlookup hi with ⟨rfl, rfl⟩ | ⟨hne, hi⟩
      · obtain ⟨hflatten, hparts⟩ := h.parts i assembly hlookup
        rw [if_pos rfl, ← hflatten]
        refine ⟨by simp, ?_⟩
        intro part hpart
        rcases mem_append.mp hpart with hbefore | hlast
        · exact hparts part hbefore
        · rw [mem_singleton.mp hlast]
          exact hsome
      · rw [if_neg hne, append_nil]
        exact h.parts i found hi
    · intro i hi
      rw [lookup_set] at hi
      split at hi
      next => simp [hlookup] at hi
      next hne =>
        rw [hdeltas, if_neg hne, append_nil]
        exact h.silent i hi
    · intro i found hi
      rcases lookup_set_cases hlookup hi with ⟨rfl, rfl⟩ | ⟨-, hi⟩
      · exact h.completed i assembly hlookup
      · exact h.completed i found hi
    · intro entry hentry
      rw [lookup_set_isSome hlookup]
      exact ⟨(h.calls entry hentry).1, hcalls entry hentry⟩
    · exact h.once

theorem Assembles.finish {call : ToolCall} (h : Assembles p heard tools finished) (hkind : e.kind = .toolArgumentsDone)
    (hfinish : finishTool p tools e = some (tools', call)) :
    ∃ index, Assembles p (heard ++ [e]) tools' (finished ++ [(index, call)]) := by
  obtain ⟨index, assembly, hindex, hlookup, hopen, hparts, harguments, hcallId, hname, rfl⟩ := finishTool_spec hfinish
  have hunfinished : index ∉ finished.map (·.1) := by
    rw [← h.completed index assembly hlookup, hopen]
    exact Bool.false_ne_true
  have hsame : ∀ i, argumentDeltas (heard ++ [e]) i = argumentDeltas heard i := by
    intro i
    rw [argumentDeltas_concat, if_neg (by simp [hkind]), append_nil]
  refine ⟨index, ?_, ?_, ?_, ?_, ?_, ?_, ?_⟩
  · exact fun i found hi => h.started_set hlookup hi rfl rfl
  · exact h.known_set hlookup (by simp [hkind])
  · intro i found hi
    rw [hsame]
    rcases lookup_set_cases hlookup hi with ⟨rfl, rfl⟩ | ⟨-, hi⟩
    · exact h.parts i assembly hlookup
    · exact h.parts i found hi
  · intro i hi
    rw [lookup_set] at hi
    split at hi
    next => simp [hlookup] at hi
    next =>
      rw [hsame]
      exact h.silent i hi
  · intro i found hi
    rw [map_append, mem_append]
    rcases lookup_set_cases hlookup hi with ⟨rfl, rfl⟩ | ⟨hne, hi⟩
    · simp
    · simpa [hne] using h.completed i found hi
  · intro entry hentry
    rw [lookup_set_isSome hlookup]
    rcases mem_append.mp hentry with hbefore | hlast
    · exact ⟨(h.calls entry hbefore).1, (h.calls entry hbefore).2.concat (Or.inl (by simp [hkind]))⟩
    · rw [mem_singleton.mp hlast]
      refine ⟨by simp [hlookup], ?_, e, by simp, hkind, hindex, ?_, harguments⟩
      · obtain ⟨e₁, he₁, hadded, hindex₁, hcallId₁, hname₁⟩ := h.started index assembly hlookup
        exact ⟨e₁, mem_append_left _ he₁, hadded, hindex₁, hcallId₁.trans hcallId, hname₁.trans hname⟩
      · rw [hsame, ← (h.parts index assembly hlookup).1]
        exact hparts.imp_left fun hnil => by rw [hnil]; rfl
  · rw [map_append, List.nodup_append]
    refine ⟨h.once, List.nodup_singleton _, ?_⟩
    rintro i hi _ hlast rfl
    obtain rfl : i = index := by simpa using hlast
    exact hunfinished hi

/-! ## One event -/

theorem texts_concat (heard : List ResponseEvent) (e : ResponseEvent) :
    texts (heard ++ [e]) = texts heard ++ if e.kind = .textDelta ∧ e.text ≠ [] then [e.text] else [] := by
  unfold texts
  rw [filter_append, map_append]
  congr 1
  by_cases htext : e.kind = .textDelta ∧ e.text ≠ [] <;> simp [htext]

theorem HasOutput.concat (h : HasOutput heard) (e : ResponseEvent) : HasOutput (heard ++ [e]) := by
  obtain ⟨e₁, he₁, houtput⟩ := h
  exact ⟨e₁, mem_append_left _ he₁, houtput⟩

section

variable {yielded : List LLMEvent} {state : Reception}

theorem receive_reading (p : Primitives) (e : ResponseEvent) (hreading : state.terminalKind = none) :
    receive p state e = match e.kind with
      | .metadata =>
        if e.rawType = lit "response.output_item.added" then { state := { state with outputSeen := true } }
        else if looksTerminalOrError e.rawType then { state := { state with terminalKind := some .failed } }
        else { state }
      | .textDelta =>
        if e.text = [] then { state }
        else
          { state := { state with outputSeen := true, textParts := state.textParts ++ [e.text] }
            yielded := some (.textDelta e.text) }
      | .toolAdded =>
        match startTool state.tools e with
        | some tools => { state := { state with tools } }
        | none => breaks state
      | .toolArgumentsDelta =>
        match appendToolArguments state.tools e with
        | some tools => { state := { state with tools } }
        | none => breaks state
      | .toolArgumentsDone =>
        match finishTool p state.tools e with
        | some (tools, call) =>
          { state := { state with tools, outputSeen := true }, yielded := some (.callTool call) }
        | none => breaks state
      | .failed =>
        { state := { state with
            terminalKind := some .failed
            failureCode := some (e.failureCode.getD (lit "provider_unavailable")) } }
      | .completed =>
        { state := { state with terminalKind := some .completed, completionOutput := e.outputItems } } := by
  unfold receive
  rw [hreading]
  rfl

/-- An event that completes nothing is heard, with what it yields. -/
theorem Heard.concat {state' : Reception} {event : Option LLMEvent} {finished' : List (Int × ToolCall)}
    (h : Heard p heard yielded finished state) (hkind : e.kind ≠ .completed)
    (htexts : yieldedTexts event.toList = if e.kind = .textDelta ∧ e.text ≠ [] then [e.text] else [])
    (hcalls : finished'.map (·.2) = finished.map (·.2) ++ yieldedCalls event.toList)
    (hunended : ∀ e ∈ event, ¬IsTerminal e) (hreading : state'.terminalKind = none ∧ state'.failureCode = none)
    (houtput : state'.outputSeen = true → HasOutput (heard ++ [e]))
    (hassembles : Assembles p (heard ++ [e]) state'.tools finished') :
    Heard p (heard ++ [e]) (yielded ++ event.toList) finished' state' := by
  refine ⟨hreading, ?_, ?_, ?_, houtput, ?_, hassembles⟩
  · intro e₁ he₁
    rcases mem_append.mp he₁ with hbefore | hlast
    · exact h.incomplete e₁ hbefore
    · rwa [mem_singleton.mp hlast]
  · rw [texts_concat, ← htexts, ← h.texts]
    simp only [yieldedTexts, filter_append, map_append]
  · rw [hcalls, ← h.calls]
    exact List.filterMap_append
  · intro e₁ he₁
    rcases mem_append.mp he₁ with hbefore | hlast
    · exact h.unended e₁ hbefore
    · exact hunended e₁ (Option.mem_toList.mp hlast)

/-- An event that yields nothing is heard. -/
theorem Heard.silent {state' : Reception} (h : Heard p heard yielded finished state) (hkind : e.kind ≠ .completed)
    (htext : e.kind = .textDelta → e.text = []) (hreading : state'.terminalKind = none ∧ state'.failureCode = none)
    (houtput : state'.outputSeen = true → HasOutput (heard ++ [e]))
    (hassembles : Assembles p (heard ++ [e]) state'.tools finished) :
    Heard p (heard ++ [e]) (yielded ++ (none : Option LLMEvent).toList) finished state' :=
  h.concat hkind (by rw [if_neg fun hsays => hsays.2 (htext hsays.1)]; rfl) (by simp [yieldedCalls]) nofun hreading
    houtput hassembles

/-- An event that the loop reads on after is heard. -/
theorem Heard.step (h : Heard p heard yielded finished state) (hgoes : ¬Stops p state e) :
    ∃ finished', Heard p (heard ++ [e]) (yielded ++ (receive p state e).yielded.toList) finished'
      (receive p state e).state := by
  have hkept : state.outputSeen = true → HasOutput (heard ++ [e]) := fun hseen => (h.output hseen).concat e
  unfold Stops at hgoes
  rw [receive_reading p e h.reading.1] at hgoes ⊢
  cases hkind : e.kind with
  | metadata =>
    have hassembles := h.assembles.other (e := e) (by simp [hkind]) (by simp [hkind])
    simp only [hkind] at hgoes ⊢
    split_ifs with hadded hterminal
    · exact ⟨finished, h.silent (by simp [hkind]) (by simp [hkind]) h.reading
        (fun _ => ⟨e, by simp, Or.inr (Or.inr (Or.inl ⟨hkind, hadded⟩))⟩) hassembles⟩
    · simp [hadded, hterminal] at hgoes
    · exact ⟨finished, h.silent (by simp [hkind]) (by simp [hkind]) h.reading hkept hassembles⟩
  | textDelta =>
    have hassembles := h.assembles.other (e := e) (by simp [hkind]) (by simp [hkind])
    dsimp only
    split_ifs with hempty
    · exact ⟨finished, h.silent (by simp [hkind]) (fun _ => hempty) h.reading hkept hassembles⟩
    · refine ⟨finished, h.concat (by simp [hkind]) ?_ ?_ ?_ h.reading ?_ hassembles⟩
      · simp [yieldedTexts, LLMEvent.textDelta, hkind, hempty]
      · simp [yieldedCalls, LLMEvent.textDelta]
      · rintro _ ⟨⟩ (hcompleted | herror) <;> contradiction
      · exact fun _ => ⟨e, by simp, Or.inl ⟨hkind, hempty⟩⟩
  | toolAdded =>
    simp only [hkind] at hgoes ⊢
    cases hstart : startTool state.tools e with
    | none => simp [hstart, breaks] at hgoes
    | some tools =>
      exact ⟨finished, h.silent (by simp [hkind]) (by simp [hkind]) h.reading hkept (h.assembles.start hkind hstart)⟩
  | toolArgumentsDelta =>
    simp only [hkind] at hgoes ⊢
    cases happend : appendToolArguments state.tools e with
    | none => simp [happend, breaks] at hgoes
    | some tools =>
      exact ⟨finished, h.silent (by simp [hkind]) (by simp [hkind]) h.reading hkept
        (h.assembles.append hkind happend)⟩
  | toolArgumentsDone =>
    simp only [hkind] at hgoes ⊢
    cases hfinish : finishTool p state.tools e with
    | none => simp [hfinish, breaks] at hgoes
    | some finish =>
      obtain ⟨tools, call⟩ := finish
      obtain ⟨index, hassembles⟩ := h.assembles.finish hkind hfinish
      refine ⟨finished ++ [(index, call)], h.concat (by simp [hkind]) ?_ ?_ ?_ h.reading ?_ hassembles⟩
      · simp [yieldedTexts, LLMEvent.callTool, hkind]
      · simp [yieldedCalls, LLMEvent.callTool]
      · rintro _ ⟨⟩ (hcompleted | herror) <;> contradiction
      · exact fun _ => ⟨e, by simp, Or.inr (Or.inl hkind)⟩
  | failed => simp [hkind] at hgoes
  | completed => simp [hkind] at hgoes

/-! ## The whole response -/

/-- Behind its last event nothing is yielded, and only what says nothing leaves the variables as they are. -/
theorem receiveAll_ended {state : Reception} (h : state.terminalKind ≠ none) (events : List ResponseEvent) :
    (receiveAll p state events).2.1 = [] ∧ ((receiveAll p state events).1.failureCode ≠ none ∨
      (receiveAll p state events).1 = state ∧ ∀ e ∈ events, e.kind = .metadata) := by
  induction events with
  | nil => exact ⟨rfl, Or.inr ⟨rfl, nofun⟩⟩
  | cons e events ih =>
    have hsome : state.terminalKind.isSome = true := Option.isSome_iff_ne_none.mpr h
    unfold receiveAll receive
    rw [if_pos hsome]
    split_ifs with hbreaks
    · exact ⟨rfl, Or.inl (Option.some_ne_none _)⟩
    · obtain ⟨hkind, -⟩ := not_or.mp hbreaks
      refine ⟨ih.1, ih.2.imp_right fun hrest => ⟨hrest.1, List.forall_mem_cons.mpr ⟨not_not.mp hkind, hrest.2⟩⟩⟩

/-- An event that stops the loop yields nothing. -/
theorem receive_stops (hstops : Stops p state e) (hreading : state.terminalKind = none) :
    (receive p state e).yielded = none := by
  unfold Stops at hstops
  rw [receive_reading p e hreading] at hstops ⊢
  cases hkind : e.kind with
  | metadata =>
    dsimp only
    split_ifs <;> rfl
  | textDelta =>
    simp only [hkind] at hstops
    split_ifs at hstops <;> simp [hreading] at hstops
  | toolAdded =>
    dsimp only
    cases startTool state.tools e <;> rfl
  | toolArgumentsDelta =>
    dsimp only
    cases appendToolArguments state.tools e <;> rfl
  | toolArgumentsDone =>
    simp only [hkind] at hstops ⊢
    cases hfinish : finishTool p state.tools e with
    | none => rfl
    | some finish => simp [hfinish, hreading] at hstops
  | failed => rfl
  | completed => rfl

/-- What is yielded of a response is that of the events before the one that stops the loop. -/
theorem receiveAll_heard (events : List ResponseEvent) : ∀ {heard yielded finished state},
    Heard p heard yielded finished state → ∃ before rest finished', events = before ++ rest ∧
      Heard p (heard ++ before) (yielded ++ (receiveAll p state events).2.1) finished' (receiveAll p state before).1 ∧
      (receiveAll p state events).1 = (receiveAll p (receiveAll p state before).1 rest).1 ∧
      ∀ e ∈ rest.head?, Stops p (receiveAll p state before).1 e := by
  induction events with
  | nil =>
    intro heard yielded finished state h
    exact ⟨[], [], finished, rfl, by simpa [receiveAll] using h, rfl, nofun⟩
  | cons e events ih =>
    intro heard yielded finished state h
    by_cases hstops : Stops p state e
    · refine ⟨[], e :: events, finished, rfl, ?_, rfl, by simpa [receiveAll] using hstops⟩
      have hnone : (receiveAll p state (e :: events)).2.1 = [] := by
        have hyielded := receive_stops hstops h.reading.1
        unfold receiveAll
        dsimp only
        split_ifs with hgoes
        · have hterminal : (receive p state e).state.terminalKind ≠ none :=
            hstops.resolve_left (by simp [hgoes])
          simp [hyielded, (receiveAll_ended hterminal events).1]
        · simp [hyielded]
      rw [hnone, append_nil, append_nil]
      exact h
    · obtain ⟨finished₁, h₁⟩ := h.step hstops
      obtain ⟨before, rest, finished', rfl, h', hfinal, hrest⟩ := ih h₁
      have hgoes : (receive p state e).goesOn = true := by
        by_contra hleft
        exact hstops (Or.inl (by simpa using hleft))
      have hstate : ∀ events, receiveAll p state (e :: events) = ((receiveAll p (receive p state e).state events).1,
          (receive p state e).yielded.toList ++ (receiveAll p (receive p state e).state events).2.1,
          (receiveAll p (receive p state e).state events).2.2) := by
        intro events
        rw [receiveAll]
        simp only [hgoes, if_true]
      refine ⟨e :: before, rest, finished', rfl, ?_, ?_, ?_⟩
      · rw [hstate, hstate]
        simpa using h'
      · rw [hstate, hstate]
        exact hfinal
      · rw [hstate]
        exact hrest

/-- Only its completion completes a response. -/
theorem receive_completes (hreading : state.terminalKind = none)
    (hcompleted : (receive p state e).state.terminalKind ≠ none ∧ (receive p state e).state.terminalKind ≠ some .failed) :
    e.kind = .completed := by
  rw [receive_reading p e hreading] at hcompleted
  cases hkind : e.kind with
  | completed => rfl
  | failed => simp [hkind] at hcompleted
  | metadata =>
    simp only [hkind] at hcompleted
    split_ifs at hcompleted <;> simp [hreading] at hcompleted
  | textDelta =>
    simp only [hkind] at hcompleted
    split_ifs at hcompleted <;> simp [hreading] at hcompleted
  | toolAdded =>
    simp only [hkind] at hcompleted
    cases hstart : startTool state.tools e <;> simp [hstart, breaks, hreading] at hcompleted
  | toolArgumentsDelta =>
    simp only [hkind] at hcompleted
    cases happend : appendToolArguments state.tools e <;> simp [happend, breaks, hreading] at hcompleted
  | toolArgumentsDone =>
    simp only [hkind] at hcompleted
    cases hfinish : finishTool p state.tools e <;> simp [hfinish, breaks, hreading] at hcompleted

/-- A response that is completed without a failure is stopped by its completion, and says nothing behind it. -/
theorem receiveAll_completes {rest : List ResponseEvent} (hreading : state.terminalKind = none)
    (hstops : ∀ e ∈ rest.head?, Stops p state e) (hfailure : (receiveAll p state rest).1.failureCode = none)
    (hterminal : (receiveAll p state rest).1.terminalKind ≠ none ∧
      (receiveAll p state rest).1.terminalKind ≠ some .failed) :
    ∃ e after, rest = e :: after ∧ e.kind = .completed ∧ (∀ e ∈ after, e.kind = .metadata) ∧
      (receiveAll p state rest).1 =
        { state with terminalKind := some .completed, completionOutput := e.outputItems } := by
  cases rest with
  | nil =>
    exact absurd hreading hterminal.1
  | cons e after =>
    unfold receiveAll at hfailure hterminal ⊢
    cases hgoes : (receive p state e).goesOn with
    | false =>
      simp only [hgoes, Bool.false_eq_true, if_false] at hfailure
      simpa [hfailure] using receive_leaves hgoes
    | true =>
      simp only [hgoes, if_true] at hfailure hterminal ⊢
      have hended := (hstops e rfl).resolve_left (by simp [hgoes])
      obtain ⟨hsame, hafter⟩ := (receiveAll_ended (p := p) hended after).2.resolve_left (not_not.mpr hfailure)
      rw [hsame] at hterminal
      have hkind := receive_completes hreading hterminal
      refine ⟨e, after, rfl, hkind, hafter, hsame.trans ?_⟩
      rw [receive_reading p e hreading, hkind]

end

/-! ## The generator -/

variable {prepared : PreparedRequest} {key : Bytes} {state : Reception} {event : LLMEvent} {exchange : Exchange}

/-- The last event is terminal, and completes the turn only if the response was complete. -/
theorem conclude_terminal (h : conclude p prepared key state = .ok event) : IsTerminal event ∧
    event.toolCall = none ∧ (event.type = .completed → state.failureCode = none ∧
      (state.terminalKind ≠ none ∧ state.terminalKind ≠ some .failed) ∧
      (∀ entry ∈ state.tools, entry.2.completed = true) ∧
      (state.outputSeen = true ∨ state.completionOutput ≠ [])) := by
  have hfailure : ∀ {code : Text} {P : Prop}, IsTerminal (failure code) ∧ (failure code).toolCall = none ∧
      ((failure code).type = .completed → P) := fun {code P} => ⟨Or.inr rfl, rfl, nofun⟩
  unfold conclude at h
  split at h
  next => exact Except.ok.inj h ▸ hfailure
  next hnone =>
    split_ifs at h with hkind hfailed hopen hsilent
    · exact Except.ok.inj h ▸ hfailure
    · exact Except.ok.inj h ▸ hfailure
    · exact Except.ok.inj h ▸ hfailure
    · exact Except.ok.inj h ▸ hfailure
    · split at h
      next continuation hcreate =>
        obtain rfl := Except.ok.inj h
        refine ⟨Or.inl rfl, rfl, fun _ => ⟨hnone, ⟨hkind, hfailed⟩, ?_, ?_⟩⟩
        · intro entry hentry
          by_contra hentry'
          exact hopen (List.any_eq_true.mpr ⟨entry, hentry, by simpa using hentry'⟩)
        · by_contra hboth
          obtain ⟨hseen, houtput⟩ := not_or.mp hboth
          exact hsilent ⟨by simpa using hseen, not_not.mp houtput⟩
      next => exact Except.ok.inj h ▸ hfailure
      next => cases h

/-- The response is read, and the way it ends changes nothing but that it fails. -/
theorem exchangeAll_reads (hstream : exchange.refusal = none) :
    (exchangeAll p exchange).2.1 = (receiveAll p {} exchange.events).2.1 ∧
      ((exchangeAll p exchange).1.failureCode ≠ none ∨
        (exchangeAll p exchange).1 = (receiveAll p {} exchange.events).1) := by
  unfold exchangeAll
  rw [hstream]
  refine ⟨rfl, ?_⟩
  dsimp only
  split_ifs
  · exact Or.inl (Option.some_ne_none _)
  · split
    next => exact Or.inl (Option.some_ne_none _)
    next => exact Or.inl (Option.some_ne_none _)
    next => exact Or.inr rfl
  · exact Or.inl (Option.some_ne_none _)
  · exact Or.inr rfl

/-- The adapter opens a stream for the request. -/
structure Opens (p : Primitives) (adapter : Adapter) (request : LLMRequest) (exchange : Exchange) : Prop where
  tools : request.tools = [] ∨ adapter.capabilities.tools = true
  continuation : request.continuation = none ∨ adapter.capabilities.continuationMode ≠ .none
  running : adapter.closed = false
  prepared : ∃ key prepared, adapter.continuationHmacKey = some key ∧ prepareRequest p request key = .ok (.ok prepared)
  stream : exchange.refusal = none

theorem generateStream_opened {adapter : Adapter} {request : LLMRequest} (h : Opens p adapter request exchange) :
    ∃ key prepared, prepareRequest p request key = .ok (.ok prepared) ∧ generateStream p adapter request exchange =
      if (exchangeAll p exchange).2.2 then
        match conclude p prepared key (exchangeAll p exchange).1 with
        | .ok event => ⟨(exchangeAll p exchange).2.1 ++ [event], .returned⟩
        | .error _ => ⟨(exchangeAll p exchange).2.1, .raised⟩
      else ⟨(exchangeAll p exchange).2.1, .cancelled⟩ := by
  obtain ⟨key, prepared, hkey, hprepare⟩ := h.prepared
  refine ⟨key, prepared, hprepare, ?_⟩
  unfold generateStream
  rw [if_neg (by rcases h.tools with htools | htools <;> simp [htools]),
    if_neg (by rcases h.continuation with hnone | hmode <;> simp_all), h.running, hkey]
  cases hconclude : conclude p prepared key (exchangeAll p exchange).1 with
  | ok event => simp only [hprepare, hconclude]
  | error e => simp only [hprepare, hconclude]

theorem exchangeAll_finishes (hending : exchange.ending ≠ .cancelled) (hclosing : exchange.closing ≠ .cancelled) :
    (exchangeAll p exchange).2.2 = true := by
  unfold exchangeAll
  cases exchange.refusal with
  | some code => simpa using hclosing
  | none => simp [hending, hclosing]

theorem conclude_ok_of {request : LLMRequest} (hprepare : prepareRequest p request key = .ok (.ok prepared))
    (hitems : ∀ e ∈ exchange.events, ∀ item ∈ e.outputItems, ¬Unhashable item) :
    ∃ event, conclude p prepared key (exchangeAll p exchange).1 = .ok event := by
  cases hconclude : conclude p prepared key (exchangeAll p exchange).1 with
  | ok event => exact ⟨event, rfl⟩
  | error refusal =>
    obtain ⟨e, he, item, hout, hunhashable⟩ := conclude_raises hprepare hconclude
    exact absurd hunhashable (hitems e he item hout)

/-- How the generator ends: with one terminal event, or without one if it is cancelled. It returns unless it is cancelled
or asks an item for a hash. -/
structure Terminates (exchange : Exchange) (g : Generated) : Prop where
  returns : exchange.ending ≠ .cancelled → exchange.closing ≠ .cancelled →
    (∀ e ∈ exchange.events, ∀ item ∈ e.outputItems, ¬Unhashable item) → g.completion = .returned
  returned : g.completion = .returned → ∃ body last, g.yielded = body ++ [last] ∧ IsTerminal last ∧
    ∀ e ∈ body, ¬IsTerminal e
  cancelled : g.completion = .cancelled → ∀ e ∈ g.yielded, ¬IsTerminal e

/-- What the generator yields of a response of which `before` was heard and `rest` was not, with the calls that were
finished. -/
structure Translates (p : Primitives) (before rest : List ResponseEvent) (finished : List (Int × ToolCall))
    (yielded : List LLMEvent) : Prop where
  stops : ∀ e ∈ rest.head?, Stops p (receiveAll p {} before).1 e
  texts : yieldedTexts yielded = texts before
  calls : yieldedCalls yielded = finished.map (·.2)
  once : (finished.map (·.1)).Nodup
  assembled : ∀ entry ∈ finished, FinishedCall p before entry.1 entry.2
  completes : (∃ e ∈ yielded, e.type = .completed) →
    ((before ++ rest).filter fun e => e.kind = .completed).length = 1 ∧ OpenAI.texts rest = [] ∧
    HasOutput (before ++ rest) ∧
    ∀ e ∈ before ++ rest, e.kind = .toolAdded → ∃ entry ∈ finished, e.outputIndex = some entry.1

theorem heard_nothing (p : Primitives) : Heard p [] [] [] {} := by
  refine ⟨⟨rfl, rfl⟩, nofun, rfl, rfl, nofun, nofun, ⟨nofun, nofun, nofun, fun _ _ => rfl, nofun, nofun, List.nodup_nil⟩⟩

/-- What a completed response was. -/
theorem completes_of {before rest : List ResponseEvent} {finished : List (Int × ToolCall)} {yielded : List LLMEvent}
    (h : Heard p before yielded finished state) (hstops : ∀ e ∈ rest.head?, Stops p state e)
    (hfailure : (receiveAll p state rest).1.failureCode = none)
    (hterminal : (receiveAll p state rest).1.terminalKind ≠ none ∧
      (receiveAll p state rest).1.terminalKind ≠ some .failed)
    (hfinished : ∀ entry ∈ (receiveAll p state rest).1.tools, entry.2.completed = true)
    (houtput : (receiveAll p state rest).1.outputSeen = true ∨ (receiveAll p state rest).1.completionOutput ≠ []) :
    ((before ++ rest).filter fun e => e.kind = .completed).length = 1 ∧ texts rest = [] ∧ HasOutput (before ++ rest) ∧
      ∀ e ∈ before ++ rest, e.kind = .toolAdded → ∃ entry ∈ finished, e.outputIndex = some entry.1 := by
  obtain ⟨e, after, rfl, hkind, hafter, hfinal⟩ := receiveAll_completes h.reading.1 hstops hfailure hterminal
  rw [hfinal] at hfinished houtput
  refine ⟨?_, ?_, ?_, ?_⟩
  · rw [filter_append, List.filter_cons_of_pos (by simpa using hkind),
      List.filter_eq_nil_iff.mpr fun e he => by simpa using h.incomplete e he,
      List.filter_eq_nil_iff.mpr fun e he => by simp [hafter e he]]
    rfl
  · rw [texts, List.filter_eq_nil_iff.mpr]
    · rfl
    · intro e₁ he₁
      rcases List.mem_cons.mp he₁ with rfl | hmem
      · simp [hkind]
      · simp [hafter e₁ hmem]
  · rcases houtput with hseen | hitems
    · obtain ⟨e₁, he₁, hsome⟩ := h.output hseen
      exact ⟨e₁, mem_append_left _ he₁, hsome⟩
    · exact ⟨e, by simp, Or.inr (Or.inr (Or.inr ⟨hkind, hitems⟩))⟩
  · intro e₁ he₁ hadded
    have hbefore : e₁ ∈ before := by
      rcases mem_append.mp he₁ with hbefore | hrest
      · exact hbefore
      · rcases List.mem_cons.mp hrest with rfl | hmem
        · cases hkind.symm.trans hadded
        · cases (hafter e₁ hmem).symm.trans hadded
    obtain ⟨index, hindex, hsome⟩ := h.assembles.known e₁ hbefore hadded
    obtain ⟨assembly, hassembly⟩ := Option.isSome_iff_exists.mp hsome
    have hcompleted : assembly.completed = true := by
      obtain ⟨tools₁, tools₂, htools, -⟩ := List.lookup_eq_some_iff.mp hassembly
      exact hfinished (index, assembly) (by simp [htools])
    obtain ⟨entry, hentry, rfl⟩ := List.mem_map.mp ((h.assembles.completed index assembly hassembly).mp hcompleted)
    exact ⟨entry, hentry, hindex⟩

theorem unended_concat (body : List LLMEvent) {last : LLMEvent} (hlast : IsTerminal last) (hcall : last.toolCall = none) :
    yieldedTexts (body ++ [last]) = yieldedTexts body ∧ yieldedCalls (body ++ [last]) = yieldedCalls body := by
  have htype : last.type ≠ .textDelta := by
    rcases hlast with htype | htype <;> simp [htype]
  constructor
  · simp [yieldedTexts, htype]
  · simp [yieldedCalls, hcall]

end

/-- A response whose call has its arguments at its end only. -/
def wholeArguments : Exchange where
  events := [
    { kind := .toolAdded, rawType := [], outputIndex := some 0, itemId := lit "i", callId := lit "c", name := lit "n" },
    { kind := .toolArgumentsDone, rawType := [], outputIndex := some 0, itemId := lit "i", name := lit "n",
      arguments := lit "\x7b\"a\":1\x7d" },
    { kind := .completed, rawType := [] }]

theorem opens_wholeArguments : Opens greetingPrimitives askedAdapter askedRequest wholeArguments := by
  have hprepared : ((prepareRequest greetingPrimitives askedRequest [1]).toOption.bind Except.toOption).isSome = true := by
    decide +kernel
  refine ⟨Or.inl rfl, Or.inl rfl, rfl, ?_, rfl⟩
  cases hprepare : prepareRequest greetingPrimitives askedRequest [1] with
  | error e => simp [hprepare, Except.toOption] at hprepared
  | ok answer =>
    cases answer with
    | error e => simp [hprepare, Except.toOption] at hprepared
    | ok prepared => exact ⟨[1], prepared, rfl, hprepare⟩

/-- A response that adds an item and says nothing. -/
def addedOnly : Exchange where
  events := [{ kind := .metadata, rawType := lit "response.output_item.added" }, { kind := .completed, rawType := [] }]

end ArkClaw.Provider.OpenAI
