import ArkClaw.Provider.OpenAINormalization
import ArkClaw.Provider.OpenAITranslation

/-!
# Streaming and buffered mode

A turn says the texts of its messages and its calls, in the order of the output, up to a call that cannot be made:
`outputSays`. The loop of the generator says just that of both lists of events, of those of a documented stream and of
those of the response that is there at once, however the texts and arguments are cut. So the two modes yield the same
(`generateStream_agrees`), unless an event of another type has the name of an error: streaming takes it for the end.
-/

namespace ArkClaw.Provider.OpenAI

open ArkClaw.Library ArkClaw.Domain
open List (singleton_append append_assoc flatMap_append map_append append_nil length_cons map_cons
  forall_mem_singleton mem_cons)

/-! ## What is yielded, however it is cut -/

/-- A code point of a text, or an event that is no text. -/
abbrev Piece := CodePoint ⊕ LLMEvent

def pieces (e : LLMEvent) : List Piece := if e.type = .textDelta then e.text.map .inl else [.inr e]

/-- The same events, but for how the text is cut into deltas. -/
def SameUpToCuts (yielded yielded' : List LLMEvent) : Prop := yielded.flatMap pieces = yielded'.flatMap pieces

/-- The text among the pieces. -/
def spoken (said : List Piece) : Text := said.filterMap Sum.getLeft?

def OutputContent.text : OutputContent → Text
  | .outputText said => said
  | .refusal said => said

section

variable (p : Primitives)

/-- What an item says, unless it is a call that cannot be made. -/
def itemSays : OutputItem → Option (List Piece)
  | .message _ content => some ((content.flatMap OutputContent.text).map .inl)
  | .functionCall id callId name arguments =>
    if id.getD [] = [] ∨ callId = [] ∨ name = [] then none
    else
      (strictJsonObject p arguments maxToolArgumentBytes).toOption.map fun arguments =>
        [.inr (.callTool { callId, name, arguments })]
  | .other _ => some []

/-- What the items say, and whether it is all of them. -/
def outputSays : List OutputItem → List Piece × Bool
  | [] => ([], true)
  | item :: rest =>
    match itemSays p item with
    | none => ([], false)
    | some said => (said ++ (outputSays rest).1, (outputSays rest).2)

/-! ## Parts of the loop -/

/-- Through these events the loop comes from one state to another. -/
def Passes (state : Reception) (events : List ResponseEvent) (state' : Reception) (yielded : List LLMEvent) : Prop :=
  ∀ rest, receiveAll p state (events ++ rest)
    = ((receiveAll p state' rest).1, yielded ++ (receiveAll p state' rest).2.1, (receiveAll p state' rest).2.2)

/-- Within these events the loop is left. -/
def Breaks (state : Reception) (events : List ResponseEvent) (yielded : List LLMEvent) : Prop :=
  ∃ final, final.failureCode = some (lit "invalid_response") ∧
    ∀ rest, receiveAll p state (events ++ rest) = (final, yielded, false)

end

variable {p : Primitives} {state state' state'' : Reception} {events events' : List ResponseEvent}
  {yielded yielded' : List LLMEvent} {e : ResponseEvent}

theorem Passes.nil : Passes p state [] state [] := fun _ => rfl

theorem Passes.one {event : Option LLMEvent} (h : receive p state e = { state := state', yielded := event }) :
    Passes p state [e] state' event.toList := by
  intro rest
  rw [singleton_append, receiveAll, h]
  rfl

theorem Passes.append (h : Passes p state events state' yielded) (h' : Passes p state' events' state'' yielded') :
    Passes p state (events ++ events') state'' (yielded ++ yielded') := by
  intro rest
  rw [append_assoc, h, h', append_assoc]

theorem Passes.breaks (h : Passes p state events state' yielded) (h' : Breaks p state' events' yielded') :
    Breaks p state (events ++ events') (yielded ++ yielded') := by
  obtain ⟨final, hfinal, hrest⟩ := h'
  refine ⟨final, hfinal, fun rest => ?_⟩
  rw [append_assoc, h, hrest]

theorem Breaks.append (h : Breaks p state events yielded) (events' : List ResponseEvent) :
    Breaks p state (events ++ events') yielded := by
  obtain ⟨final, hfinal, hrest⟩ := h
  refine ⟨final, hfinal, fun rest => ?_⟩
  rw [append_assoc, hrest]

theorem Breaks.one (h : receive p state e = breaks state) : Breaks p state [e] [] := by
  refine ⟨(breaks state).state, rfl, fun rest => ?_⟩
  rw [singleton_append, receiveAll, h]
  rfl

/-! ## Items -/

/-- The loop has heard the items up to a place of the output. -/
structure Settled (outputIndex : Int) (said : List Piece) (state : Reception) : Prop where
  nonneg : 0 ≤ outputIndex
  reading : state.terminalKind = none
  unfailed : state.failureCode = none
  unended : state.completionOutput = []
  finished : ∀ entry ∈ state.tools, entry.1 < outputIndex ∧ entry.2.completed = true
  text : state.textParts.flatten = spoken said
  unseen : outputIndex = 0 → state.outputSeen = false

/-- The loop says of these events what the item says. -/
def Hears (p : Primitives) (outputIndex : Int) (item : OutputItem) (events : List ResponseEvent) : Prop :=
  ∀ before state, Settled outputIndex before state →
    match itemSays p item with
    | some said => ∃ state' yielded, Passes p state events state' yielded ∧ yielded.flatMap pieces = said
        ∧ Settled (outputIndex + 1) (before ++ said) state'
    | none => Breaks p state events []

theorem pieces_textDelta (s : Text) : pieces (.textDelta s) = s.map .inl := rfl

theorem spoken_append (said said' : List Piece) : spoken (said ++ said') = spoken said ++ spoken said' :=
  List.filterMap_append

theorem spoken_text (s : Text) : spoken (s.map .inl) = s := by
  unfold spoken
  rw [List.filterMap_map]
  exact List.filterMap_some

theorem Settled.next {outputIndex : Int} {said : List Piece} (h : Settled outputIndex said state) :
    Settled (outputIndex + 1) said state := by
  have hnonneg := h.nonneg
  refine ⟨by omega, h.reading, h.unfailed, h.unended, fun entry hentry => ?_, h.text, by omega⟩
  obtain ⟨hlt, hcompleted⟩ := h.finished entry hentry
  exact ⟨by omega, hcompleted⟩

/-- One text is heard. -/
theorem passes_text {outputIndex : Int} {before : List Piece} (h : Settled outputIndex before state)
    (hindex : outputIndex ≠ 0) (hkind : e.kind = .textDelta) :
    ∃ state' yielded, Passes p state [e] state' yielded ∧ yielded.flatMap pieces = e.text.map .inl
      ∧ Settled outputIndex (before ++ e.text.map .inl) state' := by
  have hreceive := receive_reading p e h.reading
  rw [hkind] at hreceive
  dsimp only at hreceive
  by_cases hempty : e.text = []
  · rw [if_pos hempty] at hreceive
    exact ⟨state, [], .one hreceive, by rw [hempty]; rfl, by simpa [hempty] using h⟩
  · rw [if_neg hempty] at hreceive
    refine ⟨_, _, .one hreceive, by simp [pieces_textDelta], ⟨h.nonneg, h.reading, h.unfailed, h.unended, h.finished, ?_, ?_⟩⟩
    · rw [List.flatten_append, List.flatten_singleton, h.text, spoken_append, spoken_text]
    · exact fun hzero => absurd hzero hindex

/-- Deltas of a text are yielded unless they are empty, and together they are the text. -/
theorem passes_texts {outputIndex : Int} {before : List Piece} (h : Settled outputIndex before state)
    (hindex : outputIndex ≠ 0) (htexts : ∀ e ∈ events, e.kind = .textDelta) :
    ∃ state' yielded, Passes p state events state' yielded
      ∧ yielded.flatMap pieces = (events.flatMap (·.text)).map .inl
      ∧ Settled outputIndex (before ++ (events.flatMap (·.text)).map .inl) state' := by
  induction events generalizing state before with
  | nil => exact ⟨state, [], .nil, rfl, by simpa using h⟩
  | cons e rest ih =>
    obtain ⟨hkind, hrest⟩ := List.forall_mem_cons.mp htexts
    obtain ⟨state', yielded, hpasses, hpieces, hsettled⟩ := passes_text h hindex hkind
    obtain ⟨state'', yielded', hpasses', hpieces', hsettled'⟩ := ih hsettled hrest
    refine ⟨state'', yielded ++ yielded', hpasses.append hpasses', ?_, ?_⟩
    · rw [flatMap_append, hpieces, hpieces', List.flatMap_cons, map_append]
    · rwa [List.flatMap_cons, map_append, ← append_assoc]

/-- An item that is no call is only noted when it is added. -/
def IsNote (e : ResponseEvent) : Prop := e.kind = .metadata ∧ e.rawType = lit "response.output_item.added"

theorem passes_notes {outputIndex : Int} {before : List Piece} (h : Settled outputIndex before state)
    (hindex : outputIndex ≠ 0) (hnotes : ∀ e ∈ events, IsNote e) :
    ∃ state', Passes p state events state' [] ∧ Settled outputIndex before state' := by
  induction events generalizing state with
  | nil => exact ⟨state, .nil, h⟩
  | cons e rest ih =>
    obtain ⟨⟨hkind, htype⟩, hrest⟩ := List.forall_mem_cons.mp hnotes
    have hreceive := receive_reading p e h.reading
    rw [hkind] at hreceive
    dsimp only at hreceive
    rw [if_pos htype] at hreceive
    have hnoted : Settled outputIndex before { state with outputSeen := true } :=
      ⟨h.nonneg, h.reading, h.unfailed, h.unended, h.finished, h.text, fun hzero => absurd hzero hindex⟩
    obtain ⟨state', hpasses, hsettled⟩ := ih hnoted hrest
    exact ⟨state', (Passes.one hreceive).append hpasses, hsettled⟩

/-! ## Calls -/

/-- The loop has heard the items up to a place of the output, and of the call there some of its arguments. -/
structure Assembling (outputIndex : Int) (before : List Piece) (itemId callId name arguments : Text) (count : Nat)
    (state : Reception) : Prop where
  nonneg : 0 ≤ outputIndex
  reading : state.terminalKind = none
  unfailed : state.failureCode = none
  unended : state.completionOutput = []
  text : state.textParts.flatten = spoken before
  tools : ∃ earlier parts, (∀ entry ∈ earlier, entry.1 < outputIndex ∧ entry.2.completed = true)
    ∧ state.tools = earlier ++ [(outputIndex,
      { itemId, callId, name, argumentParts := parts, argumentBytes := arguments.utf8Length, completed := false })]
    ∧ parts.flatten = arguments ∧ parts.length ≤ count

/-- The arguments can be encoded in as many bytes as a call may have. -/
def Fits (arguments : Text) : Prop := arguments.Encodable ∧ arguments.utf8Length ≤ maxToolArgumentBytes

theorem utf8Length_append (s s' : Text) : (s ++ s').utf8Length = s.utf8Length + s'.utf8Length := by
  unfold Text.utf8Length
  rw [map_append, List.sum_append]

theorem Fits.of_append {s s' : Text} (h : Fits (s ++ s')) : Fits s ∧ s'.Encodable := by
  obtain ⟨hencodable, hlength⟩ := h
  obtain ⟨hs, hs'⟩ := List.forall_mem_append.mp hencodable
  rw [utf8Length_append] at hlength
  exact ⟨⟨hs, by omega⟩, hs'⟩

theorem strictJsonObject_fits {s : Text} {members : Json.Members}
    (h : (strictJsonObject p s maxToolArgumentBytes).toOption = some members) : Fits s := by
  by_contra hunfit
  have hrefused : strictJsonObject p s maxToolArgumentBytes = .error .rejected := by
    unfold strictJsonObject require
    rw [if_neg (show ¬(s.Encodable ∧ s.utf8Length ≤ maxToolArgumentBytes) from hunfit)]
    rfl
  rw [hrefused] at h
  cases h

variable {outputIndex : Int} {before : List Piece} {earlier : Tools} {assembly assembly' : ToolAssembly}
variable {itemId callId name arguments : Text} {items : List OutputItem} {stream : List StreamEvent}

theorem lookup_earlier (h : ∀ entry ∈ earlier, entry.1 < outputIndex ∧ entry.2.completed = true) :
    earlier.lookup outputIndex = none := by
  rw [List.lookup_eq_none_iff]
  intro entry hentry
  have hlt := (h entry hentry).1
  simpa using (by omega : outputIndex ≠ entry.1)

theorem lookup_last (h : ∀ entry ∈ earlier, entry.1 < outputIndex ∧ entry.2.completed = true) :
    (earlier ++ [(outputIndex, assembly)]).lookup outputIndex = some assembly := by
  rw [lookup_start earlier outputIndex outputIndex assembly (lookup_earlier h), if_pos rfl]

theorem set_last (h : ∀ entry ∈ earlier, entry.1 < outputIndex ∧ entry.2.completed = true) :
    Tools.set (earlier ++ [(outputIndex, assembly)]) outputIndex assembly' = earlier ++ [(outputIndex, assembly')] := by
  have hsame : earlier.map (fun entry => if entry.1 = outputIndex then (outputIndex, assembly') else entry) = earlier := by
    conv_rhs => rw [← List.map_id earlier]
    refine List.map_congr_left fun entry hentry => if_neg ?_
    have hlt := (h entry hentry).1
    omega
  rw [Tools.set, map_append, hsame, List.map_singleton, if_pos rfl]

/-- A call is started, unless it lacks one of its names. -/
theorem passes_start (h : Settled outputIndex before state) (hkind : e.kind = .toolAdded)
    (hindex : e.outputIndex = some outputIndex) :
    (e.itemId = [] ∨ e.callId = [] ∨ e.name = []) ∧ Breaks p state [e] []
      ∨ ¬(e.itemId = [] ∨ e.callId = [] ∨ e.name = [])
        ∧ ∃ state', Passes p state [e] state' [] ∧ Assembling outputIndex before e.itemId e.callId e.name [] 0 state' := by
  have hreceive := receive_reading p e h.reading
  rw [hkind] at hreceive
  dsimp only at hreceive
  have hlookup := lookup_earlier h.finished
  by_cases hnames : e.itemId = [] ∨ e.callId = [] ∨ e.name = []
  · have hstart : startTool state.tools e = none := by
      unfold startTool
      rw [hindex]
      exact if_pos (.inr hnames)
    rw [hstart] at hreceive
    exact .inl ⟨hnames, .one hreceive⟩
  · have hstart : startTool state.tools e
        = some (state.tools ++ [(outputIndex, { itemId := e.itemId, callId := e.callId, name := e.name })]) := by
      unfold startTool
      rw [hindex]
      refine if_neg (not_or.mpr ⟨?_, hnames⟩)
      rw [hlookup]
      nofun
    rw [hstart] at hreceive
    exact .inr ⟨hnames, _, .one hreceive, h.nonneg, h.reading, h.unfailed, h.unended, h.text, state.tools, [], h.finished,
      rfl, rfl, Nat.le_refl 0⟩

/-- A delta of the arguments is taken, unless they can no longer be those of a call. -/
theorem passes_delta {count : Nat}
    (h : Assembling outputIndex before itemId callId name arguments count state) (hkind : e.kind = .toolArgumentsDelta)
    (hindex : e.outputIndex = some outputIndex) (hid : e.itemId = itemId) (hcount : count < maxToolArgumentParts) :
    (∃ state', Passes p state [e] state' []
        ∧ Assembling outputIndex before itemId callId name (arguments ++ e.arguments) (count + 1) state')
      ∨ ¬Fits (arguments ++ e.arguments) ∧ Breaks p state [e] [] := by
  have hreceive := receive_reading p e h.reading
  rw [hkind] at hreceive
  dsimp only at hreceive
  obtain ⟨earlier, parts, hearlier, htools, hparts, hlength⟩ := h.tools
  have happend : appendToolArguments state.tools e =
      if ¬e.arguments.Encodable then none
      else if arguments.utf8Length + e.arguments.utf8Length > maxToolArgumentBytes then none
      else if e.arguments = [] then some state.tools
      else some (earlier ++ [(outputIndex,
        { itemId, callId, name, argumentParts := parts ++ [e.arguments]
          argumentBytes := arguments.utf8Length + e.arguments.utf8Length, completed := false })]) := by
    unfold appendToolArguments
    rw [hindex, htools, Option.bind_eq_bind, Option.bind_some, lookup_last hearlier, Option.bind_eq_bind, Option.bind_some,
      if_neg (by simp [hid]), set_last hearlier]
    dsimp only
    rw [if_neg (show ¬parts.length ≥ maxToolArgumentParts by omega)]
  rw [happend] at hreceive
  by_cases hencodable : e.arguments.Encodable
  · rw [if_neg (not_not.mpr hencodable)] at hreceive
    by_cases hbytes : arguments.utf8Length + e.arguments.utf8Length > maxToolArgumentBytes
    · rw [if_pos hbytes] at hreceive
      refine .inr ⟨fun hfits => ?_, .one hreceive⟩
      have hlimit := hfits.2
      rw [utf8Length_append] at hlimit
      omega
    · rw [if_neg hbytes] at hreceive
      left
      by_cases hempty : e.arguments = []
      · rw [if_pos hempty] at hreceive
        refine ⟨_, .one hreceive, h.nonneg, h.reading, h.unfailed, h.unended, h.text, earlier, parts, hearlier, ?_, ?_, by omega⟩
        · rw [hempty, append_nil]
          exact htools
        · rw [hempty, append_nil, hparts]
      · rw [if_neg hempty] at hreceive
        refine ⟨_, .one hreceive, h.nonneg, h.reading, h.unfailed, h.unended, h.text, earlier, parts ++ [e.arguments],
          hearlier, ?_, ?_, ?_⟩
        · rw [utf8Length_append]
        · rw [List.flatten_append, hparts, List.flatten_singleton]
        · rw [List.length_append, List.length_singleton]
          omega
  · rw [if_pos hencodable] at hreceive
    exact .inr ⟨fun hfits => hencodable hfits.of_append.2, .one hreceive⟩

def argumentsDelta (outputIndex : Int) (itemId delta : Text) : ResponseEvent where
  kind := .toolArgumentsDelta
  rawType := lit "response.function_call_arguments.delta"
  outputIndex := some outputIndex
  itemId
  arguments := delta

/-- Deltas of the arguments are taken, unless these cannot be those of a call. -/
theorem passes_deltas {count : Nat} (deltas : List Text)
    (h : Assembling outputIndex before itemId callId name arguments count state)
    (hcount : count + deltas.length ≤ maxToolArgumentParts) :
    (∃ state', Passes p state (deltas.map (argumentsDelta outputIndex itemId)) state' []
        ∧ Assembling outputIndex before itemId callId name (arguments ++ deltas.flatten) (count + deltas.length) state')
      ∨ ¬Fits (arguments ++ deltas.flatten)
        ∧ Breaks p state (deltas.map (argumentsDelta outputIndex itemId)) [] := by
  induction deltas generalizing state arguments count with
  | nil => exact .inl ⟨state, .nil, by simpa using h⟩
  | cons delta rest ih =>
    rw [length_cons] at hcount
    rw [map_cons, List.flatten_cons, ← append_assoc]
    rcases passes_delta (p := p) h (e := argumentsDelta outputIndex itemId delta) rfl rfl rfl (by omega) with
      ⟨state', hpasses, hassembling⟩ | ⟨hunfit, hbreaks⟩
    · rcases ih hassembling (by omega) with ⟨state'', hpasses', hassembling'⟩ | ⟨hunfit, hbreaks⟩
      · refine .inl ⟨state'', hpasses.append hpasses', ?_⟩
        rw [length_cons, Nat.add_comm rest.length 1, ← Nat.add_assoc]
        exact hassembling'
      · exact .inr ⟨hunfit, hpasses.breaks hbreaks⟩
    · exact .inr ⟨fun hfits => hunfit hfits.of_append.1, hbreaks.append _⟩

/-- A call is made at its end, with the arguments said there, if these are what the deltas were. -/
theorem passes_done {count : Nat}
    (h : Assembling outputIndex before itemId callId name arguments count state) (hkind : e.kind = .toolArgumentsDone)
    (hindex : e.outputIndex = some outputIndex) (hid : e.itemId = itemId) (hname : e.name = name)
    (hdeltas : count = 0 ∨ arguments = e.arguments) :
    match (strictJsonObject p e.arguments maxToolArgumentBytes).toOption with
    | some members => ∃ state', Passes p state [e] state' [.callTool { callId, name, arguments := members }]
        ∧ Settled (outputIndex + 1) (before ++ [.inr (.callTool { callId, name, arguments := members })]) state'
    | none => Breaks p state [e] [] := by
  have hreceive := receive_reading p e h.reading
  rw [hkind] at hreceive
  dsimp only at hreceive
  obtain ⟨earlier, parts, hearlier, htools, hparts, hlength⟩ := h.tools
  have hsame : ¬(parts ≠ [] ∧ parts.flatten ≠ e.arguments) := by
    rintro ⟨hsome, hne⟩
    rcases hdeltas with rfl | harguments
    · exact hsome (List.length_eq_zero_iff.mp (Nat.le_zero.mp hlength))
    · exact hne (hparts.trans harguments)
  have hfinish : finishTool p state.tools e =
      (strictJsonObject p e.arguments maxToolArgumentBytes).toOption.bind fun members =>
        some (earlier ++ [(outputIndex,
          { itemId, callId, name, argumentParts := parts, argumentBytes := arguments.utf8Length, completed := true })],
          { callId, name, arguments := members }) := by
    unfold finishTool
    rw [hindex, htools, Option.bind_eq_bind, Option.bind_some, lookup_last hearlier, Option.bind_eq_bind, Option.bind_some,
      if_neg (by simp [hid, hname]), if_neg hsame, set_last hearlier]
    rfl
  rw [hfinish] at hreceive
  cases hmembers : (strictJsonObject p e.arguments maxToolArgumentBytes).toOption with
  | none =>
    rw [hmembers] at hreceive
    exact .one hreceive
  | some members =>
    rw [hmembers] at hreceive
    have hnonneg := h.nonneg
    refine ⟨_, .one hreceive, by omega, h.reading, h.unfailed, h.unended, fun entry hentry => ?_, ?_, by omega⟩
    · rcases List.mem_append.mp hentry with hentry | hentry
      · obtain ⟨hlt, hcompleted⟩ := hearlier entry hentry
        exact ⟨by omega, hcompleted⟩
      · obtain rfl := List.mem_singleton.mp hentry
        exact ⟨Int.lt_succ outputIndex, rfl⟩
    · rw [h.text, spoken_append]
      exact (append_nil _).symm

def callAdded (outputIndex : Int) (id : Option Text) (callId name : Text) : ResponseEvent where
  kind := .toolAdded
  rawType := lit "response.output_item.added"
  outputIndex := some outputIndex
  itemId := id.getD []
  callId
  name

def callDone (outputIndex : Int) (itemId name arguments : Text) : ResponseEvent where
  kind := .toolArgumentsDone
  rawType := lit "response.function_call_arguments.done"
  outputIndex := some outputIndex
  itemId
  name
  arguments

/-! ## What each mode hears of an item -/

/-- A call is heard with the deltas of its arguments or without. -/
theorem hears_call {id : Option Text} (deltas : List Text)
    (hid : ∀ i ∈ id, i = itemId) (hfew : deltas.length ≤ maxToolArgumentParts)
    (hdeltas : deltas = [] ∨ deltas.flatten = arguments) :
    Hears p outputIndex (.functionCall id callId name arguments)
      ([callAdded outputIndex id callId name] ++ (deltas.map (argumentsDelta outputIndex itemId)
        ++ [callDone outputIndex itemId name arguments])) := by
  intro before state h
  have hstart := passes_start (p := p) (e := callAdded outputIndex id callId name) h rfl rfl
  have hnamed : ((callAdded outputIndex id callId name).itemId = [] ∨ (callAdded outputIndex id callId name).callId = []
      ∨ (callAdded outputIndex id callId name).name = []) = (id.getD [] = [] ∨ callId = [] ∨ name = []) := rfl
  rw [hnamed] at hstart
  rcases hstart with ⟨hnames, hbreaks⟩ | ⟨hnames, state₁, hadded, hassembling⟩
  · rw [itemSays, if_pos hnames]
    exact hbreaks.append _
  rw [itemSays, if_neg hnames]
  have hitemId : id.getD [] = itemId := by
    cases id with
    | none => exact absurd (.inl rfl) hnames
    | some i => exact hid i rfl
  have hassembling' : Assembling outputIndex before itemId callId name [] 0 state₁ := hitemId ▸ hassembling
  rcases passes_deltas (p := p) deltas hassembling' (by omega) with ⟨state₂, hpasses, hassembled⟩ | ⟨hunfit, hbreaks⟩
  · rw [List.nil_append, Nat.zero_add] at hassembled
    have hend : deltas.length = 0 ∨ deltas.flatten = arguments := hdeltas.imp_left (congrArg List.length)
    have hdone := passes_done (p := p) (e := callDone outputIndex itemId name arguments) hassembled rfl rfl rfl rfl hend
    have harguments : (callDone outputIndex itemId name arguments).arguments = arguments := rfl
    rw [harguments] at hdone
    cases hmembers : (strictJsonObject p arguments maxToolArgumentBytes).toOption with
    | none =>
      rw [hmembers] at hdone
      exact hadded.breaks (hpasses.breaks hdone)
    | some members =>
      rw [hmembers] at hdone
      obtain ⟨state₃, hcall, hsettled⟩ := hdone
      exact ⟨state₃, _, hadded.append (hpasses.append hcall), rfl, hsettled⟩
  · have hrefused : (strictJsonObject p arguments maxToolArgumentBytes).toOption = none := by
      by_contra hsome
      obtain ⟨members, hmembers⟩ := Option.ne_none_iff_exists'.mp hsome
      rcases hdeltas with rfl | rfl
      · exact hunfit ⟨by decide, by decide⟩
      · exact hunfit (strictJsonObject_fits hmembers)
    rw [hrefused]
    exact hadded.breaks (hbreaks.append _)

/-- A message is heard from any texts that are its own, together. -/
theorem hears_message {id : Text} {content : List OutputContent} (hnotes : ∀ e ∈ events', IsNote e)
    (htexts : ∀ e ∈ events, e.kind = .textDelta)
    (hsame : events.flatMap (·.text) = content.flatMap OutputContent.text) :
    Hears p outputIndex (.message id content) (events' ++ events) := by
  intro before state h
  have hnonneg := h.nonneg
  obtain ⟨state₁, hnoted, hsettled⟩ := passes_notes (p := p) h.next (by omega) hnotes
  obtain ⟨state₂, yielded, hpasses, hpieces, hsettled'⟩ := passes_texts (p := p) hsettled (by omega) htexts
  rw [hsame] at hpieces hsettled'
  exact ⟨state₂, yielded, hnoted.append hpasses, hpieces, hsettled'⟩

theorem hears_other {id : Option Text} (hnotes : ∀ e ∈ events, IsNote e) : Hears p outputIndex (.other id) events := by
  intro before state h
  have hnonneg := h.nonneg
  obtain ⟨state', hnoted, hsettled⟩ := passes_notes (p := p) h.next (by omega) hnotes
  exact ⟨state', [], hnoted, rfl, by rwa [append_nil]⟩

/-- The loop says of these events what the items say. -/
def HearsAll (p : Primitives) (outputIndex : Int) (items : List OutputItem) (events : List ResponseEvent) : Prop :=
  ∀ before state, Settled outputIndex before state →
    if (outputSays p items).2 then
      ∃ state' yielded, Passes p state events state' yielded ∧ yielded.flatMap pieces = (outputSays p items).1
        ∧ Settled (outputIndex + items.length) (before ++ (outputSays p items).1) state'
    else ∃ yielded, Breaks p state events yielded ∧ yielded.flatMap pieces = (outputSays p items).1

theorem HearsAll.nil : HearsAll p outputIndex [] [] := by
  intro before state h
  exact ⟨state, [], .nil, rfl, by simpa [outputSays] using h⟩

theorem HearsAll.cons {item : OutputItem} (h : Hears p outputIndex item events)
    (hrest : HearsAll p (outputIndex + 1) items events') : HearsAll p outputIndex (item :: items) (events ++ events') := by
  intro before state hsettled
  have hitem := h before state hsettled
  rw [outputSays]
  cases hitemSays : itemSays p item with
  | none =>
    rw [hitemSays] at hitem
    exact ⟨[], hitem.append _, rfl⟩
  | some said =>
    rw [hitemSays] at hitem
    obtain ⟨state', yielded, hpasses, hpieces, hsettled'⟩ := hitem
    have hitems := hrest (before ++ said) state' hsettled'
    dsimp only
    split
    next hwhole =>
      rw [if_pos hwhole] at hitems
      obtain ⟨state'', yielded', hpasses', hpieces', hsettled''⟩ := hitems
      refine ⟨state'', yielded ++ yielded', hpasses.append hpasses', ?_, ?_⟩
      · rw [flatMap_append, hpieces, hpieces']
      · rw [length_cons, Nat.cast_add_one, Int.add_comm _ 1, ← Int.add_assoc, ← append_assoc]
        exact hsettled''
    next hpart =>
      rw [if_neg hpart] at hitems
      obtain ⟨yielded', hbreaks, hpieces'⟩ := hitems
      exact ⟨yielded ++ yielded', hpasses.breaks hbreaks, by rw [flatMap_append, hpieces, hpieces']⟩

/-! ## The response that is there at once -/

theorem contentEvents_text (content : OutputContent) :
    (contentEvents content).flatMap (·.text) = content.text ∧ ∀ e ∈ contentEvents content, e.kind = .textDelta := by
  cases content with
  | outputText said =>
    dsimp only [contentEvents, OutputContent.text]
    split
    next hempty => exact ⟨hempty.symm, nofun⟩
    next => exact ⟨append_nil _, forall_mem_singleton.mpr rfl⟩
  | refusal said =>
    dsimp only [contentEvents, OutputContent.text]
    split
    next hempty => exact ⟨hempty.symm, nofun⟩
    next => exact ⟨append_nil _, forall_mem_singleton.mpr rfl⟩

theorem hears_itemEvents (p : Primitives) (outputIndex : Int) (item : OutputItem) :
    Hears p outputIndex item (itemEvents outputIndex item) := by
  cases item with
  | message id content =>
    have htexts : ∀ e ∈ content.flatMap contentEvents, e.kind = .textDelta := by
      intro e he
      obtain ⟨c, -, hc⟩ := List.mem_flatMap.mp he
      exact (contentEvents_text c).2 e hc
    have hsame : (content.flatMap contentEvents).flatMap (·.text) = content.flatMap OutputContent.text := by
      rw [List.flatMap_assoc]
      exact List.flatMap_congr fun c _ => (contentEvents_text c).1
    exact hears_message (List.forall_mem_nil _) htexts hsame
  | functionCall id callId name arguments =>
    have hid : ∀ i ∈ id, i = id.getD [] := by
      intro i hi
      rw [Option.mem_def.mp hi]
      rfl
    exact hears_call [] hid (Nat.zero_le _) (.inl rfl)
  | other id => exact hears_other nofun

theorem hears_outputEvents (p : Primitives) (outputIndex : Int) (items : List OutputItem) :
    HearsAll p outputIndex items (outputEvents outputIndex items) := by
  induction items generalizing outputIndex with
  | nil => exact .nil
  | cons item rest ih => exact .cons (hears_itemEvents p outputIndex item) (ih (outputIndex + 1))

/-! ## The stream of a response -/

/-- The events of a stream are normalized to these. -/
def Reads (stream : List StreamEvent) (events : List ResponseEvent) : Prop := readStream stream = (events, .done)

theorem readStream_append {stream stream' : List StreamEvent} (h : Reads stream events) :
    readStream (stream ++ stream') = (events ++ (readStream stream').1, (readStream stream').2) := by
  unfold Reads at h
  induction stream generalizing events with
  | nil =>
    obtain ⟨rfl, -⟩ := Prod.mk.inj h
    rfl
  | cons e rest ih =>
    rw [readStream] at h
    rw [List.cons_append, readStream]
    cases hnormalized : normalizeStreamEvent e with
    | error code =>
      rw [hnormalized] at h
      cases h
    | ok normalized =>
      rw [hnormalized] at h
      obtain ⟨rfl, hdone⟩ := Prod.mk.inj h
      rw [ih (Prod.ext rfl hdone)]
      rfl

theorem Reads.append {stream stream' : List StreamEvent} (h : Reads stream events) (h' : Reads stream' events') :
    Reads (stream ++ stream') (events ++ events') := by
  unfold Reads at h' ⊢
  rw [readStream_append h, h']

theorem Reads.map {f : Text → StreamEvent} {g : Text → ResponseEvent} (h : ∀ s, normalizeStreamEvent (f s) = .ok (g s))
    (deltas : List Text) : Reads (deltas.map f) (deltas.map g) := by
  unfold Reads
  induction deltas with
  | nil => rfl
  | cons delta rest ih => rw [map_cons, map_cons, readStream, h, ih]

def textDelta (rawType text : Text) : ResponseEvent where
  kind := .textDelta
  rawType
  text

theorem texts_map (rawType : Text) (deltas : List Text) :
    (∀ e ∈ deltas.map (textDelta rawType), e.kind = .textDelta)
      ∧ (deltas.map (textDelta rawType)).flatMap (·.text) = deltas.flatten := by
  refine ⟨List.forall_mem_map.mpr fun s _ => rfl, ?_⟩
  rw [List.flatMap_map]
  exact congrArg List.flatten (List.map_id' deltas)

/-- The deltas of texts and refusals are texts that together are those. -/
theorem reads_content {content : List OutputContent} (h : ContentStream content stream) :
    ∃ events, Reads stream events ∧ (∀ e ∈ events, e.kind = .textDelta)
      ∧ events.flatMap (·.text) = content.flatMap OutputContent.text := by
  induction h with
  | nil => exact ⟨[], rfl, nofun, rfl⟩
  | outputText deltas _ ih =>
    obtain ⟨events, hreads, hkinds, hsame⟩ := ih
    have hdeltas := Reads.map (f := .textDelta) (g := textDelta (lit "response.output_text.delta")) (fun s => rfl) deltas
    obtain ⟨hkinds', hsame'⟩ := texts_map (lit "response.output_text.delta") deltas
    refine ⟨_, hdeltas.append hreads, List.forall_mem_append.mpr ⟨hkinds', hkinds⟩, ?_⟩
    rw [flatMap_append, hsame', hsame]
    rfl
  | refusal deltas _ ih =>
    obtain ⟨events, hreads, hkinds, hsame⟩ := ih
    have hdeltas := Reads.map (f := .refusalDelta) (g := textDelta (lit "response.refusal.delta")) (fun s => rfl) deltas
    obtain ⟨hkinds', hsame'⟩ := texts_map (lit "response.refusal.delta") deltas
    refine ⟨_, hdeltas.append hreads, List.forall_mem_append.mpr ⟨hkinds', hkinds⟩, ?_⟩
    rw [flatMap_append, hsame', hsame]
    rfl

/-- The stream of an item is read as events that say what the item says. -/
theorem reads_item {item : OutputItem} (h : ItemStream outputIndex item stream) :
    ∃ events, Reads stream events ∧ Hears p outputIndex item events := by
  cases h with
  | message id added h =>
    obtain ⟨events, hreads, hkinds, hsame⟩ := reads_content h
    have hadded : Reads [.outputItemAdded outputIndex (.message id added)] [{
        kind := .metadata
        rawType := lit "response.output_item.added"
        outputIndex := some outputIndex
        itemId := id }] := rfl
    exact ⟨_, hadded.append hreads, hears_message (forall_mem_singleton.mpr ⟨rfl, rfl⟩) hkinds hsame⟩
  | functionCall id itemId callId name added deltas hid hfew =>
    have hadded : Reads [.outputItemAdded outputIndex (.functionCall id callId name added)]
        [callAdded outputIndex id callId name] := rfl
    have hdeltas := Reads.map (f := .functionCallArgumentsDelta outputIndex itemId)
      (g := argumentsDelta outputIndex itemId) (fun s => rfl) deltas
    have hdone : Reads [.functionCallArgumentsDone outputIndex itemId name deltas.flatten]
        [callDone outputIndex itemId name deltas.flatten] := rfl
    exact ⟨_, hadded.append (hdeltas.append hdone), hears_call deltas hid hfew.le (.inr rfl)⟩
  | other id =>
    exact ⟨[{
      kind := .metadata
      rawType := lit "response.output_item.added"
      outputIndex := some outputIndex
      itemId := id.getD [] }], rfl, hears_other (forall_mem_singleton.mpr ⟨rfl, rfl⟩)⟩

/-- The stream of the output is read as events that say what the items say. -/
theorem reads_output (h : OutputStream outputIndex items stream) :
    ∃ events, Reads stream events ∧ HearsAll p outputIndex items events := by
  induction h with
  | nil outputIndex => exact ⟨[], rfl, .nil⟩
  | cons h _ ih =>
    obtain ⟨events, hreads, hhears⟩ := reads_item h
    obtain ⟨events', hreads', hhears'⟩ := ih
    exact ⟨_, hreads.append hreads', .cons hhears hhears'⟩

/-! ## Events of other types -/

/-- The event says nothing of the response. -/
def ResponseEvent.isSilent (e : ResponseEvent) : Bool :=
  e.kind = .metadata && decide (e.rawType ≠ lit "response.output_item.added")

/-- Of the events that say nothing, one has the name of an error. -/
def HasErrorName (events : List ResponseEvent) : Prop := ∃ e ∈ events, e.isSilent = true ∧ looksTerminalOrError e.rawType = true

theorem hasErrorName_cons : HasErrorName (e :: events) ↔
    (e.isSilent = true ∧ looksTerminalOrError e.rawType = true) ∨ HasErrorName events := by
  simp [HasErrorName]

theorem receive_ended (p : Primitives) (e : ResponseEvent) (hended : state.terminalKind ≠ none) :
    receive p state e =
      if e.kind ≠ .metadata ∨ looksTerminalOrError e.rawType = true then breaks state else { state := state } := by
  unfold receive
  rw [if_pos (Option.isSome_iff_ne_none.mpr hended)]

theorem receive_silent (hsilent : e.isSilent = true) (hquiet : looksTerminalOrError e.rawType = false) :
    receive p state e = { state := state } := by
  obtain ⟨hkind, htype⟩ := Bool.and_eq_true_iff.mp hsilent
  rw [decide_eq_true_eq] at hkind htype
  by_cases hreading : state.terminalKind = none
  · rw [receive_reading p e hreading, hkind]
    dsimp only
    rw [if_neg htype, hquiet]
    rfl
  · rw [receive_ended p e hreading, if_neg (by simp [hkind, hquiet])]

/-- Once the response has ended it is over. -/
theorem receive_ends (hgoes : (receive p state e).goesOn = true)
    (hend : state.terminalKind ≠ none ∨ e.kind = .completed ∨ e.kind = .failed) :
    (receive p state e).state.terminalKind ≠ none := by
  by_cases hreading : state.terminalKind = none
  · rw [receive_reading p e hreading]
    rcases hend.resolve_left (not_not.mpr hreading) with hkind | hkind <;> rw [hkind] <;> exact Option.some_ne_none _
  · rw [receive_ended p e hreading] at hgoes ⊢
    split_ifs at hgoes ⊢
    · cases hgoes
    · exact hreading

theorem receive_breaks (h : (receive p state e).goesOn = false) : receive p state e = breaks state := by
  by_cases hreading : state.terminalKind = none
  · rw [receive_reading p e hreading] at h ⊢
    cases hkind : e.kind with
    | metadata =>
      rw [hkind] at h
      dsimp only at h
      split_ifs at h
    | textDelta =>
      rw [hkind] at h
      dsimp only at h
      split_ifs at h
    | toolAdded =>
      rw [hkind] at h
      cases hstart : startTool state.tools e with
      | none => rfl
      | some tools => simp [hstart] at h
    | toolArgumentsDelta =>
      rw [hkind] at h
      cases happend : appendToolArguments state.tools e with
      | none => rfl
      | some tools => simp [happend] at h
    | toolArgumentsDone =>
      rw [hkind] at h
      cases hfinish : finishTool p state.tools e with
      | none => rfl
      | some finish => simp [hfinish] at h
    | completed => simp [hkind] at h
    | failed => simp [hkind] at h
  · rw [receive_ended p e hreading] at h ⊢
    split_ifs at h ⊢
    rfl

theorem Passes.receive (h : (receive p state e).goesOn = true) :
    Passes p state [e] (receive p state e).state (receive p state e).yielded.toList := by
  intro rest
  rw [singleton_append, receiveAll, if_pos h]

/-- Events that say nothing change nothing, whenever they come. -/
theorem receiveAll_loud (state : Reception) (h : ¬HasErrorName events) :
    receiveAll p state events = receiveAll p state (events.filter fun e => !e.isSilent) := by
  induction events generalizing state with
  | nil => rfl
  | cons e rest ih =>
    obtain ⟨hunnamed, hrest⟩ := not_or.mp (hasErrorName_cons.not.mp h)
    by_cases hsilent : e.isSilent = true
    · have hquiet : looksTerminalOrError e.rawType = false := by simpa [hsilent] using hunnamed
      rw [List.filter_cons_of_neg (by simpa using hsilent), receiveAll, receive_silent hsilent hquiet, ← ih state hrest]
      rfl
    · rw [List.filter_cons_of_pos (by simpa using hsilent), receiveAll, receiveAll]
      simp only [ih _ hrest]

/-- Behind the end of the response all that is not metadata breaks it. -/
theorem breaks_ended (hended : state.terminalKind ≠ none) (hloud : ∃ e ∈ events, e.kind ≠ .metadata) :
    Breaks p state events [] := by
  obtain ⟨loud, hloud, hkind⟩ := hloud
  induction events with
  | nil => cases hloud
  | cons e rest ih =>
    have hreceive := receive_ended p e hended
    split_ifs at hreceive with hbroken
    · exact (Breaks.one hreceive).append rest
    · rcases mem_cons.mp hloud with rfl | hrest
      · exact absurd (.inl hkind) hbroken
      · exact (Passes.one hreceive).breaks (ih hrest)

/-- The name of an error breaks a response that comes to an end, and up to there the loop yields what it does without
it. -/
theorem breaks_named (state : Reception) (h : HasErrorName events)
    (hend : state.terminalKind ≠ none ∨ ∃ e ∈ events, e.kind = .completed ∨ e.kind = .failed) :
    ∃ yielded, Breaks p state events yielded
      ∧ yielded <+: (receiveAll p state (events.filter fun e => !e.isSilent)).2.1 := by
  induction events generalizing state with
  | nil =>
    obtain ⟨e, he, -⟩ := h
    cases he
  | cons e rest ih =>
    by_cases hsilent : e.isSilent = true
    · rw [List.filter_cons_of_neg (by simpa using hsilent)]
      obtain ⟨hkind, htype⟩ := Bool.and_eq_true_iff.mp hsilent
      rw [decide_eq_true_eq] at hkind htype
      have hend' : state.terminalKind ≠ none ∨ ∃ e ∈ rest, e.kind = .completed ∨ e.kind = .failed := by
        refine hend.imp_right fun ⟨e', he', hkind'⟩ => ⟨e', (mem_cons.mp he').resolve_left ?_, hkind'⟩
        rintro rfl
        simp [hkind] at hkind'
      by_cases hnamed : looksTerminalOrError e.rawType = true
      · refine ⟨[], ?_, List.nil_prefix⟩
        by_cases hended : state.terminalKind = none
        · have hreceive := receive_reading p e hended
          rw [hkind] at hreceive
          dsimp only at hreceive
          rw [if_neg htype, if_pos hnamed] at hreceive
          obtain ⟨e', he', hkind'⟩ := hend'.resolve_left (not_not.mpr hended)
          refine (Passes.one hreceive).breaks (breaks_ended (Option.some_ne_none _) ⟨e', he', ?_⟩)
          rcases hkind' with hkind' | hkind' <;> rw [hkind'] <;> nofun
        · have hreceive := receive_ended p e hended
          rw [if_pos (.inr hnamed)] at hreceive
          exact (Breaks.one hreceive).append rest
      · have hrest := (hasErrorName_cons.mp h).resolve_left fun hboth => hnamed hboth.2
        obtain ⟨yielded, hbreaks, hpart⟩ := ih _ hrest hend'
        rw [Bool.not_eq_true] at hnamed
        exact ⟨yielded, (Passes.one (receive_silent hsilent hnamed)).breaks hbreaks, hpart⟩
    · rw [List.filter_cons_of_pos (by simpa using hsilent)]
      cases hgoes : (receive p state e).goesOn with
      | false => exact ⟨[], (Breaks.one (receive_breaks hgoes)).append rest, List.nil_prefix⟩
      | true =>
        have hpasses := Passes.receive hgoes
        have hrest := (hasErrorName_cons.mp h).resolve_left fun hboth => hsilent hboth.1
        have hend' : (receive p state e).state.terminalKind ≠ none ∨ ∃ e ∈ rest, e.kind = .completed ∨ e.kind = .failed := by
          rcases hend with hended | ⟨e', he', hkind⟩
          · exact .inl (receive_ends hgoes (.inl hended))
          · rcases mem_cons.mp he' with rfl | he'
            · exact .inl (receive_ends hgoes (.inr hkind))
            · exact .inr ⟨e', he', hkind⟩
        obtain ⟨yielded, hbreaks, hpart⟩ := ih _ hrest hend'
        refine ⟨_, hpasses.breaks hbreaks, ?_⟩
        have hsame := hpasses (rest.filter fun e => !e.isSilent)
        rw [singleton_append] at hsame
        rw [hsame]
        exact (List.prefix_append_right_inj _).mpr hpart

theorem normalize_loud {event : StreamEvent} (hsaid : event.isOther = false) (h : normalizeStreamEvent event = .ok e) :
    e.isSilent = false := by
  cases event with
  | other type => cases hsaid
  | outputItemAdded outputIndex item =>
    cases item <;> obtain rfl := Except.ok.inj h <;> rfl
  | completed response =>
    dsimp only [normalizeStreamEvent] at h
    split_ifs at h
    · obtain rfl := Except.ok.inj h
      rfl
    · cases hitems : dumpOutputItems response with
      | error code =>
        rw [hitems] at h
        cases h
      | ok items =>
        rw [hitems] at h
        obtain rfl := Except.ok.inj h
        rfl
  | textDelta delta => obtain rfl := Except.ok.inj h; rfl
  | refusalDelta delta => obtain rfl := Except.ok.inj h; rfl
  | functionCallArgumentsDelta outputIndex itemId delta => obtain rfl := Except.ok.inj h; rfl
  | functionCallArgumentsDone outputIndex itemId name arguments => obtain rfl := Except.ok.inj h; rfl
  | incomplete response => obtain rfl := Except.ok.inj h; rfl
  | failed response => obtain rfl := Except.ok.inj h; rfl
  | error => obtain rfl := Except.ok.inj h; rfl

/-- A stream with events of other types is read if it is without them, and these are the ones that say nothing. -/
theorem reads_others (hothers : ∀ type, .other type ∈ stream → type ∉ handledTypes)
    (h : Reads (stream.filter fun e => !e.isOther) events) :
    ∃ events', Reads stream events' ∧ events'.filter (fun e => !e.isSilent) = events
      ∧ (HasErrorName events' ↔ ∃ type, .other type ∈ stream ∧ looksTerminalOrError type = true) := by
  induction stream generalizing events with
  | nil =>
    obtain ⟨rfl, -⟩ := Prod.mk.inj h
    exact ⟨[], rfl, rfl, by simp [HasErrorName]⟩
  | cons event rest ih =>
    have hrest : ∀ type, .other type ∈ rest → type ∉ handledTypes := fun type htype =>
      hothers type (List.mem_cons_of_mem event htype)
    cases hsaid : event.isOther with
    | true =>
      rw [List.filter_cons_of_neg (by simp [hsaid])] at h
      obtain ⟨events', hreads, hloud, hnamed⟩ := ih hrest h
      cases event with
      | other type =>
        have hsilent : ({ kind := .metadata, rawType := type } : ResponseEvent).isSilent = true := by
          have htype := hothers type List.mem_cons_self
          have hne : type ≠ lit "response.output_item.added" := by
            rintro rfl
            exact htype (by decide)
          simpa [ResponseEvent.isSilent] using hne
        refine ⟨{ kind := .metadata, rawType := type } :: events', ?_, ?_, ?_⟩
        · unfold Reads at hreads ⊢
          rw [readStream, hreads]
          rfl
        · rw [List.filter_cons_of_neg (by simp [hsilent]), hloud]
        · rw [hasErrorName_cons, hnamed]
          simp [hsilent, or_and_right, exists_or]
      | _ => cases hsaid
    | false =>
      rw [List.filter_cons_of_pos (by simp [hsaid])] at h
      unfold Reads at h
      rw [readStream] at h
      cases hnormalized : normalizeStreamEvent event with
      | error code =>
        rw [hnormalized] at h
        cases h
      | ok e =>
        rw [hnormalized] at h
        obtain ⟨rfl, hdone⟩ := Prod.mk.inj h
        obtain ⟨events', hreads, hloud, hnamed⟩ := ih hrest (Prod.ext rfl hdone)
        have hspeaks := normalize_loud hsaid hnormalized
        have hne : ∀ type, StreamEvent.other type ≠ event := by
          rintro type rfl
          cases hsaid
        refine ⟨e :: events', ?_, ?_, ?_⟩
        · unfold Reads at hreads ⊢
          rw [readStream, hnormalized, hreads]
        · rw [List.filter_cons_of_pos (by simp [hspeaks]), hloud]
        · rw [hasErrorName_cons, hnamed]
          simp [hspeaks, hne]

/-! ## The end of the response -/

/-- The event ends a response like another. -/
structure EndsLike (e e' : ResponseEvent) : Prop where
  terminal : e.kind = .completed ∨ e.kind = .failed
  kind : e.kind = e'.kind
  failureCode : e.failureCode = e'.failureCode
  outputItems : e.kind = .completed → e.outputItems = e'.outputItems

/-- The terminal event of the stream ends the response like the last event of the response that is there at once. -/
theorem normalize_terminalEvent {response : Response} {items : List Json} (hitems : dumpOutputItems response = .ok items) :
    ∃ e, normalizeStreamEvent response.terminalEvent = .ok e ∧ EndsLike e (lastEvent response items) := by
  obtain ⟨output, status, details⟩ := response
  rcases status with _ | (_ | _ | _ | _ | _ | _)
  case some.completed =>
    refine ⟨{ kind := .completed, rawType := lit "response.completed", outputItems := items }, ?_, .inl rfl, rfl, rfl, fun _ => rfl⟩
    dsimp only [Response.terminalEvent, normalizeStreamEvent]
    rw [if_neg (not_not.mpr rfl), hitems]
    rfl
  all_goals exact ⟨_, rfl, .inr rfl, rfl, rfl, nofun⟩

theorem dumpOutputItems_nil {response : Response} (h : dumpOutputItems response = .ok []) : response.output = [] :=
  List.forall₂_nil_right_iff.mp (check_mapM_ok.mp h)

/-- What the last event of the turn depends on. -/
theorem conclude_congr {prepared : PreparedRequest} {key : Bytes} (hfailureCode : state.failureCode = state'.failureCode)
    (hterminalKind : state.terminalKind = state'.terminalKind)
    (houtput : state.completionOutput = state'.completionOutput)
    (hseen : state.completionOutput = [] → state.outputSeen = state'.outputSeen)
    (htext : state.textParts.flatten = state'.textParts.flatten)
    (htools : state.tools.any (fun entry => !entry.2.completed) = state'.tools.any (fun entry => !entry.2.completed)) :
    conclude p prepared key state = conclude p prepared key state' := by
  have hcreation : turnCreation prepared key state = turnCreation prepared key state' := by
    unfold turnCreation
    rw [houtput, htext]
  have hsilent : (state.outputSeen = false ∧ state.completionOutput = [])
      = (state'.outputSeen = false ∧ state'.completionOutput = []) := by
    refine propext ⟨fun ⟨hs, ho⟩ => ⟨hseen ho ▸ hs, houtput ▸ ho⟩, fun ⟨hs, ho⟩ => ?_⟩
    have ho' : state.completionOutput = [] := houtput.trans ho
    exact ⟨(hseen ho').trans hs, ho'⟩
  unfold conclude
  rw [hfailureCode, hterminalKind, htools, hcreation]
  simp only [hsilent]

theorem Settled.any_open {said : List Piece} (h : Settled outputIndex said state) :
    state.tools.any (fun entry => !entry.2.completed) = false := by
  rw [List.any_eq_false]
  intro entry hentry
  simp [(h.finished entry hentry).2]

theorem receive_completed (p : Primitives) (hreading : state.terminalKind = none) (hkind : e.kind = .completed) :
    receive p state e
      = { state := { state with terminalKind := some .completed, completionOutput := e.outputItems } } := by
  rw [receive_reading p e hreading, hkind]

theorem receive_failed (p : Primitives) (hreading : state.terminalKind = none) (hkind : e.kind = .failed) :
    receive p state e = { state := { state with
      terminalKind := some .failed
      failureCode := some (e.failureCode.getD (lit "provider_unavailable")) } } := by
  rw [receive_reading p e hreading, hkind]

/-- Having heard the same, the loop comes to the same end in both modes. -/
theorem Settled.ends {said : List Piece} {e' : ResponseEvent} (h : Settled outputIndex said state)
    (h' : Settled outputIndex said state') (hends : EndsLike e e')
    (hitems : e.kind = .completed → e.outputItems = [] → outputIndex = 0) :
    ∃ final final', Passes p state [e] final [] ∧ Passes p state' [e'] final' []
      ∧ ∀ prepared key, conclude p prepared key final = conclude p prepared key final' := by
  have hopen := h.any_open.trans h'.any_open.symm
  have htext := h.text.trans h'.text.symm
  rcases hends.terminal with hkind | hkind
  · refine ⟨_, _, .one (receive_completed p h.reading hkind),
      .one (receive_completed p h'.reading (hends.kind ▸ hkind)), fun prepared key => ?_⟩
    refine conclude_congr (h.unfailed.trans h'.unfailed.symm) rfl (hends.outputItems hkind) ?_ htext hopen
    intro hnone
    exact (h.unseen (hitems hkind hnone)).trans (h'.unseen (hitems hkind hnone)).symm
  · refine ⟨_, _, .one (receive_failed p h.reading hkind),
      .one (receive_failed p h'.reading (hends.kind ▸ hkind)), fun prepared key => ?_⟩
    dsimp only [conclude]
    rw [hends.failureCode]

/-! ## The turn -/

/-- The turn of one list of events yields what that of the other does, but for how the text is cut. -/
structure Alike (p : Primitives) (events events' : List ResponseEvent) : Prop where
  yielded : SameUpToCuts (receiveAll p {} events).2.1 (receiveAll p {} events').2.1
  concluded : ∀ prepared key,
    conclude p prepared key (receiveAll p {} events).1 = conclude p prepared key (receiveAll p {} events').1

theorem settled_nothing : Settled 0 [] {} := ⟨Int.le_refl 0, rfl, rfl, rfl, nofun, rfl, fun _ => rfl⟩

theorem Passes.receiveAll (h : Passes p state events state' yielded) :
    receiveAll p state events = (state', yielded, true) := by
  have hall := h []
  rwa [append_nil, OpenAI.receiveAll, append_nil] at hall

theorem Breaks.conclude (h : Breaks p state events yielded) : (receiveAll p state events).2.1 = yielded
    ∧ ∀ prepared key, conclude p prepared key (receiveAll p state events).1 = .ok (failure (lit "invalid_response")) := by
  obtain ⟨final, hfinal, hrest⟩ := h
  have hall := hrest []
  rw [append_nil] at hall
  rw [hall]
  refine ⟨rfl, fun prepared key => ?_⟩
  dsimp only [OpenAI.conclude]
  rw [hfinal]

/-- Two lists of events of which the loop says the same, and that end alike. -/
theorem HearsAll.alike {e' : ResponseEvent} (h : HearsAll p 0 items events)
    (h' : HearsAll p 0 items events') (hends : EndsLike e e')
    (hitems : e.kind = .completed → e.outputItems = [] → items = []) : Alike p (events ++ [e]) (events' ++ [e']) := by
  have hheard := h [] {} settled_nothing
  have hheard' := h' [] {} settled_nothing
  split at hheard
  next hwhole =>
    rw [if_pos hwhole] at hheard'
    obtain ⟨state, yielded, hpasses, hpieces, hsettled⟩ := hheard
    obtain ⟨state', yielded', hpasses', hpieces', hsettled'⟩ := hheard'
    have hlast : e.kind = .completed → e.outputItems = [] → (0 : Int) + items.length = 0 := by
      intro hkind hnone
      rw [hitems hkind hnone]
      rfl
    obtain ⟨final, final', hfinal, hfinal', hconcluded⟩ := hsettled.ends hsettled' hends hlast
    constructor
    · rw [(hpasses.append hfinal).receiveAll, (hpasses'.append hfinal').receiveAll]
      unfold SameUpToCuts
      rw [append_nil, append_nil, hpieces, hpieces']
    · rw [(hpasses.append hfinal).receiveAll, (hpasses'.append hfinal').receiveAll]
      exact hconcluded
  next hpart =>
    rw [if_neg hpart] at hheard'
    obtain ⟨yielded, hbreaks, hpieces⟩ := hheard
    obtain ⟨yielded', hbreaks', hpieces'⟩ := hheard'
    obtain ⟨hyielded, hconcluded⟩ := (hbreaks.append [e]).conclude
    obtain ⟨hyielded', hconcluded'⟩ := (hbreaks'.append [e']).conclude
    constructor
    · rw [hyielded, hyielded']
      exact hpieces.trans hpieces'.symm
    · intro prepared key
      rw [hconcluded, hconcluded']

theorem exchangeAll_events (p : Primitives) (events : List ResponseEvent) :
    exchangeAll p { events } = ((receiveAll p {} events).1, (receiveAll p {} events).2.1, true) := by
  unfold exchangeAll
  cases (receiveAll p {} events).2.2 <;> simp

/-- The turn is refused before the network is asked. -/
def Refused (p : Primitives) (adapter : Adapter) (request : LLMRequest) : Prop :=
  ∃ g, ∀ exchange, generateStream p adapter request exchange = g

/-- What the turn is, once its events are heard. -/
def turnOf (p : Primitives) (prepared : PreparedRequest) (key : Bytes) (events : List ResponseEvent) : Generated :=
  match conclude p prepared key (receiveAll p {} events).1 with
  | .ok event => ⟨(receiveAll p {} events).2.1 ++ [event], .returned⟩
  | .error _ => ⟨(receiveAll p {} events).2.1, .raised⟩

theorem refused_or_turnOf (p : Primitives) (adapter : Adapter) (request : LLMRequest) : Refused p adapter request
    ∨ ∃ prepared key, ∀ events, generateStream p adapter request { events } = turnOf p prepared key events := by
  unfold Refused generateStream
  split
  · exact .inl ⟨_, fun _ => rfl⟩
  split
  · exact .inl ⟨_, fun _ => rfl⟩
  split
  · next key _ hkey =>
    split
    · exact .inl ⟨_, fun _ => rfl⟩
    · exact .inl ⟨_, fun _ => rfl⟩
    · next prepared hprepared =>
      refine .inr ⟨prepared, key, fun events => ?_⟩
      rw [exchangeAll_events]
      rfl
  · exact .inl ⟨_, fun _ => rfl⟩

/-- Two turns yield the same but for how the text is cut, and end alike. -/
structure Agree (g g' : Generated) : Prop where
  yielded : SameUpToCuts g.yielded g'.yielded
  completion : g.completion = g'.completion

/-- A turn is broken off as an invalid response after a part of what the other yields. -/
def BrokenOff (g g' : Generated) : Prop :=
  ∃ heard, g = ⟨heard ++ [failure (lit "invalid_response")], .returned⟩
    ∧ heard.flatMap pieces <+: g'.yielded.flatMap pieces

/-- A turn that is broken off before it has said more than the other is. -/
theorem Alike.brokenOff {rest : List ResponseEvent} (h : Alike p events events') (hbreaks : Breaks p {} rest yielded)
    (hpart : yielded <+: (receiveAll p {} events).2.1) (prepared : PreparedRequest) (key : Bytes) :
    BrokenOff (turnOf p prepared key rest) (turnOf p prepared key events') := by
  obtain ⟨hyielded, hconcluded⟩ := hbreaks.conclude
  refine ⟨yielded, ?_, ?_⟩
  · unfold turnOf
    rw [hconcluded, hyielded]
  · obtain ⟨more, hmore⟩ := hpart
    have hpieces : (receiveAll p {} events).2.1.flatMap pieces = (receiveAll p {} events').2.1.flatMap pieces := h.yielded
    rw [← hmore, flatMap_append] at hpieces
    have hbody : yielded.flatMap pieces <+: (receiveAll p {} events').2.1.flatMap pieces := ⟨_, hpieces⟩
    unfold turnOf
    cases conclude p prepared key (receiveAll p {} events').1 with
    | error refusal => exact hbody
    | ok event =>
      rw [flatMap_append]
      exact hbody.trans (List.prefix_append _ _)

theorem Alike.agree (h : Alike p events events') (prepared : PreparedRequest) (key : Bytes) :
    Agree (turnOf p prepared key events) (turnOf p prepared key events') := by
  have hyielded : (receiveAll p {} events).2.1.flatMap pieces = (receiveAll p {} events').2.1.flatMap pieces := h.yielded
  unfold turnOf
  rw [h.concluded]
  cases conclude p prepared key (receiveAll p {} events').1 with
  | error refusal => exact ⟨hyielded, rfl⟩
  | ok event =>
    refine ⟨?_, rfl⟩
    unfold SameUpToCuts
    rw [flatMap_append, flatMap_append, hyielded]

/-- Of the events of other types, one has the name of an error. -/
def NamesError (stream : List StreamEvent) : Prop := ∃ type, .other type ∈ stream ∧ looksTerminalOrError type = true

/-- Of a response whose items can be normalized, and of every stream documented for it, both modes yield the same texts,
calls and last event, unless an event of another type has the name of an error. With such an event a turn that is not
refused at once is broken off. -/
theorem generateStream_agrees (p : Primitives) (adapter : Adapter) (request : LLMRequest) {response : Response}
    {stream : List StreamEvent} (hitems : ∃ items, dumpOutputItems response = .ok items)
    (hdocumented : Documented response stream) :
    (¬NamesError stream → Agree (generateStream p adapter request (streamedExchange stream))
      (generateStream p adapter request (bufferedExchange response)))
    ∧ (NamesError stream → Refused p adapter request ∨ BrokenOff
      (generateStream p adapter request (streamedExchange stream))
      (generateStream p adapter request (bufferedExchange response))) := by
  obtain ⟨items, hitems⟩ := hitems
  obtain ⟨said, hsaid, hfilter⟩ := hdocumented.said
  obtain ⟨heard, hreads, hhears⟩ := reads_output (p := p) hsaid
  obtain ⟨last, hlast, hends⟩ := normalize_terminalEvent hitems
  have hreadsLast : Reads [response.terminalEvent] [last] := by
    unfold Reads
    rw [readStream, hlast]
    rfl
  obtain ⟨events, hevents, hloud, hnamed⟩ := reads_others hdocumented.others (hfilter ▸ hreads.append hreadsLast)
  have hstreamed : streamedExchange stream = { events } := by
    unfold streamedExchange
    rw [hevents]
  have hbuffered : bufferedExchange response
      = { events := outputEvents 0 (response.output.map (·.item)) ++ [lastEvent response items] } := by
    unfold bufferedExchange normalizeResponse
    rw [hitems]
    rfl
  have halike : Alike p (heard ++ [last]) (outputEvents 0 (response.output.map (·.item)) ++ [lastEvent response items]) := by
    refine hhears.alike (hears_outputEvents p 0 _) hends fun hkind hnone => ?_
    have hnil : items = [] := (hends.outputItems hkind).symm.trans hnone
    rw [dumpOutputItems_nil (hnil ▸ hitems)]
    rfl
  rw [hstreamed, hbuffered]
  constructor
  · intro hunnamed
    rcases refused_or_turnOf p adapter request with ⟨g, hrefused⟩ | ⟨prepared, key, hturn⟩
    · rw [hrefused, hrefused]
      exact ⟨rfl, rfl⟩
    · have hsame := receiveAll_loud (p := p) {} (hnamed.not.mpr hunnamed)
      rw [hloud] at hsame
      rw [hturn, hturn]
      have hquiet : turnOf p prepared key events = turnOf p prepared key (heard ++ [last]) := by
        unfold turnOf
        rw [hsame]
      rw [hquiet]
      exact halike.agree prepared key
  · intro hnames
    rcases refused_or_turnOf p adapter request with hrefused | ⟨prepared, key, hturn⟩
    · exact .inl hrefused
    · right
      have hterminal : ∃ e ∈ events, e.kind = .completed ∨ e.kind = .failed := by
        refine ⟨last, List.mem_of_mem_filter (hloud ▸ List.mem_append_right _ (List.mem_singleton_self last)), hends.terminal⟩
      obtain ⟨yielded, hbreaks, hpart⟩ := breaks_named (p := p) {} (hnamed.mpr hnames) (.inr hterminal)
      rw [hloud] at hpart
      rw [hturn, hturn]
      exact halike.brokenOff hbreaks hpart prepared key

/-- A response that says one text. -/
def spokenResponse : Response where
  output := [{
    item := .message (lit "m") [.outputText (lit "hi")]
    dumped := .obj [
      (lit "content", .arr [.obj [(lit "annotations", .arr []), (lit "text", .str (lit "hi")),
        (lit "type", .str (lit "output_text"))]]),
      (lit "id", .str (lit "m")), (lit "role", .str (lit "assistant")), (lit "status", .str (lit "completed")),
      (lit "type", .str (lit "message"))] }]
  status := some .completed

/-- Its stream, with an event of another type before it. -/
def spokenStream (other : Text) : List StreamEvent :=
  [.other other, .outputItemAdded 0 (.message (lit "m") []), .textDelta (lit "h"), .textDelta (lit "i"),
    .completed spokenResponse]

theorem spokenStream_documented (other : Text) (hother : other ∉ handledTypes) :
    Documented spokenResponse (spokenStream other) := by
  constructor
  · intro type htype
    obtain rfl : type = other := by simpa [spokenStream] using htype
    exact hother
  · have hsaid : ItemStream 0 (.message (lit "m") [.outputText (lit "hi")])
        [.outputItemAdded 0 (.message (lit "m") []), .textDelta (lit "h"), .textDelta (lit "i")] :=
      .message (lit "m") [] (.outputText [lit "h", lit "i"] .nil)
    exact ⟨_, .cons hsaid (.nil 1), rfl⟩

theorem namesError_spokenStream {other : Text} : NamesError (spokenStream other) ↔ looksTerminalOrError other = true := by
  simp [NamesError, spokenStream]

theorem spokenResponse_dumped : ∃ items, dumpOutputItems spokenResponse = .ok items := by
  refine check_mapM_exists.mpr (forall_mem_singleton.mpr ?_)
  dsimp only [normalizeItem]
  exact ⟨_, if_pos (by decide +kernel)⟩

theorem generateStream_agrees_spoken : Agree (generateStream greetingPrimitives askedAdapter askedRequest
        (streamedExchange (spokenStream (lit "response.created"))))
      (generateStream greetingPrimitives askedAdapter askedRequest (bufferedExchange spokenResponse)) := by
  have hdocumented := spokenStream_documented (lit "response.created") (by decide)
  refine (generateStream_agrees greetingPrimitives askedAdapter askedRequest spokenResponse_dumped hdocumented).1 ?_
  rw [namesError_spokenStream]
  decide

/-- A list of tools that failed is taken for the end of the turn, although the response goes on and completes. -/
theorem failed_list_breaks : (∃ items, dumpOutputItems spokenResponse = .ok items)
    ∧ Documented spokenResponse (spokenStream (lit "response.mcp_list_tools.failed"))
    ∧ ¬Agree (generateStream greetingPrimitives askedAdapter askedRequest
        (streamedExchange (spokenStream (lit "response.mcp_list_tools.failed"))))
      (generateStream greetingPrimitives askedAdapter askedRequest (bufferedExchange spokenResponse)) := by
  refine ⟨spokenResponse_dumped, spokenStream_documented _ (by decide), fun hagree => ?_⟩
  have hstreamed : ((generateStream greetingPrimitives askedAdapter askedRequest
      (streamedExchange (spokenStream (lit "response.mcp_list_tools.failed")))).yielded.flatMap pieces).length = 1 := by
    decide +kernel
  have hbuffered : ((generateStream greetingPrimitives askedAdapter askedRequest
      (bufferedExchange spokenResponse)).yielded.flatMap pieces).length = 3 := by
    decide +kernel
  have hsame := congrArg List.length hagree.yielded
  omega

end ArkClaw.Provider.OpenAI
