import ArkClaw.Library.JsonRoundTrip
import Mathlib.Data.List.Pairwise

/-!
# What reading a document raises

`json.loads` without hooks reads from left to right and raises at the first place that is wrong. A text that is not
JSON is a decoding error. Two other things end it that are no errors of the text: a whole number of too many digits, and
containers nested beyond what the interpreter carries (`limit`). A repeated key counts as its last member says, and the
names of what is no finite number are read.

The reader takes one code point after another and hands each token on at once, so the first error is the one it raises.
-/

namespace ArkClaw.Library

namespace Json

/-- What reading raises: the text is malformed, a whole number of it is too long, or it is nested too deep. -/
inductive LoadsError where
  | decode | value | recursion
deriving DecidableEq, Repr

/-! ## Numbers -/

theorem readNumber_eq (read : Text → Option Text) (s : Text) :
    readNumber read s = (readNumber some s).bind fun token =>
      match token with
      | .float _ => (read s).map .float
      | _ => some token := by
  unfold readNumber
  dsimp only
  split_ifs <;> rfl

/-- Floating numbers stand as they are written. -/
def written : FloatReader where
  read s := if readNumber some s = some (.float s) then some s else none
  reads_back := by
    intro s repr h
    split at h
    next hfloat =>
      obtain rfl := Option.some.inj h
      rw [readNumber_eq, hfloat]
      simp
    next => cases h

/-- The names of what is no finite number. -/
def specialNames : List Text := [lit "NaN", lit "Infinity", lit "-Infinity"]

/-- A fraction or an exponent begins here. -/
def beginsFractional : Text → Bool
  | c :: d :: rest =>
    if c.val = 0x2E then isDigit d
    else if c.val = 0x65 ∨ c.val = 0x45 then
      isDigit d || (decide (d.val = 0x2B ∨ d.val = 0x2D) && rest.head?.any isDigit)
    else false
  | _ => false

/-- The text begins with a whole number that has too many digits to be read. -/
def IsOverlong (s : Text) : Prop :=
  let body := (splitSign s).2
  body.head? ≠ some 0x30 ∧ Text.maxDigits < (body.takeWhile isDigit).length ∧
    beginsFractional (body.dropWhile isDigit) = false

instance (s : Text) : Decidable (IsOverlong s) := inferInstanceAs (Decidable (_ ∧ _ ∧ _))

/-! ## Tokens as they come -/

/-- The containers that are open where a value may stand. -/
def ReadState.depth : ReadState → Option Nat
  | .value stack => some stack.length
  | .firstItem stack => some (stack.length + 1)
  | _ => none

/-- What a run of bare code points stands for. -/
def readBare (read : ReadState) (s : Text) : Except LoadsError Token :=
  if s ∈ specialNames then .ok (.float s)
  else
    match bareToken written s with
    | some token => .ok token
    | none => .error (if read.depth.isSome ∧ IsOverlong s then .value else .decode)

/-- The dictionary of the pairs: the last one with a key counts. -/
def dictOfPairs (pairs : Members) : Json := dict (pairs.pwFilter fun a b => a.1 ≠ b.1)

def Token.Opens (token : Token) : Prop := token = .beginArray ∨ token = .beginObject

instance (token : Token) : Decidable token.Opens := inferInstanceAs (Decidable (_ ∨ _))

section

variable (limit : Nat)

/-- One token. -/
def takeToken : ReadState → Token → Except LoadsError ReadState
  | .done value (.obj members key :: stack), .endObject =>
    .ok (.done (dictOfPairs ((key, value) :: members).reverse) stack)
  | read, token =>
    if token.Opens ∧ read.depth.any (fun depth => decide (limit ≤ depth)) = true then .error .recursion
    else
      match readStep read token with
      | some read => .ok read
      | none => .error .decode

/-- The tokens a code point ended, and where it leaves the reader of tokens. -/
def takeTokens (read : ReadState) : Option (LexState × List Token) → Except LoadsError (LexState × ReadState)
  | some (point, tokens) => do return (point, ← tokens.reverse.foldlM (takeToken limit) read)
  | none => .error .decode

/-- One code point. -/
def loadStep : LexState × ReadState → CodePoint → Except LoadsError (LexState × ReadState)
  | (.bare run, read), c =>
    if isBare c then .ok (.bare (c :: run), read)
    else do
      let token ← readBare read run.reverse
      takeTokens limit (← takeToken limit read token) (lexBetween [] c)
  | (point, read), c => takeTokens limit read (lexStep written (point, []) c)

/-- The end of the text. -/
def loadEnd : LexState × ReadState → Except LoadsError ReadState
  | (.between, read) => .ok read
  | (.bare run, read) => do takeToken limit read (← readBare read run.reverse)
  | _ => .error .decode

/-- `json.loads`. -/
def jsonLoads (s : Text) : Except LoadsError Json := do
  match ← loadEnd limit (← s.foldlM (loadStep limit) (.between, .value [])) with
  | .done value [] => .ok value
  | _ => .error .decode

end

/-! ## What the strict reader reads -/

section

variable {limit : Nat}
variable {s : Text}

theorem bareToken_specialNames (h : s ∈ specialNames) : bareToken written s = none := by
  revert s
  decide

theorem readBare_of {read : ReadState} {token : Token} (h : bareToken written s = some token) :
    readBare read s = .ok token := by
  unfold readBare
  split
  next hspecial =>
    rw [bareToken_specialNames hspecial] at h
    cases h
  next => rw [h]

theorem lexBetween_frame (tokens before : List Token) (c : CodePoint) :
    lexBetween (tokens ++ before) c = (lexBetween tokens c).map fun (point, read) => (point, read ++ before) := by
  unfold lexBetween
  split_ifs
  · rfl
  · rfl
  · rfl
  · cases punctuation c <;> rfl

/-- What has been read before a code point does not matter to it. -/
theorem lexStep_frame (floats : FloatReader) (point : LexState) (tokens before : List Token) (c : CodePoint) :
    lexStep floats (point, tokens ++ before) c =
      (lexStep floats (point, tokens) c).map fun (point, read) => (point, read ++ before) := by
  cases point with
  | between => exact lexBetween_frame tokens before c
  | bare run =>
    dsimp only [lexStep]
    split_ifs
    · rfl
    · cases bareToken floats run.reverse with
      | none => rfl
      | some token => exact lexBetween_frame (token :: tokens) before c
  | string units =>
    dsimp only [lexStep]
    split_ifs <;> rfl
  | escape units =>
    dsimp only [lexStep]
    split_ifs
    · rfl
    · cases unescape c <;> rfl
  | number units value count =>
    dsimp only [lexStep]
    cases hexValue c with
    | none => rfl
    | some d =>
      by_cases hcount : count = 3
      · simp [hcount]
      · simp [hcount]

theorem lex_frame (floats : FloatReader) (s : Text) (point : LexState) (tokens before : List Token) :
    s.foldlM (lexStep floats) (point, tokens ++ before) =
      (s.foldlM (lexStep floats) (point, tokens)).map fun (point, read) => (point, read ++ before) := by
  induction s generalizing point tokens with
  | nil => rfl
  | cons c rest ih =>
    rw [List.foldlM_cons, List.foldlM_cons, lexStep_frame]
    cases lexStep floats (point, tokens) c with
    | none => rfl
    | some p => exact ih p.1 p.2

/-- A fold that reaches its end reaches the end of its first part. -/
theorem foldlM_append_ok {tokens tokens' : List Token} {read read' : ReadState}
    (h : (tokens ++ tokens').foldlM (takeToken limit) read = .ok read') :
    ∃ middle, tokens.foldlM (takeToken limit) read = .ok middle ∧
      tokens'.foldlM (takeToken limit) middle = .ok read' := by
  rw [List.foldlM_append] at h
  cases hfirst : tokens.foldlM (takeToken limit) read with
  | error e =>
    rw [hfirst] at h
    cases h
  | ok middle =>
    rw [hfirst] at h
    exact ⟨middle, rfl, h⟩

theorem takeTokens_of {read read' : ReadState} {point : LexState} {tokens : List Token}
    (h : tokens.reverse.foldlM (takeToken limit) read = .ok read') :
    takeTokens limit read (some (point, tokens)) = .ok (point, read') := by
  show (do return (point, ← tokens.reverse.foldlM (takeToken limit) read)) = _
  rw [h]
  rfl

/-- A code point whose tokens can be taken. -/
theorem loadStep_of {point point' : LexState} {tokens : List Token} {read read' : ReadState} {c : CodePoint}
    (hlex : lexStep written (point, []) c = some (point', tokens))
    (hread : tokens.reverse.foldlM (takeToken limit) read = .ok read') :
    loadStep limit (point, read) c = .ok (point', read') := by
  cases point with
  | bare run =>
    dsimp only [lexStep] at hlex
    dsimp only [loadStep]
    by_cases hbare : isBare c = true
    · rw [if_pos hbare] at hlex ⊢
      obtain ⟨rfl, rfl⟩ := Prod.mk.inj (Option.some.inj hlex)
      obtain rfl := Except.ok.inj hread
      rfl
    · rw [if_neg hbare] at hlex ⊢
      obtain ⟨token, htoken, hbetween⟩ := Option.bind_eq_some_iff.mp hlex
      rw [show [token] = [] ++ [token] from rfl, lexBetween_frame] at hbetween
      obtain ⟨p, hp, heq⟩ := Option.map_eq_some_iff.mp hbetween
      obtain ⟨rfl, rfl⟩ := Prod.mk.inj heq
      rw [List.reverse_append] at hread
      obtain ⟨middle, hfirst, hrest⟩ := foldlM_append_ok hread
      rw [readBare_of htoken, hp]
      have htake : takeToken limit read token = .ok middle := by simpa using hfirst
      show (do takeTokens limit (← takeToken limit read token) (some p)) = _
      rw [htake]
      exact takeTokens_of hrest
  | between | string | escape | number =>
    show takeTokens limit read (lexStep written _ c) = _
    rw [hlex]
    exact takeTokens_of hread

/-- The reader takes the tokens of a text as they come. -/
theorem load_of {point point' : LexState} {tokens : List Token} {read read' : ReadState}
    (hlex : s.foldlM (lexStep written) (point, []) = some (point', tokens))
    (hread : tokens.reverse.foldlM (takeToken limit) read = .ok read') :
    s.foldlM (loadStep limit) (point, read) = .ok (point', read') := by
  induction s generalizing point tokens read with
  | nil =>
    obtain ⟨rfl, rfl⟩ := Prod.mk.inj (Option.some.inj hlex)
    obtain rfl := Except.ok.inj hread
    rfl
  | cons c rest ih =>
    rw [List.foldlM_cons] at hlex ⊢
    obtain ⟨⟨next, taken⟩, hstep, hrest⟩ := Option.bind_eq_some_iff.mp hlex
    rw [show taken = [] ++ taken from rfl, lex_frame] at hrest
    obtain ⟨p, hp, heq⟩ := Option.map_eq_some_iff.mp hrest
    obtain ⟨rfl, rfl⟩ := Prod.mk.inj heq
    rw [List.reverse_append] at hread
    obtain ⟨middle, hfirst, hlast⟩ := foldlM_append_ok hread
    rw [loadStep_of hstep hfirst]
    exact ih hp hlast

/-- A document is read if its tokens are taken as a value. -/
theorem jsonLoads_of_lex {tokens : List Token} {value : Json} (hlex : lex written s = some tokens)
    (hread : tokens.foldlM (takeToken limit) (.value []) = .ok (.done value [])) : jsonLoads limit s = .ok value := by
  unfold lex at hlex
  obtain ⟨⟨point, before⟩, hpoint, hend⟩ := Option.bind_eq_some_iff.mp hlex
  obtain ⟨reversed, hreversed, heq⟩ := Option.bind_eq_some_iff.mp hend
  obtain rfl := Option.some.inj heq
  have hload : ∃ read, s.foldlM (loadStep limit) (.between, .value []) = .ok (point, read) ∧
      loadEnd limit (point, read) = .ok (.done value []) := by
    cases point with
    | between =>
      obtain rfl := Option.some.inj hreversed
      exact ⟨_, load_of hpoint hread, rfl⟩
    | bare run =>
      obtain ⟨token, htoken, rfl⟩ := Option.map_eq_some_iff.mp hreversed
      rw [List.reverse_cons] at hread
      obtain ⟨middle, hfirst, hlast⟩ := foldlM_append_ok hread
      refine ⟨middle, load_of hpoint hfirst, ?_⟩
      dsimp only [loadEnd]
      rw [readBare_of htoken]
      show takeToken limit middle token = _
      simpa using hlast
    | _ => cases hreversed
  obtain ⟨read, hall, hdone⟩ := hload
  unfold jsonLoads
  rw [hall]
  show (do match ← loadEnd limit (point, read) with | .done value [] => .ok value | _ => .error .decode) = _
  rw [hdone]
  rfl

/-- A token the strict reader takes, where no container is nested too deep. -/
theorem takeToken_of {read read' : ReadState} {token : Token} (h : readStep read token = some read')
    (hdepth : token.Opens → ∀ depth, read.depth = some depth → depth < limit) :
    takeToken limit read token = .ok read' := by
  unfold takeToken
  split
  next value members key stack =>
    obtain ⟨object, hobject, rfl⟩ := Option.map_eq_some_iff.mp h
    unfold uniqueObject at hobject
    split at hobject
    next hkeys =>
      obtain rfl := Option.some.inj hobject
      unfold dictOfPairs
      rw [List.pwFilter_eq_self.mpr (List.pairwise_map.mp hkeys)]
    next => cases hobject
  next =>
    rw [if_neg, h]
    rintro ⟨hopens, hdeep⟩
    obtain ⟨depth, hsome, hle⟩ := (Option.any_eq_true _ _).mp hdeep
    exact absurd (hdepth hopens depth hsome) (Nat.not_lt.mpr (of_decide_eq_true hle))

theorem takeTokens_flat {tokens : List Token} (hflat : ∀ token ∈ tokens, ¬token.Opens) {read read' : ReadState}
    (h : tokens.foldlM readStep read = some read') : tokens.foldlM (takeToken limit) read = .ok read' := by
  induction tokens generalizing read with
  | nil => exact congrArg Except.ok (Option.some.inj h)
  | cons token rest ih =>
    rw [List.foldlM_cons] at h ⊢
    obtain ⟨next, hnext, hrest⟩ := Option.bind_eq_some_iff.mp h
    rw [takeToken_of hnext fun hopens => absurd hopens (hflat token List.mem_cons_self)]
    exact ih (fun t ht => hflat t (List.mem_cons_of_mem _ ht)) hrest

/-- An object of texts is read back from its compact form. -/
theorem jsonLoads_dumpsCompact {members : Members} (h : WellFormed written (.obj members))
    (htexts : ∀ m ∈ members, ∃ s, m.2 = .str s) (hlimit : 0 < limit) :
    jsonLoads limit (dumpsCompact (.obj members)) = .ok (.obj members) := by
  have hlex : lex written (dumpsCompact (.obj members)) = some (tokens (.obj members)) := by
    obtain ⟨point, hpoint, hend⟩ := lexes_dumpsCompact h []
    unfold lex
    rw [hpoint]
    show (do return (← lexEnd written point).reverse) = _
    rw [hend]
    simp
  refine jsonLoads_of_lex hlex ?_
  have hread := reads_tokens h []
  cases h with
  | obj hkeys hsorted hunpaired hvalues =>
    rw [tokens_obj hsorted, List.foldlM_cons] at hread ⊢
    obtain ⟨next, hnext, hrest⟩ := Option.bind_eq_some_iff.mp hread
    rw [takeToken_of hnext fun _ depth hdepth => by obtain rfl := Option.some.inj hdepth; exact hlimit]
    refine takeTokens_flat (fun token htoken => ?_) hrest
    rcases List.mem_append.mp htoken with hmember | hlast
    · rcases mem_joinWithCommas hmember with rfl | ⟨part, hpart, htoken⟩
      · decide
      · obtain ⟨m, hm, rfl⟩ := List.mem_map.mp hpart
        obtain ⟨s, hs⟩ := htexts m hm
        rw [memberTokens, hs] at htoken
        simp only [tokens, List.mem_cons, List.not_mem_nil, or_false] at htoken
        rcases htoken with rfl | rfl | rfl <;> simp [Token.Opens]
    · obtain rfl := List.mem_singleton.mp hlast
      decide

/-! ## What is too long, and what is nested too deep -/

theorem load_bare {s run : Text} (hs : ∀ c ∈ s, isBare c = true) (read : ReadState) :
    s.foldlM (loadStep limit) (.bare run, read) = .ok (.bare (s.reverse ++ run), read) := by
  induction s generalizing run with
  | nil => rfl
  | cons c rest ih =>
    have hstep : loadStep limit (.bare run, read) c = .ok (.bare (c :: run), read) := by
      dsimp only [loadStep]
      rw [if_pos (hs c List.mem_cons_self)]
    rw [List.foldlM_cons, hstep]
    show rest.foldlM (loadStep limit) (.bare (c :: run), read) = _
    rw [ih fun d hd => hs d (List.mem_cons_of_mem _ hd), List.reverse_cons, List.append_assoc]
    rfl

theorem splitSign_digit (hdigits : ∀ c ∈ s, isDigit c = true) : splitSign s = (false, s) := by
  cases s with
  | nil => rfl
  | cons c rest =>
    have hc := hdigits c List.mem_cons_self
    dsimp only [splitSign]
    rw [if_neg]
    intro hsign
    simp [isDigit, hsign] at hc

/-- Digits alone are no name, and too many of them no number. -/
theorem readBare_digits (hdigits : ∀ c ∈ s, isDigit c = true) (hhead : s.head? ≠ some 0x30)
    (hlong : Text.maxDigits < s.length) {read : ReadState} (hread : read.depth.isSome = true) :
    readBare read s = .error .value := by
  have hwhole : s.takeWhile isDigit = s := List.takeWhile_eq_self_iff.mpr hdigits
  have hrest : s.dropWhile isDigit = [] := List.dropWhile_eq_nil_iff.mpr hdigits
  have hname {name : Text} (hname : name.any (fun c => !isDigit c) = true) : s ≠ name := by
    rintro rfl
    obtain ⟨c, hc, hnot⟩ := List.any_eq_true.mp hname
    rw [hdigits c hc] at hnot
    cases hnot
  have hspecial : s ∉ specialNames := by
    intro hmem
    simp only [specialNames, List.mem_cons, List.not_mem_nil, or_false] at hmem
    rcases hmem with h | h | h
    · exact hname (by decide) h
    · exact hname (by decide) h
    · exact hname (by decide) h
  have hnumber : readNumber written.read s = none := by
    unfold readNumber
    rw [splitSign_digit hdigits]
    dsimp only
    rw [hwhole, hrest]
    rw [if_pos rfl, if_pos hlong, ite_self]
  have htoken : bareToken written s = none := by
    unfold bareToken
    rw [if_neg (hname (by decide)), if_neg (hname (by decide)), if_neg (hname (by decide)), hnumber]
  have hoverlong : IsOverlong s := by
    unfold IsOverlong
    rw [splitSign_digit hdigits]
    dsimp only
    rw [hwhole, hrest]
    exact ⟨hhead, hlong, rfl⟩
  unfold readBare
  rw [if_neg hspecial, htoken, if_pos ⟨hread, hoverlong⟩]

/-- A number of too many digits is refused as a value, not as a text. -/
theorem jsonLoads_digits (hdigits : ∀ c ∈ s, isDigit c = true) (hhead : s.head? ≠ some 0x30)
    (hlong : Text.maxDigits < s.length) : jsonLoads limit s = .error .value := by
  have hload : s.foldlM (loadStep limit) (.between, .value []) = .ok (.bare s.reverse, .value []) := by
    cases s with
    | nil => cases hlong
    | cons c rest =>
      have hc := isBare_of_isDigit (hdigits c List.mem_cons_self)
      have hstep : loadStep limit (.between, .value []) c = .ok (.bare [c], .value []) := by
        show takeTokens limit _ (lexBetween [] c) = _
        rw [lexBetween_bare hc]
        rfl
      rw [List.foldlM_cons, hstep]
      show rest.foldlM (loadStep limit) (.bare [c], .value []) = _
      rw [load_bare fun d hd => isBare_of_isDigit (hdigits d (List.mem_cons_of_mem _ hd)), List.reverse_cons]
  have hend : loadEnd limit (.bare s.reverse, .value []) = .error .value := by
    dsimp only [loadEnd]
    rw [List.reverse_reverse, readBare_digits hdigits hhead hlong rfl]
    rfl
  unfold jsonLoads
  rw [hload]
  show (do match ← loadEnd limit (.bare s.reverse, .value []) with | .done value [] => .ok value | _ => .error .decode) = _
  rw [hend]
  rfl

/-- A container is begun unless it is nested too deep. -/
theorem takeToken_opens (read : ReadState) {token : Token} (h : token.Opens) :
    takeToken limit read token =
      if read.depth.any (fun depth => decide (limit ≤ depth)) = true then .error .recursion
      else
        match readStep read token with
        | some read => .ok read
        | none => .error .decode := by
  unfold takeToken
  split
  next => rcases h with h | h <;> cases h
  next => simp [h]

/-- An array begins where a value may stand. -/
theorem takeToken_beginArray {read : ReadState} {depth : Nat} (hdepth : read.depth = some depth) (hlt : depth < limit) :
    ∃ read', takeToken limit read .beginArray = .ok read' ∧ read'.depth = some (depth + 1) := by
  have htake {read' : ReadState} (h : readStep read .beginArray = some read') :
      takeToken limit read .beginArray = .ok read' :=
    takeToken_of h fun _ d hd => by
      rw [hdepth] at hd
      obtain rfl := Option.some.inj hd
      exact hlt
  cases read with
  | value stack =>
    obtain rfl := Option.some.inj hdepth
    exact ⟨_, htake rfl, rfl⟩
  | firstItem stack =>
    obtain rfl := Option.some.inj hdepth
    exact ⟨_, htake rfl, rfl⟩
  | _ => cases hdepth

/-- Arrays nested beyond the limit are refused for their depth. -/
theorem load_nested {n : Nat} {read : ReadState} {depth : Nat} (hdepth : read.depth = some depth) (hle : depth ≤ limit)
    (hdeep : limit < depth + n) :
    (List.replicate n (0x5B : CodePoint)).foldlM (loadStep limit) (.between, read) = .error .recursion := by
  induction n generalizing read depth with
  | zero => omega
  | succ n ih =>
    have hstep : loadStep limit (.between, read) 0x5B = takeTokens limit read (some (.between, [.beginArray])) := rfl
    rw [List.replicate_succ, List.foldlM_cons, hstep]
    by_cases hlt : depth < limit
    · obtain ⟨next, hnext, hdepth'⟩ := takeToken_beginArray hdepth hlt
      rw [takeTokens_of (show [Token.beginArray].reverse.foldlM (takeToken limit) read = .ok next by simpa using hnext)]
      exact ih hdepth' hlt (by omega)
    · have hrefused : takeToken limit read .beginArray = .error .recursion := by
        rw [takeToken_opens _ (.inl rfl), hdepth]
        simp [Nat.not_lt.mp hlt]
      show (do return (LexState.between, ← [Token.beginArray].foldlM (takeToken limit) read)) >>= _ = _
      simp [hrefused, bind, Except.bind]

/-- What is nested beyond the limit is refused for its depth, not as a text. -/
theorem jsonLoads_nested {n : Nat} (hdeep : limit < n) :
    jsonLoads limit (List.replicate n 0x5B) = .error .recursion := by
  unfold jsonLoads
  rw [load_nested rfl (Nat.zero_le limit) (by simpa using hdeep)]
  rfl

end

end Json

end ArkClaw.Library
