import ArkClaw.Library.JsonReader
import Mathlib.Data.Nat.Digits.Lemmas

/-!
# Reading what is written

What the compact form of a value is read as is the value, if no string of it holds the two surrogates of one code point
as two (`loads_dumpsCompact`): they would be written as that code point is, and read as one. What is read from a text
without surrogates never holds them.
-/

namespace ArkClaw.Library

open List (foldlM_append append_assoc foldlM_cons mem_cons_self mem_cons_of_mem all_eq_true mem_cons mem_append
  not_mem_nil mem_map mem_reverse cons_append map_cons isChain_cons forall_mem_cons forall_mem_singleton
  mem_flatMap)
open Option (map_eq_some_iff map_some bind_eq_bind bind_some bind_eq_some_iff)

namespace Json

variable {floats : FloatReader}
variable {s : Text} {c : CodePoint} {token : Token} {members : Members}

/-! ## Tokens -/

section Lexing

variable (floats)

/-- Behind a token the text gives these tokens, and it ends behind a token. -/
def LexesTo (s : Text) (tokens : List Token) : Prop :=
  ∀ before, s.foldlM (lexStep floats) (.between, before) = some (.between, tokens.reverse ++ before)

/-- Behind a token the text gives these tokens if it ends there. -/
def Lexes (s : Text) (tokens : List Token) : Prop :=
  ∀ before, ∃ point, s.foldlM (lexStep floats) (.between, before) = some point ∧
    lexEnd floats point = some (tokens.reverse ++ before)

end Lexing

theorem LexesTo.lexes {tokens : List Token} (h : LexesTo floats s tokens) : Lexes floats s tokens :=
  fun before => ⟨_, h before, rfl⟩

theorem LexesTo.nil : LexesTo floats [] [] := fun _ => rfl

theorem LexesTo.append {s s' : Text} {tokens tokens' : List Token} (h : LexesTo floats s tokens)
    (h' : LexesTo floats s' tokens') : LexesTo floats (s ++ s') (tokens ++ tokens') := by
  intro before
  rw [foldlM_append, h before]
  show s'.foldlM (lexStep floats) (.between, tokens.reverse ++ before) = _
  rw [h', List.reverse_append, append_assoc]

theorem LexesTo.append_lexes {s s' : Text} {tokens tokens' : List Token} (h : LexesTo floats s tokens)
    (h' : Lexes floats s' tokens') : Lexes floats (s ++ s') (tokens ++ tokens') := by
  intro before
  obtain ⟨point, hpoint, hend⟩ := h' (tokens.reverse ++ before)
  refine ⟨point, ?_, ?_⟩
  · rw [foldlM_append, h before]
    exact hpoint
  · rw [hend, List.reverse_append, append_assoc]

/-- A code point that is not part of a name ends what stands before it. -/
theorem lexStep_of_end {point : LexState × List Token} {tokens : List Token}
    (hend : lexEnd floats point = some tokens) (hc : isBare c = false) : lexStep floats point c = lexBetween tokens c := by
  obtain ⟨state, before⟩ := point
  cases state with
  | between =>
    obtain rfl := Option.some.inj hend
    rfl
  | bare read =>
    obtain ⟨token, htoken, rfl⟩ := map_eq_some_iff.mp hend
    simp [lexStep, hc, htoken]
  | string units => cases hend
  | escape units => cases hend
  | number units value count => cases hend

/-- A punctuation mark may stand behind anything. -/
theorem Lexes.punctuation {tokens : List Token} (h : Lexes floats s tokens) (hc : isBare c = false)
    (hmark : ∀ before, lexBetween before c = some (.between, token :: before)) :
    LexesTo floats (s ++ [c]) (tokens ++ [token]) := by
  intro before
  obtain ⟨point, hpoint, hend⟩ := h before
  rw [foldlM_append, hpoint]
  show [c].foldlM (lexStep floats) point = _
  rw [foldlM_cons, lexStep_of_end hend hc, hmark]
  simp

theorem LexesTo.mark (hmark : ∀ before, lexBetween before c = some (.between, token :: before)) :
    LexesTo floats [c] [token] := by
  intro before
  rw [foldlM_cons]
  show (lexBetween before c).bind _ = _
  rw [hmark]
  rfl

/-! ## Names and numbers -/

theorem lex_bare {s read : Text} (hs : ∀ c ∈ s, isBare c = true) (before : List Token) :
    s.foldlM (lexStep floats) (.bare read, before) = some (.bare (s.reverse ++ read), before) := by
  induction s generalizing read with
  | nil => rfl
  | cons c rest ih =>
    have hc : isBare c = true := hs c mem_cons_self
    rw [foldlM_cons]
    have hstep : lexStep floats (.bare read, before) c = some (.bare (c :: read), before) := by simp [lexStep, hc]
    rw [hstep]
    simpa using @ih (c :: read) fun d hd => hs d (mem_cons_of_mem _ hd)

theorem lexBetween_bare (hc : isBare c = true) (before : List Token) :
    lexBetween before c = some (.bare [c], before) := by
  have hspace : ¬(c.val = 0x20 ∨ c.val = 0x09 ∨ c.val = 0x0A ∨ c.val = 0x0D) := by
    intro h
    simp only [isBare, isDigit, Bool.or_eq_true, decide_eq_true_eq] at hc
    omega
  have hquote : c.val ≠ 0x22 := by
    intro h
    simp only [isBare, isDigit, Bool.or_eq_true, decide_eq_true_eq] at hc
    omega
  unfold lexBetween
  rw [if_neg hspace, if_neg hquote, if_pos hc]

theorem Lexes.bare (hne : s ≠ []) (hs : ∀ c ∈ s, isBare c = true)
    (htoken : bareToken floats s = some token) : Lexes floats s [token] := by
  intro before
  cases s with
  | nil => exact (hne rfl).elim
  | cons c rest =>
    refine ⟨(.bare (rest.reverse ++ [c]), before), ?_, ?_⟩
    · rw [foldlM_cons]
      show (lexBetween before c).bind _ = _
      rw [lexBetween_bare (hs c mem_cons_self)]
      exact lex_bare (fun d hd => hs d (mem_cons_of_mem _ hd)) before
    · simp [lexEnd, htoken]

theorem isBare_of_isDigit (h : isDigit c = true) : isBare c = true := by simp [isBare, h]

theorem isBare_takeWhile : ∀ c ∈ s.takeWhile isDigit, isBare c = true :=
  fun _ hc => isBare_of_isDigit (List.mem_takeWhile_imp hc)

theorem isBare_exponent (h : isExponent s = true) : ∀ c ∈ s, isBare c = true := by
  cases s with
  | nil => exact nofun
  | cons e rest =>
    simp only [isExponent, Bool.and_eq_true, decide_eq_true_eq] at h
    obtain ⟨he, hdigits⟩ := h
    have he : isBare e = true := by
      simp only [isBare, isDigit, Bool.or_eq_true, decide_eq_true_eq]
      omega
    have hrest : ∀ c ∈ rest, isBare c = true := by
      cases rest with
      | nil => exact nofun
      | cons sign digits =>
        simp only [isDigits, Bool.and_eq_true] at hdigits
        have hall := all_eq_true.mp hdigits.2
        split at hall
        next hsign =>
          intro c hc
          rcases mem_cons.mp hc with rfl | hc
          · simp only [isBare, isDigit, Bool.or_eq_true, decide_eq_true_eq]
            omega
          · exact isBare_of_isDigit (hall c hc)
        next => exact fun c hc => isBare_of_isDigit (hall c hc)
    intro c hc
    rcases mem_cons.mp hc with rfl | hc
    · exact he
    · exact hrest c hc

theorem isBare_fractional (h : isFractional s = true) : ∀ c ∈ s, isBare c = true := by
  cases s with
  | nil => exact nofun
  | cons point rest =>
    simp only [isFractional] at h
    split at h
    next hpoint =>
      have hexponent := isBare_exponent (Bool.and_eq_true_iff.mp h).2
      intro c hc
      rcases mem_cons.mp hc with rfl | hc
      · simp [isBare, hpoint]
      · rw [← List.takeWhile_append_dropWhile (p := isDigit) (l := rest)] at hc
        rcases mem_append.mp hc with hc | hc
        · exact isBare_takeWhile c hc
        · exact hexponent c hc
    next => exact isBare_exponent h

theorem isBare_splitSign (h : ∀ c ∈ (splitSign s).2, isBare c = true) : ∀ c ∈ s, isBare c = true := by
  cases s with
  | nil => exact nofun
  | cons sign rest =>
    simp only [splitSign] at h
    split at h
    next hsign =>
      intro c hc
      rcases mem_cons.mp hc with rfl | hc
      · simp [isBare, hsign]
      · exact h c hc
    next => exact h

/-- A number is written with the code points of names. -/
theorem isBare_number {read : Text → Option Text} (h : readNumber read s = some token) :
    s ≠ [] ∧ ∀ c ∈ s, isBare c = true := by
  unfold readNumber at h
  rcases hsign : splitSign s with ⟨negative, body⟩
  rw [hsign] at h
  dsimp only at h
  split at h
  · cases h
  next hwhole =>
    have hbody : ∀ c ∈ body, isBare c = true := by
      have hrest : ∀ c ∈ body.dropWhile isDigit, isBare c = true := by
        split at h
        next hnil =>
          rw [hnil]
          exact nofun
        next =>
          split at h
          next hfractional => exact isBare_fractional hfractional
          next => cases h
      intro c hc
      rw [← List.takeWhile_append_dropWhile (p := isDigit) (l := body)] at hc
      rcases mem_append.mp hc with hc | hc
      · exact isBare_takeWhile c hc
      · exact hrest c hc
    refine ⟨?_, isBare_splitSign (hsign ▸ hbody)⟩
    rintro rfl
    obtain ⟨-, rfl⟩ := Prod.mk.inj hsign
    exact hwhole (Or.inl rfl)

/-- A number is not a name. -/
theorem bareToken_number (h : readNumber floats.read s = some token) : bareToken floats s = some token := by
  have hnone : ∀ name ∈ [lit "null", lit "true", lit "false"], s ≠ name := by
    intro name hname hs
    simp only [mem_cons, not_mem_nil, or_false] at hname
    rcases hname with rfl | rfl | rfl <;>
    · rw [hs] at h
      cases h
  unfold bareToken
  rw [if_neg (hnone _ (by simp)), if_neg (hnone _ (by simp)), if_neg (hnone _ (by simp))]
  exact h

theorem Lexes.number (h : readNumber floats.read s = some token) : Lexes floats s [token] :=
  .bare (isBare_number h).1 (isBare_number h).2 (bareToken_number h)

/-! ## Whole numbers -/

theorem ofDigits_reverse (digits : List Nat) : Text.ofDigits digits.reverse = Nat.ofDigits 10 digits := by
  unfold Text.ofDigits
  rw [List.foldl_reverse]
  induction digits with
  | nil => rfl
  | cons d rest ih =>
    rw [List.foldr_cons, ih, Nat.ofDigits_cons]
    omega

theorem digitChar_val {d : Nat} (h : d < 10) : (Fin.ofNat 0x110000 (0x30 + d)).val = 0x30 + d := by
  rw [Fin.val_ofNat, Nat.mod_eq_of_lt (by omega)]

theorem isDigit_decimalText (n : Nat) : ∀ c ∈ decimalText n, isDigit c = true := by
  unfold decimalText
  split
  next => simp [isDigit]
  next =>
    intro c hc
    obtain ⟨d, hd, rfl⟩ := mem_map.mp hc
    have hlt : d < 10 := Nat.digits_lt_base (by decide) (mem_reverse.mp hd)
    simp only [isDigit, digitChar_val hlt, decide_eq_true_eq]
    omega

/-- The digits of a number say what it is. -/
theorem ofDigits_decimalText (n : Nat) : Text.ofDigits ((decimalText n).map fun c => c.val - 0x30) = n := by
  unfold decimalText
  split
  next h =>
    subst h
    rfl
  next =>
    rw [List.map_map]
    have hdigits : ∀ d ∈ (Nat.digits 10 n).reverse,
        ((fun c : CodePoint => c.val - 0x30) ∘ fun d => Fin.ofNat 0x110000 (0x30 + d)) d = id d := by
      intro d hd
      have hlt : d < 10 := Nat.digits_lt_base (by decide) (mem_reverse.mp hd)
      show (Fin.ofNat 0x110000 (0x30 + d)).val - 0x30 = d
      rw [digitChar_val hlt]
      omega
    rw [List.map_congr_left hdigits, List.map_id, ofDigits_reverse, Nat.ofDigits_digits]

/-- A number is written without a zero in front. -/
theorem decimalText_head (n : Nat) :
    ¬(decimalText n = [] ∨ (decimalText n).head? = some 0x30 ∧ decimalText n ≠ [0x30]) := by
  unfold decimalText
  split
  next => simp
  next hn =>
    have hne : Nat.digits 10 n ≠ [] := Nat.digits_ne_nil_iff_ne_zero.mpr hn
    have hlast := Nat.getLast_digit_ne_zero 10 hn
    rintro (h | ⟨h, -⟩)
    · exact hne (List.reverse_eq_nil_iff.mp (List.map_eq_nil_iff.mp h))
    · rw [List.head?_map, List.head?_reverse, List.getLast?_eq_getLast_of_ne_nil hne, map_some] at h
      have hlt : (Nat.digits 10 n).getLast hne < 10 := Nat.digits_lt_base (by decide) (List.getLast_mem hne)
      have hval := congrArg Fin.val (Option.some.inj h)
      rw [digitChar_val hlt] at hval
      exact hlast (Nat.add_left_cancel hval)

theorem readNumber_decimal {read : Text → Option Text} {negative : Bool} {n : Nat}
    (hsign : splitSign s = (negative, decimalText n)) (hlength : (decimalText n).length ≤ Text.maxDigits) :
    readNumber read s = some (.int (if negative then -n else n)) := by
  have hall := isDigit_decimalText n
  have htake : (decimalText n).takeWhile isDigit = decimalText n := List.takeWhile_eq_self_iff.mpr hall
  have hdrop : (decimalText n).dropWhile isDigit = [] := List.dropWhile_eq_nil_iff.mpr hall
  unfold readNumber
  rw [hsign]
  dsimp only
  rw [htake, hdrop, if_neg (decimalText_head n), if_pos rfl, if_neg (by omega), ofDigits_decimalText]

/-- A whole number reads back as itself. -/
theorem readNumber_int {read : Text → Option Text} (value : Int) (hlength : (decimalText value.natAbs).length ≤ Text.maxDigits) :
    readNumber read (Token.text (.int value)) = some (.int value) := by
  simp only [Token.text]
  split
  next hneg =>
    have hsign : splitSign (0x2D :: decimalText value.natAbs) = (true, decimalText value.natAbs) := rfl
    rw [readNumber_decimal hsign hlength, if_pos rfl]
    congr 2
    omega
  next hnonneg =>
    have hsign : splitSign (decimalText value.natAbs) = (false, decimalText value.natAbs) := by
      rcases hs : decimalText value.natAbs with _ | ⟨c, rest⟩
      · rfl
      · have hdigit := isDigit_decimalText value.natAbs c (hs ▸ mem_cons_self)
        simp only [isDigit, decide_eq_true_eq] at hdigit
        simp only [splitSign]
        rw [if_neg (by omega)]
    rw [readNumber_decimal hsign hlength, if_neg (by decide)]
    congr 2
    omega

/-! ## Strings -/

/-- No two surrogates of one code point stand next to each other. -/
def Unpaired (s : Text) : Prop := s.IsChain fun a b => ¬(IsHighSurrogate a.val ∧ IsLowSurrogate b.val)

instance (s : Text) : Decidable (Unpaired s) := inferInstanceAs (Decidable (List.IsChain _ s))

/-- The code points that stand in a string of ASCII as they are, or behind a backslash. -/
def IsPlain (c : CodePoint) : Prop := 0x20 ≤ c.val ∧ c.val ≤ 0x7E ∨ c.val ∈ [0x08, 0x09, 0x0A, 0x0C, 0x0D]

instance (c : CodePoint) : Decidable (IsPlain c) := inferInstanceAs (Decidable (_ ∨ _))

/-- The units of a code point in a string of ASCII. -/
def stringUnits (c : CodePoint) : List StringUnit :=
  if IsPlain c then [.raw c]
  else if c.val < 0x10000 then [.numbered (Fin.ofNat 0x10000 c.val)]
  else [.numbered (Fin.ofNat 0x10000 (0xD800 + (c.val - 0x10000) / 0x400)),
    .numbered (Fin.ofNat 0x10000 (0xDC00 + (c.val - 0x10000) % 0x400))]

theorem hexValue_hexChar {n : Nat} (h : n < 16) : hexValue (hexChar n) = some n := by
  have hall : ∀ n < 16, hexValue (hexChar n) = some n := by decide
  exact hall n h

theorem lexStep_backslash (units : List StringUnit) (before : List Token) :
    lexStep floats (.string units, before) 0x5C = some (.escape units, before) := rfl

theorem lexStep_numbered (units : List StringUnit) (before : List Token) :
    lexStep floats (.escape units, before) 0x75 = some (.number units 0 0, before) := rfl

theorem lexStep_digit (units : List StringUnit) (before : List Token) (value count n : Nat) :
    lexStep floats (.number units value count, before) (hexChar (n % 16)) =
      if count = 3 then some (.string (.numbered (Fin.ofNat 0x10000 (16 * value + n % 16)) :: units), before)
      else some (.number units (16 * value + n % 16) (count + 1), before) := by
  simp only [lexStep, hexValue_hexChar (Nat.mod_lt n (by decide : 0 < 16)), map_some]
  split <;> rfl

/-- The number of an escape is read back. -/
theorem lex_escapeNumber {n : Nat} (h : n < 0x10000) (units : List StringUnit) (before : List Token) :
    (escapeNumber n).foldlM (lexStep floats) (.string units, before) =
      some (.string (.numbered (Fin.ofNat 0x10000 n) :: units), before) := by
  have hvalue : 16 * (16 * (16 * (16 * 0 + n / 0x1000 % 16) + n / 0x100 % 16) + n / 0x10 % 16) + n % 16 = n := by omega
  unfold escapeNumber
  simp only [foldlM_cons, lexStep_backslash, lexStep_numbered, lexStep_digit, bind_eq_bind, bind_some,
    Nat.reduceAdd, Nat.reduceEqDiff, reduceIte]
  rw [hvalue]
  rfl

/-- What stands for a code point is read as its units. -/
theorem lex_escapeAscii (c : CodePoint) (units : List StringUnit) (before : List Token) :
    (escapeAscii c).foldlM (lexStep floats) (.string units, before) =
      some (.string ((stringUnits c).reverse ++ units), before) := by
  have hshort : ∀ d : CodePoint, c.val = d.val → c = d := fun _ => Fin.ext
  unfold escapeAscii
  split
  next h => rw [hshort 0x22 h]; rfl
  next h => rw [hshort 0x5C h]; rfl
  next h => rw [hshort 0x0A h]; rfl
  next h => rw [hshort 0x0D h]; rfl
  next h => rw [hshort 0x09 h]; rfl
  next h => rw [hshort 0x0C h]; rfl
  next h => rw [hshort 0x08 h]; rfl
  next hquote hbackslash hnewline hreturn htab hfeed hback =>
    split
    next hprintable =>
      have hplain : IsPlain c := Or.inl hprintable
      have hcontrol : ¬c.val < 0x20 := by omega
      have hquote : c.val ≠ 0x22 := hquote
      have hbackslash : c.val ≠ 0x5C := hbackslash
      simp [lexStep, stringUnits, hplain, hquote, hbackslash, hcontrol]
    next hother =>
      have hplain : ¬IsPlain c := by
        rintro (h | h)
        · exact hother h
        · simp only [mem_cons, not_mem_nil, or_false] at h
          rcases h with h | h | h | h | h
          · exact hback h
          · exact htab h
          · exact hnewline h
          · exact hfeed h
          · exact hreturn h
      split
      next hlt =>
        rw [lex_escapeNumber hlt]
        simp [stringUnits, hplain, hlt]
      next hge =>
        rw [foldlM_append, lex_escapeNumber (by omega), bind_eq_bind, bind_some,
          lex_escapeNumber (by omega)]
        simp [stringUnits, hplain, hge]

theorem joinUnits_alone {n : Fin 0x10000} {units : List StringUnit}
    (h : ∀ m rest, units = .numbered m :: rest → ¬(IsHighSurrogate n ∧ IsLowSurrogate m)) :
    joinUnits (.numbered n :: units) = ⟨n, unit_lt n⟩ :: joinUnits units := by
  cases units with
  | nil => rfl
  | cons unit rest =>
    cases unit with
    | raw c => rfl
    | numbered m => rw [joinUnits, dif_neg (h m rest rfl)]

/-- A unit that is a low surrogate by number stands for that surrogate. -/
theorem stringUnits_low {m : Fin 0x10000} {rest : List StringUnit}
    (h : stringUnits c = .numbered m :: rest) (hlow : IsLowSurrogate m) : IsLowSurrogate c.val := by
  unfold stringUnits at h
  split_ifs at h with hplain hlt
  · cases h
  · cases h
    rw [Fin.val_ofNat, Nat.mod_eq_of_lt hlt] at hlow
    exact hlow
  · cases h
    rw [Fin.val_ofNat] at hlow
    unfold IsLowSurrogate at hlow
    have := c.isLt
    omega

/-- The units of one code point, before others that do not join with them. -/
theorem joinUnits_append {units : List StringUnit}
    (h : ∀ m rest, units = .numbered m :: rest → ¬(IsHighSurrogate c.val ∧ IsLowSurrogate m)) :
    joinUnits (stringUnits c ++ units) = c :: joinUnits units := by
  unfold stringUnits
  split_ifs with hplain hlt
  · rfl
  · have hval : (Fin.ofNat 0x10000 c.val).val = c.val := Nat.mod_eq_of_lt hlt
    generalize Fin.ofNat 0x10000 c.val = n at hval
    rw [List.singleton_append, joinUnits_alone (hval ▸ h)]
    exact congrArg (· :: joinUnits units) (Fin.ext hval)
  · have hc := c.isLt
    have hhigh : (Fin.ofNat 0x10000 (0xD800 + (c.val - 0x10000) / 0x400)).val = 0xD800 + (c.val - 0x10000) / 0x400 :=
      Nat.mod_eq_of_lt (by omega)
    have hlow : (Fin.ofNat 0x10000 (0xDC00 + (c.val - 0x10000) % 0x400)).val = 0xDC00 + (c.val - 0x10000) % 0x400 :=
      Nat.mod_eq_of_lt (by omega)
    generalize Fin.ofNat 0x10000 (0xD800 + (c.val - 0x10000) / 0x400) = high at hhigh
    generalize Fin.ofNat 0x10000 (0xDC00 + (c.val - 0x10000) % 0x400) = low at hlow
    have hishigh : IsHighSurrogate high.val := by
      unfold IsHighSurrogate
      omega
    have hislow : IsLowSurrogate low.val := by
      unfold IsLowSurrogate
      omega
    have hval : 0x10000 + (high.val - 0xD800) * 0x400 + (low.val - 0xDC00) = c.val := by omega
    have hjoin : joinSurrogates high.val low.val hishigh hislow = c := Fin.ext hval
    rw [cons_append, cons_append, List.nil_append, joinUnits, dif_pos ⟨hishigh, hislow⟩, hjoin]

/-- The units of a text are joined to the text. -/
theorem joinUnits_stringUnits (h : Unpaired s) : joinUnits (s.flatMap stringUnits) = s := by
  induction s with
  | nil => rfl
  | cons c rest ih =>
    rw [List.flatMap_cons, joinUnits_append, ih h.tail]
    rintro m units hunits ⟨hhigh, hlow⟩
    -- the next unit begins the next code point
    cases rest with
    | nil => cases hunits
    | cons d rest =>
      rw [List.flatMap_cons] at hunits
      have hd : ∃ units', stringUnits d = .numbered m :: units' := by
        cases hunit : stringUnits d with
        | nil =>
          unfold stringUnits at hunit
          split_ifs at hunit
        | cons unit units' =>
          rw [hunit] at hunits
          exact ⟨units', by rw [(List.cons.inj hunits).1]⟩
      obtain ⟨units', hd⟩ := hd
      exact (List.isChain_cons_cons.mp h).1 ⟨hhigh, stringUnits_low hd hlow⟩

/-- A string between its quotes is read as it is, if no surrogates of it join. -/
theorem LexesTo.str (h : Unpaired s) : LexesTo floats (Token.text (.str s)) [.str s] := by
  have hunits : ∀ (s : Text) (units : List StringUnit) (before : List Token),
      (s.flatMap escapeAscii).foldlM (lexStep floats) (.string units, before) =
        some (.string ((s.flatMap stringUnits).reverse ++ units), before) := by
    intro s
    induction s with
    | nil => exact fun _ _ => rfl
    | cons c rest ih =>
      intro units before
      rw [List.flatMap_cons, foldlM_append, lex_escapeAscii, bind_eq_bind, bind_some, ih]
      simp
  intro before
  have hopen : lexStep floats (.between, before) 0x22 = some (.string [], before) := rfl
  simp only [Token.text, cons_append, foldlM_cons, hopen, bind_eq_bind, bind_some,
    foldlM_append, hunits, List.foldlM_nil]
  simp [lexStep, joinUnits_stringUnits h]

/-! ## Values -/

section

variable (floats)

/-- A value that is read back from its compact form: its numbers can be read, no surrogates of its strings join, and the
members of its objects stand in the order of their keys. -/
inductive WellFormed : Json → Prop
  | null : WellFormed .null
  | bool (value : Bool) : WellFormed (.bool value)
  | int {value : Int} (h : (decimalText value.natAbs).length ≤ Text.maxDigits) : WellFormed (.int value)
  | float {repr : Text} (h : readNumber floats.read repr = some (.float repr)) : WellFormed (.float repr)
  | str {value : Text} (h : Unpaired value) : WellFormed (.str value)
  | arr {items : List Json} (h : ∀ item ∈ items, WellFormed item) : WellFormed (.arr items)
  | obj {members : Members} (hkeys : (members.map Prod.fst).Nodup) (hsorted : members.Pairwise KeyLE)
      (hunpaired : ∀ m ∈ members, Unpaired m.1) (hvalues : ∀ m ∈ members, WellFormed m.2) : WellFormed (.obj members)

end

theorem tokensItems_eq (items : List Json) : tokensItems items = items.map tokens := by
  induction items with
  | nil => rfl
  | cons item rest ih => rw [tokensItems, ih, map_cons]

theorem tokensMembers_eq (members : Members) : tokensMembers members = members.map fun m => (m.1, tokens m.2) := by
  induction members with
  | nil => rfl
  | cons m rest ih => rw [tokensMembers, ih, map_cons]

/-- The tokens of a member. -/
def memberTokens (m : Text × Json) : List Token := .str m.1 :: .colon :: tokens m.2

theorem tokens_arr (items : List Json) :
    tokens (.arr items) = .beginArray :: (joinWithCommas (items.map tokens) ++ [.endArray]) := by
  rw [tokens, tokensItems_eq]

/-- The members of a sorted object are written as they stand. -/
theorem tokens_obj (hsorted : members.Pairwise KeyLE) :
    tokens (.obj members) = .beginObject :: (joinWithCommas (members.map memberTokens) ++ [.endObject]) := by
  have hpairs : (members.map fun m => (m.1, tokens m.2)).Pairwise KeyLE := List.pairwise_map.mpr hsorted
  rw [tokens, tokensMembers_eq, hpairs.insertionSort_eq, List.map_map]
  rfl

theorem lexes_joinWithCommas {parts : List (List Token)}
    (h : ∀ part ∈ parts, Lexes floats (part.flatMap Token.text) part) :
    Lexes floats ((joinWithCommas parts).flatMap Token.text) (joinWithCommas parts) := by
  induction parts with
  | nil => exact LexesTo.nil.lexes
  | cons part rest ih =>
    have hpart := h part mem_cons_self
    have hrest := ih fun p hp => h p (mem_cons_of_mem _ hp)
    cases rest with
    | nil => exact hpart
    | cons next rest =>
      have hcomma := @Lexes.punctuation floats _ 0x2C .comma _ hpart rfl fun _ => rfl
      have := hcomma.append_lexes hrest
      simpa [joinWithCommas, Token.text] using this

/-- The compact form of a value is read as its tokens. -/
theorem lexes_dumpsCompact {value : Json} (h : WellFormed floats value) :
    Lexes floats (dumpsCompact value) (tokens value) := by
  induction h with
  | null => exact .bare (by decide) (all_eq_true.mp (by decide)) rfl
  | bool value =>
    cases value with
    | true => exact .bare (by decide) (all_eq_true.mp (by decide)) rfl
    | false => exact .bare (by decide) (all_eq_true.mp (by decide)) rfl
  | int h => simpa [dumpsCompact, tokens] using Lexes.number (readNumber_int _ h)
  | float h => simpa [dumpsCompact, tokens, Token.text] using Lexes.number h
  | str h => simpa [dumpsCompact, tokens] using (LexesTo.str h).lexes
  | @arr items _ ih =>
    have hitems := lexes_joinWithCommas (List.forall_mem_map.mpr ih)
    have hclosed := @Lexes.punctuation floats _ 0x5D .endArray _ hitems rfl fun _ => rfl
    have hopened := @LexesTo.mark floats 0x5B .beginArray fun _ => rfl
    simpa [dumpsCompact, tokens_arr, Token.text] using (hopened.append hclosed).lexes
  | @obj members _ hsorted hunpaired _ ih =>
    have hmember : ∀ m ∈ members, Lexes floats ((memberTokens m).flatMap Token.text) (memberTokens m) := by
      intro m hm
      have hcolon := @LexesTo.mark floats 0x3A .colon fun _ => rfl
      simpa [memberTokens, dumpsCompact, Token.text] using
        ((LexesTo.str (hunpaired m hm)).append hcolon).append_lexes (ih m hm)
    have hmembers := lexes_joinWithCommas (List.forall_mem_map.mpr hmember)
    have hclosed := @Lexes.punctuation floats _ 0x7D .endObject _ hmembers rfl fun _ => rfl
    have hopened := @LexesTo.mark floats 0x7B .beginObject fun _ => rfl
    simpa [dumpsCompact, tokens_obj hsorted, Token.text] using (hopened.append hclosed).lexes

/-- The tokens of a value are read as the value, wherever a value may stand. -/
def Reads (value : Json) : Prop :=
  ∀ stack, (tokens value).foldlM readStep (.value stack) = some (.done value stack)

/-- The first token of a value does not end an array. -/
theorem tokens_first (value : Json) : ∃ token rest, tokens value = token :: rest ∧ token ≠ .endArray := by
  cases value <;> exact ⟨_, _, rfl, nofun⟩

/-- The first item of an array is read as the others are. -/
theorem read_firstItem (value : Json) (stack : List Frame) (rest : List Token) :
    (tokens value ++ rest).foldlM readStep (.firstItem stack) =
      (tokens value ++ rest).foldlM readStep (.value (.arr [] :: stack)) := by
  obtain ⟨token, others, htokens, hne⟩ := tokens_first value
  have hstep : readStep (.firstItem stack) token = readStep (.value (.arr [] :: stack)) token := if_neg hne
  rw [htokens, cons_append, foldlM_cons, foldlM_cons, hstep]

/-- The items of an array, behind those that have been read. -/
theorem read_items {item : Json} {rest : List Json} (h : ∀ i ∈ item :: rest, Reads i) (before : List Json)
    (stack : List Frame) :
    (joinWithCommas ((item :: rest).map tokens) ++ [Token.endArray]).foldlM readStep (.value (.arr before :: stack)) =
      some (.done (.arr (before.reverse ++ item :: rest)) stack) := by
  induction rest generalizing item before with
  | nil =>
    have hitem := h item mem_cons_self (.arr before :: stack)
    simp only [map_cons, List.map_nil, joinWithCommas, foldlM_append, hitem, bind_eq_bind, bind_some]
    simp [readStep]
  | cons next rest ih =>
    have hitem := h item mem_cons_self (.arr before :: stack)
    have hrest := @ih next (fun i hi => h i (mem_cons_of_mem _ hi)) (item :: before)
    have hcomma : readStep (.done item (.arr before :: stack)) .comma = some (.value (.arr (item :: before) :: stack)) := rfl
    rw [map_cons, map_cons]
    simp only [joinWithCommas, append_assoc, cons_append, foldlM_append, foldlM_cons, hitem, hcomma,
      bind_eq_bind, bind_some]
    rw [map_cons, foldlM_append] at hrest
    simpa using hrest

theorem read_member {m : Text × Json} (h : Reads m.2) (before : Members) (stack : List Frame) :
    (memberTokens m).foldlM readStep (.nextKey before stack) = some (.done m.2 (.obj before m.1 :: stack)) :=
  h (.obj before m.1 :: stack)

/-- The members of an object, behind those that have been read. -/
theorem read_members {m : Text × Json} {rest : Members} (h : ∀ m' ∈ m :: rest, Reads m'.2) (before : Members)
    (stack : List Frame) (hkeys : ((before.reverse ++ m :: rest).map Prod.fst).Nodup) :
    (joinWithCommas ((m :: rest).map memberTokens) ++ [Token.endObject]).foldlM readStep (.nextKey before stack) =
      some (.done (dict (before.reverse ++ m :: rest)) stack) := by
  induction rest generalizing m before with
  | nil =>
    have hmember := read_member (h m mem_cons_self) before stack
    have hunique : uniqueObject (before.reverse ++ [m]) = some (dict (before.reverse ++ [m])) := if_pos hkeys
    simp only [map_cons, List.map_nil, joinWithCommas, foldlM_append, hmember, bind_eq_bind, bind_some]
    simp [readStep, hunique]
  | cons next rest ih =>
    have hmember := read_member (h m mem_cons_self) before stack
    have hrest := @ih next (fun m' hm => h m' (mem_cons_of_mem _ hm)) (m :: before) (by simpa using hkeys)
    have hcomma : readStep (.done m.2 (.obj before m.1 :: stack)) .comma = some (.nextKey (m :: before) stack) := rfl
    rw [map_cons, map_cons]
    simp only [joinWithCommas, append_assoc, cons_append, foldlM_append, foldlM_cons, hmember, hcomma,
      bind_eq_bind, bind_some]
    rw [map_cons, foldlM_append] at hrest
    simpa using hrest

theorem dict_of_sorted (hsorted : members.Pairwise KeyLE) : dict members = .obj members := by
  rw [dict, hsorted.insertionSort_eq]

/-- The tokens of a value are read as the value. -/
theorem reads_tokens {value : Json} (h : WellFormed floats value) : Reads value := by
  induction h with
  | null => exact fun _ => rfl
  | bool value => exact fun _ => rfl
  | int h => exact fun _ => rfl
  | float h => exact fun _ => rfl
  | str h => exact fun _ => rfl
  | @arr items _ ih =>
    intro stack
    rw [tokens_arr]
    show (joinWithCommas (items.map tokens) ++ [Token.endArray]).foldlM readStep (.firstItem stack) = _
    cases items with
    | nil => rfl
    | cons item rest =>
      have hitems := read_items ih [] stack
      cases rest with
      | nil => exact (read_firstItem item stack [.endArray]).trans hitems
      | cons next rest =>
        rw [map_cons, map_cons, joinWithCommas, append_assoc] at hitems ⊢
        · exact (read_firstItem item stack _).trans hitems
        · exact nofun
        · exact nofun
  | @obj members hkeys hsorted _ _ ih =>
    intro stack
    rw [tokens_obj hsorted]
    show (joinWithCommas (members.map memberTokens) ++ [Token.endObject]).foldlM readStep (.firstKey stack) = _
    cases members with
    | nil => rfl
    | cons m rest =>
      have hmembers := read_members ih [] stack (by simpa using hkeys)
      rw [List.reverse_nil, List.nil_append, dict_of_sorted hsorted] at hmembers
      rw [← hmembers]
      cases rest with
      | nil => rfl
      | cons next rest => rfl

/-- What is written is read. -/
theorem loads_dumpsCompact {value : Json} (h : WellFormed floats value) :
    loads floats (dumpsCompact value) = some value := by
  obtain ⟨point, hpoint, hend⟩ := lexes_dumpsCompact h []
  have hlex : lex floats (dumpsCompact value) = some (tokens value) := by
    unfold lex
    rw [hpoint, bind_eq_bind, bind_some, hend]
    simp
  unfold loads
  rw [hlex, bind_eq_bind, bind_some, reads_tokens h []]
  rfl

/-! ## What is read -/

/-- A blank behind a document changes nothing. -/
theorem loads_blank (s : Text) : loads floats (s ++ [0x20]) = loads floats s := by
  have hend : ∀ point : LexState × List Token,
      (lexStep floats point 0x20).bind (lexEnd floats) = lexEnd floats point := by
    rintro ⟨state, tokens⟩
    cases state with
    | between => rfl
    | bare read =>
      show ((bareToken floats read.reverse).bind fun token => lexBetween (token :: tokens) 0x20).bind (lexEnd floats) = _
      show _ = (bareToken floats read.reverse).map fun token => token :: tokens
      cases bareToken floats read.reverse <;> rfl
    | string units => rfl
    | escape units => rfl
    | number units value count => rfl
  have hlex : lex floats (s ++ [0x20]) = lex floats s := by
    unfold lex
    rw [foldlM_append]
    cases s.foldlM (lexStep floats) (.between, []) with
    | none => rfl
    | some point =>
      simp only [foldlM_cons, List.foldlM_nil, bind_pure, bind_eq_bind, bind_some]
      rw [← Option.bind_assoc, hend]
  unfold loads
  rw [hlex]

theorem loads_blanks (s : Text) (n : Nat) : loads floats (s ++ List.replicate n 0x20) = loads floats s := by
  induction n with
  | zero => rw [List.replicate_zero, List.append_nil]
  | succ n ih => rw [List.replicate_succ', ← append_assoc, loads_blank, ih]

instance {α : Type} : Std.Total (@KeyLE α) := ⟨fun a b => le_total a.1 b.1⟩

instance {α : Type} : IsTrans (Text × α) KeyLE := ⟨fun _ _ _ => le_trans⟩

section

variable (floats)

/-- A token that can be written and read back. -/
def Token.Readable : Token → Prop
  | .int value => (decimalText value.natAbs).length ≤ Text.maxDigits
  | .float repr => readNumber floats.read repr = some (.float repr)
  | .str value => Unpaired value
  | _ => True

end

/-- No unit is a surrogate as it stands. -/
def PlainUnits (units : List StringUnit) : Prop := ∀ c, .raw c ∈ units → ¬Text.IsSurrogate c

theorem joinSurrogates_ge {high low : Nat} (h : IsHighSurrogate high) (h' : IsLowSurrogate low) :
    0x10000 ≤ (joinSurrogates high low h h').val :=
  (Nat.le_add_right _ _).trans (Nat.le_add_right _ _)

theorem joinUnits_head {units : List StringUnit} (h : PlainUnits units)
    (hc : (joinUnits units).head? = some c) (hlow : IsLowSurrogate c.val) :
    ∃ m rest, units = .numbered m :: rest ∧ m.val = c.val := by
  fun_cases joinUnits units with
  | case1 => cases hc
  | case2 d rest =>
    obtain rfl := Option.some.inj hc
    refine (h d mem_cons_self ?_).elim
    unfold IsLowSurrogate at hlow
    unfold Text.IsSurrogate
    omega
  | case3 n m rest hpair =>
    rw [joinUnits, dif_pos hpair] at hc
    obtain rfl := Option.some.inj hc
    exact absurd (joinSurrogates_ge hpair.1 hpair.2) (Nat.not_le.mpr (Nat.lt_of_le_of_lt hlow.2 (by decide)))
  | case4 n m rest hpair =>
    rw [joinUnits, dif_neg hpair] at hc
    obtain rfl := Option.some.inj hc
    exact ⟨n, _, rfl, rfl⟩
  | case5 n rest hrest =>
    rw [joinUnits] at hc
    · obtain rfl := Option.some.inj hc
      exact ⟨n, _, rfl, rfl⟩
    · exact hrest

/-- What units without surrogates are joined to has no surrogates that join. -/
theorem unpaired_joinUnits {units : List StringUnit} (h : PlainUnits units) : Unpaired (joinUnits units) := by
  fun_induction joinUnits units with
  | case1 => exact .nil
  | case2 c rest ih =>
    have hc := h c mem_cons_self
    refine isChain_cons.mpr ⟨?_, ih fun d hd => h d (mem_cons_of_mem _ hd)⟩
    rintro d - ⟨hhigh, -⟩
    unfold IsHighSurrogate at hhigh
    unfold Text.IsSurrogate at hc
    omega
  | case3 n m rest hpair ih =>
    refine isChain_cons.mpr ⟨?_, ih fun d hd => h d (mem_cons_of_mem _ (mem_cons_of_mem _ hd))⟩
    rintro d - ⟨hhigh, -⟩
    exact absurd (joinSurrogates_ge hpair.1 hpair.2) (Nat.not_le.mpr (Nat.lt_of_le_of_lt hhigh.2 (by decide)))
  | case4 n m rest hpair ih =>
    have hrest : PlainUnits (.numbered m :: rest) := fun d hd => h d (mem_cons_of_mem _ hd)
    refine isChain_cons.mpr ⟨?_, ih hrest⟩
    rintro d hd ⟨hhigh, hlow⟩
    obtain ⟨m', rest', hunits, hval⟩ := joinUnits_head hrest hd hlow
    cases hunits
    exact hpair ⟨hhigh, hval ▸ hlow⟩
  | case5 n rest hrest ih =>
    have hplain : PlainUnits rest := fun d hd => h d (mem_cons_of_mem _ hd)
    refine isChain_cons.mpr ⟨?_, ih hplain⟩
    rintro d hd ⟨hhigh, hlow⟩
    obtain ⟨m, rest', hunits, -⟩ := joinUnits_head hplain hd hlow
    exact hrest m rest' hunits

/-- Digits write a number that has no more digits. -/
theorem decimalText_length_le {digits : Text} (h : ∀ c ∈ digits, isDigit c = true) (hne : digits ≠ []) :
    (decimalText (Text.ofDigits (digits.map fun c => c.val - 0x30))).length ≤ digits.length := by
  have hlt : ∀ d ∈ (digits.map fun c => c.val - 0x30).reverse, d < 10 := by
    intro d hd
    obtain ⟨c, hc, rfl⟩ := mem_map.mp (mem_reverse.mp hd)
    have hdigit := h c hc
    simp only [isDigit, decide_eq_true_eq] at hdigit
    omega
  have hpow := Nat.ofDigits_lt_base_pow_length (by decide) hlt
  rw [← ofDigits_reverse, List.reverse_reverse, List.length_reverse, List.length_map] at hpow
  generalize Text.ofDigits (digits.map fun c => c.val - 0x30) = n at hpow
  unfold decimalText
  split
  next => exact List.length_pos_iff.mpr hne
  next =>
    rw [List.length_map, List.length_reverse]
    exact (Nat.digits_length_le_iff (by decide) n).mpr hpow

theorem readable_number (h : readNumber floats.read s = some token) : token.Readable floats := by
  unfold readNumber at h
  dsimp only at h
  generalize (splitSign s).1 = negative at h
  generalize (splitSign s).2 = body at h
  split at h
  · cases h
  next hwhole =>
    split at h
    · split at h
      · cases h
      next hdigits =>
        have hle := decimalText_length_le (fun c hc => List.mem_takeWhile_imp hc) fun hnil => hwhole (Or.inl hnil)
        obtain rfl := Option.some.inj h
        generalize Text.ofDigits ((body.takeWhile isDigit).map fun c => c.val - 0x30) = n at hle
        have hnat : (if negative = true then -(n : Int) else n).natAbs = n := by
          split <;> omega
        show (decimalText _).length ≤ _
        rw [hnat]
        omega
    · split at h
      next =>
        obtain ⟨repr, hrepr, rfl⟩ := map_eq_some_iff.mp h
        exact floats.reads_back s repr hrepr
      next => cases h

theorem readable_bare (h : bareToken floats s = some token) : token.Readable floats := by
  unfold bareToken at h
  split_ifs at h
  · obtain rfl := Option.some.inj h
    trivial
  · obtain rfl := Option.some.inj h
    trivial
  · obtain rfl := Option.some.inj h
    trivial
  · exact readable_number h

/-- What the reader of tokens has read so far of a string. -/
def LexState.units : LexState → List StringUnit
  | .string units => units
  | .escape units => units
  | .number units _ _ => units
  | _ => []

section

variable (floats)

/-- What has been read so far can be written and read back. -/
structure ReadableSoFar (point : LexState × List Token) : Prop where
  tokens : ∀ token ∈ point.2, token.Readable floats
  units : PlainUnits point.1.units

end

theorem PlainUnits.nil : PlainUnits [] := fun _ => nofun

theorem PlainUnits.cons {units : List StringUnit} (h : PlainUnits units) (hc : ¬Text.IsSurrogate c) :
    PlainUnits (.raw c :: units) := by
  intro d hd
  rcases mem_cons.mp hd with hd | hd
  · cases hd
    exact hc
  · exact h d hd

theorem unescape_plain {c d : CodePoint} (h : unescape c = some d) : ¬Text.IsSurrogate d := by
  unfold unescape at h
  split at h <;>
  first
  | cases h
    done
  | obtain rfl := Option.some.inj h
    decide

theorem lexBetween_readable {tokens : List Token} {point : LexState × List Token}
    (h : ∀ token ∈ tokens, token.Readable floats) (hstep : lexBetween tokens c = some point) : ReadableSoFar floats point := by
  unfold lexBetween at hstep
  split_ifs at hstep
  · obtain rfl := Option.some.inj hstep
    exact ⟨h, .nil⟩
  · obtain rfl := Option.some.inj hstep
    exact ⟨h, .nil⟩
  · obtain rfl := Option.some.inj hstep
    exact ⟨h, .nil⟩
  · obtain ⟨mark, hmark, rfl⟩ := map_eq_some_iff.mp hstep
    have hreadable : mark.Readable floats := by
      unfold punctuation at hmark
      split at hmark <;> cases hmark <;> trivial
    exact ⟨forall_mem_cons.mpr ⟨hreadable, h⟩, .nil⟩

theorem lexStep_readable {point point' : LexState × List Token} (h : ReadableSoFar floats point)
    (hc : ¬Text.IsSurrogate c) (hstep : lexStep floats point c = some point') : ReadableSoFar floats point' := by
  obtain ⟨state, tokens⟩ := point
  obtain ⟨htokens, hunits⟩ := h
  cases state with
  | between => exact lexBetween_readable htokens hstep
  | bare read =>
    simp only [lexStep] at hstep
    split at hstep
    · obtain rfl := Option.some.inj hstep
      exact ⟨htokens, .nil⟩
    · obtain ⟨token, htoken, hstep⟩ := bind_eq_some_iff.mp hstep
      exact lexBetween_readable (forall_mem_cons.mpr ⟨readable_bare htoken, htokens⟩) hstep
  | string units =>
    simp only [lexStep] at hstep
    split_ifs at hstep
    · obtain rfl := Option.some.inj hstep
      have hplain : PlainUnits units.reverse := fun d hd => hunits d (mem_reverse.mp hd)
      exact ⟨forall_mem_cons.mpr ⟨unpaired_joinUnits hplain, htokens⟩, .nil⟩
    · obtain rfl := Option.some.inj hstep
      exact ⟨htokens, hunits⟩
    · obtain rfl := Option.some.inj hstep
      exact ⟨htokens, hunits.cons hc⟩
  | escape units =>
    simp only [lexStep] at hstep
    split at hstep
    · obtain rfl := Option.some.inj hstep
      exact ⟨htokens, hunits⟩
    · obtain ⟨d, hd, rfl⟩ := map_eq_some_iff.mp hstep
      exact ⟨htokens, hunits.cons (unescape_plain hd)⟩
  | number units value count =>
    obtain ⟨d, -, hpoint⟩ := map_eq_some_iff.mp hstep
    split at hpoint
    · obtain rfl := hpoint
      refine ⟨htokens, fun e he => ?_⟩
      rcases mem_cons.mp he with he | he
      · cases he
      · exact hunits e he
    · obtain rfl := hpoint
      exact ⟨htokens, hunits⟩

/-- The tokens of a text without surrogates can be written and read back. -/
theorem lex_readable {tokens : List Token} (hs : s.Encodable) (h : lex floats s = some tokens) :
    ∀ token ∈ tokens, token.Readable floats := by
  have hfold : ∀ (s : Text) (point point' : LexState × List Token), s.Encodable → ReadableSoFar floats point →
      s.foldlM (lexStep floats) point = some point' → ReadableSoFar floats point' := by
    intro s
    induction s with
    | nil =>
      rintro point _ - hpoint ⟨⟩
      exact hpoint
    | cons c rest ih =>
      intro point point' hs hpoint hfold
      rw [foldlM_cons] at hfold
      obtain ⟨next, hnext, hfold⟩ := bind_eq_some_iff.mp hfold
      exact ih next point' (fun d hd => hs d (mem_cons_of_mem _ hd))
        (lexStep_readable hpoint (hs c mem_cons_self) hnext) hfold
  unfold lex at h
  obtain ⟨point, hpoint, h⟩ := bind_eq_some_iff.mp h
  obtain ⟨read, hread, h⟩ := bind_eq_some_iff.mp h
  obtain rfl := Option.some.inj h
  have hreadable := hfold s (.between, []) point hs ⟨fun _ => nofun, .nil⟩ hpoint
  intro token htoken
  have htoken := mem_reverse.mp htoken
  obtain ⟨state, before⟩ := point
  cases state with
  | between =>
    obtain rfl := Option.some.inj hread
    exact hreadable.tokens token htoken
  | bare name =>
    obtain ⟨last, hlast, rfl⟩ := map_eq_some_iff.mp hread
    rcases mem_cons.mp htoken with rfl | htoken
    · exact readable_bare hlast
    · exact hreadable.tokens token htoken
  | string units => cases hread
  | escape units => cases hread
  | number units value count => cases hread

section

variable (floats)

def Frame.WellFormed : Frame → Prop
  | .arr items => ∀ item ∈ items, Json.WellFormed floats item
  | .obj members key => (∀ m ∈ members, Unpaired m.1 ∧ Json.WellFormed floats m.2) ∧ Unpaired key

/-- What has been read so far is well formed. -/
def ReadState.WellFormed : ReadState → Prop
  | .value stack => ∀ frame ∈ stack, frame.WellFormed floats
  | .firstItem stack => ∀ frame ∈ stack, frame.WellFormed floats
  | .firstKey stack => ∀ frame ∈ stack, frame.WellFormed floats
  | .nextKey members stack =>
    (∀ m ∈ members, Unpaired m.1 ∧ Json.WellFormed floats m.2) ∧ ∀ frame ∈ stack, frame.WellFormed floats
  | .colon members key stack =>
    (Frame.obj members key).WellFormed floats ∧ ∀ frame ∈ stack, frame.WellFormed floats
  | .done read stack => Json.WellFormed floats read ∧ ∀ frame ∈ stack, frame.WellFormed floats

end

theorem wellFormed_dict (hkeys : (members.map Prod.fst).Nodup)
    (h : ∀ m ∈ members, Unpaired m.1 ∧ WellFormed floats m.2) : WellFormed floats (dict members) := by
  have hperm := List.perm_insertionSort KeyLE members
  refine .obj ?_ (List.pairwise_insertionSort KeyLE members) ?_ ?_
  · exact (hperm.map Prod.fst).nodup_iff.mpr hkeys
  · exact fun m hm => (h m (hperm.mem_iff.mp hm)).1
  · exact fun m hm => (h m (hperm.mem_iff.mp hm)).2

theorem readValue_wellFormed {stack : List Frame} {state : ReadState}
    (hstack : ∀ frame ∈ stack, frame.WellFormed floats) (htoken : token.Readable floats)
    (h : readValue stack token = some state) : state.WellFormed floats := by
  cases token with
  | null => cases h; exact ⟨.null, hstack⟩
  | bool value => cases h; exact ⟨.bool value, hstack⟩
  | int value => cases h; exact ⟨.int htoken, hstack⟩
  | float repr => cases h; exact ⟨.float htoken, hstack⟩
  | str value => cases h; exact ⟨.str htoken, hstack⟩
  | beginArray => cases h; exact hstack
  | beginObject => cases h; exact hstack
  | endArray => cases h
  | endObject => cases h
  | comma => cases h
  | colon => cases h

theorem readStep_wellFormed {state state' : ReadState} (h : state.WellFormed floats)
    (htoken : token.Readable floats) (hstep : readStep state token = some state') : state'.WellFormed floats := by
  cases state with
  | value stack => exact readValue_wellFormed h htoken hstep
  | firstItem stack =>
    simp only [readStep] at hstep
    split at hstep
    · cases hstep
      exact ⟨.arr fun _ => nofun, h⟩
    · have hempty : (Frame.arr []).WellFormed floats := fun _ => nofun
      exact readValue_wellFormed (forall_mem_cons.mpr ⟨hempty, h⟩) htoken hstep
  | firstKey stack =>
    cases token with
    | endObject =>
      cases hstep
      exact ⟨wellFormed_dict List.nodup_nil fun _ => nofun, h⟩
    | str key =>
      cases hstep
      exact ⟨⟨fun _ => nofun, htoken⟩, h⟩
    | _ => cases hstep
  | nextKey members stack =>
    cases token with
    | str key =>
      cases hstep
      exact ⟨⟨h.1, htoken⟩, h.2⟩
    | _ => cases hstep
  | colon members key stack =>
    simp only [readStep] at hstep
    split at hstep
    · cases hstep
      exact forall_mem_cons.mpr h
    · cases hstep
  | done value stack =>
    obtain ⟨hvalue, hstack⟩ := h
    cases stack with
    | nil => cases hstep
    | cons frame stack =>
      obtain ⟨hframe, hrest⟩ := forall_mem_cons.mp hstack
      cases frame with
      | arr items =>
        have hitems := forall_mem_cons.mpr ⟨hvalue, hframe⟩
        cases token with
        | comma =>
          cases hstep
          exact forall_mem_cons.mpr ⟨hitems, hrest⟩
        | endArray =>
          cases hstep
          exact ⟨.arr fun item hitem => hitems item (mem_reverse.mp hitem), hrest⟩
        | _ => cases hstep
      | obj members key =>
        have hmembers : ∀ m ∈ (key, value) :: members, Unpaired m.1 ∧ Json.WellFormed floats m.2 :=
          forall_mem_cons.mpr ⟨⟨hframe.2, hvalue⟩, hframe.1⟩
        cases token with
        | comma =>
          cases hstep
          exact ⟨hmembers, hrest⟩
        | endObject =>
          obtain ⟨object, hobject, rfl⟩ := map_eq_some_iff.mp hstep
          unfold uniqueObject at hobject
          split at hobject
          next hkeys =>
            obtain rfl := Option.some.inj hobject
            exact ⟨wellFormed_dict hkeys fun m hm => hmembers m (mem_reverse.mp hm), hrest⟩
          next => cases hobject
        | _ => cases hstep

/-- What is read from a text without surrogates is well formed. -/
theorem loads_wellFormed {value : Json} (hs : s.Encodable) (h : loads floats s = some value) :
    WellFormed floats value := by
  have hfold : ∀ (tokens : List Token) (state state' : ReadState), (∀ token ∈ tokens, token.Readable floats) →
      state.WellFormed floats → tokens.foldlM readStep state = some state' → state'.WellFormed floats := by
    intro tokens
    induction tokens with
    | nil =>
      rintro state _ - hstate ⟨⟩
      exact hstate
    | cons token rest ih =>
      intro state state' htokens hstate hfold
      rw [foldlM_cons] at hfold
      obtain ⟨next, hnext, hfold⟩ := bind_eq_some_iff.mp hfold
      exact ih next state' (fun t ht => htokens t (mem_cons_of_mem _ ht))
        (readStep_wellFormed hstate (htokens token mem_cons_self) hnext) hfold
  unfold loads at h
  obtain ⟨tokens, htokens, h⟩ := bind_eq_some_iff.mp h
  obtain ⟨state, hstate, h⟩ := bind_eq_some_iff.mp h
  have hread := hfold tokens (.value []) state (lex_readable hs htokens) (fun _ => nofun) hstate
  split at h
  next => cases h; exact hread.1
  next => cases h

/-- A well-formed value is determined by its compact form. -/
theorem dumpsCompact_injective {value value' : Json} (h : WellFormed floats value) (h' : WellFormed floats value')
    (heq : dumpsCompact value = dumpsCompact value') : value = value' := by
  have hread := loads_dumpsCompact h
  rw [heq, loads_dumpsCompact h'] at hread
  exact (Option.some.inj hread).symm

/-! ## The compact form is ASCII -/

theorem mem_joinWithCommas {parts : List (List Token)} (h : token ∈ joinWithCommas parts) :
    token = .comma ∨ ∃ part ∈ parts, token ∈ part := by
  induction parts with
  | nil => cases h
  | cons part rest ih =>
    cases rest with
    | nil => exact Or.inr ⟨part, mem_cons_self, h⟩
    | cons next rest =>
      rcases mem_append.mp h with h | h
      · exact Or.inr ⟨part, mem_cons_self, h⟩
      rcases mem_cons.mp h with h | h
      · exact Or.inl h
      · obtain h | ⟨p, hp, h⟩ := ih h
        · exact Or.inl h
        · exact Or.inr ⟨p, mem_cons_of_mem _ hp, h⟩

/-- The tokens of a well-formed value can be written and read back. -/
theorem readable_tokens {value : Json} (h : WellFormed floats value) : ∀ token ∈ tokens value, token.Readable floats := by
  induction h with
  | null => exact forall_mem_singleton.mpr trivial
  | bool value => exact forall_mem_singleton.mpr trivial
  | int h => exact forall_mem_singleton.mpr h
  | float h => exact forall_mem_singleton.mpr h
  | str h => exact forall_mem_singleton.mpr h
  | @arr items _ ih =>
    rw [tokens_arr]
    refine forall_mem_cons.mpr ⟨trivial, List.forall_mem_append.mpr ⟨fun token htoken => ?_, ?_⟩⟩
    · obtain rfl | ⟨part, hpart, htoken⟩ := mem_joinWithCommas htoken
      · trivial
      · obtain ⟨item, hitem, rfl⟩ := mem_map.mp hpart
        exact ih item hitem token htoken
    · exact forall_mem_singleton.mpr trivial
  | @obj members _ hsorted hunpaired _ ih =>
    rw [tokens_obj hsorted]
    refine forall_mem_cons.mpr ⟨trivial, List.forall_mem_append.mpr ⟨fun token htoken => ?_, ?_⟩⟩
    · obtain rfl | ⟨part, hpart, htoken⟩ := mem_joinWithCommas htoken
      · trivial
      · obtain ⟨m, hm, rfl⟩ := mem_map.mp hpart
        have hmember : ∀ token ∈ memberTokens m, token.Readable floats :=
          forall_mem_cons.mpr ⟨hunpaired m hm, forall_mem_cons.mpr ⟨trivial, ih m hm⟩⟩
        exact hmember token htoken
    · exact forall_mem_singleton.mpr trivial

def IsAscii (s : Text) : Prop := ∀ c ∈ s, c.val < 0x80

theorem IsAscii.encodable (h : IsAscii s) : s.Encodable := by
  intro c hc hsurrogate
  have hlt := h c hc
  unfold Text.IsSurrogate at hsurrogate
  omega

theorem IsAscii.unpaired (h : IsAscii s) : Unpaired s := by
  induction s with
  | nil => exact .nil
  | cons c rest ih =>
    refine isChain_cons.mpr ⟨fun d _ hpair => ?_, ih fun d hd => h d (mem_cons_of_mem _ hd)⟩
    have hlt := h c mem_cons_self
    have hhigh := hpair.1
    unfold IsHighSurrogate at hhigh
    omega

theorem isAscii_of_bare (h : ∀ c ∈ s, isBare c = true) : IsAscii s := by
  intro c hc
  have hbare := h c hc
  simp only [isBare, isDigit, Bool.or_eq_true, decide_eq_true_eq] at hbare
  omega

theorem hexChar_ascii {n : Nat} (h : n < 16) : (hexChar n).val < 0x80 := by
  have hall : ∀ n < 16, (hexChar n).val < 0x80 := by decide
  exact hall n h

theorem isAscii_escapeNumber (n : Nat) : IsAscii (escapeNumber n) := by
  have hhex : ∀ m, (hexChar (m % 16)).val < 0x80 := fun m => hexChar_ascii (Nat.mod_lt m (by decide))
  intro c hc
  simp only [escapeNumber, mem_cons, not_mem_nil, or_false] at hc
  rcases hc with rfl | rfl | rfl | rfl | rfl | rfl
  · decide
  · decide
  · exact hhex _
  · exact hhex _
  · exact hhex _
  · exact hhex _

theorem isAscii_escapeAscii (c : CodePoint) : IsAscii (escapeAscii c) := by
  unfold escapeAscii
  split
  case h_8 =>
    split_ifs with hprintable
    · exact forall_mem_singleton.mpr (by omega)
    · exact isAscii_escapeNumber _
    · exact List.forall_mem_append.mpr ⟨isAscii_escapeNumber _, isAscii_escapeNumber _⟩
  all_goals exact forall_mem_cons.mpr ⟨by decide, forall_mem_singleton.mpr (by decide)⟩

theorem isAscii_decimalText (n : Nat) : IsAscii (decimalText n) :=
  isAscii_of_bare fun c hc => isBare_of_isDigit (isDigit_decimalText n c hc)

theorem isAscii_int (value : Int) : IsAscii (Token.text (.int value)) := by
  rw [Token.text]
  split
  · exact forall_mem_cons.mpr ⟨by decide, isAscii_decimalText _⟩
  · exact isAscii_decimalText _

theorem isAscii_str (value : Text) : IsAscii (Token.text (.str value)) := by
  refine forall_mem_cons.mpr ⟨by decide, List.forall_mem_append.mpr ⟨fun c hc => ?_, ?_⟩⟩
  · obtain ⟨d, -, hc⟩ := mem_flatMap.mp hc
    exact isAscii_escapeAscii d c hc
  · exact forall_mem_singleton.mpr (by decide)

theorem isAscii_text (h : token.Readable floats) : IsAscii token.text := by
  cases token with
  | int value => exact isAscii_int value
  | float repr => exact isAscii_of_bare (isBare_number h).2
  | str value => exact isAscii_str value
  | null => exact isAscii_of_bare (all_eq_true.mp (by decide))
  | bool value => cases value <;> exact isAscii_of_bare (all_eq_true.mp (by decide))
  | _ => exact forall_mem_singleton.mpr (by decide)

/-- The compact form of a well-formed value is ASCII. -/
theorem isAscii_dumpsCompact {value : Json} (h : WellFormed floats value) : IsAscii (dumpsCompact value) := by
  intro c hc
  obtain ⟨token, htoken, hc⟩ := mem_flatMap.mp hc
  exact isAscii_text (readable_tokens h token htoken) c hc

/-- A value that is not made of others, and no float. -/
def Scalar : Json → Prop
  | .float _ | .arr _ | .obj _ => False
  | _ => True

theorem isAscii_scalar {value : Json} (h : Scalar value) : ∀ token ∈ tokens value, IsAscii token.text := by
  cases value with
  | null => exact forall_mem_singleton.mpr (isAscii_of_bare (all_eq_true.mp (by decide)))
  | bool value => cases value <;> exact forall_mem_singleton.mpr (isAscii_of_bare (all_eq_true.mp (by decide)))
  | int value => exact forall_mem_singleton.mpr (isAscii_int value)
  | str value => exact forall_mem_singleton.mpr (isAscii_str value)
  | float repr => cases h
  | arr items => cases h
  | obj members => cases h

/-- The compact form of a dictionary of scalars is ASCII whatever their texts are. -/
theorem isAscii_dict (h : ∀ m ∈ members, Scalar m.2) : IsAscii (dumpsCompact (dict members)) := by
  have hmark : ∀ token : Token, token ∈ [.beginObject, .endObject, .comma, .colon] → IsAscii token.text := by
    simp only [forall_mem_cons]
    exact ⟨forall_mem_singleton.mpr (by decide), forall_mem_singleton.mpr (by decide),
      forall_mem_singleton.mpr (by decide), forall_mem_singleton.mpr (by decide), nofun⟩
  have hmember : ∀ m ∈ members, ∀ token ∈ memberTokens m, IsAscii token.text := fun m hm =>
    forall_mem_cons.mpr ⟨isAscii_str m.1,
      forall_mem_cons.mpr ⟨hmark .colon (by simp), isAscii_scalar (h m hm)⟩⟩
  intro c hc
  obtain ⟨token, htoken, hc⟩ := mem_flatMap.mp hc
  refine (?_ : IsAscii token.text) c hc
  rw [dict, tokens_obj (List.pairwise_insertionSort KeyLE members)] at htoken
  rcases mem_cons.mp htoken with rfl | htoken
  · exact hmark .beginObject (by simp)
  rcases mem_append.mp htoken with htoken | htoken
  · rcases mem_joinWithCommas htoken with rfl | ⟨part, hpart, htoken⟩
    · exact hmark .comma (by simp)
    · obtain ⟨m, hm, rfl⟩ := mem_map.mp hpart
      exact hmember m ((List.mem_insertionSort KeyLE).mp hm) token htoken
  · obtain rfl := List.mem_singleton.mp htoken
    exact hmark .endObject (by simp)

end Json

end ArkClaw.Library
