import ArkClaw.Library.Decoding
import ArkClaw.Library.JsonText
import Mathlib.Data.List.Lex
import Mathlib.Data.List.Sort
import Mathlib.Data.Nat.Digits.Defs

/-!
# Reading JSON, and its compact form

A document is read in two passes, each of them a machine that takes one code point or one token at a time. Numbers are
whole or floating as their text says; what a floating one is rounded to is not decided here (`FloatReader`). A number
that is too large to be finite is refused. The compact form has no spaces, escapes everything outside ASCII and sorts
the keys of every object.

An object is read as a dictionary: a repeated key is refused, and its members are listed in the order of their keys,
since nothing depends on the order they were inserted in.
-/

namespace ArkClaw.Library

namespace Json

/-- The order of the members of a dictionary. -/
def KeyLE {α : Type} (a b : Text × α) : Prop := a.1 ≤ b.1

instance {α : Type} : DecidableRel (@KeyLE α) := fun a b => inferInstanceAs (Decidable (a.1 ≤ b.1))

/-- A dictionary of the members; their keys differ. -/
def dict (members : Members) : Json := .obj (members.insertionSort KeyLE)

inductive Token where
  | beginObject | endObject | beginArray | endArray | comma | colon | null
  | bool (value : Bool)
  | int (value : Int)
  | float (repr : Text)
  | str (value : Text)
deriving DecidableEq

/-! ## Numbers -/

def isDigit (c : CodePoint) : Bool := decide (0x30 ≤ c.val ∧ c.val ≤ 0x39)

def isDigits (s : Text) : Bool := !s.isEmpty && s.all isDigit

/-- Nothing, or `e` with an exponent. -/
def isExponent : Text → Bool
  | [] => true
  | c :: rest =>
    decide (c.val = 0x65 ∨ c.val = 0x45) && isDigits (match rest with
      | sign :: digits => if sign.val = 0x2B ∨ sign.val = 0x2D then digits else rest
      | [] => [])

/-- What makes a number floating: a fraction, an exponent or both. -/
def isFractional : Text → Bool
  | [] => false
  | c :: rest =>
    if c.val = 0x2E then !(rest.takeWhile isDigit).isEmpty && isExponent (rest.dropWhile isDigit)
    else isExponent (c :: rest)

/-- The sign of a number, and what follows it. -/
def splitSign : Text → Bool × Text
  | c :: rest => if c.val = 0x2D then (true, rest) else (false, c :: rest)
  | [] => (false, [])

/-- The number a text writes; `read` says what a floating one is written as. -/
def readNumber (read : Text → Option Text) (s : Text) : Option Token :=
  let (negative, body) := splitSign s
  let whole := body.takeWhile isDigit
  let rest := body.dropWhile isDigit
  if whole = [] ∨ (whole.head? = some 0x30 ∧ whole ≠ [0x30]) then none
  else if rest = [] then
    if Text.maxDigits < whole.length then none
    else
      let value : Nat := Text.ofDigits (whole.map fun c => c.val - 0x30)
      some (.int (if negative then -value else value))
  else if isFractional rest then (read s).map .float
  else none

/-- What the floating number a text stands for is written as, unless it is infinite. It is written as a number that
reads back as itself. -/
structure FloatReader where
  read : Text → Option Text
  reads_back : ∀ s repr, read s = some repr → readNumber read repr = some (.float repr)

/-! ## Tokens from a text -/

/-- A code point of a number or of a name. -/
def isBare (c : CodePoint) : Bool :=
  isDigit c || decide (0x61 ≤ c.val ∧ c.val ≤ 0x7A ∨ 0x41 ≤ c.val ∧ c.val ≤ 0x5A ∨ c.val = 0x2B ∨ c.val = 0x2D
    ∨ c.val = 0x2E)

variable (floats : FloatReader)

def bareToken (s : Text) : Option Token :=
  if s = lit "null" then some .null
  else if s = lit "true" then some (.bool true)
  else if s = lit "false" then some (.bool false)
  else readNumber floats.read s

instance units_neZero : NeZero 0x10000 := ⟨by decide⟩

/-- A code point of a string, as it stands or by its number. -/
inductive StringUnit where
  | raw (c : CodePoint)
  | numbered (n : Fin 0x10000)
deriving DecidableEq

def IsHighSurrogate (n : Nat) : Prop := 0xD800 ≤ n ∧ n ≤ 0xDBFF

def IsLowSurrogate (n : Nat) : Prop := 0xDC00 ≤ n ∧ n ≤ 0xDFFF

instance (n : Nat) : Decidable (IsHighSurrogate n) := inferInstanceAs (Decidable (_ ∧ _))

instance (n : Nat) : Decidable (IsLowSurrogate n) := inferInstanceAs (Decidable (_ ∧ _))

/-- The code point two surrogates stand for. -/
def joinSurrogates (high low : Nat) (h : IsHighSurrogate high) (h' : IsLowSurrogate low) : CodePoint :=
  ⟨0x10000 + (high - 0xD800) * 0x400 + (low - 0xDC00), by
    unfold IsHighSurrogate at h
    unfold IsLowSurrogate at h'
    omega⟩

theorem unit_lt (n : Fin 0x10000) : n.val < 0x110000 := by omega

/-- The text of the units: a high and a low surrogate that are both given by number are one code point. -/
def joinUnits : List StringUnit → Text
  | [] => []
  | .raw c :: rest => c :: joinUnits rest
  | .numbered n :: .numbered m :: rest =>
    if h : IsHighSurrogate n ∧ IsLowSurrogate m then joinSurrogates n m h.1 h.2 :: joinUnits rest
    else ⟨n, unit_lt n⟩ :: joinUnits (.numbered m :: rest)
  | .numbered n :: rest => ⟨n, unit_lt n⟩ :: joinUnits rest

/-- Where the reader of tokens is; what it has read of a token stands in reverse. -/
inductive LexState where
  | between
  | bare (read : Text)
  | string (units : List StringUnit)
  | escape (units : List StringUnit)
  | number (units : List StringUnit) (value count : Nat)
deriving DecidableEq

def hexValue (c : CodePoint) : Option Nat :=
  if 0x30 ≤ c.val ∧ c.val ≤ 0x39 then some (c.val - 0x30)
  else if 0x61 ≤ c.val ∧ c.val ≤ 0x66 then some (c.val - 0x57)
  else if 0x41 ≤ c.val ∧ c.val ≤ 0x46 then some (c.val - 0x37)
  else none

/-- The code point behind a backslash stands for. -/
def unescape (c : CodePoint) : Option CodePoint :=
  match c.val with
  | 0x22 => some 0x22
  | 0x5C => some 0x5C
  | 0x2F => some 0x2F
  | 0x62 => some 0x08
  | 0x66 => some 0x0C
  | 0x6E => some 0x0A
  | 0x72 => some 0x0D
  | 0x74 => some 0x09
  | _ => none

def punctuation (c : CodePoint) : Option Token :=
  match c.val with
  | 0x7B => some .beginObject
  | 0x7D => some .endObject
  | 0x5B => some .beginArray
  | 0x5D => some .endArray
  | 0x2C => some .comma
  | 0x3A => some .colon
  | _ => none

/-- A code point where a token may start. -/
def lexBetween (tokens : List Token) (c : CodePoint) : Option (LexState × List Token) :=
  if c.val = 0x20 ∨ c.val = 0x09 ∨ c.val = 0x0A ∨ c.val = 0x0D then some (.between, tokens)
  else if c.val = 0x22 then some (.string [], tokens)
  else if isBare c then some (.bare [c], tokens)
  else (punctuation c).map fun token => (.between, token :: tokens)

/-- One code point; the tokens that have been read stand in reverse. -/
def lexStep : LexState × List Token → CodePoint → Option (LexState × List Token)
  | (.between, tokens), c => lexBetween tokens c
  | (.bare read, tokens), c =>
    if isBare c then some (.bare (c :: read), tokens)
    else (bareToken floats read.reverse).bind fun token => lexBetween (token :: tokens) c
  | (.string units, tokens), c =>
    if c.val = 0x22 then some (.between, .str (joinUnits units.reverse) :: tokens)
    else if c.val = 0x5C then some (.escape units, tokens)
    else if c.val < 0x20 then none
    else some (.string (.raw c :: units), tokens)
  | (.escape units, tokens), c =>
    if c.val = 0x75 then some (.number units 0 0, tokens)
    else (unescape c).map fun d => (.string (.raw d :: units), tokens)
  | (.number units value count, tokens), c =>
    (hexValue c).map fun d =>
      if count = 3 then (.string (.numbered (Fin.ofNat 0x10000 (16 * value + d)) :: units), tokens)
      else (.number units (16 * value + d) (count + 1), tokens)

/-- The tokens that have been read when the text ends. -/
def lexEnd : LexState × List Token → Option (List Token)
  | (.between, tokens) => some tokens
  | (.bare read, tokens) => (bareToken floats read.reverse).map fun token => token :: tokens
  | _ => none

def lex (s : Text) : Option (List Token) := do
  return (← lexEnd floats (← s.foldlM (lexStep floats) (.between, []))).reverse

/-! ## A value from tokens -/

/-- A container that has been begun; what it holds so far stands in reverse. -/
inductive Frame where
  | arr (items : List Json)
  | obj (members : Members) (key : Text)

/-- What the reader of values waits for. -/
inductive ReadState where
  | value (stack : List Frame)
  | firstItem (stack : List Frame)
  | firstKey (stack : List Frame)
  | nextKey (members : Members) (stack : List Frame)
  | colon (members : Members) (key : Text) (stack : List Frame)
  | done (value : Json) (stack : List Frame)

/-- The token begins a value. -/
def readValue (stack : List Frame) : Token → Option ReadState
  | .null => some (.done .null stack)
  | .bool value => some (.done (.bool value) stack)
  | .int value => some (.done (.int value) stack)
  | .float repr => some (.done (.float repr) stack)
  | .str value => some (.done (.str value) stack)
  | .beginArray => some (.firstItem stack)
  | .beginObject => some (.firstKey stack)
  | _ => none

/-- `_unique_json_object`: the dictionary of the pairs, unless a key is repeated. -/
def uniqueObject (pairs : Members) : Option Json :=
  if (pairs.map Prod.fst).Nodup then some (dict pairs) else none

/-- One token. -/
def readStep : ReadState → Token → Option ReadState
  | .value stack, token => readValue stack token
  | .firstItem stack, token =>
    if token = .endArray then some (.done (.arr []) stack) else readValue (.arr [] :: stack) token
  | .firstKey stack, token =>
    match token with
    | .endObject => some (.done (dict []) stack)
    | .str key => some (.colon [] key stack)
    | _ => none
  | .nextKey members stack, token =>
    match token with
    | .str key => some (.colon members key stack)
    | _ => none
  | .colon members key stack, token =>
    if token = .colon then some (.value (.obj members key :: stack)) else none
  | .done value (.arr items :: stack), token =>
    match token with
    | .comma => some (.value (.arr (value :: items) :: stack))
    | .endArray => some (.done (.arr (value :: items).reverse) stack)
    | _ => none
  | .done value (.obj members key :: stack), token =>
    match token with
    | .comma => some (.nextKey ((key, value) :: members) stack)
    | .endObject => (uniqueObject ((key, value) :: members).reverse).map fun object => .done object stack
    | _ => none
  | .done _ [], _ => none

/-- `json.loads` with unique keys, and without infinities and what is no number. -/
def loads (s : Text) : Option Json := do
  match ← (← lex floats s).foldlM readStep (.value []) with
  | .done value [] => some value
  | _ => none

/-! ## The compact form -/

def hexChar (n : Nat) : CodePoint := Fin.ofNat 0x110000 (if n < 10 then 0x30 + n else 0x57 + n)

def escapeNumber (n : Nat) : Text :=
  [0x5C, 0x75, hexChar (n / 0x1000 % 16), hexChar (n / 0x100 % 16), hexChar (n / 0x10 % 16), hexChar (n % 16)]

/-- How a code point stands in a string of ASCII. -/
def escapeAscii (c : CodePoint) : Text :=
  match c.val with
  | 0x22 => [0x5C, 0x22]
  | 0x5C => [0x5C, 0x5C]
  | 0x0A => [0x5C, 0x6E]
  | 0x0D => [0x5C, 0x72]
  | 0x09 => [0x5C, 0x74]
  | 0x0C => [0x5C, 0x66]
  | 0x08 => [0x5C, 0x62]
  | n =>
    if 0x20 ≤ n ∧ n ≤ 0x7E then [c]
    else if n < 0x10000 then escapeNumber n
    else escapeNumber (0xD800 + (n - 0x10000) / 0x400) ++ escapeNumber (0xDC00 + (n - 0x10000) % 0x400)

def decimalText (n : Nat) : Text :=
  if n = 0 then [0x30] else (Nat.digits 10 n).reverse.map fun d => Fin.ofNat 0x110000 (0x30 + d)

def Token.text : Token → Text
  | .beginObject => [0x7B]
  | .endObject => [0x7D]
  | .beginArray => [0x5B]
  | .endArray => [0x5D]
  | .comma => [0x2C]
  | .colon => [0x3A]
  | .null => lit "null"
  | .bool true => lit "true"
  | .bool false => lit "false"
  | .int value => if value < 0 then 0x2D :: decimalText value.natAbs else decimalText value.natAbs
  | .float repr => repr
  | .str value => 0x22 :: value.flatMap escapeAscii ++ [0x22]

def joinWithCommas : List (List Token) → List Token
  | [] => []
  | [part] => part
  | part :: rest => part ++ .comma :: joinWithCommas rest

mutual

/-- The tokens of a value, the keys of its objects sorted. -/
def tokens : Json → List Token
  | .null => [.null]
  | .bool value => [.bool value]
  | .int value => [.int value]
  | .float repr => [.float repr]
  | .str value => [.str value]
  | .arr items => .beginArray :: (joinWithCommas (tokensItems items) ++ [.endArray])
  | .obj members =>
    let sorted := (tokensMembers members).insertionSort KeyLE
    .beginObject :: (joinWithCommas (sorted.map fun (key, value) => .str key :: .colon :: value) ++ [.endObject])

def tokensItems : List Json → List (List Token)
  | [] => []
  | item :: rest => tokens item :: tokensItems rest

def tokensMembers : List (Text × Json) → List (Text × List Token)
  | [] => []
  | (key, value) :: rest => (key, tokens value) :: tokensMembers rest

end

/-- `json.dumps(value, ensure_ascii=True, sort_keys=True, separators=(",", ":"))`. -/
def dumpsCompact (value : Json) : Text := (tokens value).flatMap Token.text

end Json

end ArkClaw.Library
