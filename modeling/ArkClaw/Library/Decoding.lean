import ArkClaw.Library.JsonText

/-!
# Texts from bytes, and what is written in them

Bytes decode to a text as UTF-8, strictly: an overlong form, a surrogate and what is above the last code point have no
reading. A text splits into lines at every boundary that `str.splitlines` knows, and at a code point; a part may be a
whole number as `int` reads it.
-/

namespace ArkClaw.Library

open Option (bind_eq_some_iff)

abbrev Bytes := List UInt8

namespace Bytes

/-- The number that bytes write, the most significant one first. -/
def bigEndian (bytes : Bytes) : Nat := bytes.foldl (fun n b => 256 * n + b.toNat) 0

/-- The six low bits of a byte that goes on. -/
def continuation (b : UInt8) : Option Nat :=
  if 0x80 ≤ b.toNat ∧ b.toNat < 0xC0 then some (b.toNat - 0x80) else none

def codePoint (n : Nat) : Option CodePoint := if h : n < 0x110000 then some ⟨n, h⟩ else none

/-- `bytes.decode("utf-8")`. -/
def decodeUtf8 : Bytes → Option Text
  | [] => some []
  | b :: rest =>
    if b.toNat < 0x80 then do
      return (← codePoint b.toNat) :: (← decodeUtf8 rest)
    else if b.toNat < 0xE0 then
      match rest with
      | b₁ :: rest => do
        let n := 64 * (b.toNat - 0xC0) + (← continuation b₁)
        if 0xC0 ≤ b.toNat ∧ 0x80 ≤ n then return (← codePoint n) :: (← decodeUtf8 rest) else none
      | _ => none
    else if b.toNat < 0xF0 then
      match rest with
      | b₁ :: b₂ :: rest => do
        let n := 64 * (64 * (b.toNat - 0xE0) + (← continuation b₁)) + (← continuation b₂)
        if 0x800 ≤ n ∧ ¬(0xD800 ≤ n ∧ n ≤ 0xDFFF) then return (← codePoint n) :: (← decodeUtf8 rest) else none
      | _ => none
    else
      match rest with
      | b₁ :: b₂ :: b₃ :: rest => do
        let n := 64 * (64 * (64 * (b.toNat - 0xF0) + (← continuation b₁)) + (← continuation b₂)) + (← continuation b₃)
        if 0x10000 ≤ n then return (← codePoint n) :: (← decodeUtf8 rest) else none
      | _ => none

end Bytes

namespace Text

/-- The bytes of a code point. -/
def encodeCodePoint (c : CodePoint) : Bytes :=
  let n := c.val
  let tail (shift : Nat) : UInt8 := UInt8.ofNat (0x80 + n / shift % 0x40)
  if n < 0x80 then [UInt8.ofNat n]
  else if n < 0x800 then [UInt8.ofNat (0xC0 + n / 0x40), tail 1]
  else if n < 0x10000 then [UInt8.ofNat (0xE0 + n / 0x1000), tail 0x40, tail 1]
  else [UInt8.ofNat (0xF0 + n / 0x40000), tail 0x1000, tail 0x40, tail 1]

/-- `str.encode("utf-8")`, unless it raises. -/
def encodeUtf8 (s : Text) : Option Bytes := if s.Encodable then some (s.flatMap encodeCodePoint) else none

end Text

namespace Bytes

/-! ## Decoding what is encoded in ASCII, and what is decoded -/

theorem decodeUtf8_cons {b : UInt8} (h : b.toNat < 0x80) (rest : Bytes) :
    decodeUtf8 (b :: rest) = (codePoint b.toNat).bind fun c => (decodeUtf8 rest).map (c :: ·) := by
  rw [decodeUtf8.eq_def]
  dsimp only
  rw [if_pos h]
  cases decodeUtf8 rest <;> rfl

/-- A text of ASCII is decoded to itself. -/
theorem decodeUtf8_ascii {s : Text} (h : ∀ c ∈ s, c.val < 0x80) : decodeUtf8 (s.flatMap Text.encodeCodePoint) = some s := by
  induction s with
  | nil => rfl
  | cons c rest ih =>
    have hc : c.val < 0x80 := h c List.mem_cons_self
    have hbyte : (UInt8.ofNat c.val).toNat = c.val := Nat.mod_eq_of_lt (by omega)
    have hencode : Text.encodeCodePoint c = [UInt8.ofNat c.val] := if_pos hc
    have hpoint : codePoint c.val = some c := dif_pos c.isLt
    rw [List.flatMap_cons, hencode, List.singleton_append, decodeUtf8_cons (by omega), hbyte, hpoint,
      ih fun d hd => h d (List.mem_cons_of_mem _ hd)]
    rfl

theorem codePoint_val {n : Nat} {c : CodePoint} (h : codePoint n = some c) : c.val = n := by
  unfold codePoint at h
  split at h
  · rw [← Option.some.inj h]
  · cases h

theorem continuation_lt {b : UInt8} {n : Nat} (h : continuation b = some n) : n < 0x40 := by
  unfold continuation at h
  split at h
  next hb =>
    obtain rfl := Option.some.inj h
    omega
  next => cases h

theorem encodable_cons {n : Nat} {c : CodePoint} {rest s : Text} (hn : ¬(0xD800 ≤ n ∧ n ≤ 0xDFFF))
    (hc : codePoint n = some c) (hrest : rest.Encodable) (hs : some (c :: rest) = some s) : s.Encodable := by
  obtain rfl := Option.some.inj hs
  refine List.forall_mem_cons.mpr ⟨?_, hrest⟩
  unfold Text.IsSurrogate
  rw [codePoint_val hc]
  exact hn

/-- What is decoded holds no surrogates. -/
theorem decodeUtf8_encodable {bytes : Bytes} {s : Text} (h : decodeUtf8 bytes = some s) : s.Encodable := by
  fun_induction decodeUtf8 bytes generalizing s with
  | case1 =>
    obtain rfl := Option.some.inj h
    exact fun _ => nofun
  | case2 b rest hb ih =>
    obtain ⟨c, hc, h⟩ := bind_eq_some_iff.mp h
    obtain ⟨others, hothers, h⟩ := bind_eq_some_iff.mp h
    exact encodable_cons (by omega) hc (ih hothers) h
  | case3 b _ hb b₁ rest ih =>
    obtain ⟨n₁, hn₁, h⟩ := bind_eq_some_iff.mp h
    dsimp only at h
    split at h
    next =>
      obtain ⟨c, hc, h⟩ := bind_eq_some_iff.mp h
      obtain ⟨others, hothers, h⟩ := bind_eq_some_iff.mp h
      have := continuation_lt hn₁
      exact encodable_cons (by omega) hc (ih hothers) h
    next => cases h
  | case4 => cases h
  | case5 b _ _ hb b₁ b₂ rest ih =>
    obtain ⟨n₁, hn₁, h⟩ := bind_eq_some_iff.mp h
    obtain ⟨n₂, hn₂, h⟩ := bind_eq_some_iff.mp h
    dsimp only at h
    split at h
    next hn =>
      obtain ⟨c, hc, h⟩ := bind_eq_some_iff.mp h
      obtain ⟨others, hothers, h⟩ := bind_eq_some_iff.mp h
      exact encodable_cons hn.2 hc (ih hothers) h
    next => cases h
  | case6 => cases h
  | case7 b _ _ hb b₁ b₂ b₃ rest ih =>
    obtain ⟨n₁, hn₁, h⟩ := bind_eq_some_iff.mp h
    obtain ⟨n₂, hn₂, h⟩ := bind_eq_some_iff.mp h
    obtain ⟨n₃, hn₃, h⟩ := bind_eq_some_iff.mp h
    dsimp only at h
    split at h
    next hn =>
      obtain ⟨c, hc, h⟩ := bind_eq_some_iff.mp h
      obtain ⟨others, hothers, h⟩ := bind_eq_some_iff.mp h
      exact encodable_cons (by omega) hc (ih hothers) h
    next => cases h
  | case8 => cases h

end Bytes

namespace Text

/-- The code points a line ends at. -/
def isLineBoundary (c : CodePoint) : Bool :=
  let n := c.val
  decide (0x0A ≤ n ∧ n ≤ 0x0D ∨ 0x1C ≤ n ∧ n ≤ 0x1E ∨ n = 0x85 ∨ n = 0x2028 ∨ n = 0x2029)

/-- The text with one boundary where a carriage return and a line feed are. -/
def joinLineFeeds : Text → Text
  | [] => []
  | c :: rest => if c.val = 0x0D ∧ rest.head? = some 0x0A then joinLineFeeds rest else c :: joinLineFeeds rest

/-- The lines of a text of which `line` has been read, in reverse. -/
def splitLinesFrom (line : Text) : Text → List Text
  | [] => if line = [] then [] else [line.reverse]
  | c :: rest =>
    if isLineBoundary c then line.reverse :: splitLinesFrom [] rest else splitLinesFrom (c :: line) rest

/-- `str.splitlines`. -/
def splitLines (s : Text) : List Text := splitLinesFrom [] (joinLineFeeds s)

/-- The parts between the occurrences of a code point. -/
def splitAt (c : CodePoint) : Text → List Text
  | [] => [[]]
  | d :: rest =>
    if d = c then [] :: splitAt c rest
    else match splitAt c rest with
      | part :: parts => (d :: part) :: parts
      | [] => [[d]]

/-- What stands before the first occurrence of a code point, and what after it. -/
def splitOnce (c : CodePoint) : Text → Option (Text × Text)
  | [] => none
  | d :: rest =>
    if d = c then some ([], rest)
    else (splitOnce c rest).map fun (before, after) => (d :: before, after)

/-- The zeros of the decimal digits; each is followed by the nine others. -/
def decimalZeros : List Nat :=
  [0x30, 0x660, 0x6F0, 0x7C0, 0x966, 0x9E6, 0xA66, 0xAE6, 0xB66, 0xBE6, 0xC66, 0xCE6, 0xD66, 0xDE6, 0xE50, 0xED0, 0xF20,
    0x1040, 0x1090, 0x17E0, 0x1810, 0x1946, 0x19D0, 0x1A80, 0x1A90, 0x1B50, 0x1BB0, 0x1C40, 0x1C50, 0xA620, 0xA8D0,
    0xA900, 0xA9D0, 0xA9F0, 0xAA50, 0xABF0, 0xFF10, 0x104A0, 0x10D30, 0x11066, 0x110F0, 0x11136, 0x111D0, 0x112F0,
    0x11450, 0x114D0, 0x11650, 0x116C0, 0x11730, 0x118E0, 0x11950, 0x11C50, 0x11D50, 0x11DA0, 0x11F50, 0x16A60, 0x16AC0,
    0x16B50, 0x1D7CE, 0x1D7D8, 0x1D7E2, 0x1D7EC, 0x1D7F6, 0x1E140, 0x1E2F0, 0x1E4F0, 0x1E950, 0x1FBF0]

/-- The value of a decimal digit. -/
def decimal (c : CodePoint) : Option Nat :=
  (decimalZeros.find? fun first => decide (first ≤ c.val ∧ c.val < first + 10)).map fun first => c.val - first

/-- The number that decimal digits write. -/
def ofDigits (digits : List Nat) : Nat := digits.foldl (fun n d => 10 * n + d) 0

/-- The digits of a number, where an underscore may stand between two. -/
def digitsFrom : Text → Option (List Nat)
  | [] => none
  | [c] => (decimal c).map fun d => [d]
  | c :: d :: rest => do
    let digit ← decimal c
    let digits ← if d.val = 0x5F then digitsFrom rest else digitsFrom (d :: rest)
    return digit :: digits

/-- The most digits that are read as one number. -/
def maxDigits : Nat := 4300

/-- `int` of a text without whitespace at its ends. -/
def toInt (s : Text) : Option Int :=
  let (negative, s) : Bool × Text := match s with
    | c :: rest => if c.val = 0x2D then (true, rest) else if c.val = 0x2B then (false, rest) else (false, s)
    | [] => (false, [])
  match digitsFrom s with
  | none => none
  | some digits =>
    if maxDigits < digits.length then none
    else some (if negative then -(ofDigits digits : Int) else ofDigits digits)

end Text

end ArkClaw.Library
