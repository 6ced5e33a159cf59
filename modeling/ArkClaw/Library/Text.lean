import Mathlib.Algebra.GroupWithZero.Nat
import Mathlib.Data.List.Basic
import Mathlib.Data.List.DropRight

/-!
# Texts of code points

A text is a list of code points. Unlike a `String` it may hold surrogates, as the strings of the modelled
language do: a decoder that meets an unpaired escape stores one. `strip` removes the whitespace of both ends;
a text is blank if nothing is left.
-/

namespace ArkClaw.Library

/-- A Unicode code point, surrogates included. -/
abbrev CodePoint := Fin 0x110000

abbrev Text := List CodePoint

instance codePoints_neZero : NeZero 0x110000 := ⟨by decide⟩

instance : LawfulBEq CodePoint := inferInstance

instance : LawfulBEq Text := inferInstance

/-- The text of a string literal. -/
def lit (s : String) : Text :=
  s.toList.map fun c => ⟨c.toNat, by
    rcases c.valid with h | ⟨_, h⟩
    · exact Nat.lt_trans h (by decide)
    · exact h⟩

namespace Text

/-- The code points that count as whitespace. -/
def isSpace (c : CodePoint) : Bool :=
  let n := c.val
  decide (9 ≤ n ∧ n ≤ 13 ∨ 0x1C ≤ n ∧ n ≤ 0x20 ∨ n = 0x85 ∨ n = 0xA0 ∨ n = 0x1680
    ∨ 0x2000 ≤ n ∧ n ≤ 0x200A ∨ n = 0x2028 ∨ n = 0x2029 ∨ n = 0x202F ∨ n = 0x205F ∨ n = 0x3000)

/-- The text without the whitespace of either end. -/
def strip (s : Text) : Text := (s.dropWhile isSpace).rdropWhile isSpace

/-- Nothing but whitespace. -/
def Blank (s : Text) : Prop := s.strip = []

instance (s : Text) : Decidable s.Blank := inferInstanceAs (Decidable (_ = _))

/-- The text with the ASCII capitals replaced by small letters. -/
def lower (s : Text) : Text := s.map fun c => if 0x41 ≤ c.val ∧ c.val ≤ 0x5A then c + 32 else c

/-- The ASCII letters a code point folds to; one whose folding has none of them is kept. -/
def foldCodePoint (c : CodePoint) : Text :=
  match c.val with
  | 0xDF | 0x1E9E => lit "ss"
  | 0x130 => lit "i\u0307"
  | 0x149 => lit "\u02BCn"
  | 0x17F => lit "s"
  | 0x1F0 => lit "j\u030C"
  | 0x1E96 => lit "h\u0331"
  | 0x1E97 => lit "t\u0308"
  | 0x1E98 => lit "w\u030A"
  | 0x1E99 => lit "y\u030A"
  | 0x1E9A => lit "a\u02BE"
  | 0x212A => lit "k"
  | 0xFB00 => lit "ff"
  | 0xFB01 => lit "fi"
  | 0xFB02 => lit "fl"
  | 0xFB03 => lit "ffi"
  | 0xFB04 => lit "ffl"
  | 0xFB05 | 0xFB06 => lit "st"
  | _ => lower [c]

/-- `str.casefold` as far as ASCII letters go: whether an ASCII word occurs in the folded text. -/
def FoldedContains (s word : Text) : Prop := word <:+: s.flatMap foldCodePoint

instance (s word : Text) : Decidable (s.FoldedContains word) := inferInstanceAs (Decidable (_ <:+: _))

/-- A stripped text neither starts nor ends with whitespace. -/
def Stripped (s : Text) : Prop := (∀ c ∈ s.head?, isSpace c = false) ∧ ∀ c ∈ s.getLast?, isSpace c = false

theorem strip_eq_self {s : Text} (h : s.Stripped) : s.strip = s := by
  have hhead : s.dropWhile isSpace = s := by
    cases s with
    | nil => rfl
    | cons c rest => exact List.dropWhile_cons_of_neg (by simp [h.1 c rfl])
  unfold strip
  rw [hhead, List.rdropWhile_eq_self_iff]
  intro hne
  simp [h.2 _ (List.getLast?_eq_getLast_of_ne_nil hne)]

theorem stripped_strip (s : Text) : s.strip.Stripped := by
  constructor
  · intro c hc
    have hfront : s.strip <+: s.dropWhile isSpace := List.rdropWhile_prefix _ _
    have hhead : (s.dropWhile isSpace).head? = some c := by
      obtain ⟨tail, htail⟩ := hfront
      rw [← htail]
      cases hs : s.strip with
      | nil => simp [hs] at hc
      | cons d rest => simpa [hs] using hc
    by_contra hspace
    have := List.head?_dropWhile_not isSpace s
    rw [hhead] at this
    simp_all
  · intro c hc
    by_contra hspace
    have hne : s.strip ≠ [] := by
      intro hnil
      simp [hnil] at hc
    have hlast := List.rdropWhile_last_not isSpace (s.dropWhile isSpace) hne
    rw [List.getLast?_eq_getLast_of_ne_nil hne] at hc
    simp_all [strip]

@[simp] theorem strip_strip (s : Text) : s.strip.strip = s.strip := strip_eq_self (stripped_strip s)

end Text

end ArkClaw.Library
