import ArkClaw.Library.Json
import Mathlib.Algebra.GroupWithZero.Nat

/-!
# The text of a JSON value

What a printer with two spaces of indentation writes, with the keys of every object sorted and nothing escaped but what
must be. A text can be encoded in UTF-8 if no surrogate is in it.
-/

namespace ArkClaw.Library

namespace Text

def IsSurrogate (c : CodePoint) : Prop := 0xD800 ≤ c.val ∧ c.val ≤ 0xDFFF

instance (c : CodePoint) : Decidable (IsSurrogate c) := inferInstanceAs (Decidable (_ ∧ _))

/-- The text has an encoding. -/
def Encodable (s : Text) : Prop := ∀ c ∈ s, ¬IsSurrogate c

instance (s : Text) : Decidable s.Encodable := List.decidableBAll (fun c => ¬IsSurrogate c) s

/-- The bytes a code point takes. -/
def codePointBytes (c : CodePoint) : Nat :=
  if c.val < 0x80 then 1 else if c.val < 0x800 then 2 else if c.val < 0x10000 then 3 else 4

/-- The bytes the text takes. -/
def utf8Length (s : Text) : Nat := (s.map codePointBytes).sum

end Text

namespace Json

def hexDigit (n : Nat) : Text := lit (String.singleton (Nat.digitChar n))

/-- How a code point stands in a string. -/
def escape (c : CodePoint) : Text :=
  match c.val with
  | 0x08 => lit "\\b"
  | 0x09 => lit "\\t"
  | 0x0A => lit "\\n"
  | 0x0C => lit "\\f"
  | 0x0D => lit "\\r"
  | 0x22 => lit "\\\""
  | 0x5C => lit "\\\\"
  | n => if n < 0x20 then lit "\\u00" ++ hexDigit (n / 16) ++ hexDigit (n % 16) else [c]

def quote (s : Text) : Text := lit "\"" ++ s.flatMap escape ++ lit "\""

/-- A new line at an indentation. -/
def newline (indent : Nat) : Text := 0x0A :: List.replicate indent 0x20

/-- The parts one a line between brackets. -/
def block (opening closing : Text) (indent : Nat) (parts : List Text) : Text :=
  if parts = [] then opening ++ closing
  else opening ++ newline (indent + 2) ++ (parts.intersperse (lit "," ++ newline (indent + 2))).flatten ++
    newline indent ++ closing

mutual

/-- `json.dumps(value, ensure_ascii=False, indent=2, sort_keys=True)`, at an indentation. -/
def dumps (indent : Nat) : Json → Text
  | .null => lit "null"
  | .bool true => lit "true"
  | .bool false => lit "false"
  | .int value => lit (toString value)
  | .float repr => repr
  | .str value => quote value
  | .arr items => block (lit "[") (lit "]") indent (dumpsItems (indent + 2) items)
  | .obj members =>
    let sorted := (dumpsMembers (indent + 2) members).mergeSort fun a b => a.1 ≤ b.1
    block (lit "\x7b") (lit "\x7d") indent (sorted.map fun (key, value) => quote key ++ lit ": " ++ value)

def dumpsItems (indent : Nat) : List Json → List Text
  | [] => []
  | item :: rest => dumps indent item :: dumpsItems indent rest

def dumpsMembers (indent : Nat) : List (Text × Json) → List (Text × Text)
  | [] => []
  | (key, value) :: rest => (key, dumps indent value) :: dumpsMembers indent rest

end

end Json

end ArkClaw.Library
