import ArkClaw.Library.Text

/-!
# JSON values

The values a JSON document can hold. Numbers are whole or floating, and a floating one is given by the text the
printer writes for it, which determines it. The members of an object stand in the order they were inserted.
-/

namespace ArkClaw.Library

inductive Json where
  | null
  | bool (value : Bool)
  | int (value : Int)
  | float (repr : Text)
  | str (value : Text)
  | arr (items : List Json)
  | obj (members : List (Text × Json))

namespace Json

/-- The members of an object, in order. -/
abbrev Members := List (Text × Json)

/-- The value under a key. -/
def Members.get? (members : Members) (key : Text) : Option Json :=
  match members with
  | [] => none
  | (k, value) :: rest => if k = key then some value else Members.get? rest key

end Json

end ArkClaw.Library
