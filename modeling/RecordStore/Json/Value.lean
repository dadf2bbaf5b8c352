/-!
JSON values.

An object keeps its members in the order of the text, repeated names included, so that
a reader which minds repetition and a reader which takes the last member both work
from the same value.
-/

namespace RecordStore

/-- A JSON number: an integer of the 64-bit ranges, or a floating-point number. -/
inductive Json.Number
  /-- The integer `n`, below `2 ^ 64`. -/
  | natural (n : Nat)
  /-- The integer `-n`, where `1 ≤ n ≤ 2 ^ 63`. -/
  | negative (n : Nat)
  /-- Every other number, minus zero included. -/
  | real (value : Float)
  deriving DecidableEq, Inhabited

/-- A JSON value. -/
inductive Json
  | null
  | bool (value : Bool)
  | number (value : Json.Number)
  | text (value : String)
  | array (items : List Json)
  | object (members : List (String × Json))
  deriving Inhabited

namespace Json

/-- The members of an object, in the order of the text. -/
abbrev Members := List (String × Json)

/-- The value of the last member of that name. -/
def Members.find? (members : Members) (name : String) : Option Json :=
  (members.reverse.find? fun member => member.1 == name).map (·.2)

end Json

end RecordStore
