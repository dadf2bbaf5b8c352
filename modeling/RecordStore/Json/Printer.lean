import RecordStore.Decimal.Shortest
import RecordStore.Json.Value

/-!
JSON values as text.

The text has no blanks. A string escapes its quotation marks, backslashes and control
characters and keeps every other character as it is.
-/

namespace RecordStore.Json

/-- One character of a JSON string. -/
def escapeChar (c : Char) : List Char :=
  if c = '\"' then ['\\', '\"']
  else if c = '\\' then ['\\', '\\']
  else if c = '\n' then ['\\', 'n']
  else if c = '\r' then ['\\', 'r']
  else if c = '\t' then ['\\', 't']
  else if c = Char.ofNat 8 then ['\\', 'b']
  else if c = Char.ofNat 12 then ['\\', 'f']
  else if c.toNat < 32 then
    ['\\', 'u', '0', '0', Nat.digitChar (c.toNat / 16), Nat.digitChar (c.toNat % 16)]
  else [c]

/-- A text as a JSON string. -/
def renderText (text : String) : String :=
  String.ofList (['\"'] ++ text.toList.flatMap escapeChar ++ ['\"'])

/-- A number as JSON text. -/
def Number.render : Number → String
  | .natural n => toString n
  | .negative n => "-" ++ toString n
  | .real f => Decimal.render f

mutual

/-- A value as JSON text. -/
def render : Json → String
  | .null => "null"
  | .bool b => if b then "true" else "false"
  | .number n => n.render
  | .text s => renderText s
  | .array items => "[" ++ ",".intercalate (renderItems items) ++ "]"
  | .object members => "\x7b" ++ ",".intercalate (renderMembers members) ++ "\x7d"

/-- The texts of the elements of an array. -/
def renderItems : List Json → List String
  | [] => []
  | item :: items => render item :: renderItems items

/-- The texts of the members of an object, name and value. -/
def renderMembers : List (String × Json) → List String
  | [] => []
  | (name, value) :: members =>
    (renderText name ++ ":" ++ render value) :: renderMembers members

end

end RecordStore.Json
