import RecordStore.Json.Record

/-!
Values of several variants, told apart by a tag.

The tag is a member among the others, or the first element of an array. It may stand
behind the members that it explains, so the rest is kept as values and taken apart
afterwards; a problem found then has no place of its own in the text.
-/

namespace RecordStore.Json

/-- What a variant is made of: the members or the elements besides its tag. -/
inductive Content
  | members (given : Members)
  | elements (given : List Json)

namespace Tagged

/-- The name of the member that holds the tag. -/
def tagName : String := "type"

/-- Reads the members that are left of an object, the tag apart. -/
def readMembers {τ : Type} (tags : Choices τ) (depth : Nat) :
    (fuel : Nat) → (first : Bool) → Option τ → Members → Bytes → Reading (τ × Content)
  | 0, _, _, _, bytes => .error (.before .eofInObject bytes)
  | fuel + 1, first, tag, given, bytes =>
    match memberStart first bytes with
    | .error fault => .error fault
    | .ok none =>
      match tag with
      | none => .error (.loose (.missingMember tagName) bytes)
      | some tag => .ok ((tag, .members given.reverse), bytes)
    | .ok (some start) =>
      match readText start with
      | .error fault => .error fault
      | .ok (name, rest) =>
        if name = tagName then
          if tag.isSome then .error (.loose (.repeatedMember tagName) rest)
          else
            match colon rest with
            | .error fault => .error fault
            | .ok rest =>
              match readName tags depth rest with
              | .error fault => .error fault
              | .ok (tag, rest) => readMembers tags depth fuel false (some tag) given rest
        else
          match colon rest with
          | .error fault => .error fault
          | .ok rest =>
            match readValue depth rest with
            | .error fault => .error fault
            | .ok (value, rest) =>
              readMembers tags depth fuel false tag ((name, value) :: given) rest

/-- Reads the elements that are left of an array. -/
def readElements (depth : Nat) : (fuel : Nat) → List Json → Bytes → Reading (List Json)
  | 0, _, bytes => .error (.before .eofInArray bytes)
  | fuel + 1, given, bytes =>
    match elementStart false bytes with
    | .error fault => .error fault
    | .ok none => .ok (given.reverse, bytes)
    | .ok (some start) =>
      match readValue depth start with
      | .error fault => .error fault
      | .ok (value, rest) => readElements depth fuel (value :: given) rest

/-- Reads an array whose first element is the tag. -/
def readArray {τ : Type} (tags : Choices τ) (depth : Nat) (bytes : Bytes) :
    Reading (τ × Content) :=
  match elementStart true bytes with
  | .error fault => .error fault
  | .ok none => .error (.loose (.missingMember tagName) bytes)
  | .ok (some start) =>
    match readName tags depth start with
    | .error fault => .error fault
    | .ok (tag, rest) =>
      match readElements depth (fuelFor rest) [] rest with
      | .error fault => .error fault
      | .ok (given, rest) => .ok ((tag, .elements given), rest)

/-- Reads a tag and what stands beside it. -/
def read {τ : Type} (expected : String) (tags : Choices τ) : Reader (τ × Content) :=
  fun depth bytes =>
    match skipBlanks bytes with
    | [] => .error (.before .eofInValue [])
    | b :: rest =>
      if b = 91 then
        if depth ≤ 1 then .error (.atHead .tooDeep (b :: rest))
        else Record.leave Record.behindArray closeArray (readArray tags (depth - 1) rest)
      else if b = 123 then
        if depth ≤ 1 then .error (.atHead .tooDeep (b :: rest))
        else
          Record.leave Record.behindObject closeObject
            (readMembers tags (depth - 1) (fuelFor rest) true none [] rest)
      else .error (mismatch expected b rest)

end Tagged

/-! ### The content of a variant -/

/-- A member of a variant: its name, and how its value changes the variant. -/
structure Part (α : Type) where
  name : String
  decode : Json → Except Problem (α → α)
  /-- Whether the member has to be given. -/
  required : Bool

/-- A variant: how it is called in messages, the value to start from, and its members. -/
structure Variant (α : Type) where
  expected : String
  start : α
  parts : List (Part α)

namespace Variant

variable {α : Type}

/-- Takes up members one by one, those that are unknown left aside. -/
def decodeMembers (variant : Variant α) : Record.Draft α → Members → Except Problem (Record.Draft α)
  | draft, [] => .ok draft
  | draft, (name, value) :: members =>
    match variant.parts.find? fun part => part.name == name with
    | none => variant.decodeMembers draft members
    | some part =>
      if draft.given.contains name then .error (.repeatedMember name)
      else
        match part.decode value with
        | .error problem => .error problem
        | .ok change => variant.decodeMembers ⟨change draft.value, name :: draft.given⟩ members

/-- Takes up elements in the order of the members; gives the elements left over as well. -/
def decodeElements (variant : Variant α) :
    List (Part α) → (index : Nat) → α → List Json → Except Problem (α × List Json)
  | [], _, value, items => .ok (value, items)
  | part :: parts, index, value, [] =>
    if part.required then
      .error (.wrongLength index
        (variant.expected ++ " with " ++ Record.elements variant.parts.length))
    else variant.decodeElements parts (index + 1) value []
  | part :: parts, index, value, item :: items =>
    match part.decode item with
    | .error problem => .error problem
    | .ok change => variant.decodeElements parts (index + 1) (change value) items

/-- The value of a variant's content. -/
def decode (variant : Variant α) : Content → Except Problem α
  | .members given =>
    match variant.decodeMembers ⟨variant.start, []⟩ given with
    | .error problem => .error problem
    | .ok draft =>
      match variant.parts.find? fun part => part.required && !draft.given.contains part.name with
      | some part => .error (.missingMember part.name)
      | none => .ok draft.value
  | .elements given =>
    match variant.decodeElements variant.parts 0 variant.start given with
    | .error problem => .error problem
    | .ok (value, []) => .ok value
    | .ok (_, _ :: _) =>
      .error (.wrongLength given.length (Record.elements variant.parts.length ++ " in sequence"))

end Variant

/-- A string that was kept as a value. -/
def decodeString (expected : String) : Json → Except Problem String
  | .text s => .ok s
  | value => .error (.wrongKind (found value) expected)

/-- A choice that was kept as a value: its name, or an object with that one name and nothing. -/
def decodeChoice {α : Type} (choices : Choices α) : Json → Except Problem α
  | .text name =>
    match choices.lookup name with
    | some value => .ok value
    | none => .error (.unknownChoice name (choices.map (·.1)))
  | .object [(name, content)] =>
    match choices.lookup name with
    | none => .error (.unknownChoice name (choices.map (·.1)))
    | some value =>
      match content with
      | .null => .ok value
      | .object [] => .ok value
      | other => .error (.wrongKind (found other) "unit")
  | .object _ => .error (.wrongValue .object "map with a single key")
  | value => .error (.wrongKind (found value) "string or map")

/-- Reads a tagged value, its variants decoded by their tag. -/
def readTagged {τ α : Type} (expected : String) (tags : Choices τ)
    (decode : τ → Content → Except Problem α) : Reader α := fun depth bytes =>
  match Tagged.read expected tags depth bytes with
  | .error fault => .error fault
  | .ok ((tag, content), rest) =>
    match decode tag content with
    | .error problem => .error (.loose problem rest)
    | .ok value => .ok (value, rest)

end RecordStore.Json
