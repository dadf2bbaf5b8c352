import RecordStore.Json.Skip

/-!
Records read from text.

A record is written as an object, its members in any order, or as an array of its
members in their fixed order. A member that nobody knows is passed over and one that
is given twice is refused. `Record.read` takes the record apart while it reads the
text, so a problem of the shape is reported where it is met, before any problem of
the text behind it.
-/

namespace RecordStore.Json

/-- A reader of one value within a depth. -/
def Reader (α : Type) := (depth : Nat) → Bytes → Reading α

/-- A reader whose value is put to use by a function. -/
def Reader.map {α β : Type} (f : α → β) (reader : Reader α) : Reader β := fun depth bytes =>
  match reader depth bytes with
  | .error fault => .error fault
  | .ok (value, rest) => .ok (f value, rest)

/-- A member of a record: its name, and how its value changes the record read so far. -/
structure Field (α : Type) where
  name : String
  read : Reader (α → α)

/-- A record: how it is called in messages, its members, and the value to start from. -/
structure Record (α : Type) where
  expected : String
  start : α
  fields : List (Field α)
  /-- Whether every member has to be given. -/
  complete : Bool

namespace Record

variable {α : Type}

/-- A record read so far, and the names given so far. -/
structure Draft (α : Type) where
  value : α
  given : List String

/-- What the record is when its text ends: the first member that is wanting is missed. -/
def finish (record : Record α) (draft : Draft α) : Except Problem α :=
  match record.complete, record.fields.find? fun field => !draft.given.contains field.name with
  | true, some field => .error (.missingMember field.name)
  | _, _ => .ok draft.value

/-- Reads the value of a member, its name given, behind that name. -/
def readMember (record : Record α) (depth : Nat) (draft : Draft α) (name : String)
    (bytes : Bytes) : Reading (Draft α) :=
  match record.fields.find? fun field => field.name == name with
  | none =>
    match colon bytes with
    | .error fault => .error fault
    | .ok rest =>
      match skipValue rest with
      | .error fault => .error fault
      | .ok rest => .ok (draft, rest)
  | some field =>
    if draft.given.contains name then .error (.loose (.repeatedMember name) bytes)
    else
      match colon bytes with
      | .error fault => .error fault
      | .ok rest =>
        match field.read depth rest with
        | .error fault => .error fault
        | .ok (change, rest) => .ok (⟨change draft.value, name :: draft.given⟩, rest)

/-- Reads the members that are left of an object, up to its closing mark. -/
def readMembers (record : Record α) (depth : Nat) :
    (fuel : Nat) → (first : Bool) → Draft α → Bytes → Reading α
  | 0, _, _, bytes => .error (.before .eofInObject bytes)
  | fuel + 1, first, draft, bytes =>
    match memberStart first bytes with
    | .error fault => .error fault
    | .ok none =>
      match record.finish draft with
      | .error problem => .error (.loose problem bytes)
      | .ok value => .ok (value, bytes)
    | .ok (some start) =>
      match readText start with
      | .error fault => .error fault
      | .ok (name, rest) =>
        match record.readMember depth draft name rest with
        | .error fault => .error fault
        | .ok (draft, rest) => record.readMembers depth fuel false draft rest

/-- The text of a count of elements. -/
def elements (count : Nat) : String :=
  toString count ++ (if count = 1 then " element" else " elements")

/-- Reads members from the elements of an array, in their fixed order. -/
def readElements (record : Record α) (depth : Nat) :
    List (Field α) → (index : Nat) → α → Bytes → Reading α
  | [], _, value, bytes => .ok (value, bytes)
  | field :: fields, index, value, bytes =>
    match elementStart (index == 0) bytes with
    | .error fault => .error fault
    | .ok none =>
      if record.complete then
        .error (.loose (.wrongLength index
          (record.expected ++ " with " ++ elements record.fields.length)) bytes)
      else .ok (value, bytes)
    | .ok (some start) =>
      match field.read depth start with
      | .error fault => .error fault
      | .ok (change, rest) => record.readElements depth fields (index + 1) (change value) rest

/-- What is left after a record that failed, its closing mark passed where it stands. -/
def behindObject (bytes : Bytes) : Bytes :=
  match skipBlanks bytes with
  | [] => []
  | b :: rest => if b = 125 then rest else b :: rest

/-- What is left after a record in an array that failed, one mark passed where it stands. -/
def behindArray (bytes : Bytes) : Bytes :=
  match skipBlanks bytes with
  | [] => []
  | b :: rest => if b = 93 then rest else if b = 44 then skipBlanks rest else b :: rest

/-- Leaves an enclosure after its content, or ties the content's problem to a place. -/
def leave {β : Type} (behind : Bytes → Bytes) (close : Bytes → Except Fault Bytes) :
    Reading β → Reading β
  | .error fault => .error (fault.settle (behind fault.rest))
  | .ok (value, rest) =>
    match close rest with
    | .error fault => .error fault
    | .ok rest => .ok (value, rest)

/-- Reads a record. -/
def read (record : Record α) : Reader α := fun depth bytes =>
  match skipBlanks bytes with
  | [] => .error (.before .eofInValue [])
  | b :: rest =>
    if b = 91 then
      if depth ≤ 1 then .error (.atHead .tooDeep (b :: rest))
      else
        leave behindArray closeArray
          (record.readElements (depth - 1) record.fields 0 record.start rest)
    else if b = 123 then
      if depth ≤ 1 then .error (.atHead .tooDeep (b :: rest))
      else
        leave behindObject closeObject
          (record.readMembers (depth - 1) (fuelFor rest) true ⟨record.start, []⟩ rest)
    else .error (mismatch record.expected b rest)

end Record

/-! ### Scalars -/

/-- Reads a natural number below `2 ^ 64`. -/
def readNatural (expected : String) : Reader Nat := fun _ bytes =>
  let accept : Reading Number → Reading Nat
    | .error fault => .error fault
    | .ok (.natural n, rest) => .ok (n, rest)
    | .ok (.negative n, rest) => .error (.before (.wrongValue (.number (.negative n)) expected) rest)
    | .ok (.real f, rest) => .error (.before (.wrongKind (.number (.real f)) expected) rest)
  match skipBlanks bytes with
  | [] => .error (.before .eofInValue [])
  | b :: rest =>
    if b = 45 then accept (readNumber false rest)
    else if isDigit b then accept (readNumber true (b :: rest))
    else .error (mismatch expected b rest)

/-- Reads a string. -/
def readString (expected : String) : Reader String := fun _ bytes =>
  match skipBlanks bytes with
  | [] => .error (.before .eofInValue [])
  | b :: rest => if b = 34 then readText rest else .error (mismatch expected b rest)

/-- Reads the word null. -/
def readUnit : Reader Unit := fun _ bytes =>
  match skipBlanks bytes with
  | [] => .error (.before .eofInValue [])
  | b :: rest =>
    if b = 110 then
      match literal [117, 108, 108] rest with
      | .error fault => .error fault
      | .ok rest => .ok ((), rest)
    else .error (mismatch "unit" b rest)

/-! ### Choices -/

/-- A choice of one value by its name. -/
abbrev Choices (α : Type) := List (String × α)

/-- Reads the name of a choice. -/
def readName {α : Type} (choices : Choices α) : Reader α := fun depth bytes =>
  match readString "variant identifier" depth bytes with
  | .error fault => .error fault
  | .ok (name, rest) =>
    match choices.lookup name with
    | some value => .ok (value, rest)
    | none => .error (.before (.unknownChoice name (choices.map (·.1))) rest)

/-- Reads the one name of an object that stands for a choice. -/
def readOnlyName {α : Type} (choices : Choices α) : Reader α := fun depth bytes =>
  match skipBlanks bytes with
  | [] => .error (.before .eofInValue [])
  | b :: rest =>
    if b = 34 then readName choices depth (b :: rest)
    else if b = 125 then .error (.atHead .valueExpected (b :: rest))
    else .error (.atHead .nameNotText (b :: rest))

/-- Reads a choice: its name, or an object with that one name and null. -/
def readChoice {α : Type} (choices : Choices α) : Reader α := fun depth bytes =>
  match skipBlanks bytes with
  | [] => .error (.before .eofInValue [])
  | b :: rest =>
    if b = 34 then readName choices depth (b :: rest)
    else if b = 123 then
      if depth ≤ 1 then .error (.atHead .tooDeep (b :: rest))
      else
        match readOnlyName choices (depth - 1) rest with
        | .error fault => .error fault
        | .ok (value, rest) =>
          match colon rest with
          | .error fault => .error fault
          | .ok rest =>
            match readUnit (depth - 1) rest with
            | .error fault => .error fault
            | .ok (_, rest) =>
              match skipBlanks rest with
              | [] => .error (.before .eofInObject [])
              | c :: after =>
                if c = 125 then .ok (value, after) else .error (.before .valueExpected (c :: after))
    else .error (.atHead .valueExpected (b :: rest))

end RecordStore.Json
