import RecordStore.Json.Lexeme

/-!
JSON values read from text.

`elementStart` and `memberStart` step to the next element of an array or member of an
object, `closeArray` and `closeObject` leave it. Nesting is bounded by a depth that
each array and object lowers by one; a text that would reach zero is refused.
-/

namespace RecordStore.Json

/-- How many arrays and objects may enclose one another, and one more. -/
def depthLimit : Nat := 128

/-- Steps to the next element of an array; `none` when the array ends here. -/
def elementStart (first : Bool) (bytes : Bytes) : Except Fault (Option Bytes) :=
  match skipBlanks bytes with
  | [] => .error (.before .eofInArray [])
  | b :: rest =>
    if b = 93 then .ok none
    else if first then .ok (some (b :: rest))
    else if b = 44 then
      match skipBlanks rest with
      | [] => .error (.before .eofInValue [])
      | c :: after =>
        if c = 93 then .error (.atHead .trailingComma (c :: after)) else .ok (some (c :: after))
    else .error (.atHead .arrayCommaOrEnd (b :: rest))

/-- Steps to the next member of an object, behind the opening mark of its name;
`none` when the object ends here. -/
def memberStart (first : Bool) (bytes : Bytes) : Except Fault (Option Bytes) :=
  match skipBlanks bytes with
  | [] => .error (.before .eofInObject [])
  | b :: rest =>
    if b = 125 then .ok none
    else if first then
      if b = 34 then .ok (some rest) else .error (.atHead .nameNotText (b :: rest))
    else if b = 44 then
      match skipBlanks rest with
      | [] => .error (.before .eofInValue [])
      | c :: after =>
        if c = 34 then .ok (some after)
        else if c = 125 then .error (.atHead .trailingComma (c :: after))
        else .error (.atHead .nameNotText (c :: after))
    else .error (.atHead .objectCommaOrEnd (b :: rest))

/-- Steps over the colon behind a member's name. -/
def colon (bytes : Bytes) : Except Fault Bytes :=
  match skipBlanks bytes with
  | [] => .error (.before .eofInObject [])
  | b :: rest => if b = 58 then .ok rest else .error (.atHead .colonExpected (b :: rest))

/-- Leaves an array. -/
def closeArray (bytes : Bytes) : Except Fault Bytes :=
  match skipBlanks bytes with
  | [] => .error (.before .eofInArray [])
  | b :: rest =>
    if b = 93 then .ok rest
    else if b = 44 then
      match skipBlanks rest with
      | [] => .error (.before .trailingCharacters [])
      | c :: after =>
        .error (.atHead (if c = 93 then .trailingComma else .trailingCharacters) (c :: after))
    else .error (.atHead .trailingCharacters (b :: rest))

/-- Leaves an object. -/
def closeObject (bytes : Bytes) : Except Fault Bytes :=
  match skipBlanks bytes with
  | [] => .error (.before .eofInObject [])
  | b :: rest =>
    if b = 125 then .ok rest
    else if b = 44 then .error (.atHead .trailingComma (b :: rest))
    else .error (.atHead .trailingCharacters (b :: rest))

/-- Reads a value that is neither an array nor an object, its first byte given. -/
def scalar (b : UInt8) (rest : Bytes) : Reading Json :=
  if b = 110 then
    match literal [117, 108, 108] rest with
    | .error fault => .error fault
    | .ok rest => .ok (.null, rest)
  else if b = 116 then
    match literal [114, 117, 101] rest with
    | .error fault => .error fault
    | .ok rest => .ok (.bool true, rest)
  else if b = 102 then
    match literal [97, 108, 115, 101] rest with
    | .error fault => .error fault
    | .ok rest => .ok (.bool false, rest)
  else if b = 45 then
    match readNumber false rest with
    | .error fault => .error fault
    | .ok (n, rest) => .ok (.number n, rest)
  else if isDigit b then
    match readNumber true (b :: rest) with
    | .error fault => .error fault
    | .ok (n, rest) => .ok (.number n, rest)
  else if b = 34 then
    match readText rest with
    | .error fault => .error fault
    | .ok (s, rest) => .ok (.text s, rest)
  else .error (.atHead .valueExpected (b :: rest))

mutual

/-- Reads a value within a depth. -/
def readWithin : (fuel depth : Nat) → Bytes → Reading Json
  | 0, _, bytes => .error (.before .eofInValue bytes)
  | fuel + 1, depth, bytes =>
    match skipBlanks bytes with
    | [] => .error (.before .eofInValue [])
    | b :: rest =>
      if b = 91 then
        if depth ≤ 1 then .error (.atHead .tooDeep (b :: rest))
        else
          match readElements fuel (depth - 1) true rest with
          | .error fault => .error fault
          | .ok (items, rest) => .ok (.array items, rest)
      else if b = 123 then
        if depth ≤ 1 then .error (.atHead .tooDeep (b :: rest))
        else
          match readMembers fuel (depth - 1) true rest with
          | .error fault => .error fault
          | .ok (members, rest) => .ok (.object members, rest)
      else scalar b rest

/-- Reads the elements that are left of an array, and leaves it. -/
def readElements : (fuel depth : Nat) → (first : Bool) → Bytes → Reading (List Json)
  | 0, _, _, bytes => .error (.before .eofInArray bytes)
  | fuel + 1, depth, first, bytes =>
    match elementStart first bytes with
    | .error fault => .error fault
    | .ok none =>
      match closeArray bytes with
      | .error fault => .error fault
      | .ok rest => .ok ([], rest)
    | .ok (some start) =>
      match readWithin fuel depth start with
      | .error fault => .error fault
      | .ok (item, rest) =>
        match readElements fuel depth false rest with
        | .error fault => .error fault
        | .ok (items, rest) => .ok (item :: items, rest)

/-- Reads the members that are left of an object, and leaves it. -/
def readMembers : (fuel depth : Nat) → (first : Bool) → Bytes → Reading Members
  | 0, _, _, bytes => .error (.before .eofInObject bytes)
  | fuel + 1, depth, first, bytes =>
    match memberStart first bytes with
    | .error fault => .error fault
    | .ok none =>
      match closeObject bytes with
      | .error fault => .error fault
      | .ok rest => .ok ([], rest)
    | .ok (some start) =>
      match readText start with
      | .error fault => .error fault
      | .ok (name, rest) =>
        match colon rest with
        | .error fault => .error fault
        | .ok rest =>
          match readWithin fuel depth rest with
          | .error fault => .error fault
          | .ok (item, rest) =>
            match readMembers fuel depth false rest with
            | .error fault => .error fault
            | .ok (members, rest) => .ok ((name, item) :: members, rest)

end

/-- Fuel for any value of a text: every byte takes at most two calls. -/
def fuelFor (bytes : Bytes) : Nat :=
  2 * bytes.length + 2

/-- Reads a value within a depth. -/
def readValue (depth : Nat) (bytes : Bytes) : Reading Json :=
  readWithin (fuelFor bytes) depth bytes

/-- The fault of a scalar, or of the start of an array or object, where something else is
expected. -/
def mismatch (expected : String) (b : UInt8) (rest : Bytes) : Fault :=
  if b = 91 then .before (.wrongKind .array expected) (b :: rest)
  else if b = 123 then .before (.wrongKind .object expected) (b :: rest)
  else
    match scalar b rest with
    | .error fault => fault
    | .ok (value, rest) => .before (.wrongKind (found value) expected) rest

/-- Reads an object as its members within a depth. -/
def readObject (expected : String) (depth : Nat) (bytes : Bytes) : Reading Members :=
  match skipBlanks bytes with
  | [] => .error (.before .eofInValue [])
  | b :: rest =>
    if b = 123 then
      if depth ≤ 1 then .error (.atHead .tooDeep (b :: rest))
      else readMembers (fuelFor rest) (depth - 1) true rest
    else .error (mismatch expected b rest)

/-- Reads a whole text: nothing but blanks may follow the value. -/
def readAll {α : Type} (reader : Bytes → Reading α) (text : Bytes) : Except Error α :=
  match reader text with
  | .error fault => .error (fault.toError text)
  | .ok (value, rest) =>
    match skipBlanks rest with
    | [] => .ok value
    | b :: rest => .error ((Fault.atHead .trailingCharacters (b :: rest)).toError text)

/-- The value of a JSON text. -/
def parse (text : Bytes) : Except Error Json :=
  readAll (readValue depthLimit) text

/-- The members of a JSON text that is an object. -/
def parseObject (text : Bytes) : Except Error Members :=
  readAll (readObject "a map" depthLimit) text

end RecordStore.Json
