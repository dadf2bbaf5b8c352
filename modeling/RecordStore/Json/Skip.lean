import RecordStore.Json.Reader

/-!
Passing over a value that nobody asked for.

A value is passed over without being kept, so arrays and objects may nest to any
depth: the ones that are open are a stack of marks. Strings are not decoded, numbers
are not limited in size.
-/

namespace RecordStore.Json

/-- Passes over an escape behind its backslash. -/
def skipEscape : Bytes → Except Fault Bytes
  | [] => .error (.before .eofInString [])
  | b :: rest =>
    match letterEscape? b with
    | some _ => .ok rest
    | none =>
      if b = 117 then
        match hexEscape rest with
        | .error fault => .error fault
        | .ok (_, rest) => .ok rest
      else .error (.before .badEscape rest)

theorem skipEscape_length {bytes rest : Bytes} (read : skipEscape bytes = .ok rest) :
    rest.length < bytes.length := by
  unfold skipEscape at read
  split at read
  · cases read
  · split at read
    · cases read; simp
    · split at read
      · split at read
        · cases read
        · rename_i four
          have := hexEscape_length four
          cases read
          simp
          omega
      · cases read

/-- Passes over a string behind its opening mark. -/
def skipText : Bytes → Except Fault Bytes
  | [] => .error (.before .eofInString [])
  | b :: rest =>
    if b = 34 then .ok rest
    else if b = 92 then
      match _read : skipEscape rest with
      | .error fault => .error fault
      | .ok after => skipText after
    else if b < 32 then .error (.before .controlCharacter (b :: rest))
    else skipText rest
termination_by bytes => bytes.length
decreasing_by
  · have := skipEscape_length _read
    simp
    omega
  · simp

/-- Passes over the digits of an exponent behind its letter, at least one. -/
def skipExponent (bytes : Bytes) : Except Fault Bytes :=
  let digits :=
    match bytes with
    | b :: rest => if b = 43 ∨ b = 45 then rest else b :: rest
    | [] => []
  match digits with
  | [] => .error (.before .badNumber [])
  | b :: rest => if isDigit b then .ok (skipDigits rest) else .error (.before .badNumber rest)

/-- Passes over the digits of a fraction behind its point, at least one, and an exponent. -/
def skipFraction (bytes : Bytes) : Except Fault Bytes :=
  match bytes with
  | [] => .error (.before .badNumber [])
  | b :: rest =>
    if isDigit b then
      match skipDigits rest with
      | [] => .ok []
      | c :: after => if c = 101 ∨ c = 69 then skipExponent after else .ok (c :: after)
    else .error (.atHead .badNumber (b :: rest))

/-- Passes over what follows the integer part of a number. -/
def skipAfterInteger : Bytes → Except Fault Bytes
  | [] => .ok []
  | b :: rest =>
    if b = 46 then skipFraction rest
    else if b = 101 ∨ b = 69 then skipExponent rest
    else .ok (b :: rest)

/-- Passes over a number behind its sign. -/
def skipNumber : Bytes → Except Fault Bytes
  | [] => .error (.before .badNumber [])
  | b :: rest =>
    if b = 48 then
      match rest with
      | c :: _ =>
        if isDigit c then .error (.atHead .badNumber rest) else skipAfterInteger rest
      | [] => skipAfterInteger rest
    else if isDigit b then skipAfterInteger (skipDigits rest)
    else .error (.before .badNumber rest)

/-- Passes over a value that is neither an array nor an object, its first byte given. -/
def skipScalar (b : UInt8) (rest : Bytes) : Except Fault Bytes :=
  if b = 110 then literal [117, 108, 108] rest
  else if b = 116 then literal [114, 117, 101] rest
  else if b = 102 then literal [97, 108, 115, 101] rest
  else if b = 45 then skipNumber rest
  else if isDigit b then skipNumber (b :: rest)
  else if b = 34 then skipText rest
  else .error (.atHead .valueExpected (b :: rest))

/-- What is open around a place: an array or an object. -/
inductive Enclosure
  | array
  | object
  deriving DecidableEq

namespace Enclosure

/-- The byte that closes an enclosure. -/
def closing : Enclosure → UInt8
  | .array => 93
  | .object => 125

/-- The text ends inside. -/
def eof : Enclosure → Problem
  | .array => .eofInArray
  | .object => .eofInObject

/-- Neither a comma nor the end stands behind an item. -/
def commaOrEnd : Enclosure → Problem
  | .array => .arrayCommaOrEnd
  | .object => .objectCommaOrEnd

end Enclosure

/-- Passes over a member's name and its colon. -/
def skipName (bytes : Bytes) : Except Fault Bytes :=
  match skipBlanks bytes with
  | [] => .error (.before .eofInObject [])
  | b :: rest =>
    if b = 34 then
      match skipText rest with
      | .error fault => .error fault
      | .ok rest => colon rest
    else .error (.atHead .nameNotText (b :: rest))

/-- Where passing over goes on: at a value inside the open marks, or behind the whole. -/
inductive SkipState
  | value (enclosing : List Enclosure) (bytes : Bytes)
  | done (bytes : Bytes)

/-- Goes from behind an item, or behind an opening mark, to the next value: closes what
ends here and steps over one comma. -/
def nextItem : (fuel : Nat) → (comma : Bool) → List Enclosure → Bytes → Except Fault SkipState
  | 0, _, _, bytes => .ok (.done bytes)
  | _, _, [], bytes => .ok (.done bytes)
  | fuel + 1, comma, around :: outer, bytes =>
    match skipBlanks bytes with
    | [] => .error (.before around.eof [])
    | b :: rest =>
      if b = around.closing then nextItem fuel true outer rest
      else if comma ∧ b ≠ 44 then .error (.atHead around.commaOrEnd (b :: rest))
      else
        let start := if comma then rest else b :: rest
        match around with
        | .array => .ok (.value (around :: outer) start)
        | .object =>
          match skipName start with
          | .error fault => .error fault
          | .ok start => .ok (.value (around :: outer) start)

/-- Passes over values until every open mark is closed. -/
def skipWithin : (fuel : Nat) → List Enclosure → Bytes → Except Fault Bytes
  | 0, _, bytes => .error (.before .eofInValue bytes)
  | fuel + 1, marks, bytes =>
    match skipBlanks bytes with
    | [] => .error (.before .eofInValue [])
    | b :: rest =>
      let opened :=
        if b = 91 then nextItem (fuel + 1) false (.array :: marks) rest
        else if b = 123 then nextItem (fuel + 1) false (.object :: marks) rest
        else
          match skipScalar b rest with
          | .error fault => .error fault
          | .ok rest => nextItem (fuel + 1) true marks rest
      match opened with
      | .error fault => .error fault
      | .ok (.done rest) => .ok rest
      | .ok (.value marks rest) => skipWithin fuel marks rest

/-- Passes over one value. -/
def skipValue (bytes : Bytes) : Except Fault Bytes :=
  skipWithin (bytes.length + 1) [] bytes

end RecordStore.Json
