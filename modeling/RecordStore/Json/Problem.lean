import RecordStore.Bytes
import RecordStore.Decimal.Shortest
import RecordStore.Json.Value
import RecordStore.Text.Quoted

/-!
What can be wrong with a JSON text, and where.

A problem is either one of the text (it is not JSON) or one of its shape (it is JSON,
but not the value that was expected). While reading, a fault remembers what was left
of the text, which is all that is needed to name the line and the column afterwards.
-/

namespace RecordStore.Json

/-- The kind of a value that stands where another was expected. -/
inductive Found
  | null
  | bool (value : Bool)
  | number (value : Number)
  | text (value : String)
  | array
  | object

/-- What is wrong with a JSON text. -/
inductive Problem
  | eofInArray
  | eofInObject
  | eofInString
  | eofInValue
  | colonExpected
  | arrayCommaOrEnd
  | objectCommaOrEnd
  | literalExpected
  | valueExpected
  | badEscape
  | badNumber
  | numberOutOfRange
  | badCodePoint
  | controlCharacter
  | nameNotText
  | loneSurrogate
  | trailingComma
  | trailingCharacters
  | hexEscapeCut
  | tooDeep
  /-- A value of another kind than expected. -/
  | wrongKind (found : Found) (expected : String)
  /-- A value of the expected kind that is out of range. -/
  | wrongValue (found : Found) (expected : String)
  /-- A sequence with too few or too many elements. -/
  | wrongLength (length : Nat) (expected : String)
  /-- A choice that is not among the names offered. -/
  | unknownChoice (name : String) (offered : List String)
  | missingMember (name : String)
  | repeatedMember (name : String)

/-- The text of a number in a message. -/
def Number.describe : Number → String
  | .natural n => "integer `" ++ toString n ++ "`"
  | .negative n => "integer `-" ++ toString n ++ "`"
  | .real f => "floating point `" ++ Decimal.render f ++ "`"

/-- The text of a found value in a message. -/
def Found.describe : Found → String
  | .null => "null"
  | .bool b => "boolean `" ++ (if b then "true" else "false") ++ "`"
  | .number n => n.describe
  | .text s => "string " ++ Text.quoted s
  | .array => "sequence"
  | .object => "map"

/-- The kind of a value. -/
def found : Json → Found
  | .null => .null
  | .bool b => .bool b
  | .number n => .number n
  | .text s => .text s
  | .array _ => .array
  | .object _ => .object

/-- The names offered, each between backticks. -/
def offer (names : List String) : String :=
  let ticked := names.map fun name => "`" ++ name ++ "`"
  match ticked with
  | [] => "there are no variants"
  | [one] => one
  | [one, two] => one ++ " or " ++ two
  | many => "one of " ++ ", ".intercalate many

/-- The text of a problem. -/
def Problem.describe : Problem → String
  | .eofInArray => "EOF while parsing a list"
  | .eofInObject => "EOF while parsing an object"
  | .eofInString => "EOF while parsing a string"
  | .eofInValue => "EOF while parsing a value"
  | .colonExpected => "expected `:`"
  | .arrayCommaOrEnd => "expected `,` or `]`"
  | .objectCommaOrEnd => "expected `,` or `\x7d`"
  | .literalExpected => "expected ident"
  | .valueExpected => "expected value"
  | .badEscape => "invalid escape"
  | .badNumber => "invalid number"
  | .numberOutOfRange => "number out of range"
  | .badCodePoint => "invalid unicode code point"
  | .controlCharacter => "control character (\\u0000-\\u001F) found while parsing a string"
  | .nameNotText => "key must be a string"
  | .loneSurrogate => "lone leading surrogate in hex escape"
  | .trailingComma => "trailing comma"
  | .trailingCharacters => "trailing characters"
  | .hexEscapeCut => "unexpected end of hex escape"
  | .tooDeep => "recursion limit exceeded"
  | .wrongKind found expected => "invalid type: " ++ found.describe ++ ", expected " ++ expected
  | .wrongValue found expected => "invalid value: " ++ found.describe ++ ", expected " ++ expected
  | .wrongLength length expected =>
    "invalid length " ++ toString length ++ ", expected " ++ expected
  | .unknownChoice name offered =>
    "unknown variant `" ++ name ++ "`, expected " ++ offer offered
  | .missingMember name => "missing field `" ++ name ++ "`"
  | .repeatedMember name => "duplicate field `" ++ name ++ "`"

/-- A line, counted from one, and the number of bytes before the place on that line. -/
structure Place where
  line : Nat
  column : Nat
  deriving DecidableEq, Repr

/-- The place behind a byte that stands at a place. -/
def Place.after (p : Place) (b : UInt8) : Place :=
  if b = Bytes.newline then ⟨p.line + 1, 0⟩ else ⟨p.line, p.column + 1⟩

/-- The place behind a run of bytes from the start of a text. -/
def Place.behind (bytes : Bytes) : Place :=
  bytes.foldl Place.after ⟨1, 0⟩

/-- A problem met while reading, and what was left of the text then. -/
structure Fault where
  problem : Problem
  rest : Bytes
  /-- Whether the problem belongs to that place; one of the shape may not. -/
  placed : Bool

/-- A problem in front of `rest`. -/
def Fault.before (problem : Problem) (rest : Bytes) : Fault :=
  ⟨problem, rest, true⟩

/-- A problem with the first byte of `rest`, placed behind that byte. -/
def Fault.atHead (problem : Problem) (rest : Bytes) : Fault :=
  ⟨problem, rest.drop 1, true⟩

/-- A problem of the shape alone, found when `rest` was left. -/
def Fault.loose (problem : Problem) (rest : Bytes) : Fault :=
  ⟨problem, rest, false⟩

/-- Ties a problem without a place to the place where `rest` is left. -/
def Fault.settle (fault : Fault) (rest : Bytes) : Fault :=
  if fault.placed then fault else ⟨fault.problem, rest, true⟩

/-- Why a text was refused. -/
structure Error where
  problem : Problem
  place : Option Place

/-- The error that a fault is in a whole text. -/
def Fault.toError (text : Bytes) (fault : Fault) : Error where
  problem := fault.problem
  place :=
    if fault.placed then some (Place.behind (text.take (text.length - fault.rest.length)))
    else none

/-- The text of an error. -/
def Error.message (e : Error) : String :=
  match e.place with
  | none => e.problem.describe
  | some p =>
    e.problem.describe ++ " at line " ++ toString p.line ++ " column " ++ toString p.column

end RecordStore.Json
