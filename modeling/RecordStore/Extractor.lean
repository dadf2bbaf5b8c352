import RecordStore.Error
import RecordStore.Json.Reader
import RecordStore.Pattern
import RecordStore.Text.Blank

/-!
Keys of records.

A key is either the first match of a pattern in the record, or a member of the record
read as a JSON object. A record without a match has the empty key; a record without
the member has none. A pattern sees the record with the replacement character in the
place of what is not UTF-8.
-/

namespace RecordStore

/-- The pattern that is used when none is given. -/
def defaultPattern : String := "ai-[\\d]+-[\\w]+"

/-- The member that is used when none is given. -/
def defaultField : String := "finc.record_id"

/-- How keys are made of records. -/
inductive Extractor
  | pattern (pattern : Pattern)
  | field (name : String)

namespace Json

/-- The number without its fraction, inside the range of 64-bit integers. -/
def truncate (f : Float) : Int :=
  f.toInt64.toInt

/-- The key that a value makes; a number is cut toward zero. -/
def toKey (field : String) : Json → Except RecordStore.Error String
  | .text s => .ok s
  | .number (.natural n) => .ok (toString n)
  | .number (.negative n) => .ok ("-" ++ toString n)
  | .number (.real f) => .ok (toString (truncate f))
  | .bool _ => .error (.unsupportedValue field .bool)
  | .null => .error (.unsupportedValue field .null)
  | .array _ => .error (.unsupportedValue field .array)
  | .object _ => .error (.unsupportedValue field .object)

end Json

namespace Extractor

/-- The extractor of a pattern's text. -/
def ofPattern (source : String) : Except Error Extractor :=
  match Pattern.ofText source with
  | .ok accepted => .ok (.pattern accepted)
  | .error problem => .error (.invalidPattern problem)

/-- The key that a pattern finds in a record. -/
def patternKey (p : Pattern) (record : Bytes) : String :=
  String.ofList ((p.find? (Utf8.decodeLossy record)).getD [])

/-- The key that a member of a record makes. -/
def fieldKey (name : String) (record : Bytes) : Except Error String :=
  match Json.parseObject record with
  | .error cause => .error (.parse cause)
  | .ok members =>
    match members.find? name with
    | some value => value.toKey name
    | none =>
      let shown := String.ofList (Text.trimEnd (Utf8.decodeLossy record))
      .error (.keyNotFound name shown)

/-- The key of a record. -/
def key (extractor : Extractor) (record : Bytes) : Except Error String :=
  match extractor with
  | .pattern p => .ok (patternKey p record)
  | .field f => fieldKey f record

/-- The name of the kind of extractor. -/
def name : Extractor → String
  | .pattern _ => "pattern"
  | .field _ => "field"

/-- The pattern or the member's name. -/
def source : Extractor → String
  | .pattern p => p.source
  | .field f => f

end Extractor

end RecordStore
