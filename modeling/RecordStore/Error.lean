import RecordStore.Json.Problem
import RecordStore.Pattern.Problem
import RecordStore.Text.Quoted

/-!
Errors.

Every operation of the library fails with an `Error`, which says what is wrong and not
how it is worded; the wording is `Error.message`. `Error.code` is a name that stays
the same when the wording changes.
-/

namespace RecordStore

/-- What the file system refuses. -/
inductive IoFault
  | noEntry
  | alreadyThere
  | notFolder
  | isFolder
  | nameTooLong
  | nulInName
  /-- A file that was to be read as text is none. -/
  | notText
  /-- A fault of a device that says itself what is wrong. -/
  | device (message : String)
  deriving DecidableEq, Repr

/-- The text of a fault. -/
def IoFault.message : IoFault → String
  | .noEntry => "No such file or directory (os error 2)"
  | .alreadyThere => "File exists (os error 17)"
  | .notFolder => "Not a directory (os error 20)"
  | .isFolder => "Is a directory (os error 21)"
  | .nameTooLong => "File name too long (os error 36)"
  | .nulInName => "file name contained an unexpected NUL byte"
  | .notText => "stream did not contain valid UTF-8"
  | .device message => message

/-- What a database refuses. -/
inductive DatabaseFault
  | noTable
  | cannotOpen
  | notDatabase
  /-- A part of the file is missing. -/
  | damaged
  | readOnly
  /-- Another file, or none, is where the file was when it was opened. -/
  | moved
  /-- A change was broken off, and a connection that only reads cannot undo it. -/
  | unfinished
  /-- A folder is where a file is to be read. -/
  | unreadable
  /-- Nothing is where the file was when it was opened, so that no journal can belong to it. -/
  | gone
  /-- A folder is where a file is to be taken away. -/
  | stuck
  | noSuchMode (kind value : String)
  | modeNotAllowed (value : String)
  | noSuchSystem (name : String)
  | badAuthority (authority : String)
  deriving DecidableEq, Repr

/-- The number of a database's fault. -/
def DatabaseFault.code : DatabaseFault → Nat
  | .noTable => 1
  | .cannotOpen => 14
  | .notDatabase => 26
  | .damaged => 11
  | .readOnly => 8
  | .moved => 1032
  | .unfinished => 776
  | .unreadable => 266
  | .gone => 1802
  | .stuck => 2570
  | .noSuchMode _ _ => 1
  | .modeNotAllowed _ => 3
  | .noSuchSystem _ => 1
  | .badAuthority _ => 1

/-- What a database says of a fault. -/
def DatabaseFault.reason : DatabaseFault → String
  | .noTable => "no such table: blob"
  | .cannotOpen => "unable to open database file"
  | .notDatabase => "file is not a database"
  | .damaged => "database disk image is malformed"
  | .readOnly => "attempt to write a readonly database"
  | .moved => "attempt to write a readonly database"
  | .unfinished => "attempt to write a readonly database"
  | .unreadable => "disk I/O error"
  | .gone => "disk I/O error"
  | .stuck => "disk I/O error"
  | .noSuchMode kind value => "no such " ++ kind ++ " mode: " ++ value
  | .modeNotAllowed value => "access mode not allowed: " ++ value
  | .noSuchSystem name => "no such vfs: " ++ name
  | .badAuthority authority => "invalid uri authority: " ++ authority

/-- The text of a database's fault. -/
def DatabaseFault.message (fault : DatabaseFault) : String :=
  "error returned from database: (code: " ++ toString fault.code ++ ") " ++ fault.reason

/-- Why an index could not be opened. -/
inductive OpenFault
  /-- Nothing was ever written to the index. -/
  | absent
  | io (fault : IoFault)
  /-- Another handle has the index at that path open. -/
  | locked (path : String)
  /-- The path of a database holds a character that none can hold. -/
  | nulInName
  | database (fault : DatabaseFault)
  deriving DecidableEq, Repr

/-- The path of a name in a folder. -/
def pathWithin (folder name : String) : String :=
  if folder = "" ∨ folder.toList.getLast? = some '/' then folder ++ name
  else folder ++ "/" ++ name

/-- The path of the file in a log's folder that is locked. -/
def lockPath (path : String) : String :=
  pathWithin path "db"

/-- The text of a reason. -/
def OpenFault.message : OpenFault → String
  | .absent => "index does not exist"
  | .io fault => "IO error: " ++ fault.message
  | .locked path =>
    "IO error: could not acquire lock on " ++ Text.quoted (lockPath path) ++
      ": Os \x7b code: 11, kind: WouldBlock, message: " ++
      Text.quoted "Resource temporarily unavailable" ++ " \x7d"
  | .nulInName =>
    "error communicating with database: filename passed to SQLite must not contain nul bytes"
  | .database fault => fault.message

/-- What is wrong with settings. -/
inductive SettingsFault
  | emptyBatch
  | emptyPattern
  | emptyField
  | notJson (path : String) (cause : Json.Error)
  | indexMissing
  | indexUnused

/-- The text of a fault of settings. -/
def SettingsFault.message : SettingsFault → String
  | .emptyBatch => "batch_size must be at least 1"
  | .emptyPattern => "key pattern is empty"
  | .emptyField => "key field name is empty"
  | .notJson path cause => path ++ ": " ++ cause.message
  | .indexMissing => "--index is required for this backend"
  | .indexUnused => "--index needs --backend sled or sqlite"

/-- A value of JSON that no key can be made of. -/
inductive UnsupportedKind
  | bool
  | null
  | array
  | object
  deriving DecidableEq, Repr

/-- The name of a kind. -/
def UnsupportedKind.name : UnsupportedKind → String
  | .bool => "bool"
  | .null => "null"
  | .array => "array"
  | .object => "object"

/-- Which of the two numbers of a span. -/
inductive SpanPart
  | offset
  | length
  deriving DecidableEq, Repr

/-- The name of a part. -/
def SpanPart.name : SpanPart → String
  | .offset => "offset"
  | .length => "length"

/-- Why a stored value is no span. -/
inductive Corruption
  | tooShort (length : Nat)
  | unterminated (part : SpanPart)
  | negative (part : SpanPart) (value : Int)
  deriving DecidableEq, Repr

/-- The text of a corruption. -/
def Corruption.message : Corruption → String
  | .tooShort length => "expected 16 bytes, got " ++ toString length
  | .unterminated part => "unterminated " ++ part.name ++ " varint"
  | .negative part value => "negative " ++ part.name ++ ": " ++ toString value

/-- What can go wrong. -/
inductive Error
  /-- A text that is not the JSON that was expected. -/
  | parse (cause : Json.Error)
  | keyNotFound (field record : String)
  | unsupportedValue (field : String) (kind : UnsupportedKind)
  | invalidPattern (cause : Pattern.Problem)
  | invalidSettings (fault : SettingsFault)
  | backendOpen (path : String) (reason : OpenFault)
  | database (fault : DatabaseFault)
  | duplicateKey (key : String)
  | lookupUnsupported (backend : String)
  | valueOverflow (value : Nat)
  | corruptValue (corruption : Corruption)
  | io (fault : IoFault)
  | outOfRange (offset length size : Nat)
  /-- A part of the pipeline panicked; the part is named. -/
  | workerPanicked (part : String)

namespace Error

/-- The text of an error. -/
def message : Error → String
  | .parse cause => "JSON parse error: " ++ cause.message
  | .keyNotFound field record => "key " ++ field ++ " not found in: " ++ record
  | .unsupportedValue field kind =>
    "unsupported value type for key " ++ field ++ ": " ++ kind.name
  | .invalidPattern cause => "Invalid key pattern: " ++ cause.message
  | .invalidSettings fault => "Invalid configuration: " ++ fault.message
  | .backendOpen path reason => "Cannot open backend at " ++ path ++ ": " ++ reason.message
  | .database fault => "SQLite error: " ++ fault.message
  | .duplicateKey key => "Duplicate key rejected by backend: " ++ key
  | .lookupUnsupported backend => "Backend '" ++ backend ++ "' does not support lookups"
  | .valueOverflow value =>
    "Value " ++ toString value ++ " does not fit into an 8-byte varint slot"
  | .corruptValue corruption => "Corrupt index value: " ++ corruption.message
  | .io fault => "IO error: " ++ fault.message
  | .outOfRange offset length size =>
    "Range " ++ toString offset ++ "+" ++ toString length ++ " exceeds blob size " ++ toString size
  | .workerPanicked part => "Pipeline " ++ part ++ " thread panicked"

/-- The code of an error. -/
def code : Error → String
  | .parse _ => "PARSE_ERROR"
  | .keyNotFound _ _ => "KEY_NOT_FOUND"
  | .unsupportedValue _ _ => "UNSUPPORTED_VALUE"
  | .invalidPattern _ => "INVALID_CONFIG"
  | .invalidSettings _ => "INVALID_CONFIG"
  | .backendOpen _ _ => "BACKEND_OPEN"
  | .database _ => "BACKEND_ERROR"
  | .duplicateKey _ => "DUPLICATE_KEY"
  | .lookupUnsupported _ => "LOOKUP_UNSUPPORTED"
  | .valueOverflow _ => "CORRUPT_VALUE"
  | .corruptValue _ => "CORRUPT_VALUE"
  | .io _ => "IO_ERROR"
  | .outOfRange _ _ _ => "OUT_OF_RANGE"
  | .workerPanicked _ => "INTERNAL_ERROR"

/-- Whether the error comes from making a key of a record. -/
def isExtraction : Error → Bool
  | .parse _ => true
  | .keyNotFound _ _ => true
  | .unsupportedValue _ _ => true
  | _ => false

end Error

end RecordStore
