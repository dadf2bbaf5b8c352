import RecordStore.Error
import RecordStore.Text.Hex
import RecordStore.Text.Utf8

/-!
Where a database is, and what may be done with it.

Most texts are the path of a file. The empty text and `:memory:` stand for a database of
the connection's own. A text that starts with `file:` is an address: after a host, which
can only be this machine, comes the path, after a question mark options with `&` between
them, and a number sign ends it. In each of these parts a percent sign and two digits
stand for a byte. The options can make a database one in memory and can take rights away
from a connection, but give it none.
-/

namespace RecordStore

/-- What a connection may do with a file; each right includes those before it. The last one keeps
a database in memory. -/
inductive Access
  | readOnly
  | readWrite
  | create
  | memory
  deriving DecidableEq, Repr

/-- The place of a right among the rights. -/
def Access.rank : Access → Nat
  | .readOnly => 0
  | .readWrite => 1
  | .create => 2
  | .memory => 3

/-- The right of a name. -/
def Access.ofName? : String → Option Access
  | "ro" => some .readOnly
  | "rw" => some .readWrite
  | "rwc" => some .create
  | "memory" => some .memory
  | _ => none

/-- Where a database is. -/
inductive DatabasePlace
  | file (path : String)
  /-- In memory or in a file without a name, and lost when the connection is closed. -/
  | alone
  /-- In memory, for all connections that ask for that name. -/
  | shared (name : String)
  deriving DecidableEq, Repr

/-- Where a database is, and what may be done with it. -/
structure Address where
  place : DatabasePlace
  access : Access
  /-- Whether nobody is to change the file, so that nothing beside it counts. -/
  immutable : Bool
  deriving DecidableEq, Repr

namespace Address

/-! ### The parts of an address -/

/-- The byte of two digits. -/
def byte? (high low : Char) : Option UInt8 :=
  match Text.hexDigit? high, Text.hexDigit? low with
  | some high, some low => some (high * 16 + low).toUInt8
  | _, _ => none

/-- The bytes of a part; a zero byte ends it. -/
def partBytes : List Char → Bytes
  | [] => []
  | '%' :: high :: low :: rest =>
    match byte? high low with
    | some 0 => []
    | some byte => byte :: partBytes rest
    | none => Bytes.ofText "%" ++ partBytes (high :: low :: rest)
  | c :: rest => String.utf8EncodeChar c ++ partBytes rest

/-- The text of a part. -/
def partText (part : List Char) : String :=
  String.ofList (Utf8.decodeLossy (partBytes part))

/-- What stands before a mark and what stands behind it. -/
def cut (mark : Char) (text : List Char) : List Char × List Char :=
  (text.takeWhile (· ≠ mark), (text.dropWhile (· ≠ mark)).drop 1)

/-- What stands between the marks of a text. -/
def pieces (mark : Char) : List Char → List (List Char)
  | [] => [[]]
  | c :: rest =>
    if c = mark then [] :: pieces mark rest
    else
      match pieces mark rest with
      | [] => [[c]]
      | piece :: others => (c :: piece) :: others

/-- The name and the value of an option; one without a name is none. -/
def option? (piece : List Char) : Option (String × String) :=
  let (name, value) := cut '=' piece
  let name := partText name
  if name = "" then none else some (name, partText value)

/-- The path and the options of an address behind its host. -/
def parts (text : List Char) : String × List (String × String) :=
  let (path, options) := cut '?' (cut '#' text).1
  (partText path, (pieces '&' options).filterMap option?)

/-- Takes the host away. -/
def behindHost : List Char → Except DatabaseFault (List Char)
  | '/' :: '/' :: rest =>
    let host := rest.takeWhile (· ≠ '/')
    if host.isEmpty ∨ host = "localhost".toList then .ok (rest.dropWhile (· ≠ '/'))
    else .error (.badAuthority (String.ofList host))
  | text => .ok text

/-! ### Options -/

/-- What options decide. -/
structure Options where
  access : Access
  /-- Whether connections share what is in memory. -/
  sharing : Bool
  /-- The name of the file system. -/
  system : String
  deriving DecidableEq, Repr

/-- The file system of a machine. -/
def machineSystem : String := "unix"

/-- The file system that keeps files in memory. -/
def memorySystem : String := "memdb"

/-- The names of the file systems. -/
def systems : List String :=
  [machineSystem, "unix-none", "unix-dotfile", "unix-excl", memorySystem]

/-- Follows an option. -/
def Options.set (options : Options) : String × String → Except DatabaseFault Options
  | ("vfs", value) => .ok { options with system := value }
  | ("cache", value) =>
    if value = "shared" then .ok { options with sharing := true }
    else if value = "private" then .ok { options with sharing := false }
    else .error (.noSuchMode "cache" value)
  | ("mode", value) =>
    match Access.ofName? value with
    | none => .error (.noSuchMode "access" value)
    | some access =>
      if access ≠ .memory ∧ options.access.rank < access.rank then
        .error (.modeNotAllowed value)
      else .ok { options with access }
  | _ => .ok options

/-- Follows options one after another. -/
def Options.setAll (options : Options) : List (String × String) → Except DatabaseFault Options
  | [] =>
    if systems.contains options.system then .ok options
    else .error (.noSuchSystem options.system)
  | pair :: pairs =>
    match options.set pair with
    | .error fault => .error fault
    | .ok options => options.setAll pairs

/-- Whether the value of an option means yes: a number other than zero, or a word. -/
def meansYes (value : String) : Bool :=
  match value.toList.takeWhile Char.isDigit with
  | [] => ["on", "yes", "true"].contains value.toLower
  | digits => digits.any (· ≠ '0')

/-! ### The address of a text -/

/-- The text that stands for a database in memory. -/
def inMemory : String := ":memory:"

/-- Whether the file system that keeps files in memory shares one of that name. -/
def isSharedName (name : String) : Bool :=
  match name.toList with
  | first :: _ :: _ => first = '/' ∨ first = '\\'
  | _ => false

/-- Where an address leads. -/
def placeOf (name : String) (options : Options) : DatabasePlace :=
  if name = "" then .alone
  else if name = inMemory ∨ options.access = .memory then
    if options.sharing then .shared name else .alone
  else if options.system = memorySystem then
    if isSharedName name then .shared name else .alone
  else .file name

/-- Reads an address behind its first word. -/
def ofUri (text : List Char) (access : Access) : Except DatabaseFault Address :=
  match behindHost text with
  | .error fault => .error fault
  | .ok rest =>
    let (name, pairs) := parts rest
    match Options.setAll ⟨access, false, machineSystem⟩ pairs with
    | .error fault => .error fault
    | .ok options =>
      .ok ⟨placeOf name options, options.access, (pairs.lookup "immutable").any meansYes⟩

/-- The address that a text is, for a connection with a right. -/
def ofText (text : String) (access : Access) : Except OpenFault Address :=
  if text.toList.contains (Char.ofNat 0) then .error .nulInName
  else
    match text.toList with
    | 'f' :: 'i' :: 'l' :: 'e' :: ':' :: rest => (ofUri rest access).mapError .database
    | _ => .ok ⟨if text = "" ∨ text = inMemory then .alone else .file text, access, false⟩

end Address

end RecordStore
