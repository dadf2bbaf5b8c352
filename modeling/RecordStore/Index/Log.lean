import RecordStore.Disk
import RecordStore.Span.Slots

/-!
An index in a log.

A batch is written whole or not at all, and the last value of a key counts. The log is
opened at its first use and held until the index is closed; reading does not create it.
-/

namespace RecordStore

/-- An index in a log at a path, with the log it holds. -/
structure LogIndex where
  path : String
  held : Option Nat
  deriving DecidableEq, Repr

namespace LogIndex

/-- An index that holds no log yet. -/
def ofPath (path : String) : LogIndex :=
  ⟨path, none⟩

/-- The log of the index, opened if it is not held. Reading asks for one that is there. -/
def acquire (create : Bool) (index : LogIndex) (disk : Disk) :
    Except Error Nat × LogIndex × Disk :=
  let refuse (reason : OpenFault) (disk : Disk) : Except Error Nat × LogIndex × Disk :=
    (.error (.backendOpen index.path reason), index, disk)
  match index.held with
  | some id => (.ok id, index, disk)
  | none =>
    if !create && !disk.has index.path then refuse .absent disk
    else
      match disk.openLog index.path with
      | (.error fault, disk) => refuse (.io fault) disk
      | (.ok id, disk) =>
        let log := disk.log id
        if log.held then refuse (.locked index.path) disk
        else (.ok id, { index with held := some id }, disk.setLog id { log with held := true })

/-- The stored forms of the entries of a batch. -/
def encodeAll : List Entry → Except Error (List (String × Bytes))
  | [] => .ok []
  | entry :: entries =>
    match entry.span.encode with
    | .error error => .error error
    | .ok stored =>
      match encodeAll entries with
      | .error error => .error error
      | .ok rest => .ok ((entry.key, stored) :: rest)

/-- Writes a batch. -/
def write (entries : List Entry) (index : LogIndex) (disk : Disk) :
    Except Error Unit × LogIndex × Disk :=
  match index.acquire true disk with
  | (.error error, index, disk) => (.error error, index, disk)
  | (.ok id, index, disk) =>
    match encodeAll entries with
    | .error error => (.error error, index, disk)
    | .ok pairs =>
      let log := disk.log id
      (.ok (), index, disk.setLog id { log with rows := Assoc.putAll pairs log.rows })

/-- Reads from the rows of the log. -/
def reading {α : Type} (read : Assoc String Bytes → Except Error α) (index : LogIndex)
    (disk : Disk) : Except Error α × LogIndex × Disk :=
  match index.acquire false disk with
  | (.error error, index, disk) => (.error error, index, disk)
  | (.ok id, index, disk) => (read (disk.log id).rows, index, disk)

/-- The span that a log keeps under a key. -/
def spanOf? (key : String) (rows : Assoc String Bytes) : Except Error (Option Span) :=
  match Assoc.find? key rows with
  | none => .ok none
  | some stored =>
    match Span.decode stored with
    | .error error => .error error
    | .ok span => .ok (some span)

/-- The span under a key. -/
def lookup (key : String) : LogIndex → Disk → Except Error (Option Span) × LogIndex × Disk :=
  reading (spanOf? key)

/-- The number of keys. -/
def size : LogIndex → Disk → Except Error Nat × LogIndex × Disk :=
  reading fun rows => .ok rows.length

/-- Lets go of the log. -/
def close (index : LogIndex) (disk : Disk) : LogIndex × Disk :=
  match index.held with
  | none => (index, disk)
  | some id => ({ index with held := none }, disk.setLog id { disk.log id with held := false })

end LogIndex

end RecordStore
