import RecordStore.Index.Log
import RecordStore.Index.Table
import RecordStore.Printer

/-!
Backends: the places where entries can go.
-/

namespace RecordStore

/-- A place where entries go. -/
inductive Backend
  | log (index : LogIndex)
  | table (index : TableIndex)
  | debug (printer : Printer)
  deriving DecidableEq, Repr

namespace Backend

/-- The backend of a destination. -/
def ofDestination : Destination → Backend
  | .log path => .log (LogIndex.ofPath path)
  | .table path onDuplicate => .table (TableIndex.ofPath path onDuplicate)
  | .debug => .debug Printer.unlimited

/-- The name of the kind of backend. -/
def name : Backend → String
  | .log _ => "sled"
  | .table _ => "sqlite"
  | .debug _ => "debug"

/-- Writes a batch. -/
def write (entries : List Entry) : Backend × Disk → Except Error Unit × Backend × Disk
  | (.log index, disk) =>
    let (result, index, disk) := index.write entries disk
    (result, .log index, disk)
  | (.table index, disk) =>
    let (result, index, disk) := index.write entries disk
    (result, .table index, disk)
  | (.debug printer, disk) =>
    let (result, printer) := printer.write entries
    (result, .debug printer, disk)

/-- A backend as the writer of a run. -/
def writer : Writer (Backend × Disk) := fun entries sink =>
  match write entries sink with
  | (.ok (), sink) => (.accepted, sink)
  | (.error error, sink) => (.refused error, sink)

/-- The span under a key. -/
def lookup (key : String) (backend : Backend) (disk : Disk) :
    Except Error (Option Span) × Backend × Disk :=
  match backend with
  | .log index =>
    let (result, index, disk) := index.lookup key disk
    (result, .log index, disk)
  | .table index =>
    let (result, index, disk) := index.lookup key disk
    (result, .table index, disk)
  | .debug printer => (.error (.lookupUnsupported "debug"), .debug printer, disk)

/-- Closes a backend, which opens again when it is used. -/
def close (backend : Backend) (disk : Disk) : Except Error Unit × Backend × Disk :=
  match backend with
  | .log index =>
    let (index, disk) := index.close disk
    (.ok (), .log index, disk)
  | .table index =>
    let (index, disk) := index.close disk
    (.ok (), .table index, disk)
  | .debug printer => (printer.flush, .debug printer, disk)

end Backend

end RecordStore
