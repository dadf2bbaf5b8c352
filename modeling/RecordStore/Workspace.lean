import RecordStore.Store

/-!
A workspace: a disk, and handles on it under names.

Indexes, stores and blobs have names of their own kind. A store takes the index of its
name and gives it back when it is closed. A handle that is replaced or dropped lets go
of what it has open.
-/

namespace RecordStore

namespace Backend

/-- Opens a backend before its first use, as far as it can be open. -/
def prepare (backend : Backend) (disk : Disk) : Except Error Unit × Backend × Disk :=
  match backend with
  | .log index =>
    let (result, index, disk) := index.acquire true disk
    (result.map fun _ => (), .log index, disk)
  | .table index =>
    let (result, index, disk) := index.acquire disk
    (result.map fun _ => (), .table index, disk)
  | .debug printer => (.ok (), .debug printer, disk)

/-- The number of keys; a printer has none to count. -/
def size (backend : Backend) (disk : Disk) : Option (Except Error Nat) × Backend × Disk :=
  match backend with
  | .log index =>
    let (result, index, disk) := index.size disk
    (some result, .log index, disk)
  | .table index =>
    let (result, index, disk) := index.size disk
    (some result, .table index, disk)
  | .debug printer => (none, .debug printer, disk)

end Backend

/-- A disk, and handles on it under names. -/
structure Workspace where
  disk : Disk
  indexes : Assoc String Backend
  stores : Assoc String Store
  blobs : Assoc String Blob
  deriving DecidableEq, Repr

namespace Workspace

/-- A workspace with nothing in it. -/
def empty : Workspace :=
  ⟨Disk.empty, [], [], []⟩

/-- Changes the disk. -/
def onDisk (change : Disk → Except IoFault Disk) (workspace : Workspace) :
    Except Error Unit × Workspace :=
  match change workspace.disk with
  | .error fault => (.error (.io fault), workspace)
  | .ok disk => (.ok (), { workspace with disk })

/-- Lets go of what a backend has open. -/
def release (backend : Backend) (workspace : Workspace) : Workspace :=
  { workspace with disk := (backend.close workspace.disk).2.2 }

/-! ### Indexes -/

/-- Drops the index of a name; tells whether there was one. -/
def dropIndex (name : String) (workspace : Workspace) : Bool × Workspace :=
  match Assoc.find? name workspace.indexes with
  | none => (false, workspace)
  | some backend =>
    (true, release backend
      { workspace with indexes := Assoc.erase name workspace.indexes })

/-- Puts an index under a name. -/
def putIndex (name : String) (backend : Backend) (workspace : Workspace) : Workspace :=
  let workspace := (workspace.dropIndex name).2
  { workspace with indexes := Assoc.put name backend workspace.indexes }

/-- Opens an index under a name, at once if it is eager. -/
def openIndex (name : String) (backend : Backend) (eager : Bool) (workspace : Workspace) :
    Except Error String × Workspace :=
  let workspace := (workspace.dropIndex name).2
  if eager then
    match backend.prepare workspace.disk with
    | (.error error, _, disk) => (.error error, { workspace with disk })
    | (.ok (), backend, disk) =>
      (.ok backend.name, { workspace with disk }.putIndex name backend)
  else (.ok backend.name, workspace.putIndex name backend)

/-- Uses the index of a name; `none` when there is none. -/
def withIndex {α : Type} (name : String) (use : Backend → Disk → α × Backend × Disk)
    (workspace : Workspace) : Option α × Workspace :=
  match Assoc.find? name workspace.indexes with
  | none => (none, workspace)
  | some backend =>
    let (answer, backend, disk) := use backend workspace.disk
    (some answer, { workspace with
      disk
      indexes := Assoc.put name backend workspace.indexes })

/-! ### Stores -/

/-- Drops the store of a name; tells whether there was one. -/
def dropStore (name : String) (workspace : Workspace) : Bool × Workspace :=
  match Assoc.find? name workspace.stores with
  | none => (false, workspace)
  | some store =>
    (true, release store.backend
      { workspace with stores := Assoc.erase name workspace.stores })

/-- Makes a store of the index of that name and a blob file. -/
def makeStore (name blob : String) (workspace : Workspace) : Option String × Workspace :=
  match Assoc.find? name workspace.indexes with
  | none => (none, workspace)
  | some backend =>
    let workspace := { workspace with indexes := Assoc.erase name workspace.indexes }
    let workspace := (workspace.dropStore name).2
    (some blob, { workspace with
      stores := Assoc.put name (Store.new blob backend) workspace.stores })

/-- Uses the store of a name; `none` when there is none. -/
def withStore {α : Type} (name : String) (use : Store → Disk → α × Store × Disk)
    (workspace : Workspace) : Option α × Workspace :=
  match Assoc.find? name workspace.stores with
  | none => (none, workspace)
  | some store =>
    let (answer, store, disk) := use store workspace.disk
    (some answer, { workspace with
      disk
      stores := Assoc.put name store workspace.stores })

/-- Closes the store of a name and puts its index back. An index that cannot be closed is lost. -/
def closeStore (name : String) (workspace : Workspace) :
    Option (Except Error String) × Workspace :=
  match Assoc.find? name workspace.stores with
  | none => (none, workspace)
  | some store =>
    let (closed, backend, disk) := store.close workspace.disk
    let workspace := { workspace with
      disk
      stores := Assoc.erase name workspace.stores }
    match closed with
    | .error error => (some (.error error), workspace)
    | .ok () => (some (.ok backend.name), workspace.putIndex name backend)

/-- Drops the index of a name or, failing that, the store. -/
def drop (name : String) (workspace : Workspace) : Bool × Workspace :=
  match workspace.dropIndex name with
  | (true, workspace) => (true, workspace)
  | (false, workspace) => workspace.dropStore name

/-! ### Blobs -/

/-- Opens a blob under a name; one that cannot be opened leaves an earlier one in place. -/
def openBlob (name path : String) (workspace : Workspace) : Except Error String × Workspace :=
  match Blob.atPath path workspace.disk with
  | .error error => (.error error, workspace)
  | .ok blob => (.ok blob.path, { workspace with blobs := Assoc.put name blob workspace.blobs })

/-! ### Values set from outside -/

/-- Sets what the log at a path keeps under a key. -/
def plantStored (path key : String) (stored : Bytes) (disk : Disk) : Except IoFault Disk :=
  match disk.openLog path with
  | (.error fault, _) => .error fault
  | (.ok id, disk) =>
    let log := disk.log id
    .ok (disk.setLog id { log with rows := Assoc.put key stored log.rows })

/-- Sets the row that the table at a path has under a key. -/
def plantRow (path key : String) (row : Int × Int) (disk : Disk) : Disk :=
  match Connection.ofText path .create disk with
  | .error _ => disk
  | .ok (connection, disk) =>
    let (_, disk) := connection.makeTable disk
    connection.close <|
      match connection.rows disk with
      | (.error _, disk) => disk
      | (.ok rows, disk) => (connection.change (Assoc.put key row rows) disk).2

end Workspace

end RecordStore
