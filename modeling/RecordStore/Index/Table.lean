import RecordStore.Settings
import RecordStore.Database.Connection
import RecordStore.Span

/-!
An index in a table.

The table is in a database that several handles may share. A batch is written whole or
not at all; whether a key that is there already is refused or replaced is a policy of
the handle. The database is opened at its first use, the table made before the first
write; reading makes neither.
-/

namespace RecordStore

/-- An open database, and whether it is known to hold the table. -/
structure OpenTable where
  connection : Connection
  ready : Bool
  deriving DecidableEq, Repr

/-- An index in a table at a path, with the database it has open. -/
structure TableIndex where
  path : String
  onDuplicate : OnDuplicate
  opened : Option OpenTable
  deriving DecidableEq, Repr

namespace TableIndex

/-- An index that has no database open yet. -/
def ofPath (path : String) (onDuplicate : OnDuplicate) : TableIndex :=
  ⟨path, onDuplicate, none⟩

/-- The largest offset or length of a row. -/
def maxValue : Nat := (1 <<< 63) - 1

/-- The database of the index for writing, the table made in it. A database that was opened for that
is closed again when the table cannot be made. -/
def acquire (index : TableIndex) (disk : Disk) : Except Error Connection × TableIndex × Disk :=
  let refuse (reason : OpenFault) (disk : Disk) : Except Error Connection × TableIndex × Disk :=
    (.error (.backendOpen index.path reason), index, disk)
  let ready (connection : Connection) : TableIndex :=
    { index with opened := some ⟨connection, true⟩ }
  match index.opened with
  | some ⟨connection, true⟩ => (.ok connection, index, disk)
  | some ⟨connection, false⟩ =>
    match connection.makeTable disk with
    | (.error fault, disk) => refuse (.database fault) disk
    | (.ok (), disk) => (.ok connection, ready connection, disk)
  | none =>
    match Connection.ofText index.path .create disk with
    | .error reason => refuse reason disk
    | .ok (connection, disk) =>
      match connection.makeTable disk with
      | (.error fault, disk) => refuse (.database fault) (connection.close disk)
      | (.ok (), disk) => (.ok connection, ready connection, disk)

/-- The database of the index for reading. -/
def acquireExisting (index : TableIndex) (disk : Disk) :
    Except Error Connection × TableIndex × Disk :=
  match index.opened with
  | some opened => (.ok opened.connection, index, disk)
  | none =>
    match Connection.ofText index.path .readWrite disk with
    | .error reason => (.error (.backendOpen index.path reason), index, disk)
    | .ok (connection, disk) =>
      (.ok connection, { index with opened := some ⟨connection, false⟩ }, disk)

/-! ### Writing -/

/-- What a row has no room for. -/
def overflow? (entry : Entry) : Option Error :=
  if maxValue < entry.offset then some (.valueOverflow entry.offset)
  else if maxValue < entry.length then some (.valueOverflow entry.length)
  else none

/-- Adds an entry to the rows of a table. -/
def insert (onDuplicate : OnDuplicate) (entry : Entry) (rows : TableRows) :
    Except Error TableRows :=
  match overflow? entry with
  | some error => .error error
  | none =>
    if onDuplicate = .reject ∧ Assoc.has entry.key rows then .error (.duplicateKey entry.key)
    else .ok (Assoc.put entry.key (entry.offset, entry.length) rows)

/-- Adds entries to the rows of a table, up to the first one that is refused. -/
def insertAll (onDuplicate : OnDuplicate) : List Entry → TableRows → Except Error TableRows
  | [], rows => .ok rows
  | entry :: entries, rows =>
    match insert onDuplicate entry rows with
    | .error error => .error error
    | .ok rows => insertAll onDuplicate entries rows

/-- The error of a batch in a database that cannot be changed: its first entry is checked before the
change is tried, unless nothing at all may be written. -/
def blockedBy (fault : DatabaseFault) (first : Except Error TableRows) : Error :=
  match fault, first with
  | .readOnly, _ => .database .readOnly
  | _, .error error => error
  | fault, .ok _ => .database fault

/-- Gives a batch up behind its first entry: a change that was begun takes its journal away. -/
def giveUp (connection : Connection) (first : Except Error TableRows) (disk : Disk) : Disk :=
  match first with
  | .error _ => disk
  | .ok _ => connection.endJournal disk

/-- Adds a batch to the table of a database. -/
def insertInto (connection : Connection) (onDuplicate : OnDuplicate) (first : Entry)
    (others : List Entry) (disk : Disk) : Except Error Unit × Disk :=
  match overflow? first with
  | some error => (.error error, disk)
  | none =>
    match connection.rows disk with
    | (.error fault, disk) => (.error (.database fault), disk)
    | (.ok rows, disk) =>
      let inserted := insert onDuplicate first rows
      match connection.changeFault? disk with
      | some fault => (.error (blockedBy fault inserted), disk)
      | none =>
        match insertAll onDuplicate (first :: others) rows with
        | .error error => (.error error, giveUp connection inserted disk)
        | .ok rows => (.ok (), (connection.change rows disk).2)

/-- Writes a batch. -/
def write (entries : List Entry) (index : TableIndex) (disk : Disk) :
    Except Error Unit × TableIndex × Disk :=
  match index.acquire disk with
  | (.error error, index, disk) => (.error error, index, disk)
  | (.ok connection, index, disk) =>
    match entries with
    | [] => (.ok (), index, disk)
    | first :: others =>
      let (result, disk) := insertInto connection index.onDuplicate first others disk
      (result, index, disk)

/-! ### Reading -/

/-- Reads from the rows of the table. -/
def reading {α : Type} (read : TableRows → Except Error α) (index : TableIndex) (disk : Disk) :
    Except Error α × TableIndex × Disk :=
  match index.acquireExisting disk with
  | (.error error, index, disk) => (.error error, index, disk)
  | (.ok connection, index, disk) =>
    match connection.rows disk with
    | (.error fault, disk) => (.error (.database fault), index, disk)
    | (.ok rows, disk) => (read rows, index, disk)

/-- The span that a row stands for. -/
def spanOfRow (row : Int × Int) : Except Error Span :=
  if row.1 < 0 then .error (.corruptValue (.negative .offset row.1))
  else if row.2 < 0 then .error (.corruptValue (.negative .length row.2))
  else .ok ⟨row.1.toNat, row.2.toNat⟩

/-- The span that the rows of a table have under a key. -/
def spanOf? (key : String) (rows : TableRows) : Except Error (Option Span) :=
  match Assoc.find? key rows with
  | none => .ok none
  | some row =>
    match spanOfRow row with
    | .error error => .error error
    | .ok span => .ok (some span)

/-- The span under a key. -/
def lookup (key : String) :
    TableIndex → Disk → Except Error (Option Span) × TableIndex × Disk :=
  reading (spanOf? key)

/-- The number of keys. -/
def size : TableIndex → Disk → Except Error Nat × TableIndex × Disk :=
  reading fun rows => .ok rows.length

/-- Closes the database. -/
def close (index : TableIndex) (disk : Disk) : TableIndex × Disk :=
  match index.opened with
  | none => (index, disk)
  | some opened => ({ index with opened := none }, opened.connection.close disk)

end TableIndex

end RecordStore
