import RecordStore.Database.Address
import RecordStore.Disk

/-!
A connection to a database.

A connection reads and changes the rows of the one table. A file that is as good as
empty is a database without the table. While a file is changed a journal stands beside
it; one that was left behind is undone or taken away before anything is read. A
connection remembers where its file was, and does not change a file that is no longer
there. `rows_of_settled` says that none of this matters to a file with nothing beside it.
-/

namespace RecordStore

/-- A connection to a database. -/
structure Connection where
  /-- The file that holds the database. -/
  id : Nat
  /-- The place at which the file was found; a file that nobody else can change has none. -/
  home : Option Route
  writable : Bool
  /-- The name under which the database is shared in memory. -/
  shared : Option String
  deriving DecidableEq, Repr

namespace Connection

/-! ### Connecting -/

/-- The length of the path of the root on the machine. -/
def rootLength : Nat := 15

/-- The length of the path of a place on the machine. -/
def pathLength (route : Route) : Nat :=
  route.foldl (fun length name => length + 1 + name.utf8ByteSize) rootLength

/-- The length from which on a path has no room in a database's memory. -/
def pathRoom : Nat := 511

/-- Whether a name can follow a place in the path of a database. -/
def canFollow (disk : Disk) (route : Route) (name : String) : Bool :=
  pathLength route + name.utf8ByteSize < pathRoom &&
    match disk.node? route with
    | none => true
    | some node => Disk.isFolder node && name.utf8ByteSize ≤ 255

/-- The place that names lead to when they are followed as text; a slash at the end of a path means
nothing. -/
def placeFrom? (disk : Disk) (route : Route) : List String → Option Route
  | [] => some route
  | name :: names =>
    if name = "" ∨ name = "." then placeFrom? disk route names
    else if name = ".." then placeFrom? disk route.dropLast names
    else if canFollow disk route name then placeFrom? disk (route ++ [name]) names
    else none

/-- The file at a place, made if that is allowed. -/
def openAt (route : Route) (access : Access) (disk : Disk) : Except DatabaseFault (Nat × Disk) :=
  match disk.node? route with
  | some (.file id) => .ok (id, disk)
  | some _ => .error (if access = .readOnly then .unreadable else .cannotOpen)
  | none =>
    if access = .create ∧ (disk.node? route.dropLast).any Disk.isFolder then
      .ok (disk.createAt route (.bytes []))
    else .error .cannotOpen

/-- Connects to the file at a path. -/
def toFile (path : String) (address : Address) (disk : Disk) :
    Except DatabaseFault (Connection × Disk) :=
  match placeFrom? disk [] (path.splitOn "/") with
  | none => .error .cannotOpen
  | some route =>
    match openAt route address.access disk with
    | .error fault => .error fault
    | .ok (id, disk) =>
      let connection : Connection :=
        if address.immutable then ⟨id, none, false, none⟩
        else ⟨id, some route, address.access ≠ .readOnly, none⟩
      .ok (connection, disk)

/-- Connects to what is shared under a name. -/
def toShared (name : String) (access : Access) (disk : Disk) : Connection × Disk :=
  let (memory, disk) : SharedMemory × Disk :=
    match Assoc.find? name disk.memories with
    | some memory => (memory, disk)
    | none =>
      let (id, disk) := disk.createFile (.bytes [])
      (⟨id, access ≠ .readOnly, 0⟩, disk)
  (⟨memory.id, none, memory.writable, some name⟩, { disk with
    memories := Assoc.put name { memory with holders := memory.holders + 1 } disk.memories })

/-- Connects to an address. -/
def toAddress (address : Address) (disk : Disk) : Except DatabaseFault (Connection × Disk) :=
  match address.place with
  | .file path => toFile path address disk
  | .shared name => .ok (toShared name address.access disk)
  | .alone =>
    let (id, disk) := disk.createFile (.bytes [])
    .ok (⟨id, none, address.access ≠ .readOnly, none⟩, disk)

/-- Connects to the address that a text is. -/
def ofText (text : String) (access : Access) (disk : Disk) :
    Except OpenFault (Connection × Disk) :=
  match Address.ofText text access with
  | .error fault => .error fault
  | .ok address => (toAddress address disk).mapError .database

/-- Closes a connection; what is shared in memory ends with its last one. -/
def close (connection : Connection) (disk : Disk) : Disk :=
  match connection.shared with
  | none => disk
  | some name =>
    match Assoc.find? name disk.memories with
    | none => disk
    | some memory =>
      { disk with memories :=
          if memory.holders ≤ 1 then Assoc.erase name disk.memories
          else Assoc.put name { memory with holders := memory.holders - 1 } disk.memories }

/-! ### Reading -/

/-- Whether the file is as good as empty: a database starts with more than one byte. -/
def isBlank (connection : Connection) (disk : Disk) : Bool :=
  match disk.body connection.id with
  | .bytes content => content.length ≤ 1
  | _ => false

/-- The place beside another one that has a longer name. -/
def beside (home : Route) (ending : String) : Route :=
  home.dropLast ++ [home.getLast?.getD "" ++ ending]

/-- The place of the journal. -/
def journal (home : Route) : Route := beside home "-journal"

/-- The place of the write-ahead log. -/
def writeAhead (home : Route) : Route := beside home "-wal"

/-- Settles a journal that was left behind. One that starts with a zero byte is over; an empty one
and a folder beside an empty file mean nothing. -/
def settleJournal (home : Route) (connection : Connection) (disk : Disk) :
    Except DatabaseFault Disk :=
  let blank := connection.isBlank disk
  let undone := disk.eraseNode (journal home)
  match disk.node? (journal home) with
  | none => .ok disk
  | some (.file id) =>
    match disk.content id with
    | [] => .ok disk
    | first :: _ =>
      if blank then .ok (if connection.writable then undone else disk)
      else if disk.node? home = none then .error .gone
      else if first = 0 then .ok disk
      else if connection.writable then .ok undone
      else .error .unfinished
  | some _ =>
    if blank then .ok disk
    else .error (if disk.node? home = none then .gone else .unreadable)

/-- Settles a write-ahead log that was left behind: one beside an empty file is taken away. -/
def settleWriteAhead (home : Route) (connection : Connection) (disk : Disk) :
    Except DatabaseFault Disk :=
  let blank := connection.isBlank disk
  match disk.node? (writeAhead home) with
  | none => .ok disk
  | some (.file id) =>
    if disk.content id = [] then .ok disk
    else if blank then .ok (disk.eraseNode (writeAhead home))
    else if disk.node? home = none then .error .gone
    else .ok disk
  | some _ =>
    if blank then .error .stuck
    else .error (if disk.node? home = none then .gone else .cannotOpen)

/-- Settles what was left behind beside the file. -/
def settle (connection : Connection) (disk : Disk) : Except DatabaseFault Unit × Disk :=
  match connection.home with
  | none => (.ok (), disk)
  | some home =>
    match connection.settleJournal home disk with
    | .error fault => (.error fault, disk)
    | .ok disk =>
      match connection.settleWriteAhead home disk with
      | .error fault => (.error fault, disk)
      | .ok disk => (.ok (), disk)

/-- The rows that a file holds. -/
def rowsOf : Body → Except DatabaseFault TableRows
  | .table rows => .ok rows
  | .damaged => .error .damaged
  | .bytes content => .error (if content.length ≤ 1 then .noTable else .notDatabase)

/-- The rows of the table. -/
def rows (connection : Connection) (disk : Disk) : Except DatabaseFault TableRows × Disk :=
  match connection.settle disk with
  | (.error fault, disk) => (.error fault, disk)
  | (.ok (), disk) => (rowsOf (disk.body connection.id), disk)

/-! ### Changing -/

/-- Why the file cannot be changed. -/
def changeFault? (connection : Connection) (disk : Disk) : Option DatabaseFault :=
  if !connection.writable then some .readOnly
  else
    match connection.home with
    | none => none
    | some home =>
      let blank := connection.isBlank disk
      let tooLong := 255 < ((journal home).getLast?.getD "").utf8ByteSize
      if !blank ∧ disk.node? home ≠ some (.file connection.id) then some .moved
      else if blank ∧ disk.node? home = none then some .gone
      else if tooLong ∨ (disk.node? (journal home)).any Disk.isFolder then some .cannotOpen
      else none

/-- Takes the journal of a change away. -/
def endJournal (connection : Connection) (disk : Disk) : Disk :=
  match connection.home with
  | none => disk
  | some home => disk.eraseNode (journal home)

/-- Changes the rows of the table. -/
def change (rows : TableRows) (connection : Connection) (disk : Disk) :
    Except DatabaseFault Unit × Disk :=
  match connection.changeFault? disk with
  | some fault => (.error fault, disk)
  | none => (.ok (), (connection.endJournal disk).setBody connection.id (.table rows))

/-- Makes the table in a database that has none. -/
def makeTable (connection : Connection) (disk : Disk) : Except DatabaseFault Unit × Disk :=
  match connection.rows disk with
  | (.ok _, disk) => (.ok (), disk)
  | (.error .noTable, disk) => connection.change [] disk
  | (.error fault, disk) => (.error fault, disk)

/-! ### A file with nothing beside it -/

/-- Where nothing stands beside a file, reading leaves the disk as it is. -/
theorem rows_of_settled {connection : Connection} {disk : Disk}
    (noJournal : ∀ home, connection.home = some home → disk.node? (journal home) = none)
    (noWriteAhead : ∀ home, connection.home = some home → disk.node? (writeAhead home) = none) :
    connection.rows disk = (rowsOf (disk.body connection.id), disk) := by
  cases found : connection.home with
  | none => simp [rows, settle, found]
  | some home =>
    simp [rows, settle, found, settleJournal, noJournal home found, settleWriteAhead,
      noWriteAhead home found]

end Connection

end RecordStore
