import RecordStore.Assoc
import RecordStore.Bytes
import RecordStore.Error

/-!
A disk: folders, files and logs.

A path is resolved to the place of a node; what a file holds belongs to the file and
not to its place, so a file that is open outlives its removal. A file holds bytes or
the rows of a table. A log is a folder that keeps values under keys, and is held by
at most one handle at a time. Databases in memory stand at no place; the disk knows
those that connections share under a name.
-/

namespace RecordStore

/-- The names on the way from the root to a node. -/
abbrev Route := List String

/-- What stands at a place. -/
inductive Node
  | folder
  | file (id : Nat)
  | log (id : Nat)
  deriving DecidableEq, Repr

/-- The rows of a table: an offset and a length under each key. -/
abbrev TableRows := Assoc String (Int × Int)

/-- What a file holds. -/
inductive Body
  | bytes (content : Bytes)
  | table (rows : TableRows)
  /-- What is left of a table that was cut. -/
  | damaged
  deriving DecidableEq, Repr

namespace Body

/-- Adds bytes at the end; behind a table they mean nothing. -/
def append (bytes : Bytes) : Body → Body
  | .bytes content => .bytes (content ++ bytes)
  | body => body

/-- The bytes that the stored form of every table starts with. -/
def tableStart : Bytes :=
  Bytes.ofText "SQLite format 3" ++ [0, 16, 0, 1, 1, 0, 64, 32, 32]

/-- The size of the part that the stored form of a table cannot do without. -/
def tableCore : Nat := 8192

/-- Cuts to a length, or fills up with zero bytes. A table that loses a part of its core is
damaged, and what is left of it is known only where it is the same in all tables. -/
def resize (length : Nat) : Body → Body
  | .bytes content => .bytes (content.take length ++ Bytes.zeros (length - content.length))
  | .table rows =>
    if length < tableStart.length then .bytes (tableStart.take length)
    else if length ≤ tableCore then .damaged
    else .table rows
  | .damaged => if length < tableStart.length then .bytes (tableStart.take length) else .damaged

end Body

/-- The values of a log, and whether a handle holds it. -/
structure Log where
  rows : Assoc String Bytes
  held : Bool
  deriving DecidableEq, Repr

/-- A database in memory that connections share. -/
structure SharedMemory where
  /-- The file that it is. -/
  id : Nat
  writable : Bool
  /-- The number of connections. -/
  holders : Nat
  deriving DecidableEq, Repr

/-- A disk. -/
structure Disk where
  nodes : Assoc Route Node
  bodies : Assoc Nat Body
  logs : Assoc Nat Log
  memories : Assoc String SharedMemory
  /-- The identity of the next file or log. -/
  next : Nat
  deriving DecidableEq, Repr

namespace Disk

/-- A disk with an empty root. -/
def empty : Disk :=
  ⟨[], [], [], [], 0⟩

/-! ### Places -/

/-- The node at a place; the root is always there. -/
def node? (disk : Disk) (route : Route) : Option Node :=
  (Assoc.find? route disk.nodes).or (if route = [] then some .folder else none)

/-- Whether a node can be entered. -/
def isFolder : Node → Bool
  | .file _ => false
  | _ => true

/-- Goes on from a place to a name in it. -/
def enter (disk : Disk) (route : Route) (name : String) : Except IoFault Route :=
  match disk.node? route with
  | none => .error .noEntry
  | some node =>
    if isFolder node then
      if name = "" ∨ name = "." then .ok route
      else if name = ".." then .ok route.dropLast
      else if 255 < name.utf8ByteSize then .error .nameTooLong
      else .ok (route ++ [name])
    else .error .notFolder

/-- Goes on from a place through several names. -/
def walk (disk : Disk) : Route → List String → Except IoFault Route
  | route, [] => .ok route
  | route, name :: names =>
    match disk.enter route name with
    | .error fault => .error fault
    | .ok route => disk.walk route names

/-- The size of the longest path. -/
def longestPath : Nat := 4095

/-- What is wrong with a path that leads nowhere on any disk. -/
def pathFault? (path : String) : Option IoFault :=
  if path.toList.contains (Char.ofNat 0) then some .nulInName
  else if path = "" then some .noEntry
  else if longestPath < path.utf8ByteSize then some .nameTooLong
  else none

/-- The place of a path; all but the place itself has to be there. -/
def route (disk : Disk) (path : String) : Except IoFault Route :=
  match pathFault? path with
  | some fault => .error fault
  | none => disk.walk [] (path.splitOn "/")

/-- The node of a path. -/
def find (disk : Disk) (path : String) : Except IoFault Node :=
  match disk.route path with
  | .error fault => .error fault
  | .ok route =>
    match disk.node? route with
    | none => .error .noEntry
    | some node => .ok node

/-- Whether a path leads to something. -/
def has (disk : Disk) (path : String) : Bool :=
  (disk.find path).toBool

/-! ### Files -/

/-- What a file holds; a file without a body is empty. -/
def body (disk : Disk) (id : Nat) : Body :=
  (Assoc.find? id disk.bodies).getD (.bytes [])

/-- The bytes of a file. The stored form of a table is not modelled. -/
def content (disk : Disk) (id : Nat) : Bytes :=
  match disk.body id with
  | .bytes content => content
  | _ => []

/-- Changes what a file holds. -/
def setBody (disk : Disk) (id : Nat) (body : Body) : Disk :=
  { disk with bodies := Assoc.put id body disk.bodies }

/-- Makes a file that stands at no place. -/
def createFile (disk : Disk) (body : Body) : Nat × Disk :=
  (disk.next, { disk with
    bodies := Assoc.put disk.next body disk.bodies
    next := disk.next + 1 })

/-- Puts a node at a place. -/
def setNode (disk : Disk) (route : Route) (node : Node) : Disk :=
  { disk with nodes := Assoc.put route node disk.nodes }

/-- Takes the node at a place away. -/
def eraseNode (disk : Disk) (route : Route) : Disk :=
  { disk with nodes := Assoc.erase route disk.nodes }

/-- Puts a new file at a place. -/
def createAt (disk : Disk) (route : Route) (body : Body) : Nat × Disk :=
  let (id, disk) := disk.createFile body
  (id, disk.setNode route (.file id))

/-- The names of the folders around a name that slashes follow, the innermost first. -/
def aroundFolder? (path : String) : Option (List String) :=
  match (path.splitOn "/").reverse with
  | "" :: names =>
    match names.dropWhile (· = "") with
    | [] => none
    | name :: around => if name = "." ∨ name = ".." then none else some around
  | _ => none

/-- The place of a path at which a file may be made, which slashes behind a name forbid. -/
def fileRoute (disk : Disk) (path : String) : Except IoFault Route :=
  match pathFault? path, aroundFolder? path with
  | some fault, _ => .error fault
  | none, none => disk.route path
  | none, some around =>
    match disk.walk [] (around.reverse ++ [""]) with
    | .error fault => .error fault
    | .ok _ => .error .isFolder

/-- The file at a path, created empty when there is none. -/
def openFile (disk : Disk) (path : String) : Except IoFault (Nat × Disk) :=
  match disk.fileRoute path with
  | .error fault => .error fault
  | .ok route =>
    match disk.node? route with
    | none => .ok (disk.createAt route (.bytes []))
    | some (.file id) => .ok (id, disk)
    | some _ => .error .isFolder

/-- The file at a path. -/
def existingFile (disk : Disk) (path : String) : Except IoFault Nat :=
  match disk.find path with
  | .error fault => .error fault
  | .ok (.file id) => .ok id
  | .ok _ => .error .isFolder

/-- Adds bytes at the end of a file. -/
def appendTo (disk : Disk) (id : Nat) (bytes : Bytes) : Disk :=
  disk.setBody id ((disk.body id).append bytes)

/-- Writes a whole file; a file that is there stays the same file. -/
def putFile (disk : Disk) (path : String) (content : Bytes) : Except IoFault Disk :=
  match disk.openFile path with
  | .error fault => .error fault
  | .ok (id, disk) => .ok (disk.setBody id (.bytes content))

/-- Adds to a file that is there. -/
def addToFile (disk : Disk) (path : String) (bytes : Bytes) : Except IoFault Disk :=
  match disk.existingFile path with
  | .error fault => .error fault
  | .ok id => .ok (disk.appendTo id bytes)

/-- Cuts a file to a length, or fills it up with zero bytes. -/
def truncateFile (disk : Disk) (path : String) (length : Nat) : Except IoFault Disk :=
  match disk.existingFile path with
  | .error fault => .error fault
  | .ok id => .ok (disk.setBody id ((disk.body id).resize length))

/-- The bytes of a whole file. -/
def contentAt (disk : Disk) (path : String) : Except IoFault Bytes :=
  match disk.existingFile path with
  | .error fault => .error fault
  | .ok id => .ok (disk.content id)

/-- Takes a file away; whoever has it open goes on reading it. -/
def removeFile (disk : Disk) (path : String) : Except IoFault Disk :=
  match disk.route path with
  | .error fault => .error fault
  | .ok route =>
    match disk.node? route with
    | none => .error .noEntry
    | some (.file _) => .ok (disk.eraseNode route)
    | some _ => .error .isFolder

/-! ### Folders and logs -/

/-- Makes a folder at the end of the way through several names. -/
def makeFolderAt (disk : Disk) (names : List String) : Except IoFault Disk :=
  match disk.walk [] names with
  | .error fault => .error fault
  | .ok route =>
    match disk.node? route with
    | none => .ok (disk.setNode route .folder)
    | some _ => .error .alreadyThere

/-- Makes a folder; the one around it has to be there. -/
def makeFolder (disk : Disk) (path : String) : Except IoFault Disk :=
  match pathFault? path with
  | some fault => .error fault
  | none => disk.makeFolderAt ((path.splitOn "/").reverse.dropWhile (· = "")).reverse

/-- Whether the way through several names leads to a folder. -/
def isFolderAt (disk : Disk) (names : List String) : Bool :=
  match disk.walk [] names with
  | .ok route => (disk.node? route).any isFolder
  | .error _ => false

/-- Makes a folder and, if they are missing, those around it, which stay when it fails; the names
on the way are given from the innermost on. -/
def makeFolders (disk : Disk) : List String → Except IoFault Unit × Disk
  | [] => (.ok (), disk)
  | name :: around =>
    let settle (disk : Disk) (fault : IoFault) : Except IoFault Unit × Disk :=
      (if disk.isFolderAt (name :: around).reverse then .ok () else .error fault, disk)
    match disk.makeFolderAt (name :: around).reverse with
    | .ok disk => (.ok (), disk)
    | .error .noEntry =>
      match disk.makeFolders around with
      | (.error fault, disk) => (.error fault, disk)
      | (.ok (), disk) =>
        match disk.makeFolderAt (name :: around).reverse with
        | .ok disk => (.ok (), disk)
        | .error fault => settle disk fault
    | .error fault => settle disk fault

/-- The log of an identity. -/
def log (disk : Disk) (id : Nat) : Log :=
  (Assoc.find? id disk.logs).getD ⟨[], false⟩

/-- Changes a log. -/
def setLog (disk : Disk) (id : Nat) (log : Log) : Disk :=
  { disk with logs := Assoc.put id log disk.logs }

/-- The names of the files in a log's folder. -/
def logFiles : List String := ["conf", "db"]

/-- Puts what a log consists of at a place where none is. -/
def createLog (disk : Disk) (route : Route) : Nat × Disk :=
  let fill (disk : Disk) (name : String) : Disk :=
    if (disk.node? (route ++ [name])).isSome then disk
    else (disk.createAt (route ++ [name]) (.bytes (Bytes.ofText name))).2
  let disk := logFiles.foldl fill disk
  (disk.next, { disk with
    nodes := Assoc.put route (.log disk.next) disk.nodes
    logs := Assoc.put disk.next ⟨[], false⟩ disk.logs
    next := disk.next + 1 })

/-- The log at a place, created empty when there is none. -/
def openLogAt (disk : Disk) (route : Route) : Except IoFault Nat × Disk :=
  let blocked (name : String) : Bool := (disk.node? (route ++ [name])).any isFolder
  if logFiles.any blocked then (.error .isFolder, disk)
  else
    match disk.node? route with
    | some (.log id) => (.ok id, disk)
    | _ =>
      let (id, disk) := disk.createLog route
      (.ok id, disk)

/-- The log at a path, created empty when there is none; its folder `blobs` is made first, with
those around it. -/
def openLog (disk : Disk) (path : String) : Except IoFault Nat × Disk :=
  let inner := pathWithin path "blobs"
  match pathFault? inner with
  | some fault => (.error fault, disk)
  | none =>
    let names := (inner.splitOn "/").filter fun name => name ≠ "" ∧ name ≠ "."
    let (made, disk) :=
      if disk.has inner then (.ok (), disk) else disk.makeFolders names.reverse
    match made, disk.walk [] (path.splitOn "/") with
    | .error fault, _ => (.error fault, disk)
    | .ok (), .error fault => (.error fault, disk)
    | .ok (), .ok route => disk.openLogAt route

end Disk

end RecordStore
