import RecordStore.Command.Run
import RecordStore.Disk.Image

/-!
The program.

`Command.run` decides everything on a disk that is a value. Here the places that the
arguments name are read into such a disk, and what the run has changed in them is
written back.
-/

namespace RecordStore.Program

/-- What stands at a path of the machine. -/
inductive Found
  | nothing
  | folder
  | file (content : Bytes)

/-- Looks at a path of the machine. -/
def look (path : String) : IO Found := do
  match ← (IO.FS.readBinFile path).toBaseIO with
  | .ok content => return .file content.toList
  | .error (.inappropriateType _ 21 _) => return .folder
  | .error _ => return .nothing

/-- The path and the folders around it, the outermost first. -/
def enclosing (path : String) : List String :=
  let names := path.splitOn "/"
  (List.range names.length).map fun n => "/".intercalate (names.take (n + 1))

/-- The paths that a database may touch. -/
def placesOf (text : String) : List String :=
  match Address.ofText text .create with
  | .ok ⟨.file path, _, _⟩ => [path, path ++ "-journal", path ++ "-wal"]
  | _ => []

/-- The paths that a run may touch: those that the options name, and the place of the index. -/
def touched (invocation : Command.Invocation) (disk : Disk) : List String :=
  let options := invocation.options
  let named := [options.config, options.input, options.blob, options.index].filterMap id
  let configured :=
    match options.settings disk with
    | .ok ⟨_, _, .log path⟩ => [path]
    | .ok ⟨_, _, .table path _⟩ => placesOf path
    | _ => []
  (named ++ configured).flatMap enclosing

/-- Puts a node at the place of a path. -/
def place (disk : Disk) (path : String) (node : Node) : Disk :=
  match disk.route path with
  | .ok route => { disk with nodes := Assoc.put route node disk.nodes }
  | .error _ => disk

/-- Reads a path of the machine into a disk that has nothing there yet. -/
def load (disk : Disk) (path : String) : IO Disk := do
  if disk.has path then return disk
  let fresh := { disk with next := disk.next + 1 }
  match ← look path with
  | .nothing => return disk
  | .file content =>
    return place (fresh.setBody disk.next (Image.body content)) path (.file disk.next)
  | .folder =>
    match ← look (lockPath path) with
    | .file content =>
      match Image.log? content with
      | some rows => return place (fresh.setLog disk.next ⟨rows, false⟩) path (.log disk.next)
      | none => return place disk path .folder
    | _ => return place disk path .folder

/-- Writes what a disk has at a path, unless it was there before, and takes away what it has
lost. -/
def save (before after : Disk) (path : String) : IO Unit := do
  match after.find path with
  | .error _ => if before.has path then IO.FS.removeFile path
  | .ok .folder => unless before.has path do IO.FS.createDirAll path
  | .ok (.file id) =>
    unless (before.find path).toOption = some (.file id) ∧ before.body id = after.body id do
      IO.FS.writeBinFile path ⟨(Image.ofBody (after.body id)).toArray⟩
  | .ok (.log id) =>
    let rows := (after.log id).rows
    unless (before.find path).toOption = some (.log id) ∧ (before.log id).rows = rows do
      IO.FS.createDirAll path
      IO.FS.writeBinFile (lockPath path) ⟨(Image.ofLog rows).toArray⟩

/-- Everything that is handed in. -/
partial def handedIn (stream : IO.FS.Stream) : IO Bytes := do
  let piece ← stream.read 65536
  if piece.isEmpty then return [] else return piece.toList ++ (← handedIn stream)

/-- Whether a command reads what is handed in. -/
def readsInput (invocation : Command.Invocation) : Bool :=
  invocation.verb != .get && invocation.options.input.isNone

/-- Prints what a run gives and answers with its exit status. -/
def tell (report : Command.Report) : IO UInt32 := do
  (← IO.getStdout).write ⟨report.printed.toArray⟩
  for line in report.errors do
    IO.eprintln ("ERROR microblob: " ++ line)
  return report.exit.toUInt32

/-- Runs a command on the machine. -/
def run (arguments : List String) : IO UInt32 := do
  match Command.parse arguments with
  | .error _ => tell (Command.run arguments [] Disk.empty)
  | .ok invocation =>
    let configured ← (touched invocation Disk.empty).foldlM load Disk.empty
    let paths := touched invocation configured
    let before ← paths.foldlM load configured
    let bytes ← if readsInput invocation then handedIn (← IO.getStdin) else pure []
    let report := Command.run arguments bytes before
    for path in paths do
      save before report.disk path
    tell report

end RecordStore.Program

def main (arguments : List String) : IO UInt32 :=
  RecordStore.Program.run arguments
