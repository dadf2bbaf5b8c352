import RecordStore.Disk
import RecordStore.Span

/-!
Blob files, read at any place.

A blob stays readable after its file was removed, and its size is that of the moment
at which it is asked for. A range that is given by two words may end behind the last word;
no file is that long.
-/

namespace RecordStore

/-- What a blob has open. A folder can be opened, but not read. -/
inductive BlobTarget
  | file (id : Nat)
  | folder
  deriving DecidableEq, Repr

/-- An open blob. -/
structure Blob where
  path : String
  target : BlobTarget
  deriving DecidableEq, Repr

namespace Blob

/-- Opens a blob. -/
def atPath (path : String) (disk : Disk) : Except Error Blob :=
  match disk.find path with
  | .error fault => .error (.io fault)
  | .ok (.file id) => .ok ⟨path, .file id⟩
  | .ok _ => .ok ⟨path, .folder⟩

/-- The size of a folder. -/
def folderSize : Nat := 4096

/-- The size of a blob. -/
def size (blob : Blob) (disk : Disk) : Nat :=
  match blob.target with
  | .file id => (disk.content id).length
  | .folder => folderSize

/-- The bytes at a place, all of them or none. -/
def read (blob : Blob) (offset length : Nat) (disk : Disk) : Except Error Bytes :=
  let size := blob.size disk
  if size < offset + length then .error (.outOfRange offset length size)
  else
    match blob.target with
    | .file id => .ok (Bytes.slice (disk.content id) offset length)
    | .folder => if length = 0 then .ok [] else .error (.io .isFolder)

/-- The offset behind a range of words, if it is a word. -/
def stop? (offset length : UInt64) : Option UInt64 :=
  let stop := offset + length
  if stop < offset then none else some stop

/-- The bytes at a place that is given by words. -/
def readWords (blob : Blob) (offset length : UInt64) (disk : Disk) : Except Error Bytes :=
  let size := blob.size disk
  let refusal : Error := .outOfRange offset.toNat length.toNat size
  match stop? offset length with
  | none => .error refusal
  | some stop =>
    if size < stop.toNat then .error refusal
    else
      match blob.target with
      | .file id => .ok (Bytes.slice (disk.content id) offset.toNat length.toNat)
      | .folder => if length = 0 then .ok [] else .error (.io .isFolder)

/-- The bytes of a span. -/
def readSpan (blob : Blob) (span : Span) (disk : Disk) : Except Error Bytes :=
  blob.read span.offset span.length disk

end Blob

end RecordStore
