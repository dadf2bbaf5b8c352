import RecordStore.Disk
import RecordStore.Pipeline

/-!
Appending to a blob file.

What a source hands over is added to the end of the file, and then the new part of the
file, and only that, is indexed. A source that fails leaves in the file what it handed
over before and the index as it was.
-/

namespace RecordStore

/-- What an append has done. -/
structure Growth where
  /-- The length of the file before. -/
  previous : Nat
  /-- The bytes that were added. -/
  appended : Nat
  index : Summary
  deriving DecidableEq, Repr

/-- The length of the file behind the append. -/
def Growth.newLength (summary : Growth) : Nat :=
  summary.previous + summary.appended

/-- What an append leaves behind: its outcome, the writer and the disk, and how often somebody
looked on while it read its source. -/
structure Appended (σ : Type) where
  outcome : Outcome Growth
  sink : σ × Disk
  glances : Nat

/-- Indexes the part of a file from an offset on. -/
def indexTail {σ : Type} (keyOf : KeyOf) (write : Writer (σ × Disk)) (settings : RunSettings)
    (id start length : Nat) (sink : σ × Disk) : Outcome Growth × (σ × Disk) :=
  let tail := Bytes.slice (sink.2.content id) start length
  let scan := Source.records Source.usualBuffer (.ofBytes tail)
  let (outcome, sink) := index keyOf write settings start scan sink
  (outcome.map fun summary => ⟨start, length, summary⟩, sink)

/-- Appends a source to the blob file at a path and indexes what is new. -/
def append {σ : Type} (path : String) (source : Source) (keyOf : KeyOf)
    (write : Writer (σ × Disk)) (settings : RunSettings) (sink : σ × Disk) : Appended σ :=
  match settings.validate with
  | .error error => ⟨.failed error, sink, 0⟩
  | .ok () =>
    match sink.2.openFile path with
    | .error fault => ⟨.failed (.io fault), sink, 0⟩
    | .ok (id, disk) =>
      let start := (disk.content id).length
      let sink := (sink.1, disk.appendTo id source.bytes)
      match source.ending with
      | .failed message => ⟨.failed (.io (.device message)), sink, source.glances⟩
      | .panicked => ⟨.panicked "source panicked", sink, source.glances⟩
      | .finished =>
        let (outcome, sink) := indexTail keyOf write settings id start source.bytes.length sink
        ⟨outcome, sink, source.glances⟩

end RecordStore
