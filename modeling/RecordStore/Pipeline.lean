import RecordStore.Pipeline.Schedule
import RecordStore.Pipeline.Sequential

/-!
Indexing: records in, entries out.

Offsets are numbers without a bound. Those of a file stay below the end of the words;
`Checked.index` is for a start that is any word.
-/

namespace RecordStore

/-- Makes entries of the records of an input and hands them to a writer, the first record at
offset `start`. -/
def index {σ : Type} (keyOf : KeyOf) (write : Writer σ) (settings : RunSettings) (start : Nat)
    (scan : Scan) (sink : σ) : Outcome Summary × σ :=
  match settings.validate with
  | .error error => (.failed error, sink)
  | .ok () =>
    match settings.mode with
    | .sequential => Pipeline.runSequential keyOf write start scan sink
    | .parallel => Pipeline.runParallel keyOf write settings start scan sink

end RecordStore
