import RecordStore.Pipeline.Package

/-!
A run without workers: one record after another, one entry to a batch. It stops at the
first record without a key and at the first batch that is refused.
-/

namespace RecordStore.Pipeline

variable {σ : Type}

/-- What a run comes to when the input ends before any other error. -/
def atEnd (summary : Summary) : Ending → Outcome Summary
  | .finished => .done summary
  | .failed message => .failed (.io (.device message))
  | .panicked => .panicked "source panicked"

/-- The summary with one more record of that length. -/
def addRecord (summary : Summary) (length : Nat) : Summary :=
  { summary with
    records := summary.records + 1
    bytes := summary.bytes + length
    written := summary.written + 1 }

/-- Works through records from an offset on. -/
def sequentialFrom (keyOf : KeyOf) (write : Writer σ) (ending : Ending) :
    (offset : Nat) → Summary → List Bytes → σ → Outcome Summary × σ
  | _, summary, [], sink => (atEnd summary ending, sink)
  | offset, summary, record :: records, sink =>
    match keyOf record with
    | .error error => (.failed error, sink)
    | .ok key =>
      match write [⟨key, offset, record.length⟩] sink with
      | (.refused error, sink) => (.failed error, sink)
      | (.panicked message, sink) => (.panicked message, sink)
      | (.accepted, sink) =>
        sequentialFrom keyOf write ending (offset + record.length)
          (addRecord summary record.length) records sink

/-- A run without workers. -/
def runSequential (keyOf : KeyOf) (write : Writer σ) (start : Nat) (scan : Scan) (sink : σ) :
    Outcome Summary × σ :=
  sequentialFrom keyOf write scan.ending start ⟨0, 0, 0, 0⟩ scan.records sink

end RecordStore.Pipeline
