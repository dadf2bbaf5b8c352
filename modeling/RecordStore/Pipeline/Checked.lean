import RecordStore.Pipeline

/-!
Runs whose offsets are words.

The offset at which a run starts is a word, and each one after it is a sum that is checked: when
it is no word the run panics. Without workers that happens behind a record whose entry was
accepted. With workers it happens to the producer, behind a package that it has handed out, and
to the worker of that package, unless a record without a key comes before; what that worker has
made is lost. As long as every sum is a word, this is `index`.
-/

namespace RecordStore

namespace Package

/-- Whether the offset behind a package is a word. -/
def fits (package : Package) : Bool :=
  package.offset + package.size < UInt64.size

/-- The packages up to the first one behind which the offset is no word. -/
def reached (packages : List Package) : List Package :=
  packages.takeWhile fits ++ (packages.find? fun package => !package.fits).toList

/-- Whether some sum is no word while entries are made of records from an offset on. -/
def breaksFrom (keyOf : KeyOf) : (offset : Nat) → List Bytes → Bool
  | _, [] => false
  | offset, record :: records =>
    match keyOf record with
    | .error _ => false
    | .ok _ =>
      UInt64.size ≤ offset + record.length || breaksFrom keyOf (offset + record.length) records

/-- Whether some sum is no word while entries are made of a package. -/
def breaks (keyOf : KeyOf) (package : Package) : Bool :=
  breaksFrom keyOf package.offset package.records

end Package

namespace Checked

open Pipeline

variable {σ : Type}

/-- What a sum says that is no word. -/
def overflow : String := "attempt to add with overflow"

/-- Works through records from an offset on. -/
def sequentialFrom (keyOf : KeyOf) (write : Writer σ) (ending : Ending) :
    (offset : Nat) → Summary → List Bytes → σ → Outcome Summary × σ
  | _, summary, [], sink => (atEnd summary ending, sink)
  | offset, summary, record :: records, sink =>
    match keyOf record with
    | .error error => (.failed error, sink)
    | .ok key =>
      match write [⟨key, offset, record.length⟩] sink with
      | (.refused error, sink) => (.failed error, sink)
      | (.panicked message, sink) => (.panicked message, sink)
      | (.accepted, sink) =>
        if offset + record.length < UInt64.size then
          sequentialFrom keyOf write ending (offset + record.length)
            (addRecord summary record.length) records sink
        else (.panicked overflow, sink)

/-- A run without workers. -/
def runSequential (keyOf : KeyOf) (write : Writer σ) (start : UInt64) (scan : Scan) (sink : σ) :
    Outcome Summary × σ :=
  sequentialFrom keyOf write scan.ending start.toNat ⟨0, 0, 0, 0⟩ scan.records sink

/-- Whether a worker is at a package in which some sum is no word. -/
def breaksAt (env : Environment σ) (state : State σ) (i : Nat) : Bool :=
  match state.workers[i]? with
  | some (.extracting package) => package.breaks env.keyOf
  | _ => false

/-- The state after an action, if it can be taken. A worker that panics leaves with nothing. -/
def step? (env : Environment σ) (state : State σ) : Action → Option (State σ)
  | .work i =>
    if breaksAt env state i then some (state.setWorker i .gone) else Pipeline.work? env state i
  | action => Pipeline.step? env state action

/-- How the producer of some packages ends when it is not stopped. -/
def ending (packages : List Package) (scan : Scan) : Ending :=
  if packages.all Package.fits then scan.ending else .panicked

/-- What a run comes to. -/
def outcome (packages : List Package) (scan : Scan) (state : State σ) : Outcome Summary :=
  if !packages.all Package.fits && state.producer == .ended .panicked then .panicked overflow
  else Pipeline.outcome scan state

/-- A run with workers. -/
def runParallel (keyOf : KeyOf) (write : Writer σ) (settings : RunSettings) (start : UInt64)
    (scan : Scan) (sink : σ) : Outcome Summary × σ :=
  let packages := Package.handedOut settings.batchSize start.toNat scan
  let env : Environment σ := ⟨keyOf, write, settings.onError, ending packages scan⟩
  let final :=
    finalState (step? env) (.initial (Package.reached packages) settings.workerCount sink)
  (outcome packages scan final, final.sink)

/-- Makes entries of the records of an input and hands them to a writer, the first record at the
word `start`. -/
def index (keyOf : KeyOf) (write : Writer σ) (settings : RunSettings) (start : UInt64)
    (scan : Scan) (sink : σ) : Outcome Summary × σ :=
  match settings.validate with
  | .error error => (.failed error, sink)
  | .ok () =>
    match settings.mode with
    | .sequential => runSequential keyOf write start scan sink
    | .parallel => runParallel keyOf write settings start scan sink

end Checked

end RecordStore
