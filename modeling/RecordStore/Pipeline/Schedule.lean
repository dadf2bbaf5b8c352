import RecordStore.Pipeline.Network

/-!
One run with workers, and what a run comes to.

The schedule lets the process farthest from the input act first, so a package is
written before the next one is handed out. It is one of many; `outcome?` reads off
what a finished run comes to, whatever its schedule was.
-/

namespace RecordStore.Pipeline

variable {σ : Type}

/-- The actions of a run with that many workers, the farthest from the input first. -/
def actions (workers : Nat) : List Action :=
  .collect :: (List.range workers).map .handIn ++ (List.range workers).map .work ++
    (List.range workers).map .handOut ++ [.produce]

/-- Takes the first action that can be taken, as long as there is one. -/
def runActions (next? : State σ → Action → Option (State σ)) (order : List Action) :
    (fuel : Nat) → State σ → State σ
  | 0, state => state
  | fuel + 1, state =>
    match order.findSome? (next? state) with
    | none => state
    | some next => runActions next? order fuel next

/-- The last state of the scheduled run. -/
def finalState (next? : State σ → Action → Option (State σ)) (state : State σ) : State σ :=
  runActions next? (actions state.workers.length) state.measure state

/-- What a run comes to: a panic of the source comes first, then one of the writer, then a failed
read, then the first error that was recorded. -/
def outcome (scan : Scan) (state : State σ) : Outcome Summary :=
  match state.producer, state.collector with
  | .ended .panicked, _ => .panicked "source panicked"
  | _, .panicked => .failed (.workerPanicked "writer")
  | .ended (.readFailed message), _ => .failed (.io (.device message))
  | .ended .stranded, _ => .failed (.workerPanicked "worker")
  | _, _ =>
    match state.firstError with
    | some error => .failed error
    | none => .done ⟨scan.records.length, scan.size, state.sent, state.written⟩

/-- A run with workers. -/
def runParallel (keyOf : KeyOf) (write : Writer σ) (settings : RunSettings) (start : Nat)
    (scan : Scan) (sink : σ) : Outcome Summary × σ :=
  let packages := Package.handedOut settings.batchSize start scan
  let env : Environment σ := ⟨keyOf, write, settings.onError, scan.ending⟩
  let final := finalState (step? env) (.initial packages settings.workerCount sink)
  (outcome scan final, final.sink)

end RecordStore.Pipeline
