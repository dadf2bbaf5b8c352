import RecordStore.Settings
import RecordStore.Pipeline.Package

/-!
A run with workers, step by step.

A producer hands packages to workers, who make entries of them and hand those to a
collector, the only one who writes. Nothing is stored on the way: handing over is one
step of both sides. Any of them may record an error, of which the first one is kept; in a
step of its own, which others may come before, it then cancels under the policy `abort`
what has not begun. `step?` says what each process can do in a state, so a run is any list
of actions that leads to a state where none is left.
-/

namespace RecordStore.Pipeline

/-- How the producer ended. -/
inductive ProducerEnd
  /-- All packages were handed out. -/
  | exhausted
  /-- A recorded error stopped it. -/
  | cancelled
  | readFailed (message : String)
  | panicked
  /-- Nobody was left to take a package. -/
  | stranded
  deriving DecidableEq, Repr

/-- The producer: between packages, about to hand one over, or at its end. -/
inductive Producer
  | ready (rest : List Package)
  | offering (package : Package) (rest : List Package)
  | ended (how : ProducerEnd)
  deriving DecidableEq, Repr

/-- A worker. -/
inductive Worker
  | idle
  /-- A package was taken and cancelling not looked at. -/
  | holding (package : Package)
  | extracting (package : Package)
  /-- An error is recorded and nothing cancelled for it yet. -/
  | reporting (batch : List Entry)
  | sending (batch : List Entry)
  | gone
  deriving DecidableEq, Repr

/-- The collector. -/
inductive Collector
  | waiting
  /-- A batch was taken and cancelling not looked at. -/
  | judging (batch : List Entry)
  | writing (batch : List Entry)
  /-- An error is recorded and nothing cancelled for it yet. -/
  | reporting
  | gone
  | panicked
  deriving DecidableEq, Repr

/-- What stays the same throughout a run. -/
structure Environment (σ : Type) where
  keyOf : KeyOf
  write : Writer σ
  policy : OnError
  ending : Ending

/-- A state of a run. -/
structure State (σ : Type) where
  producer : Producer
  workers : List Worker
  collector : Collector
  firstError : Option Error
  cancelled : Bool
  sink : σ
  /-- Packages handed to workers. -/
  sent : Nat
  /-- Entries that the writer accepted. -/
  written : Nat

/-- Who acts. Handing over takes two. -/
inductive Action
  | produce
  | handOut (worker : Nat)
  | work (worker : Nat)
  | handIn (worker : Nat)
  | collect
  deriving DecidableEq, Repr

variable {σ : Type}

namespace State

/-- The state before the first step. -/
def initial (packages : List Package) (workers : Nat) (sink : σ) : State σ where
  producer := .ready packages
  workers := List.replicate workers .idle
  collector := .waiting
  firstError := none
  cancelled := false
  sink := sink
  sent := 0
  written := 0

/-- Records an error, of which the first one is kept. -/
def record (error : Error) (state : State σ) : State σ :=
  { state with firstError := some (state.firstError.getD error) }

/-- Behind a recorded error the rest is cancelled under `abort`. -/
def cancel (policy : OnError) (state : State σ) : State σ :=
  { state with cancelled := state.cancelled || policy == .abort }

/-- Sets what one worker is doing. -/
def setWorker (state : State σ) (i : Nat) (worker : Worker) : State σ :=
  { state with workers := state.workers.set i worker }

/-- Whether all workers have left. -/
def allGone (state : State σ) : Bool :=
  state.workers.all (· == .gone)

/-- Whether the producer is at its end. -/
def producerEnded (state : State σ) : Bool :=
  match state.producer with
  | .ended _ => true
  | _ => false

/-- Whether the collector takes no more batches. -/
def collectorLeft (state : State σ) : Bool :=
  match state.collector with
  | .gone => true
  | .panicked => true
  | _ => false

/-- Whether every process is at its end. -/
def finished (state : State σ) : Bool :=
  state.producerEnded && state.allGone && state.collectorLeft

end State

/-- How the producer ends when the input does. -/
def ProducerEnd.ofEnding : Ending → ProducerEnd
  | .finished => .exhausted
  | .failed message => .readFailed message
  | .panicked => .panicked

/-- The producer on its own: it looks at cancelling before every package, and leaves when the
workers have. -/
def produce? (env : Environment σ) (state : State σ) : Option (State σ) :=
  match state.producer with
  | .ready [] => some { state with producer := .ended (.ofEnding env.ending) }
  | .ready (package :: rest) =>
    if state.cancelled then some { state with producer := .ended .cancelled }
    else some { state with producer := .offering package rest }
  | .offering _ _ =>
    if state.allGone then some { state with producer := .ended .stranded } else none
  | .ended _ => none

/-- The producer hands its package to an idle worker. -/
def handOut? (state : State σ) (i : Nat) : Option (State σ) :=
  match state.producer, state.workers[i]? with
  | .offering package rest, some .idle =>
    some { state with
      producer := .ready rest
      workers := state.workers.set i (.holding package)
      sent := state.sent + 1 }
  | _, _ => none

/-- A worker on its own: it drops a package that was cancelled, makes entries up to the first
record without a key, and leaves when the producer or the collector has. -/
def work? (env : Environment σ) (state : State σ) (i : Nat) : Option (State σ) :=
  match state.workers[i]? with
  | some .idle => if state.producerEnded then some (state.setWorker i .gone) else none
  | some (.holding package) =>
    some (state.setWorker i (if state.cancelled then .idle else .extracting package))
  | some (.extracting package) =>
    match package.entries env.keyOf with
    | (batch, none) => some (state.setWorker i (.sending batch))
    | (batch, some error) => some ((state.record error).setWorker i (.reporting batch))
  | some (.reporting batch) => some ((state.cancel env.policy).setWorker i (.sending batch))
  | some (.sending _) => if state.collectorLeft then some (state.setWorker i .gone) else none
  | some .gone => none
  | none => none

/-- A worker hands its batch to the collector. -/
def handIn? (state : State σ) (i : Nat) : Option (State σ) :=
  match state.collector, state.workers[i]? with
  | .waiting, some (.sending batch) =>
    some { state with
      collector := .judging batch
      workers := state.workers.set i .idle }
  | _, _ => none

/-- The collector on its own: it passes over batches that are empty or were cancelled, and leaves
when everybody else has. -/
def collect? (env : Environment σ) (state : State σ) : Option (State σ) :=
  match state.collector with
  | .waiting =>
    if state.producerEnded && state.allGone then some { state with collector := .gone } else none
  | .judging batch =>
    if batch.isEmpty || state.cancelled then some { state with collector := .waiting }
    else some { state with collector := .writing batch }
  | .writing batch =>
    match env.write batch state.sink with
    | (.accepted, sink) =>
      some { state with
        collector := .waiting
        sink := sink
        written := state.written + batch.length }
    | (.refused error, sink) =>
      some ({ state with collector := .reporting, sink := sink }.record error)
    | (.panicked _, sink) => some { state with collector := .panicked, sink := sink }
  | .reporting => some ({ state with collector := .waiting }.cancel env.policy)
  | .gone => none
  | .panicked => none

/-- The state after an action, if it can be taken. -/
def step? (env : Environment σ) (state : State σ) : Action → Option (State σ)
  | .produce => produce? env state
  | .handOut i => handOut? state i
  | .work i => work? env state i
  | .handIn i => handIn? state i
  | .collect => collect? env state

/-- One step of a run. -/
def Step (env : Environment σ) (before after : State σ) : Prop :=
  ∃ action, step? env before action = some after

/-- The states that a run can come to. -/
inductive Reaches (env : Environment σ) (start : State σ) : State σ → Prop
  | refl : Reaches env start start
  | tail {before after : State σ} :
      Reaches env start before → Step env before after → Reaches env start after

/-! ### What is left to do -/

/-- The steps that a producer may still cause. -/
def Producer.measure : Producer → Nat
  | .ready rest => 9 * rest.length + 1
  | .offering _ rest => 9 * rest.length + 9
  | .ended _ => 0

/-- The steps that a worker may still cause. -/
def Worker.measure : Worker → Nat
  | .idle => 1
  | .holding _ => 8
  | .extracting _ => 7
  | .reporting _ => 6
  | .sending _ => 5
  | .gone => 0

/-- The steps that a collector may still cause. -/
def Collector.measure : Collector → Nat
  | .waiting => 1
  | .judging _ => 4
  | .writing _ => 3
  | .reporting => 2
  | .gone => 0
  | .panicked => 0

/-- The steps that a state may still cause; every step takes away at least one. -/
def State.measure (state : State σ) : Nat :=
  state.producer.measure + (state.workers.map Worker.measure).foldr (· + ·) 0 +
    state.collector.measure

end RecordStore.Pipeline
