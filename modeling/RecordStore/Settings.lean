import RecordStore.Extractor

/-!
Settings.

They say how records are worked through, by which rule keys are made of them and where
the entries go. Every part has a default. A batch of no records is the one setting
that is refused; a rule without a pattern or a member's name is refused when its
extractor is built.
-/

namespace RecordStore

/-- Whether records are handed to workers or worked through one by one. -/
inductive RunMode
  | parallel
  | sequential
  deriving DecidableEq, Repr

/-- What a parallel run does after its first error. -/
inductive OnError
  /-- The rest of the input is read and written all the same. -/
  | drain
  /-- Nothing more is handed out or written. -/
  | abort
  deriving DecidableEq, Repr

/-- What a table does with a key that it holds already. -/
inductive OnDuplicate
  | reject
  | overwrite
  deriving DecidableEq, Repr

/-- The name of a policy. -/
def OnDuplicate.name : OnDuplicate → String
  | .reject => "reject"
  | .overwrite => "overwrite"

/-- How records are worked through. -/
structure RunSettings where
  /-- Records in a package. -/
  batchSize : Nat
  /-- Workers; zero leaves their number open. -/
  workers : Nat
  mode : RunMode
  onError : OnError
  deriving DecidableEq, Repr

namespace RunSettings

/-- The settings that are used when none are given. -/
def default : RunSettings :=
  ⟨50000, 0, .parallel, .drain⟩

/-- The settings of a run without workers. -/
def sequential : RunSettings :=
  { default with mode := .sequential }

/-- The workers of a run that leaves their number open. -/
def openWorkers : Nat := 4

/-- The number of workers. -/
def workerCount (settings : RunSettings) : Nat :=
  if 0 < settings.workers then settings.workers else openWorkers

/-- Refuses empty batches. -/
def validate (settings : RunSettings) : Except Error Unit :=
  if settings.batchSize = 0 then .error (.invalidSettings .emptyBatch) else .ok ()

theorem workerCount_pos (settings : RunSettings) : 0 < settings.workerCount := by
  unfold workerCount
  split
  · assumption
  · decide

end RunSettings

/-- How keys are made of records. -/
inductive KeyRule
  | pattern (source : String)
  | field (name : String)
  deriving DecidableEq, Repr

namespace KeyRule

/-- The rule that is used when none is given. -/
def default : KeyRule :=
  .pattern defaultPattern

/-- The extractor of a rule. -/
def build : KeyRule → Except Error Extractor
  | .pattern "" => .error (.invalidSettings .emptyPattern)
  | .pattern source => Extractor.ofPattern source
  | .field "" => .error (.invalidSettings .emptyField)
  | .field name => .ok (.field name)

end KeyRule

/-- Where entries go. -/
inductive Destination
  /-- A log of keys and values, the last value of a key counting. -/
  | log (path : String)
  /-- A table with unique keys. -/
  | table (path : String) (onDuplicate : OnDuplicate)
  /-- A line of text for each entry. -/
  | debug
  deriving DecidableEq, Repr

namespace Destination

/-- The destination that is used when none is given. -/
def default : Destination := .debug

/-- The name of the kind of destination. -/
def name : Destination → String
  | .log _ => "sled"
  | .table _ _ => "sqlite"
  | .debug => "debug"

end Destination

/-- All settings together. -/
structure Settings where
  run : RunSettings
  keys : KeyRule
  destination : Destination
  deriving DecidableEq, Repr

/-- The settings that are used when none are given. -/
def Settings.default : Settings :=
  ⟨.default, .default, .default⟩

end RecordStore
