import RecordStore.Command.Arguments
import RecordStore.Settings.Json
import RecordStore.Disk

/-!
The settings of a run: what a file says, changed by the options.

Every setting that an option names has the option's value; every other one keeps what
the file says, or its default without a file.
-/

namespace RecordStore.Command

/-- The settings of a file. -/
def loadSettings (disk : Disk) (path : String) : Except Error Settings :=
  match disk.contentAt path with
  | .error fault => .error (.io fault)
  | .ok content => Settings.ofFile path content

namespace Options

/-- The rule for keys; a field counts before a pattern. -/
def chosenKeys (options : Options) (before : KeyRule) : KeyRule :=
  match options.keyField, options.keyPattern with
  | some name, _ => .field name
  | .none, some source => .pattern source
  | .none, .none => before

/-- How records are worked through. -/
def chosenRun (options : Options) (before : RunSettings) : RunSettings where
  batchSize := options.batchSize.getD before.batchSize
  workers := options.workers.getD before.workers
  mode := if options.sequential then .sequential else before.mode
  onError := if options.abortOnError then .abort else before.onError

/-- The place of the index, which some destinations need. -/
def indexPath (options : Options) : Except Error String :=
  match options.index with
  | some path => .ok path
  | .none => .error (.invalidSettings .indexMissing)

/-- The destination of the kind that is asked for, or the one before at the place that is
asked for. -/
def place (options : Options) (before : Destination) : Except Error Destination :=
  match options.backend, options.index with
  | some .debug, _ => .ok .debug
  | some .log, _ => options.indexPath.map .log
  | some .table, _ => options.indexPath.map fun path => .table path .reject
  | .none, .none => .ok before
  | .none, some path =>
    match before with
    | .log _ => .ok (.log path)
    | .table _ onDuplicate => .ok (.table path onDuplicate)
    | .debug => .error (.invalidSettings .indexUnused)

/-- The destination. -/
def chosenDestination (options : Options) (before : Destination) : Except Error Destination :=
  match options.place before with
  | .ok (.table path onDuplicate) =>
    .ok (.table path (if options.overwrite then .overwrite else onDuplicate))
  | other => other

/-- Settings changed by the options. -/
def change (options : Options) (before : Settings) : Except Error Settings :=
  match options.chosenDestination before.destination with
  | .error error => .error error
  | .ok destination =>
    let settings : Settings :=
      ⟨options.chosenRun before.run, options.chosenKeys before.keys, destination⟩
    settings.run.validate.map fun _ => settings

/-- The settings that options ask for. -/
def settings (options : Options) (disk : Disk) : Except Error Settings :=
  match options.config with
  | .none => options.change .default
  | some path =>
    match loadSettings disk path with
    | .error error => .error error
    | .ok settings => options.change settings

end Options

end RecordStore.Command
