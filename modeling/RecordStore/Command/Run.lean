import RecordStore.Command.Overrides
import RecordStore.Store
import RecordStore.Text.Terminal

/-!
The commands.

`index` makes an index of records, `append` adds records to a blob file and indexes
them, `get` prints the records under some keys. A run gives its exit status, what it
prints and the errors it logs, and the disk it leaves; whatever it has open is let go
of at its end.
-/

namespace RecordStore.Command

/-- What a run gives. -/
structure Report where
  exit : Nat
  printed : Bytes
  /-- The messages of the error log. -/
  errors : List String
  disk : Disk
  deriving DecidableEq, Repr

/-- The line of an error in the log. -/
def errorLine (error : Error) : String :=
  Text.forTerminal error.message ++ " code=" ++ Text.quoted error.code

/-- The line of a key without a record. -/
def missingLine (key : String) : String :=
  "key not found key=" ++ key

/-- Lets go of what a backend has open. -/
def release (backend : Backend) (disk : Disk) : Disk :=
  (backend.close disk).2.2

/-- What a backend has printed. -/
def printedBy : Backend → Bytes
  | .debug printer => printer.printed
  | _ => []

/-- The end of a run that made entries. -/
def finish {α : Type} (outcome : Outcome α) (backend : Backend) (disk : Disk) : Report :=
  let (closed, backend, disk) := backend.close disk
  let fail (error : Error) : Report := ⟨1, printedBy backend, [errorLine error], disk⟩
  match outcome, closed with
  | .failed error, _ => fail error
  | .panicked message, _ => ⟨101, printedBy backend, [message], disk⟩
  | .done _, .error error => fail error
  | .done _, .ok () => ⟨0, printedBy backend, [], disk⟩

/-- The source of the records: a file, or what is handed in. A folder opens but cannot be read. -/
def input (path : Option String) (handedIn : Bytes) (disk : Disk) : Except Error Source :=
  match path with
  | .none => .ok (.ofBytes handedIn)
  | some path =>
    match disk.find path with
    | .error fault => .error (.io fault)
    | .ok (.file id) => .ok (.ofBytes (disk.content id))
    | .ok _ => .ok [.failed IoFault.isFolder.message]

/-- Gets the records of keys one after another; gives what they print, the lines that the log has
for keys without a record, and the error that ends it. -/
def getAll : List String → Store → Disk → Bytes × List String × Option Error × Store × Disk
  | [], store, disk => ([], [], .none, store, disk)
  | key :: keys, store, disk =>
    match store.get key disk with
    | (.error error, store, disk) => ([], [], some error, store, disk)
    | (.ok .none, store, disk) =>
      let (printed, lines, error, store, disk) := getAll keys store disk
      (printed, missingLine key :: lines, error, store, disk)
    | (.ok (some record), store, disk) =>
      let (printed, lines, error, store, disk) := getAll keys store disk
      (record ++ printed, lines, error, store, disk)

/-- Runs `get`. -/
def runGet (keys : List String) (store : Store) (disk : Disk) : Report :=
  let (printed, lines, error, store, disk) := getAll keys store disk
  let disk := release store.backend disk
  match error with
  | some error => ⟨1, printed, lines ++ [errorLine error], disk⟩
  | .none => ⟨if lines.isEmpty then 0 else 2, printed, lines, disk⟩

/-- Runs `index`. -/
def runIndex (source : Source) (extractor : Extractor) (settings : RunSettings)
    (backend : Backend) (disk : Disk) : Report :=
  let scan := source.records Source.usualBuffer
  let (outcome, backend, disk) :=
    index extractor.key Backend.writer settings 0 scan (backend, disk)
  finish outcome backend disk

/-- Runs `append`. -/
def runAppend (source : Source) (extractor : Extractor) (settings : RunSettings) (store : Store)
    (disk : Disk) : Report :=
  let (outcome, _, store, disk) := store.append source extractor settings disk
  finish outcome store.backend disk

/-- Runs a command with its settings. -/
def runWith (settings : Settings) (extractor : Extractor) (invocation : Invocation)
    (handedIn : Bytes) (disk : Disk) : Report :=
  let options := invocation.options
  let backend := Backend.ofDestination settings.destination
  let store := Store.new (options.blob.getD "") backend
  match invocation.verb with
  | .get => runGet options.keys store disk
  | .index =>
    match input options.input handedIn disk with
    | .error error => ⟨1, [], [errorLine error], disk⟩
    | .ok source => runIndex source extractor settings.run backend disk
  | .append =>
    match input options.input handedIn disk with
    | .error error => ⟨1, [], [errorLine error], disk⟩
    | .ok source => runAppend source extractor settings.run store disk

/-- Runs a command. -/
def runInvocation (invocation : Invocation) (handedIn : Bytes) (disk : Disk) : Report :=
  let prepared : Except Error (Settings × Extractor) :=
    match invocation.options.settings disk with
    | .error error => .error error
    | .ok settings => settings.keys.build.map fun extractor => (settings, extractor)
  match prepared with
  | .error error => ⟨1, [], [errorLine error], disk⟩
  | .ok (settings, extractor) => runWith settings extractor invocation handedIn disk

/-- The name of the program and its version. -/
def versionLine : String := "microblob 0.2.0\n"

/-- Runs the program on its arguments and what is handed in, on a disk without shared memory. -/
def runAlone (arguments : List String) (handedIn : Bytes) (disk : Disk) : Report :=
  match parse arguments with
  | .ok invocation => runInvocation invocation handedIn disk
  | .error .help => ⟨0, [], [], disk⟩
  | .error .version => ⟨0, Bytes.ofText versionLine, [], disk⟩
  | .error .misuse => ⟨2, [], [], disk⟩

/-- Runs the program on its arguments and what is handed in; memory that others share is not for a
run to see. -/
def run (arguments : List String) (handedIn : Bytes) (disk : Disk) : Report :=
  let report := runAlone arguments handedIn { disk with memories := [] }
  { report with disk := { report.disk with memories := disk.memories } }

end RecordStore.Command
