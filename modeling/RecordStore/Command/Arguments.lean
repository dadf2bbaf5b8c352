/-!
The arguments of the command line.

Options may stand before the command and behind it; the same option may stand on both
sides, and then the one behind the command counts. The value of an option is checked
when the next option, or the end, shows that the option is complete, so a question for
help that comes earlier is answered first.
-/

namespace RecordStore.Command

/-- The options that take a value. -/
inductive ValueOption
  | config
  | backend
  | index
  | keyPattern
  | keyField
  | batchSize
  | workers
  | input
  | blob
  deriving DecidableEq, Repr

/-- The options that take none. -/
inductive Switch
  | sequential
  | abortOnError
  | overwrite
  deriving DecidableEq, Repr

/-- The kinds of backends that can be asked for. -/
inductive BackendKind
  | log
  | table
  | debug
  deriving DecidableEq, Repr

/-- The commands. -/
inductive Verb
  | index
  | append
  | get
  deriving DecidableEq, Repr

/-- Why there is nothing to run. -/
inductive Stop
  | help
  | version
  | misuse
  deriving DecidableEq, Repr

/-- The options of one side of the command, and the keys behind it. -/
structure Options where
  config : Option String
  backend : Option BackendKind
  index : Option String
  keyPattern : Option String
  keyField : Option String
  batchSize : Option Nat
  workers : Option Nat
  input : Option String
  blob : Option String
  sequential : Bool
  abortOnError : Bool
  overwrite : Bool
  keys : List String
  deriving DecidableEq, Repr

/-- No option. -/
def Options.none : Options :=
  ⟨.none, .none, .none, .none, .none, .none, .none, .none, .none, false, false, false, []⟩

/-- A command with the options that belong to it. -/
structure Invocation where
  verb : Verb
  options : Options
  deriving DecidableEq, Repr

/-! ### Names -/

/-- The options that may stand on either side. -/
def commonOptions : List (String × ValueOption) := [
  ("config", .config), ("backend", .backend), ("index", .index), ("key-pattern", .keyPattern),
  ("key-field", .keyField), ("batch-size", .batchSize), ("workers", .workers)]

/-- The options that belong to a command. -/
def ownOptions : Option Verb → List (String × ValueOption)
  | .none => []
  | some .index => [("input", .input)]
  | some .append => [("blob", .blob), ("input", .input)]
  | some .get => [("blob", .blob)]

/-- The switches. -/
def switches : List (String × Switch) := [
  ("sequential", .sequential), ("abort-on-error", .abortOnError), ("overwrite", .overwrite)]

/-- The names of the backends. -/
def backendKinds : List (String × BackendKind) := [
  ("sled", .log), ("sqlite", .table), ("debug", .debug)]

/-- The names of the commands. -/
def verbs : List (String × Verb) := [("index", .index), ("append", .append), ("get", .get)]

/-! ### Values -/

/-- A natural number below `2 ^ 64`, a plus sign allowed in front. -/
def natural? (text : String) : Option Nat :=
  let digits :=
    match text.toList with
    | '+' :: rest => rest
    | rest => rest
  if digits.isEmpty || !digits.all Char.isDigit then .none
  else
    let n := digits.foldl (fun n c => n * 10 + (c.toNat - 48)) 0
    if n < 1 <<< 64 then some n else .none

/-- A path, which is not empty. -/
def path? (text : String) : Option String :=
  if text = "" then .none else some text

/-- Sets a setting that was not set before. -/
def once {α : Type} (old : Option α) (new : Option α) : Option (Option α) :=
  match old, new with
  | .none, some value => some (some value)
  | _, _ => .none

/-- Sets an option that takes a value; `none` when the value is refused or the option was set. -/
def Options.set? (options : Options) (option : ValueOption) (text : String) : Option Options :=
  match option with
  | .config => (once options.config (path? text)).map fun config => { options with config }
  | .backend =>
    (once options.backend (backendKinds.lookup text)).map fun backend => { options with backend }
  | .index => (once options.index (path? text)).map fun index => { options with index }
  | .keyPattern =>
    (once options.keyPattern (some text)).map fun keyPattern => { options with keyPattern }
  | .keyField => (once options.keyField (some text)).map fun keyField => { options with keyField }
  | .batchSize =>
    (once options.batchSize (natural? text)).map fun batchSize => { options with batchSize }
  | .workers => (once options.workers (natural? text)).map fun workers => { options with workers }
  | .input => (once options.input (path? text)).map fun input => { options with input }
  | .blob => (once options.blob (path? text)).map fun blob => { options with blob }

/-- Turns a switch on; `none` when it was on. -/
def Options.turnOn? (options : Options) : Switch → Option Options
  | .sequential =>
    if options.sequential then .none else some { options with sequential := true }
  | .abortOnError =>
    if options.abortOnError then .none else some { options with abortOnError := true }
  | .overwrite => if options.overwrite then .none else some { options with overwrite := true }

/-- Whether the options of one side go together and those that a command needs are there. -/
def Options.complete (verb : Option Verb) (options : Options) : Bool :=
  let together := options.keyPattern.isNone || options.keyField.isNone
  match verb with
  | some .append => together && options.blob.isSome
  | some .get => together && options.blob.isSome && !options.keys.isEmpty
  | _ => together

/-- The options of both sides; behind the command they count first. -/
def Options.over (behind before : Options) : Options where
  config := behind.config.or before.config
  backend := behind.backend.or before.backend
  index := behind.index.or before.index
  keyPattern := behind.keyPattern.or before.keyPattern
  keyField := behind.keyField.or before.keyField
  batchSize := behind.batchSize.or before.batchSize
  workers := behind.workers.or before.workers
  input := behind.input
  blob := behind.blob
  sequential := behind.sequential || before.sequential
  abortOnError := behind.abortOnError || before.abortOnError
  overwrite := behind.overwrite || before.overwrite
  keys := behind.keys

/-! ### Reading -/

/-- An option that is not complete: it waits for its value, or its value is not yet checked. -/
inductive Pending
  | nothing
  | awaiting (option : ValueOption)
  | filled (option : ValueOption) (text : String)
  deriving DecidableEq, Repr

/-- The arguments of one side read so far. -/
structure Side where
  options : Options
  pending : Pending
  deriving DecidableEq, Repr

/-- A side with nothing on it. -/
def Side.start : Side :=
  ⟨.none, .nothing⟩

/-- Completes the option that is pending. -/
def Side.resolve (side : Side) : Except Stop Options :=
  match side.pending with
  | .nothing => .ok side.options
  | .awaiting _ => .error .misuse
  | .filled option text =>
    match side.options.set? option text with
    | some options => .ok options
    | .none => .error .misuse

/-- What an argument is by its form. -/
inductive Form
  /-- Two dashes alone. -/
  | escape
  /-- Two dashes and a name, with a value behind a sign of equality. -/
  | long (name : String) (value : Option String)
  /-- A dash and letters. -/
  | short (letters : List Char)
  | plain
  deriving DecidableEq, Repr

/-- The form of an argument; a lone dash is a plain one. -/
def form (argument : String) : Form :=
  match argument.toList with
  | ['-', '-'] => .escape
  | '-' :: '-' :: rest =>
    let name := String.ofList (rest.takeWhile (· != '='))
    match rest.dropWhile (· != '=') with
    | _ :: value => .long name (some (String.ofList value))
    | [] => .long name .none
  | '-' :: letter :: rest => .short (letter :: rest)
  | _ => .plain

/-- Takes up an option written with two dashes. -/
def Side.long (verb : Option Verb) (side : Side) (name : String) (value : Option String) :
    Except Stop Side :=
  match (commonOptions ++ ownOptions verb).lookup name with
  | some option =>
    match side.resolve with
    | .error stop => .error stop
    | .ok options =>
      match value with
      | .none => .ok ⟨options, .awaiting option⟩
      | some text =>
        match options.set? option text with
        | some options => .ok ⟨options, .nothing⟩
        | .none => .error .misuse
  | .none =>
    if value.isSome then .error .misuse
    else
      match switches.lookup name with
      | some switch =>
        match side.resolve with
        | .error stop => .error stop
        | .ok options =>
          match options.turnOn? switch with
          | some options => .ok ⟨options, .nothing⟩
          | .none => .error .misuse
      | .none =>
        let stop (reason : Stop) : Except Stop Side :=
          match side.resolve with
          | .error stop => .error stop
          | .ok _ => .error reason
        if name = "help" then stop .help
        else if name = "version" ∧ verb = .none then stop .version
        else .error .misuse

/-- Takes up letters behind one dash, of which the first one decides. -/
def Side.short (verb : Option Verb) (side : Side) (letters : List Char) : Except Stop Side :=
  let stop (reason : Stop) : Except Stop Side :=
    match side.resolve with
    | .error stop => .error stop
    | .ok _ => .error reason
  match letters with
  | 'h' :: _ => stop .help
  | 'V' :: _ => if verb = .none then stop .version else .error .misuse
  | _ => .error .misuse

/-- Takes up a key. -/
def Side.key (side : Side) (key : String) : Except Stop Side :=
  match side.resolve with
  | .error stop => .error stop
  | .ok options => .ok ⟨{ options with keys := options.keys ++ [key] }, .nothing⟩

/-- Reads what stands behind a command. -/
def behind (verb : Verb) : (trailing : Bool) → Side → List String → Except Stop Options
  | _, side, [] =>
    match side.resolve with
    | .error stop => .error stop
    | .ok options => if options.complete (some verb) then .ok options else .error .misuse
  | trailing, side, argument :: arguments =>
    let plain (side : Side) : Except Stop Side :=
      if verb = .get then side.key argument else .error .misuse
    let next : Except Stop (Bool × Side) :=
      if trailing then (plain side).map fun side => (true, side)
      else
        match form argument with
        | .escape => .ok (true, side)
        | .long name value => (side.long (some verb) name value).map fun side => (false, side)
        | .short letters => (side.short (some verb) letters).map fun side => (false, side)
        | .plain =>
          match side.pending with
          | .awaiting option => .ok (false, ⟨side.options, .filled option argument⟩)
          | _ => (plain side).map fun side => (false, side)
    match next with
    | .error stop => .error stop
    | .ok (trailing, side) => behind verb trailing side arguments

/-- What stands behind the word help: nothing, or one command. -/
def helpTopic : List String → Stop
  | [] => .help
  | [topic] => if topic = "help" ∨ (verbs.lookup topic).isSome then .help else .misuse
  | _ => .misuse

/-- Reads what stands before the command, and the rest. -/
def before : Side → List String → Except Stop Invocation
  | _, [] => .error .misuse
  | side, argument :: arguments =>
    match form argument with
    | .escape => .error .misuse
    | .long name value =>
      match side.long .none name value with
      | .error stop => .error stop
      | .ok side => before side arguments
    | .short letters =>
      match side.short .none letters with
      | .error stop => .error stop
      | .ok side => before side arguments
    | .plain =>
      match side.pending with
      | .awaiting option => before ⟨side.options, .filled option argument⟩ arguments
      | _ =>
        if argument = "help" then .error (helpTopic arguments)
        else
          match verbs.lookup argument with
          | .none => .error .misuse
          | some verb =>
            match behind verb false .start arguments with
            | .error stop => .error stop
            | .ok options =>
              match side.resolve with
              | .error stop => .error stop
              | .ok outer =>
                if outer.complete .none then .ok ⟨verb, options.over outer⟩ else .error .misuse

/-- The invocation that arguments ask for. -/
def parse (arguments : List String) : Except Stop Invocation :=
  before .start arguments

end RecordStore.Command
