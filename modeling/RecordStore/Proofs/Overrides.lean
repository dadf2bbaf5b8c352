import RecordStore.Command.Overrides
import Mathlib

/-!
What options make of the settings of a file.

An option replaces the setting that it names and no other (`Overrides`), with one exception: naming
the kind of a table makes its destination anew, and with it goes what the file says of keys that the
table holds already. `settings_overrides` says that this is the only one. Without the kind, a new
place alone leaves the rest of the destination as it was.
-/

namespace RecordStore

/-! ### The parts of a destination -/

namespace Destination

/-- The kind of a destination. -/
def kind : Destination → Command.BackendKind
  | .log _ => .log
  | .table _ _ => .table
  | .debug => .debug

/-- The place of the index, where there is one. -/
def place? : Destination → Option String
  | .log path => some path
  | .table path _ => some path
  | .debug => none

/-- What is done with a key that is held already; keys are refused where nothing is said of it. -/
def onDuplicate : Destination → OnDuplicate
  | .table _ onDuplicate => onDuplicate
  | _ => .reject

end Destination

namespace Command.Options

/-! ### What options are to do -/

/-- The settings that the options change: those of the file that they name, or the defaults. -/
inductive StartsFrom (options : Options) (disk : Disk) : Settings → Prop
  | default (noFile : options.config = .none) : StartsFrom options disk .default
  | file {path : String} {settings : Settings} (named : options.config = some path)
      (loaded : loadSettings disk path = .ok settings) : StartsFrom options disk settings

/-- Every setting that an option names has the option's value, and every other one is kept. What a
table does with a key that it holds is left to `KeepsPolicy`. -/
structure Overrides (options : Options) (before after : Settings) : Prop where
  batchSize : after.run.batchSize = options.batchSize.getD before.run.batchSize
  workers : after.run.workers = options.workers.getD before.run.workers
  mode : after.run.mode = if options.sequential then .sequential else before.run.mode
  onError : after.run.onError = if options.abortOnError then .abort else before.run.onError
  field : ∀ name, options.keyField = some name → after.keys = .field name
  pattern : options.keyField = .none → ∀ source, options.keyPattern = some source →
    after.keys = .pattern source
  keys : options.keyField = .none → options.keyPattern = .none → after.keys = before.keys
  kind : after.destination.kind = options.backend.getD before.destination.kind
  place : after.destination.kind ≠ .debug →
    after.destination.place? = options.index.or before.destination.place?

/-- A table replaces the keys that it holds when an option says so, and otherwise does what was said
before. -/
def KeepsPolicy (options : Options) (before after : Settings) : Prop :=
  after.destination.kind = .table →
    after.destination.onDuplicate =
      if options.overwrite then .overwrite else before.destination.onDuplicate

/-- The options ask for a table anew, so that what was said of keys that it holds is lost. -/
def Forgets (options : Options) (before : Settings) : Prop :=
  options.backend = some .table ∧ options.overwrite = false ∧
    before.destination.onDuplicate = .overwrite

variable {options : Options} {disk : Disk} {before after : Settings} {old new : Destination}

/-! ### What they do -/

theorem indexPath_map_eq_ok {make : String → Destination} :
    options.indexPath.map make = .ok new ↔ ∃ path, options.index = some path ∧ make path = new := by
  unfold indexPath
  cases options.index with
  | none => simp [Except.map]
  | some path => simp [Except.map]

/-- The kind and the place are those that are asked for. A table that is asked for by its kind
refuses the keys that it holds. -/
theorem place_eq_ok (placed : options.place old = .ok new) :
    new.kind = options.backend.getD old.kind ∧
      (new.kind ≠ .debug → new.place? = options.index.or old.place?) ∧
      (new.kind = .table → new.onDuplicate =
        if options.backend = some .table then .reject else old.onDuplicate) := by
  unfold place at placed
  split at placed
  · rename_i backend
    cases placed
    rw [backend]
    exact ⟨rfl, fun shown => absurd rfl shown, fun table => nomatch table⟩
  · rename_i backend
    obtain ⟨path, index, rfl⟩ := indexPath_map_eq_ok.mp placed
    rw [backend, index]
    exact ⟨rfl, fun _ => rfl, fun table => nomatch table⟩
  · rename_i backend
    obtain ⟨path, index, rfl⟩ := indexPath_map_eq_ok.mp placed
    rw [backend, index]
    exact ⟨rfl, fun _ => rfl, fun _ => rfl⟩
  · rename_i backend index
    cases placed
    rw [backend, index]
    exact ⟨rfl, fun _ => rfl, fun _ => rfl⟩
  · rename_i path backend index
    rw [backend, index]
    -- A new place alone keeps the kind, and with it what is said of keys that are held.
    cases old with
    | log _ =>
        cases placed
        exact ⟨rfl, fun _ => rfl, fun _ => rfl⟩
    | table _ _ =>
        cases placed
        exact ⟨rfl, fun _ => rfl, fun _ => rfl⟩
    | debug => cases placed

/-- The switch for keys that are held already changes nothing else. -/
theorem exists_placed (chosen : options.chosenDestination old = .ok new) :
    ∃ placed, options.place old = .ok placed ∧ new.kind = placed.kind ∧
      new.place? = placed.place? ∧ (new.kind = .table → new.onDuplicate =
        if options.overwrite then .overwrite else placed.onDuplicate) := by
  unfold chosenDestination at chosen
  split at chosen
  · rename_i path onDuplicate placed
    cases chosen
    exact ⟨_, placed, rfl, rfl, fun _ => rfl⟩
  · rename_i noTable
    refine ⟨new, chosen, rfl, rfl, fun table => ?_⟩
    cases new with
    | log _ => cases table
    | table path onDuplicate => exact absurd chosen (noTable path onDuplicate)
    | debug => cases table

theorem change_eq_ok (changed : options.change before = .ok after) :
    after.run = options.chosenRun before.run ∧ after.keys = options.chosenKeys before.keys ∧
      options.chosenDestination before.destination = .ok after.destination := by
  unfold change at changed
  split at changed
  · cases changed
  · rename_i destination chosen
    cases valid : (options.chosenRun before.run).validate with
    | error error =>
        simp only [valid] at changed
        cases changed
    | ok =>
        simp only [valid] at changed
        cases changed
        exact ⟨rfl, rfl, chosen⟩

theorem overrides_of_change (changed : options.change before = .ok after) :
    Overrides options before after := by
  obtain ⟨run, keys, chosen⟩ := change_eq_ok changed
  obtain ⟨placed, here, kind, place, -⟩ := exists_placed chosen
  obtain ⟨sameKind, samePlace, -⟩ := place_eq_ok here
  constructor
  · rw [run, chosenRun]
  · rw [run, chosenRun]
  · rw [run, chosenRun]
  · rw [run, chosenRun]
  · intro name field
    rw [keys, chosenKeys, field]
  · intro noField source pattern
    rw [keys, chosenKeys, noField, pattern]
  · intro noField noPattern
    rw [keys, chosenKeys, noField, noPattern]
  · rw [kind, sameKind]
  · rw [kind, place]
    exact samePlace

/-- What is said of keys that a table holds is kept, unless the options ask for a table anew. -/
theorem keepsPolicy_iff (changed : options.change before = .ok after) :
    KeepsPolicy options before after ↔ ¬Forgets options before := by
  obtain ⟨-, -, chosen⟩ := change_eq_ok changed
  obtain ⟨placed, here, kind, -, policy⟩ := exists_placed chosen
  obtain ⟨sameKind, -, anew⟩ := place_eq_ok here
  unfold KeepsPolicy Forgets
  by_cases table : after.destination.kind = .table
  · rw [policy table, anew (kind ▸ table)]
    cases options.overwrite with
    | true => simp [table]
    | false =>
        by_cases asked : options.backend = some .table
        · cases before.destination.onDuplicate <;> simp [table, asked]
        · simp [asked]
  · have other : options.backend ≠ some .table := by
      intro asked
      rw [asked] at sameKind
      exact table (kind.trans sameKind)
    simp [table, other]

theorem exists_change (resolved : options.settings disk = .ok after) :
    ∃ before, options.StartsFrom disk before ∧ options.change before = .ok after := by
  unfold settings at resolved
  split at resolved
  · rename_i noFile
    exact ⟨_, .default noFile, resolved⟩
  · rename_i path named
    split at resolved
    · cases resolved
    · rename_i before loaded
      exact ⟨before, .file named loaded, resolved⟩

/-- Options replace the settings that they name and keep all others, but for one: a table that is
asked for by its kind refuses the keys that it holds, whatever the file says, unless the switch for
replacing them is given too. -/
theorem settings_overrides (resolved : options.settings disk = .ok after) :
    ∃ before, options.StartsFrom disk before ∧ Overrides options before after ∧
      (KeepsPolicy options before after ↔ ¬Forgets options before) := by
  obtain ⟨before, start, changed⟩ := exists_change resolved
  exact ⟨before, start, overrides_of_change changed, keepsPolicy_iff changed⟩

/-- A disk with a file of settings that asks for a table in which keys are replaced. -/
def replacing : Disk :=
  (Disk.empty.createAt ["c"] (.bytes (Bytes.ofText
    ("\x7b\"backend\":\x7b\"type\":\"sqlite\",\"path\":\"a\"," ++
      "\"duplicates\":\"overwrite\"\x7d\x7d")))).2

/-- Options that name this file and another place for the index. -/
def moving : Options :=
  { Options.none with config := some "c", index := some "b" }

/-- Another place for the table leaves it as it is, and a switch changes how records are worked
through. -/
theorem settings_overrides_place :
    ({ moving with sequential := true } : Options).settings replacing =
        .ok ⟨.sequential, .default, .table "b" .overwrite⟩ ∧
      ∃ before, ({ moving with sequential := true } : Options).StartsFrom replacing before ∧
        Overrides { moving with sequential := true } before
          ⟨.sequential, .default, .table "b" .overwrite⟩ ∧
        KeepsPolicy { moving with sequential := true } before
          ⟨.sequential, .default, .table "b" .overwrite⟩ := by
  have resolved : ({ moving with sequential := true } : Options).settings replacing =
      .ok ⟨.sequential, .default, .table "b" .overwrite⟩ := by
    cbv
  obtain ⟨before, start, overrides, keeps⟩ := settings_overrides resolved
  refine ⟨resolved, before, start, overrides, keeps.mpr ?_⟩
  rintro ⟨asked, -, -⟩
  cases asked

/-- With the kind of the table named beside its place, keys are refused. -/
theorem settings_forget_policy :
    ({ moving with backend := some .table } : Options).StartsFrom replacing
        ⟨.default, .default, .table "a" .overwrite⟩ ∧
      ({ moving with backend := some .table } : Options).settings replacing =
        .ok ⟨.default, .default, .table "b" .reject⟩ ∧
      ¬KeepsPolicy { moving with backend := some .table }
        ⟨.default, .default, .table "a" .overwrite⟩ ⟨.default, .default, .table "b" .reject⟩ := by
  have loaded : loadSettings replacing "c" = .ok ⟨.default, .default, .table "a" .overwrite⟩ := by
    cbv
  have resolved : ({ moving with backend := some .table } : Options).settings replacing =
      .ok ⟨.default, .default, .table "b" .reject⟩ := by
    cbv
  refine ⟨.file rfl loaded, resolved, fun keeps => ?_⟩
  cases keeps rfl

end Command.Options

end RecordStore
