import RecordStore.Settings
import RecordStore.Json.Printer
import RecordStore.Json.Tagged

/-!
The JSON form of settings.

Members that are not given keep their defaults, and members that are unknown are
passed over. The kinds of rules and of destinations are told apart by the member `type`.
-/

namespace RecordStore

/-! ### Runs -/

/-- The names of the modes. -/
def RunMode.choices : Json.Choices RunMode :=
  [("parallel", .parallel), ("sequential", .sequential)]

/-- A mode in JSON. -/
def RunMode.toJson : RunMode → Json
  | .parallel => .text "parallel"
  | .sequential => .text "sequential"

/-- The names of what follows an error. -/
def OnError.choices : Json.Choices OnError :=
  [("drain", .drain), ("abort", .abort)]

/-- What follows an error, in JSON. -/
def OnError.toJson : OnError → Json
  | .drain => .text "drain"
  | .abort => .text "abort"

namespace RunSettings

/-- The settings in JSON. -/
def toJson (settings : RunSettings) : Json :=
  .object [
    ("batch_size", .number (.natural settings.batchSize)),
    ("workers", .number (.natural settings.workers)),
    ("mode", settings.mode.toJson),
    ("failure", settings.onError.toJson)]

/-- The members of the settings. -/
def record : Json.Record RunSettings where
  expected := "struct PipelineConfig"
  start := default
  fields := [
    ⟨"batch_size", (Json.readNatural "usize").map fun n settings => { settings with batchSize := n }⟩,
    ⟨"workers", (Json.readNatural "usize").map fun n settings => { settings with workers := n }⟩,
    ⟨"mode", (Json.readChoice RunMode.choices).map fun mode settings => { settings with mode }⟩,
    ⟨"failure",
      (Json.readChoice OnError.choices).map fun onError settings => { settings with onError }⟩]
  complete := false

/-- Reads the settings. -/
def read : Json.Reader RunSettings := record.read

end RunSettings

/-- A member that holds a text. -/
def Json.textPart (name expected : String) : Json.Part String where
  name := name
  decode value :=
    match Json.decodeString expected value with
    | .error problem => .error problem
    | .ok content => .ok fun _ => content
  required := true

/-! ### Rules for keys -/

/-- The kinds of rules. -/
inductive KeyKind
  | pattern
  | field

namespace KeyRule

/-- The names of the kinds. -/
def tags : Json.Choices KeyKind :=
  [("pattern", .pattern), ("field", .field)]

/-- The rule in JSON. -/
def toJson : KeyRule → Json
  | .pattern source => .object [("type", .text "pattern"), ("pattern", .text source)]
  | .field name => .object [("type", .text "field"), ("name", .text name)]

/-- The members of a pattern. -/
def patternVariant : Json.Variant String where
  expected := "struct variant ExtractorConfig::Pattern"
  start := ""
  parts := [Json.textPart "pattern" "a string"]

/-- The members of a field. -/
def fieldVariant : Json.Variant String where
  expected := "struct variant ExtractorConfig::Field"
  start := ""
  parts := [Json.textPart "name" "a string"]

/-- The rule of a kind. -/
def decode : KeyKind → Json.Content → Except Json.Problem KeyRule
  | .pattern, content => (patternVariant.decode content).map .pattern
  | .field, content => (fieldVariant.decode content).map .field

/-- Reads a rule. -/
def read : Json.Reader KeyRule :=
  Json.readTagged "internally tagged enum ExtractorConfig" tags decode

end KeyRule

/-! ### Destinations -/

/-- The names of what becomes of a key that is there. -/
def OnDuplicate.choices : Json.Choices OnDuplicate :=
  [("reject", .reject), ("overwrite", .overwrite)]

/-- The kinds of destinations. -/
inductive DestinationKind
  | log
  | table
  | debug

namespace Destination

/-- The names of the kinds. -/
def tags : Json.Choices DestinationKind :=
  [("sled", .log), ("sqlite", .table), ("debug", .debug)]

/-- The destination in JSON. -/
def toJson : Destination → Json
  | .log path => .object [("type", .text "sled"), ("path", .text path)]
  | .table path onDuplicate =>
    .object [("type", .text "sqlite"), ("path", .text path), ("duplicates", .text onDuplicate.name)]
  | .debug => .object [("type", .text "debug")]

/-- The members of a log. -/
def logVariant : Json.Variant String where
  expected := "struct variant BackendConfig::Sled"
  start := ""
  parts := [Json.textPart "path" "path string"]

/-- The members of a table. -/
def tableVariant : Json.Variant (String × OnDuplicate) where
  expected := "struct variant BackendConfig::Sqlite"
  start := ("", .reject)
  parts := [
    { name := "path"
      decode value :=
        match Json.decodeString "path string" value with
        | .error problem => .error problem
        | .ok path => .ok fun (_, onDuplicate) => (path, onDuplicate)
      required := true },
    { name := "duplicates"
      decode value :=
        match Json.decodeChoice OnDuplicate.choices value with
        | .error problem => .error problem
        | .ok onDuplicate => .ok fun (path, _) => (path, onDuplicate)
      required := false }]

/-- The members of a printer, of which there are none. -/
def debugVariant : Json.Variant Unit where
  expected := "unit variant BackendConfig::Debug"
  start := ()
  parts := []

/-- The destination of a kind. -/
def decode : DestinationKind → Json.Content → Except Json.Problem Destination
  | .log, content => (logVariant.decode content).map .log
  | .table, content =>
    (tableVariant.decode content).map fun (path, onDuplicate) => .table path onDuplicate
  | .debug, content => (debugVariant.decode content).map fun _ => .debug

/-- Reads a destination. -/
def read : Json.Reader Destination :=
  Json.readTagged "internally tagged enum BackendConfig" tags decode

end Destination

/-! ### The whole -/

namespace Settings

/-- The settings in JSON. -/
def toJson (settings : Settings) : Json :=
  .object [
    ("pipeline", settings.run.toJson),
    ("extractor", settings.keys.toJson),
    ("backend", settings.destination.toJson)]

/-- The members of the settings. -/
def record : Json.Record Settings where
  expected := "struct Config"
  start := default
  fields := [
    ⟨"pipeline", RunSettings.read.map fun run settings => { settings with run }⟩,
    ⟨"extractor", KeyRule.read.map fun keys settings => { settings with keys }⟩,
    ⟨"backend", Destination.read.map fun destination settings => { settings with destination }⟩]
  complete := false

/-- Reads settings. -/
def read : Json.Reader Settings := record.read

/-- The JSON text of settings. -/
def toText (settings : Settings) : String :=
  settings.toJson.render

/-- The settings of a JSON text. -/
def ofText (text : Bytes) : Except Json.Error Settings :=
  Json.readAll (read Json.depthLimit) text

/-- The settings of a file's content; the path is named where the content is no JSON. -/
def ofFile (path : String) (content : Bytes) : Except Error Settings :=
  match Utf8.decode? content with
  | none => .error (.io .notText)
  | some _ =>
    match ofText content with
    | .error cause => .error (.invalidSettings (.notJson path cause))
    | .ok settings => settings.run.validate.map fun _ => settings

end Settings

end RecordStore
