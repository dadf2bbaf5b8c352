import RecordStore.Settings.Json
import RecordStore.Proofs.Json.Rendering
import RecordStore.Proofs.Json.Tagged

/-!
Settings and their texts.

A text of settings may leave members out, give the others in any order and hold members that nobody
knows (`SettingsText`). It is read as the settings with each member that is left out at its default,
and no other one changed (`ofText_of_settingsText`); the text that is printed leaves nothing out
(`settingsText_toText`), so the settings are read back from it. Members that nobody knows are passed
over whatever they are, except beside a tag: there they are kept until the tag is known, so they
have to be values that can be kept.
-/

namespace RecordStore

open Json

/-! ### Members that may be left out -/

/-- A member of settings that may be left out of their text. -/
inductive Omissible
  | run
  | batchSize
  | workers
  | mode
  | onError
  | keys
  | destination
  | onDuplicate
  deriving DecidableEq

namespace RunSettings

/-- The settings with the members that are left out at their defaults. -/
def without (settings : RunSettings) (omitted : Finset Omissible) : RunSettings where
  batchSize := if .batchSize ∈ omitted then 50000 else settings.batchSize
  workers := if .workers ∈ omitted then 0 else settings.workers
  mode := if .mode ∈ omitted then .parallel else settings.mode
  onError := if .onError ∈ omitted then .drain else settings.onError

/-- The members of the settings in their text. -/
def slots (settings : RunSettings) (omitted : Finset Omissible) : List Slot := [
  .scalar "batch_size" (.batchSize ∉ omitted) (.number (.natural settings.batchSize)),
  .scalar "workers" (.workers ∉ omitted) (.number (.natural settings.workers)),
  .scalar "mode" (.mode ∉ omitted) settings.mode.toJson,
  .scalar "failure" (.onError ∉ omitted) settings.onError.toJson]

/-- The numbers fit into words of 64 bits. -/
structure InWords (settings : RunSettings) : Prop where
  batchSize : settings.batchSize < 2 ^ 64
  workers : settings.workers < 2 ^ 64

end RunSettings

/-- The members of a rule in its text. -/
def KeyRule.slots : KeyRule → List Slot
  | .pattern source => tagged "pattern" [.scalar "pattern" true (.text source)]
  | .field name => tagged "field" [.scalar "name" true (.text name)]

namespace Destination

/-- The destination with the members that are left out at their defaults. -/
def without (omitted : Finset Omissible) : Destination → Destination
  | .table path onDuplicate =>
    .table path (if .onDuplicate ∈ omitted then .reject else onDuplicate)
  | other => other

/-- The members of a destination in its text. -/
def slots (omitted : Finset Omissible) : Destination → List Slot
  | .log path => tagged "sled" [.scalar "path" true (.text path)]
  | .table path onDuplicate => tagged "sqlite" [
      .scalar "path" true (.text path),
      .scalar "duplicates" (.onDuplicate ∉ omitted) (.text onDuplicate.name)]
  | .debug => tagged "debug" []

end Destination

namespace Settings

/-- The settings with the members that are left out at their defaults. -/
def without (settings : Settings) (omitted : Finset Omissible) : Settings where
  run := if .run ∈ omitted then ⟨50000, 0, .parallel, .drain⟩ else settings.run.without omitted
  keys := if .keys ∈ omitted then .pattern "ai-[\\d]+-[\\w]+" else settings.keys
  destination :=
    if .destination ∈ omitted then .debug else settings.destination.without omitted

/-- The members of the settings in their text. `Beside` says what members that nobody knows may be
beside a tag. -/
def slots (settings : Settings) (omitted : Finset Omissible) (Beside : Bytes → Prop) :
    List Slot := [
  ⟨"pipeline", .run ∉ omitted, SlotsText (settings.run.slots omitted) IsValue⟩,
  ⟨"extractor", .keys ∉ omitted, SlotsText settings.keys.slots Beside⟩,
  ⟨"backend", .destination ∉ omitted, SlotsText (settings.destination.slots omitted) Beside⟩]

end Settings

/-- The bytes are a text of the settings in which those members are left out. -/
inductive SettingsText (Beside : Bytes → Prop) (settings : Settings) (omitted : Finset Omissible) :
    Bytes → Prop
  | parts {before bytes after : Bytes} (left : Blanks before)
      (stands : SlotsText (settings.slots omitted Beside) IsValue bytes) (right : Blanks after) :
      SettingsText Beside settings omitted (before ++ (bytes ++ after))

variable {bytes blanks after : Bytes} {depth levels : Nat} {omitted : Finset Omissible}

/-- The object alone, with no blanks around it, is such a text. -/
theorem SettingsText.bare {Beside : Bytes → Prop} {settings : Settings}
    (stands : SlotsText (settings.slots omitted Beside) IsValue bytes) :
    SettingsText Beside settings omitted bytes := by
  have form := SettingsText.parts Blanks.nil stands Blanks.nil
  rwa [List.nil_append, List.append_nil] at form

/-! ### Runs -/

theorem RunMode.lookup_choices (mode : RunMode) :
    ∃ name, mode.toJson = .text name ∧ choices.lookup name = some mode := by
  cases mode <;> exact ⟨_, rfl, rfl⟩

theorem OnError.lookup_choices (onError : OnError) :
    ∃ name, onError.toJson = .text name ∧ choices.lookup name = some onError := by
  cases onError <;> exact ⟨_, rfl, rfl⟩

namespace RunSettings

/-- The settings as far as they are known from members with these names. -/
def known (settings : RunSettings) (names : List String) : RunSettings where
  batchSize := if "batch_size" ∈ names then settings.batchSize else default.batchSize
  workers := if "workers" ∈ names then settings.workers else default.workers
  mode := if "mode" ∈ names then settings.mode else default.mode
  onError := if "failure" ∈ names then settings.onError else default.onError

theorem fills (settings : RunSettings) (depth : Nat) :
    List.Forall₂ (Fills depth settings.known) record.fields (settings.slots omitted) := by
  refine .cons ?batchSize (.cons ?workers (.cons ?mode (.cons ?onError .nil)))
  case batchSize =>
    apply Fills.map
    · rfl
    · exact fun form only ends => readNatural_of_scalarText _ form only ends
    · simp [known, Slot.scalar]
  case workers =>
    apply Fills.map
    · rfl
    · exact fun form only ends => readNatural_of_scalarText _ form only ends
    · simp [known, Slot.scalar]
  case mode =>
    obtain ⟨name, shown, offered⟩ := settings.mode.lookup_choices
    apply Fills.map
    · rfl
    · exact fun form only _ => readChoice_of_scalarText offered (shown ▸ form) only _
    · simp [known, Slot.scalar]
  case onError =>
    obtain ⟨name, shown, offered⟩ := settings.onError.lookup_choices
    apply Fills.map
    · rfl
    · exact fun form only _ => readChoice_of_scalarText offered (shown ▸ form) only _
    · simp [known, Slot.scalar]

/-- Settings are read from an object that fills their slots, with the members that are left out at
their defaults. -/
theorem read_of_slotsText (settings : RunSettings) (deep : 0 < depth)
    (form : SlotsText (settings.slots omitted) IsValue bytes) (only : Blanks blanks)
    (after : Bytes) :
    read (depth + 1) (blanks ++ (bytes ++ after)) = .ok (settings.without omitted, after) := by
  have optional : record.complete = false := rfl
  have start : record.start = settings.known [] := rfl
  obtain ⟨found, settled, read⟩ :=
    Record.read_of_slotsText optional start (settings.fills depth) deep form only after
  have same : settings.known found = settings.without omitted := by
    simp only [Settled, slots, List.forall_mem_cons, Slot.scalar, decide_eq_true_eq] at settled
    obtain ⟨batchSize, workers, mode, onError, -⟩ := settled
    simp only [known, without, batchSize, workers, mode, onError, ite_not]
    rfl
  rw [← same]
  exact read

end RunSettings

/-! ### Rules and destinations -/

/-- A text as far as it is known from members with these names. -/
def knownText (name text : String) (names : List String) : String :=
  if name ∈ names then text else ""

/-- A variant whose only member is a text is read from an object that gives this member. -/
theorem readTagged_of_textPart {α τ : Type} {tags : Choices τ} {tag name text : String}
    {kind : τ} {decode : τ → Content → Except Problem α} {variant : Variant String}
    {make : String → α} {expected kindName : String} (offered : tags.lookup tag = some kind)
    (decoder : ∀ content, decode kind content = (variant.decode content).map make)
    (start : variant.start = "") (parts : variant.parts = [textPart name kindName])
    (other : name ≠ Tagged.tagName) (deep : levels < depth)
    (form : SlotsText (tagged tag [.scalar name true (.text text)]) (Kept levels) bytes)
    (only : Blanks blanks) (after : Bytes) :
    readTagged expected tags decode (depth + 1) (blanks ++ (bytes ++ after)) =
      .ok (make text, after) := by
  have decodes : List.Forall₂ (Decodes levels (knownText name text)) variant.parts
      [.scalar name true (.text text)] := by
    rw [parts]
    refine .cons (Decodes.scalar (fun _ => rfl) rfl fun names => ?_) .nil
    exact (if_pos List.mem_cons_self).symm
  have free : ∀ slot ∈ [Slot.scalar name true (.text text)], slot.name ≠ Tagged.tagName := by
    simpa [Slot.scalar] using other
  obtain ⟨found, settled, read⟩ :=
    readTagged_of_slotsText offered decoder start decodes free deep form only after
  have given : name ∈ found := (settled _ List.mem_cons_self).mpr rfl
  rw [read, knownText, if_pos given]

/-- A rule is read from an object that fills its slots. -/
theorem KeyRule.read_of_slotsText (rule : KeyRule) (deep : levels < depth)
    (form : SlotsText rule.slots (Kept levels) bytes) (only : Blanks blanks) (after : Bytes) :
    read (depth + 1) (blanks ++ (bytes ++ after)) = .ok (rule, after) := by
  cases rule with
  | pattern source =>
      have offered : tags.lookup "pattern" = some .pattern := rfl
      have decoder : ∀ content, decode .pattern content =
          (patternVariant.decode content).map .pattern := fun _ => rfl
      exact readTagged_of_textPart offered decoder rfl rfl (by decide) deep form only after
  | field name =>
      have offered : tags.lookup "field" = some .field := rfl
      have decoder : ∀ content, decode .field content =
          (fieldVariant.decode content).map .field := fun _ => rfl
      exact readTagged_of_textPart offered decoder rfl rfl (by decide) deep form only after

theorem OnDuplicate.lookup_choices (onDuplicate : OnDuplicate) :
    choices.lookup onDuplicate.name = some onDuplicate := by
  cases onDuplicate <;> rfl

namespace Destination

/-- The path of a table and what becomes of its duplicates, as far as they are known from members
with these names. -/
def knownTable (path : String) (onDuplicate : OnDuplicate) (names : List String) :
    String × OnDuplicate :=
  (if "path" ∈ names then path else "",
    if "duplicates" ∈ names then onDuplicate else .reject)

theorem decodes_table (path : String) (onDuplicate : OnDuplicate) (given : Bool) :
    List.Forall₂ (Decodes levels (knownTable path onDuplicate)) tableVariant.parts
      [.scalar "path" true (.text path), .scalar "duplicates" given (.text onDuplicate.name)] := by
  refine .cons ?path (.cons ?duplicates .nil)
  case path =>
    refine Decodes.scalar (fun _ => rfl) rfl fun names => ?_
    simp [knownTable]
  case duplicates =>
    have decoded : decodeChoice OnDuplicate.choices (.text onDuplicate.name) = .ok onDuplicate := by
      simp only [decodeChoice, onDuplicate.lookup_choices]
    apply Decodes.scalar
    · rintro ⟨⟩
    · simp only [decoded]
      rfl
    · simp [knownTable]

/-- A destination is read from an object that fills its slots, with the members that are left out at
their defaults. -/
theorem read_of_slotsText (destination : Destination) (deep : levels < depth)
    (form : SlotsText (destination.slots omitted) (Kept levels) bytes) (only : Blanks blanks)
    (after : Bytes) :
    read (depth + 1) (blanks ++ (bytes ++ after)) = .ok (destination.without omitted, after) := by
  cases destination with
  | log path =>
      have offered : tags.lookup "sled" = some .log := rfl
      have decoder : ∀ content, decode .log content = (logVariant.decode content).map .log :=
        fun _ => rfl
      exact readTagged_of_textPart offered decoder rfl rfl (by decide) deep form only after
  | table path onDuplicate =>
      have offered : tags.lookup "sqlite" = some .table := rfl
      have decoder : ∀ content, decode .table content =
          (tableVariant.decode content).map fun found => .table found.1 found.2 := fun _ => rfl
      obtain ⟨found, settled, read⟩ := readTagged_of_slotsText offered decoder rfl
        (decodes_table path onDuplicate _) (by simp [Slot.scalar, Tagged.tagName]) deep form only
        after
      simp only [Settled, List.forall_mem_cons, Slot.scalar, decide_eq_true_eq] at settled
      obtain ⟨given, duplicates, -⟩ := settled
      simp only [knownTable, if_pos (given.mpr trivial), duplicates, ite_not] at read
      exact read
  | debug =>
      have offered : tags.lookup "debug" = some .debug := rfl
      have decoder : ∀ content, decode .debug content =
          (debugVariant.decode content).map fun _ => .debug := fun _ => rfl
      have decodes : List.Forall₂ (Decodes levels fun _ => ()) debugVariant.parts [] := .nil
      obtain ⟨-, -, read⟩ := readTagged_of_slotsText offered decoder rfl decodes
        (List.forall_mem_nil _) deep form only after
      exact read

end Destination

/-! ### The whole -/

namespace Settings

/-- The settings as far as they are known from members with these names, when others are left out of
the members. -/
def known (settings : Settings) (omitted : Finset Omissible) (names : List String) : Settings where
  run := if "pipeline" ∈ names then settings.run.without omitted else default.run
  keys := if "extractor" ∈ names then settings.keys else default.keys
  destination :=
    if "backend" ∈ names then settings.destination.without omitted else default.destination

theorem fills (settings : Settings) (deep : levels < depth) :
    List.Forall₂ (Fills (depth + 1) (settings.known omitted)) record.fields
      (settings.slots omitted (Kept levels)) := by
  refine .cons ?run (.cons ?keys (.cons ?destination .nil))
  case run =>
    apply Fills.map
    · rfl
    · exact fun form only _ =>
        settings.run.read_of_slotsText (Nat.zero_lt_of_lt deep) form only _
    · simp [known]
  case keys =>
    apply Fills.map
    · rfl
    · exact fun form only _ => settings.keys.read_of_slotsText deep form only _
    · simp [known]
  case destination =>
    apply Fills.map
    · rfl
    · exact fun form only _ => settings.destination.read_of_slotsText deep form only _
    · simp [known]

/-- Settings are read from a text of theirs, with the members that are left out at their
defaults. -/
theorem ofText_of_settingsText {settings : Settings} {text : Bytes}
    (form : SettingsText (Kept (depthLimit - 3)) settings omitted text) :
    ofText text = .ok (settings.without omitted) := by
  obtain ⟨left, stands, right⟩ := form
  rename_i before bytes after
  have optional : record.complete = false := rfl
  have start : record.start = settings.known omitted [] := rfl
  -- The settings and the object with the tag take up a level each, and no value reaches the last.
  have deep : depthLimit - 3 < depthLimit - 2 := by decide
  obtain ⟨found, settled, read⟩ :=
    Record.read_of_slotsText optional start (settings.fills deep) (by decide) stands left after
  have same : settings.known omitted found = settings.without omitted := by
    simp only [Settled, slots, List.forall_mem_cons, decide_eq_true_eq] at settled
    obtain ⟨run, keys, destination, -⟩ := settled
    simp only [known, without, run, keys, destination, ite_not]
    rfl
  have whole : Settings.read depthLimit (before ++ (bytes ++ after)) =
      .ok (settings.without omitted, after) := same ▸ read
  simp only [ofText, readAll, whole, skipBlanks_blanks right]

end Settings

/-! ### What is printed -/

theorem RunSettings.slotsText_render (settings : RunSettings) (sized : settings.InWords) :
    SlotsText (settings.slots ∅) IsValue (Bytes.ofText settings.toJson.render) := by
  apply slotsText_render_object
  · refine .cons ⟨rfl, rfl, scalarText_natural sized.batchSize⟩ <|
      .cons ⟨rfl, rfl, scalarText_natural sized.workers⟩ <|
        .cons ⟨rfl, rfl, ?mode⟩ (.cons ⟨rfl, rfl, ?onError⟩ .nil)
    case mode => cases settings.mode <;> exact scalarText_renderText _
    case onError => cases settings.onError <;> exact scalarText_renderText _
  · simp

theorem KeyRule.slotsText_render (rule : KeyRule) (Other : Bytes → Prop) :
    SlotsText rule.slots Other (Bytes.ofText rule.toJson.render) := by
  cases rule with
  | pattern source =>
      apply slotsText_render_object
      · exact .cons (.text _ _) (.cons (.text _ _) .nil)
      · simp
  | field name =>
      apply slotsText_render_object
      · exact .cons (.text _ _) (.cons (.text _ _) .nil)
      · simp

theorem Destination.slotsText_render (destination : Destination) (Other : Bytes → Prop) :
    SlotsText (destination.slots ∅) Other (Bytes.ofText destination.toJson.render) := by
  cases destination with
  | log path =>
      apply slotsText_render_object
      · exact .cons (.text _ _) (.cons (.text _ _) .nil)
      · simp
  | table path onDuplicate =>
      apply slotsText_render_object
      · exact .cons (.text _ _) (.cons (.text _ _) (.cons (.text _ _) .nil))
      · simp
  | debug =>
      apply slotsText_render_object
      · exact .cons (.text _ _) .nil
      · simp

namespace Settings

variable {settings : Settings}

/-- What is printed is a text of the settings that leaves nothing out. -/
theorem settingsText_toText (sized : settings.run.InWords) (Beside : Bytes → Prop) :
    SettingsText Beside settings ∅ (Bytes.ofText settings.toText) := by
  apply SettingsText.bare
  apply slotsText_render_object
  · exact .cons ⟨rfl, rfl, settings.run.slotsText_render sized⟩ <|
      .cons ⟨rfl, rfl, settings.keys.slotsText_render Beside⟩ <|
        .cons ⟨rfl, rfl, settings.destination.slotsText_render Beside⟩ .nil
  · simp

theorem without_empty (settings : Settings) : settings.without ∅ = settings := by
  obtain ⟨run, keys, destination⟩ := settings
  cases destination <;> rfl

/-- Settings survive their text. What is printed is read back as the settings; and any text of
theirs, whatever it leaves out, in whatever order and among whatever members that nobody knows, is
read as the settings with just the members that are left out at their defaults. -/
theorem text_is_read_back (settings : Settings) (sized : settings.run.InWords) :
    ofText (Bytes.ofText settings.toText) = .ok settings ∧
      ∀ omitted text, SettingsText (Kept (depthLimit - 3)) settings omitted text →
        ofText text = .ok (settings.without omitted) := by
  constructor
  · rw [ofText_of_settingsText (settingsText_toText sized _), without_empty]
  · intro omitted text form
    exact ofText_of_settingsText form

/-- Settings away from their defaults. -/
def chosen : Settings :=
  ⟨⟨2, 3, .parallel, .abort⟩, .field "id", .table "a\"b" .overwrite⟩

/-- Three of their members. -/
def leftOut : Finset Omissible :=
  {.batchSize, .mode, .onDuplicate}

/-- A text that leaves these members out, has the kinds behind what they explain and holds a number
beyond every double. -/
def chosenText : Bytes := objectText [
  ("note", Bytes.ofText "1e9999999999"),
  ("backend", objectText [
    ("path", Bytes.ofText (renderText "a\"b")), ("note", objectText []),
    ("type", Bytes.ofText (renderText "sqlite"))]),
  ("pipeline", objectText [
    ("failure", Bytes.ofText (renderText "abort")), ("workers", Bytes.ofText (toString 3))]),
  ("extractor", objectText [
    ("name", Bytes.ofText (renderText "id")), ("type", Bytes.ofText (renderText "field"))])]

theorem isValue_tooLarge : IsValue (Bytes.ofText "1e9999999999") := by
  have nines : Digits (List.replicate 9 57) := fun b here => List.eq_of_mem_replicate here ▸ rfl
  have exponent : IsExponent (101 :: ([] ++ 57 :: List.replicate 9 57)) :=
    .power (.inl rfl) (.parts .none rfl nines)
  have magnitude : IsMagnitude ([49] ++ ([] ++ 101 :: ([] ++ 57 :: List.replicate 9 57))) :=
    .parts (.digits rfl (by decide) Digits.nil) (.parts .none exponent)
  exact ⟨0, .number (.positive magnitude)⟩

theorem settingsText_chosenText :
    SettingsText (Kept (depthLimit - 3)) chosen leftOut chosenText := by
  apply SettingsText.bare
  apply slotsText_of_entries
  · simp only [List.forall_mem_cons]
    refine ⟨isValue_tooLarge, ?backend, ?pipeline, ?extractor, List.forall_mem_nil _⟩
    case backend =>
      apply slotsText_of_entries
      · simp only [List.forall_mem_cons]
        refine ⟨scalarText_renderText _, ⟨.object [], ?_⟩, scalarText_renderText _,
          List.forall_mem_nil _⟩
        exact .object (.close Blanks.nil)
      · decide
    case pipeline =>
      apply slotsText_of_entries
      · simp only [List.forall_mem_cons]
        refine ⟨scalarText_renderText _, ?_, List.forall_mem_nil _⟩
        exact scalarText_natural (n := 3) (by decide)
      · decide
    case extractor =>
      apply slotsText_of_entries
      · simp only [List.forall_mem_cons]
        exact ⟨scalarText_renderText _, scalarText_renderText _, List.forall_mem_nil _⟩
      · decide
  · decide

/-- The numbers fit, and the members that are left out are at their defaults. -/
theorem text_is_read_back_in_another_order :
    chosen.run.InWords ∧ ofText (Bytes.ofText chosen.toText) = .ok chosen ∧
      SettingsText (Kept (depthLimit - 3)) chosen leftOut chosenText ∧
      ofText chosenText =
        .ok ⟨⟨50000, 3, .parallel, .abort⟩, .field "id", .table "a\"b" .reject⟩ := by
  have sized : chosen.run.InWords := ⟨by decide, by decide⟩
  obtain ⟨printed, others⟩ := text_is_read_back chosen sized
  exact ⟨sized, printed, settingsText_chosenText, others leftOut _ settingsText_chosenText⟩

/-- A text of settings with a note beside a tag. -/
def notedText (note : Bytes) : Bytes := objectText [
  ("extractor", objectText [
    ("type", Bytes.ofText (renderText "field")), ("name", Bytes.ofText (renderText "id")),
    ("note", note)])]

theorem settingsText_notedText {note : Bytes} (value : IsValue note) :
    SettingsText IsValue ⟨.default, .field "id", .debug⟩ {.run, .destination} (notedText note) := by
  apply SettingsText.bare
  apply slotsText_of_entries
  · rw [List.forall_mem_singleton]
    apply slotsText_of_entries
    · simp only [List.forall_mem_cons]
      exact ⟨scalarText_renderText _, scalarText_renderText _, value, List.forall_mem_nil _⟩
    · simp [KeyRule.slots, tagged, Slot.scalar, Tagged.tagName]
  · simp [slots]

theorem isValue_loneSurrogate : IsValue (Bytes.ofText "\"\\ud800\"") := by
  have zero : HexDigit 48 0 := .decimal (v := 0) (by decide)
  have digits : HexDigits [100, 56, 48, 48] 0xd800 :=
    .four (.lower (v := 3) (by decide)) (.decimal (v := 8) (by decide)) zero zero
  have quoted : IsQuoted (92 :: 117 :: ([100, 56, 48, 48] ++ [])) := .number digits .nil
  exact ⟨0, .text quoted⟩

/-- Arrays that enclose one another, so many around the innermost. -/
def arrays : (around : Nat) → Bytes
  | 0 => [91, 93]
  | around + 1 => 91 :: (arrays around ++ [93])

theorem isWithin_arrays (around : Nat) : IsWithin (around + 1) (arrays around) := by
  induction around with
  | zero => exact .array (.close Blanks.nil)
  | succ around ih =>
      have entries : Listing 93 (fun bytes (_ : Unit) => IsWithin (around + 1) bytes) true
          ([] ++ (arrays around ++ ([] ++ [93]))) [()] :=
        .entry (.first Blanks.nil) ih (.close Blanks.nil)
      exact .array entries

/-- Beside a tag a member that nobody knows is refused where its value cannot be kept: a number
beyond every double, an escape that spells no text, one array too many. -/
theorem text_is_refused_beside_a_tag :
    notedText (Bytes.ofText "1e9999999999") = Bytes.ofText ("\x7b\"extractor\":" ++
        "\x7b\"type\":\"field\",\"name\":\"id\",\"note\":1e9999999999\x7d\x7d") ∧
      RunSettings.default.InWords ∧
      (SettingsText IsValue ⟨.default, .field "id", .debug⟩ {.run, .destination}
          (notedText (Bytes.ofText "1e9999999999")) ∧
        ofText (notedText (Bytes.ofText "1e9999999999")) =
          .error ⟨.numberOutOfRange, some ⟨1, 60⟩⟩) ∧
      (SettingsText IsValue ⟨.default, .field "id", .debug⟩ {.run, .destination}
          (notedText (Bytes.ofText "\"\\ud800\"")) ∧
        ofText (notedText (Bytes.ofText "\"\\ud800\"")) =
          .error ⟨.hexEscapeCut, some ⟨1, 56⟩⟩) ∧
      SettingsText IsValue ⟨.default, .field "id", .debug⟩ {.run, .destination}
          (notedText (arrays 125)) ∧
        ofText (notedText (arrays 125)) = .error ⟨.tooDeep, some ⟨1, 174⟩⟩ := by
  refine ⟨?text, ⟨by decide, by decide⟩, ⟨settingsText_notedText isValue_tooLarge, ?number⟩,
    ⟨settingsText_notedText isValue_loneSurrogate, ?escape⟩,
    settingsText_notedText ⟨_, isWithin_arrays 125⟩, ?arrays⟩
  case text => rfl
  case number => cbv
  case escape => cbv
  case arrays =>
    -- The run goes as deep as the arrays, which is beyond what is allowed without this.
    set_option maxRecDepth 2000 in
    cbv

end Settings

end RecordStore
