import RecordStore.Proofs.Acceptance
import RecordStore.Proofs.Appending

/-!
Appending one part after another.

What several appends leave behind is what one run over the whole file would: the lines of
parts without open ends are those of the whole, each at its place in it, and what the appends
wrote fits together as it fits at once. So with keys that are all different, or in the order
of the input, both indexes have the same under every key.
-/

namespace RecordStore

/-- An index, and beside it a file of bytes that it does not need, or none. -/
structure Beside (path : String) (sink : Backend × Disk) : Prop where
  isIndex : sink.1.IsIndex
  sound : sink.2.Sound
  away : sink.1.Away (Disk.placeOf path) sink.2
  plain : sink.2.Plain path

/-- What was added to a file and its index: the bytes, and the entries of all their lines. -/
structure Extends (path : String) (keyOf : KeyOf) (inOrder : Prop) (bytes : Bytes)
    (before after : Backend × Disk) : Prop where
  beside : Beside path after
  kind : after.1.kind = before.1.kind
  content : after.2.bytesAt path = before.2.bytesAt path ++ bytes
  keyed : (Bytes.lines bytes).findSome? (Layout.fault? keyOf) = none
  /-- Where the order is kept, the entries were written in that of the lines. -/
  written : ∃ written, written.Perm
      (Layout.entries keyOf (before.2.bytesAt path).length (Bytes.lines bytes)) ∧
    (inOrder → written =
      Layout.entries keyOf (before.2.bytesAt path).length (Bytes.lines bytes)) ∧
    Backend.Fits written before ∧
    ∀ key, after.1.stored key after.2 = readAfter key written (before.1.stored key before.2)

section Extends

variable {path : String} {keyOf : KeyOf} {inOrder inOrder' : Prop} {bytes more : Bytes}
  {sink middle after : Backend × Disk}

theorem Extends.refl (beside : Beside path sink) : Extends path keyOf inOrder [] sink sink := by
  refine ⟨beside, rfl, by simp, rfl, [], .refl _, fun _ => rfl, ⟨by simp, ?_⟩, fun _ => rfl⟩
  exact fun _ => ⟨by simp, by simp⟩

/-- What is added behind bytes without an open line is added to both. -/
theorem Extends.trans (closed : bytes.Closed)
    (first : Extends path keyOf inOrder bytes sink middle)
    (second : Extends path keyOf inOrder' more middle after) :
    Extends path keyOf (inOrder ∧ inOrder') (bytes ++ more) sink after := by
  obtain ⟨-, kind, content, keyed, written, handed, ordered, fits, stored⟩ := first
  obtain ⟨beside, kind', content', keyed', written', handed', ordered', fits', stored'⟩ := second
  have entries : Layout.entries keyOf (sink.2.bytesAt path).length (Bytes.lines (bytes ++ more)) =
      Layout.entries keyOf (sink.2.bytesAt path).length (Bytes.lines bytes) ++
        Layout.entries keyOf (middle.2.bytesAt path).length (Bytes.lines more) := by
    rw [Bytes.lines_append_of_closed closed, Layout.entries_append,
      Bytes.flatten_lines_of_closed closed, content, List.length_append]
  refine ⟨beside, kind'.trans kind, by rw [content', content, List.append_assoc], ?_,
    written ++ written', ?_, ?_, (Backend.fits_append_iff kind stored).mpr ⟨fits, fits'⟩, ?_⟩
  · rw [Bytes.lines_append_of_closed closed, List.findSome?_append, keyed, keyed']
    rfl
  · rw [entries]
    exact handed.append handed'
  · rintro ⟨one, other⟩
    rw [entries, ordered one, ordered' other]
  · intro key
    rw [stored', stored, readAfter_append]

end Extends

/-! ### One append -/

section Appends

variable {path : String} {source : Source} {keyOf : KeyOf} {settings : RunSettings}
  {sink after : Backend × Disk} {growth : Growth}

/-- An append that succeeds is a run over the lines of what its source handed over. -/
theorem Appends.exists_run (plain : sink.2.Plain path)
    (appends : Appends path source keyOf Backend.writer settings sink (.done growth) after) :
    ∃ id disk, sink.2.openFile path = .ok (id, disk) ∧
      Indexes keyOf Backend.writer settings (sink.2.bytesAt path).length
        ⟨Bytes.lines source.bytes, .finished⟩ (sink.1, disk.appendTo id source.bytes)
        (.done growth.index) after := by
  generalize ends : Outcome.done growth = outcome at appends
  cases appends with
  | refused | unopened | broken | panicked => cases ends
  | @indexed id disk outcome _ _ opened _ run =>
      obtain ⟨-, -, held, content, -⟩ := Disk.openFile_appendTo plain opened source.bytes
      rw [content, held, Bytes.slice_behind, Source.records_eq, Source.bytes_ofBytes] at run
      cases outcome with
      | failed | panicked => cases ends
      | done summary =>
          cases ends
          exact ⟨id, disk, opened, run⟩

/-- An append that succeeds counts the lines of what its source handed over, and their bytes. -/
theorem Appends.counts_of_done (plain : sink.2.Plain path)
    (appends : Appends path source keyOf Backend.writer settings sink (.done growth) after) :
    growth.index.records = (Bytes.lines source.bytes).length ∧
      growth.index.bytes = (Bytes.lines source.bytes).flatten.length := by
  obtain ⟨id, disk, -, run⟩ := appends.exists_run plain
  obtain ⟨calls, run⟩ := run.recorded
  exact run.counts_of_done Backend.calm_writer rfl

/-- An append that succeeds adds what its source handed over, and makes the file if there is none.
-/
theorem Appends.extends_of_done (beside : Beside path sink)
    (appends : Appends path source keyOf Backend.writer settings sink (.done growth) after) :
    Extends path keyOf settings.InOrder source.bytes sink after ∧
      ∃ id, after.2.find path = .ok (.file id) := by
  obtain ⟨isIndex, sound, away, plain⟩ := beside
  obtain ⟨id, disk, opened, run⟩ := appends.exists_run plain
  obtain ⟨found, grows, -, content, plain'⟩ := Disk.openFile_appendTo plain opened source.bytes
  have begun : ((sink.1, disk.appendTo id source.bytes) : Backend × Disk).1.IsIndex := isIndex
  have sound' := grows.sound sound
  obtain ⟨away', same, -⟩ := away.grows sound grows
  obtain ⟨keyed, written, handed, ordered, fits, stored⟩ :=
    run.exists_written begun sound' away' rfl
  obtain ⟨calls, run⟩ := run.recorded
  obtain ⟨leads, -⟩ := run.leads_subperm
  obtain ⟨isIndex', away'', spares⟩ := Backend.spares_of_leads begun sound' away' leads
  have found' := spares.find found
  have there := (Disk.find_eq_ok_iff.mp found).2
  have kind := Backend.kind_of_leads leads
  refine ⟨⟨⟨isIndex', spares.sound sound', away'', ?_⟩, kind, ?_, keyed, written, handed,
    ordered, fits.congr rfl fun key => (same key).symm, fun key => ?_⟩, id, found'⟩
  · intro other elsewhere
    rw [found'] at elsewhere
    cases elsewhere
    rw [spares.body sound' id there]
    exact plain' id found
  · rw [Disk.bytesAt_of_find found', spares.content_eq sound' found, content]
  · exact (stored key).trans (congrArg (readAfter key written) (same key))

end Appends

/-! ### Several appends -/

/-- Appends that all succeed, one after another, each with a source and settings of its own. -/
inductive Increments (path : String) (keyOf : KeyOf) :
    Backend × Disk → List (Source × RunSettings) → List Growth → Backend × Disk → Prop where
  | none {sink : Backend × Disk} : Increments path keyOf sink [] [] sink
  | append {sink middle after : Backend × Disk} {source : Source} {settings : RunSettings}
      {steps : List (Source × RunSettings)} {growth : Growth} {growths : List Growth} :
      Appends path source keyOf Backend.writer settings sink (.done growth) middle →
      Increments path keyOf middle steps growths after →
      Increments path keyOf sink ((source, settings) :: steps) (growth :: growths) after

/-- What the sources of several appends hand over. -/
def handedOver (steps : List (Source × RunSettings)) : Bytes :=
  steps.flatMap fun step => step.1.bytes

theorem handedOver_cons (source : Source) (settings : RunSettings)
    (steps : List (Source × RunSettings)) :
    handedOver ((source, settings) :: steps) = source.bytes ++ handedOver steps :=
  List.flatMap_cons

section Increments

variable {path : String} {keyOf : KeyOf} {sink after : Backend × Disk}
  {steps : List (Source × RunSettings)} {growths : List Growth}

/-- Several appends of bytes without open lines add what all their sources handed over, and count
the lines of it. -/
theorem Increments.extends (increments : Increments path keyOf sink steps growths after)
    (closed : ∀ step ∈ steps, step.1.bytes.Closed) (beside : Beside path sink) :
    Extends path keyOf (∀ step ∈ steps, step.2.InOrder) (handedOver steps) sink after ∧
      (steps ≠ [] → ∃ id, after.2.find path = .ok (.file id)) ∧
      (growths.map fun growth => growth.index.records).sum =
        (Bytes.lines (handedOver steps)).length ∧
      (growths.map fun growth => growth.index.bytes).sum =
        (Bytes.lines (handedOver steps)).flatten.length := by
  induction increments with
  | none => exact ⟨.refl beside, fun some => absurd rfl some, rfl, rfl⟩
  | @append sink middle after source settings steps growth growths appends later ih =>
      obtain ⟨first, rest⟩ := List.forall_mem_cons.mp closed
      obtain ⟨one, made⟩ := appends.extends_of_done beside
      obtain ⟨others, found, records, bytes⟩ := ih rest one.beside
      obtain ⟨records', bytes'⟩ := appends.counts_of_done beside.plain
      rw [handedOver_cons, Bytes.lines_append_of_closed first, List.flatten_append,
        List.length_append, List.length_append, List.map_cons, List.map_cons, List.sum_cons,
        List.sum_cons, records, bytes, records', bytes']
      refine ⟨?_, fun _ => ?_, rfl, rfl⟩
      · simpa only [List.forall_mem_cons] using one.trans first others
      · cases later with
        | none => exact made
        | append => exact found (by simp)

/-- Start with an empty file or none and with an empty index, and append any number of sources that
each hand over complete lines, with any settings. If all these appends succeed, the file holds what
the sources handed over one after another, and a run over all of it into another empty index of the
same kind, which can be written, succeeds as well. It leaves the same under every key, and it
counts what the appends count together. This holds where all runs keep the order of the input,
and, whatever their settings are and in whatever order their batches arrive, where the keys
of all records are different. -/
theorem increments_come_to_one_run {fresh last : Backend × Disk} {source : Source} {buffer : Nat}
    {settings : RunSettings} {outcome : Outcome Summary} (isIndex : sink.1.IsIndex)
    (sound : sink.2.Sound) (away : sink.1.Away (Disk.placeOf path) sink.2)
    (blank : ∀ id, sink.2.find path = .ok (.file id) → sink.2.body id = .bytes [])
    (empty : ∀ key, sink.1.stored key sink.2 = .ok none)
    (closed : ∀ step ∈ steps, step.1.bytes.Closed)
    (increments : Increments path keyOf sink steps growths after)
    (kind : fresh.1.kind = sink.1.kind) (sound' : fresh.2.Sound)
    (known : fresh.1.Known fresh.2) (writable : Backend.Writable fresh)
    (empty' : ∀ key, fresh.1.stored key fresh.2 = .ok none)
    (whole : source.ending = .finished) (same : source.bytes = handedOver steps)
    (filled : 0 < settings.batchSize)
    (run : Indexes keyOf Backend.writer settings 0 (source.records buffer) fresh outcome last)
    (order : (settings.InOrder ∧ ∀ step ∈ steps, step.2.InOrder) ∨
      ((Bytes.lines (handedOver steps)).map keyOf).Nodup) :
    after.2.bytesAt path = handedOver steps ∧
      (steps ≠ [] → ∃ id, after.2.find path = .ok (.file id)) ∧
      ∃ summary, outcome = .done summary ∧
        (∀ key, after.1.stored key after.2 = last.1.stored key last.2) ∧
        (growths.map fun growth => growth.index.records).sum = summary.records ∧
        (growths.map fun growth => growth.index.bytes).sum = summary.bytes := by
  have plain : sink.2.Plain path := fun id found => ⟨[], blank id found⟩
  have nothing : sink.2.bytesAt path = [] := by
    unfold Disk.bytesAt
    split
    · rename_i id found
      simp [Disk.content, blank id found]
    · rfl
  obtain ⟨⟨-, -, content, keyed, written, handed, ordered, fits, stored⟩, found, records, bytes⟩ :=
    increments.extends closed ⟨isIndex, sound, away, plain⟩
  rw [nothing, List.nil_append] at content
  rw [nothing, List.length_nil] at handed ordered
  obtain ⟨route, away'⟩ := Backend.exists_away known
  have isIndex' : fresh.1.IsIndex := by
    rw [Backend.isIndex_iff, kind]
    exact Backend.isIndex_iff.mp isIndex
  have fits' : Backend.Fits
      (Layout.entries keyOf 0 (Bytes.lines (handedOver steps))) fresh :=
    (fits.of_subperm handed.symm.subperm).congr kind fun key => (empty' key).trans (empty key).symm
  rw [Source.records_eq, same] at run
  obtain ⟨summary, rfl⟩ := run.done_of_fits isIndex' sound' away' writable whole filled keyed fits'
  obtain ⟨-, written', handed', ordered', -, stored'⟩ :=
    run.exists_written isIndex' sound' away' whole
  obtain ⟨calls, run⟩ := run.recorded
  obtain ⟨records', bytes'⟩ := run.counts_of_done Backend.calm_writer whole
  refine ⟨content, found, summary, rfl, ?_, records.trans records'.symm, bytes.trans bytes'.symm⟩
  intro key
  rw [stored, stored', empty, empty']
  rcases order with ⟨one, all⟩ | distinct
  · rw [ordered all, ordered' one]
  · have different : (written.map Entry.key).Nodup :=
      (handed.map Entry.key).nodup_iff.mpr ((Layout.nodup_map_keyOf_iff 0 keyed).mp distinct)
    unfold readAfter
    rw [lastOf?_of_perm (handed.trans handed'.symm) different]

/-- Two parts of three records, the first and the last of which have the same key, appended without
workers: a single worker over the whole leaves the same, and counts the same three records. -/
theorem increments_come_to_one_run_on_a_repeated_key :
    let keyOf : KeyOf := fun record => .ok (if record.length = 2 then "a" else "b")
    let sink : Backend × Disk := (.log ⟨"i", some 0⟩, Disk.empty)
    let steps : List (Source × RunSettings) :=
      [([.data [97, 10, 98], .data [98, 10]], ⟨1, 0, .sequential, .drain⟩),
        ([.data [97, 10]], ⟨2, 0, .sequential, .abort⟩)]
    ∃ growths after summary last,
      Increments "f" keyOf sink steps growths after ∧
      Indexes keyOf Backend.writer ⟨2, 1, .parallel, .drain⟩ 0
        ((Source.ofBytes (handedOver steps)).records 4) sink (.done summary) last ∧
      after.2.bytesAt "f" = [97, 10, 98, 98, 10, 97, 10] ∧
      (∀ key, after.1.stored key after.2 = last.1.stored key last.2) ∧ summary.records = 3 := by
  have file : Disk.placeOf "f" = ["f"] := by cbv
  have index : Disk.placeOf "i" = ["i"] := by cbv
  intro keyOf sink steps
  let middle := (append "f" [.data [97, 10, 98], .data [98, 10]] keyOf Backend.writer
    ⟨1, 0, .sequential, .drain⟩ sink).sink
  have first := appends_append "f" [.data [97, 10, 98], .data [98, 10]] keyOf Backend.writer
    ⟨1, 0, .sequential, .drain⟩ sink
  have second := appends_append "f" [.data [97, 10]] keyOf Backend.writer
    ⟨2, 0, .sequential, .abort⟩ middle
  have done : (append "f" [.data [97, 10, 98], .data [98, 10]] keyOf Backend.writer
    ⟨1, 0, .sequential, .drain⟩ sink).outcome = .done ⟨0, 5, ⟨2, 5, 0, 2⟩⟩ := by cbv
  have done' : (append "f" [.data [97, 10]] keyOf Backend.writer
    ⟨2, 0, .sequential, .abort⟩ middle).outcome = .done ⟨5, 2, ⟨1, 2, 0, 1⟩⟩ := by
    simp only [middle]
    cbv
  rw [done] at first
  rw [done'] at second
  have increments : Increments "f" keyOf sink steps _ _ := .append first (.append second .none)
  have isIndex : sink.1.IsIndex := trivial
  have known : sink.1.Known sink.2 := trivial
  have writable : Backend.Writable sink := ⟨0, _, _, rfl⟩
  have away : sink.1.Away (Disk.placeOf "f") sink.2 := by
    show Disk.placeOf "f" ≠ Disk.placeOf "i"
    rw [file, index]
    decide
  have blank : ∀ id, sink.2.find "f" = .ok (.file id) → sink.2.body id = .bytes [] :=
    fun _ _ => rfl
  have empty (key : String) : sink.1.stored key sink.2 = .ok none := rfl
  have closed : ∀ step ∈ steps, step.1.bytes.Closed := by
    simp only [steps, List.forall_mem_cons]
    exact ⟨.inr ⟨[97, 10, 98, 98], rfl⟩, .inr ⟨[97], rfl⟩, by simp⟩
  obtain ⟨outcome, last, run⟩ : ∃ outcome last, Indexes keyOf Backend.writer
      ⟨2, 1, .parallel, .drain⟩ 0 ((Source.ofBytes (handedOver steps)).records 4) sink outcome
      last := ⟨_, _, indexes_index _ _ _ _ _ _⟩
  obtain ⟨content, -, summary, rfl, same, records, -⟩ := increments_come_to_one_run
    isIndex Disk.sound_empty away blank empty closed increments rfl Disk.sound_empty known
    writable empty rfl (Source.bytes_ofBytes _) (by decide) run
    (.inl ⟨.inr rfl, by simp [steps, RunSettings.InOrder]⟩)
  exact ⟨_, _, summary, last, increments, run, content, same, records.symm⟩

end Increments

end RecordStore
