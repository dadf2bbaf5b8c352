import RecordStore.Proofs.Acceptance
import Mathlib

/-!
Indexing into a table that refuses keys it has.

A batch with a key that is there is refused whole, so which rows a failing run leaves behind
depends on the order of its batches. Whether a run succeeds does not: a batch can only be
refused for a key that comes twice or that was in the table before
(`reject_succeeds_just_for_new_keys`).
-/

namespace RecordStore

section Rejection

variable {index : TableIndex} {disk : Disk} {route : Route} {after : Backend × Disk}

/-- Behind calls, the rows of the accepted ones stand behind those that the table had. -/
theorem Backend.rowsOn_of_leads {calls : List Call} (rejects : index.onDuplicate = .reject)
    (sound : disk.Sound) (away : Backend.Away route (.table index) disk)
    (leads : Backend.writer.Leads (.table index, disk) calls after) :
    ∃ index', after.1 = .table index' ∧ index'.rowsOn after.2 = index.rowsOn disk ++
      (calls.flatMap Call.accepted).map fun entry => (entry.key, entry.row) := by
  have isIndex : Backend.IsIndex (.table index) := trivial
  induction leads with
  | none => exact ⟨index, rfl, by simp⟩
  | @call calls before after batch verdict earlier wrote ih =>
      obtain ⟨index', same, rows⟩ := ih
      obtain ⟨-, away', spares⟩ := Backend.spares_of_leads isIndex sound away earlier
      have policy := Backend.kind_of_leads earlier
      obtain ⟨backend, middle⟩ := before
      obtain rfl : backend = .table index' := same
      have rejects' : index'.onDuplicate = .reject := (Backend.Kind.table.inj policy).trans rejects
      rcases written : index'.write batch middle with ⟨result, index'', last⟩
      have writes := TableIndex.writes_write (spares.sound sound) away' written
      have comes : Backend.write batch (.table index', middle) =
          (result, .table index'', last) := by
        rw [Backend.write_table, written]
      have behind := Backend.writer_snd batch (.table index', middle)
      rw [wrote, comes] at behind
      obtain rfl : after = (.table index'', last) := behind
      refine ⟨index'', rfl, ?_⟩
      rw [List.flatMap_append, List.flatMap_singleton, List.map_append, ← List.append_assoc, ← rows]
      cases result with
      | ok done =>
          obtain ⟨inserted, -⟩ := writes.done rfl
          rw [rejects'] at inserted
          rw [Backend.writer_eq_accepted_iff.mpr comes] at wrote
          cases wrote
          exact TableIndex.eq_append_of_insertAll inserted
      | error error =>
          have refused : verdict = .refused error := by
            rw [Backend.writer, comes] at wrote
            cases wrote
            rfl
          subst refused
          rw [writes.failed error rfl]
          simp [Call.accepted]

/-- The entries of the accepted calls are a part of those of all calls. -/
theorem flatMap_accepted_sublist (calls : List Call) :
    (calls.flatMap Call.accepted).Sublist (calls.flatMap Call.batch) := by
  induction calls with
  | nil => exact .refl _
  | cons call calls ih =>
      rw [List.flatMap_cons, List.flatMap_cons]
      refine List.Sublist.append ?_ ih
      unfold Call.accepted
      split
      · exact .refl _
      · exact List.nil_sublist _

/-- A run into a table that refuses keys it has succeeds just when every record has a key, no key
comes twice and none is in the table, whatever the mode of the run, the size of its batches, the
number of its workers, its policy and the order in which batches arrive. Then the table has the
rows it had and one for every record; after a failure it has the rows it had and rows of records. -/
theorem reject_succeeds_just_for_new_keys {keyOf : KeyOf} {settings : RunSettings}
    {start buffer : Nat} {source : Source} {outcome : Outcome Summary}
    (rejects : index.onDuplicate = .reject) (sound : disk.Sound)
    (known : Backend.Known (.table index) disk)
    (writable : Backend.Writable (.table index, disk))
    (whole : source.ending = .finished) (room : start + source.bytes.length < 2 ^ 63)
    (run : Indexes keyOf Backend.writer settings start (source.records buffer)
      (.table index, disk) outcome after) :
    ((∃ summary, outcome = .done summary) ↔
        0 < settings.batchSize ∧
        (∀ record ∈ Bytes.lines source.bytes, ∃ key, keyOf record = .ok key ∧
          Assoc.find? key (index.rowsOn disk) = none) ∧
        ((Bytes.lines source.bytes).map keyOf).Nodup) ∧
      ∃ (index' : TableIndex) (added : List Entry), after.1 = .table index' ∧
        index'.rowsOn after.2 =
          index.rowsOn disk ++ added.map (fun entry => (entry.key, entry.row)) ∧
        added.Subperm (Layout.entries keyOf start (Bytes.lines source.bytes)) ∧
        (∀ entry ∈ added, ∃ before record rest,
          Bytes.lines source.bytes = before ++ record :: rest ∧ keyOf record = .ok entry.key ∧
            entry.offset = start + before.flatten.length ∧ entry.length = record.length) ∧
        ∀ summary, outcome = .done summary →
          added.Perm (Layout.entries keyOf start (Bytes.lines source.bytes)) := by
  obtain ⟨route, away⟩ := Backend.exists_away known
  have isIndex : Backend.IsIndex (.table index) := trivial
  have kind : Backend.kind (.table index) = .table .reject := congrArg Backend.Kind.table rejects
  rw [Source.records_eq] at run
  refine ⟨⟨?_, ?_⟩, ?_⟩
  · rintro ⟨summary, rfl⟩
    obtain ⟨keyed, written, handed, -, fits, -⟩ := run.exists_written isIndex sound away whole
    obtain ⟨distinct, new⟩ := fits.fresh kind
    refine ⟨run.filled_of_done, ?_, ?_⟩
    · intro record member
      obtain ⟨key, made⟩ := Layout.findSome?_fault_eq_none_iff.mp keyed record member
      obtain ⟨before, after, split⟩ := List.append_of_mem member
      have inside : (⟨key, start + before.flatten.length, record.length⟩ : Entry) ∈ written :=
        handed.symm.subset (Layout.mem_entries_iff.mpr
          ⟨before, record, after, split, made, rfl, rfl⟩)
      exact ⟨key, made, TableIndex.spanOf?_eq_none_iff.mp (new _ inside)⟩
    · rw [Layout.nodup_map_keyOf_iff start keyed]
      exact (handed.map Entry.key).nodup_iff.mp distinct
  · rintro ⟨filled, new, distinct⟩
    have keyed : (Bytes.lines source.bytes).findSome? (Layout.fault? keyOf) = none := by
      refine Layout.findSome?_fault_eq_none_iff.mpr ?_
      intro record member
      obtain ⟨key, made, -⟩ := new record member
      exact ⟨key, made⟩
    refine run.done_of_fits isIndex sound away writable whole filled keyed ⟨?_, fun _ => ⟨?_, ?_⟩⟩
    · intro entry inside
      obtain ⟨first, last⟩ := Layout.stop_le_of_mem_entries inside
      dsimp only at last
      have short := (Bytes.flatten_lines_prefix source.bytes).length_le
      have large : TableIndex.maxValue = 2 ^ 63 - 1 := rfl
      show entry.offset ≤ TableIndex.maxValue ∧ entry.length ≤ TableIndex.maxValue
      omega
    · exact (Layout.nodup_map_keyOf_iff start keyed).mp distinct
    · intro entry inside
      obtain ⟨record, member, made⟩ := Layout.exists_record_of_mem_entries inside
      obtain ⟨key, made', absent⟩ := new record member
      rw [made] at made'
      cases made'
      exact TableIndex.spanOf?_eq_none_iff.mpr absent
  · obtain ⟨calls, run⟩ := run.recorded
    obtain ⟨leads, part⟩ := run.leads_subperm
    obtain ⟨index', same, rows⟩ := Backend.rowsOn_of_leads rejects sound away leads
    have added := (flatMap_accepted_sublist calls).subperm.trans part
    refine ⟨index', _, same, rows, added, ?_, ?_⟩
    · intro entry inside
      exact Layout.mem_entries_iff.mp (added.subset inside)
    · rintro summary rfl
      obtain ⟨accepted, -, -, handed⟩ := run.of_done Backend.calm_writer whole
      rwa [flatMap_accepted accepted]

/-- With two workers and packages of one record, two records with new keys are added to a table that
has a row, in whatever order they arrive. -/
theorem reject_succeeds_just_for_new_keys_beside_a_row :
    let keyOf : KeyOf := fun record => .ok (if record = [97, 10] then "a" else "b")
    let source : Source := [.data [97, 10, 98], .interrupted, .data [10, 99]]
    let disk : Disk := (Disk.empty.createAt ["d"] (.table [("z", (0, 2))])).2
    let index : TableIndex := ⟨"d", .reject, some ⟨⟨0, some ["d"], true, none⟩, true⟩⟩
    ∃ summary, ∃ after : Backend × Disk, ∃ index' : TableIndex,
      Indexes keyOf Backend.writer ⟨1, 2, .parallel, .abort⟩ 5 (source.records 1)
        (.table index, disk) (.done summary) after ∧
      after.1 = .table index' ∧
      (index'.rowsOn after.2).Perm [("z", (0, 2)), ("a", (5, 2)), ("b", (7, 2))] := by
  intro keyOf source disk index
  have sound : disk.Sound := (@Disk.spares_createAt [] _ _ _ rfl).sound Disk.sound_empty
  have known : Backend.Known (.table index) disk := by
    rintro _ ⟨⟩
    exact Nat.one_pos
  have writable : Backend.Writable (.table index, disk) :=
    ⟨_, index, disk, [("z", (0, 2))], disk, rfl, by cbv, by cbv⟩
  have lines : Bytes.lines source.bytes = [[97, 10], [98, 10]] := by
    simp [source, Source.bytes, Bytes.lines, Bytes.lines.go, Bytes.cutLine, Bytes.newline]
  have rows : index.rowsOn disk = [("z", (0, 2))] := by cbv
  have room : 5 + source.bytes.length < 2 ^ 63 := by decide
  obtain ⟨outcome, after, run⟩ : ∃ outcome after, Indexes keyOf Backend.writer
      ⟨1, 2, .parallel, .abort⟩ 5 (source.records 1) (.table index, disk) outcome after :=
    ⟨_, _, indexes_index _ _ _ _ _ _⟩
  obtain ⟨succeeds, index', added, same, rows', -, -, all⟩ :=
    reject_succeeds_just_for_new_keys rfl sound known writable rfl room run
  rw [lines, rows] at succeeds
  rw [lines] at all
  obtain ⟨summary, rfl⟩ := succeeds.mpr ⟨by decide, by simp [keyOf, Assoc.find?], by simp [keyOf]⟩
  refine ⟨summary, after, index', run, same, ?_⟩
  rw [rows', rows]
  exact ((all summary rfl).map _).append_left _

end Rejection

end RecordStore
