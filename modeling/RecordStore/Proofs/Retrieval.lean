import RecordStore.Proofs.Backend
import RecordStore.Proofs.Blob
import RecordStore.Proofs.Pipeline.Entries
import Mathlib

/-!
Indexing a blob and reading its records back.

A run that succeeds hands over the entries of all records, in whatever order and however
cut into batches. When no two records have the same key, every entry is the last one of its
key, so the index has its span, and the blob shows the record there byte for byte.
-/

namespace RecordStore

/-- With keys that are all different, a record's key has no entry but the record's own. -/
theorem exists_lastOf? {keyOf : KeyOf} {content record : Bytes} {key : String}
    {written : List Entry}
    (handed : written.Perm (Layout.entries keyOf 0 (Bytes.lines content)))
    (distinct : ((Bytes.lines content).map keyOf).Nodup)
    (member : record ∈ Bytes.lines content) (found : keyOf record = .ok key) :
    ∃ entry, lastOf? key written = some entry ∧
      entry.offset + entry.length ≤ content.length ∧
      Bytes.slice content entry.offset entry.length = record := by
  obtain ⟨before, after, split⟩ := List.append_of_mem member
  have own : (⟨key, 0 + before.flatten.length, record.length⟩ : Entry) ∈ written := by
    rw [handed.mem_iff]
    exact Layout.mem_entries_iff.mpr ⟨before, record, after, split, found, rfl, rfl⟩
  cases last : lastOf? key written with
  | none => exact absurd rfl (lastOf?_eq_none_iff.mp last _ own)
  | some entry =>
      obtain ⟨inside, same⟩ := lastOf?_eq_some last
      obtain ⟨within, line, made⟩ := @slice_of_mem_entries keyOf [] content entry
        (handed.mem_iff.mp inside)
      rw [List.nil_append] at within line made
      refine ⟨entry, rfl, within, ?_⟩
      apply List.inj_on_of_nodup_map distinct line member
      rw [made, same, found]

section Retrieval

variable {keyOf : KeyOf} {settings : RunSettings} {backend : Backend} {disk : Disk}
  {after : Backend × Disk} {path : String} {id buffer : Nat} {source : Source}
  {summary : Summary}

/-- Indexing a blob from its start into an empty index, with a key of its own for every record, and
then looking up a record's key and reading the blob at the span gives the record, byte for byte.
Under other keys nothing is found. This holds for every order in which batches are written. -/
theorem record_read_back (isIndex : backend.IsIndex) (sound : disk.Sound)
    (away : backend.Away (Disk.placeOf path) disk)
    (empty : ∀ key, backend.stored key disk = .ok none)
    (found : disk.find path = .ok (.file id))
    (whole : source.ending = .finished) (same : source.bytes = disk.content id)
    (run : Indexes keyOf Backend.writer settings 0 (source.records buffer) (backend, disk)
      (.done summary) after)
    (distinct : ((Bytes.lines (disk.content id)).map keyOf).Nodup) :
    (∀ record ∈ Bytes.lines (disk.content id), ∃ key span blob,
        keyOf record = .ok key ∧ after.1.lookup key after.2 = (.ok (some span), after) ∧
        Blob.atPath path after.2 = .ok blob ∧ blob.readSpan span after.2 = .ok record) ∧
      (Bytes.lines (disk.content id) ≠ [] →
        ∀ key, (∀ record ∈ Bytes.lines (disk.content id), keyOf record ≠ .ok key) →
          after.1.lookup key after.2 = (.ok none, after)) := by
  obtain ⟨calls, run⟩ := run.recorded
  rw [Source.records_eq, same] at run
  obtain ⟨leads, -⟩ := run.leads_entries
  obtain ⟨accepted, filled, keyed, handed⟩ := run.of_done Backend.calm_writer whole
  dsimp only at keyed handed
  obtain ⟨-, -, spares⟩ := Backend.spares_of_leads isIndex sound away leads
  have looked : Bytes.lines (disk.content id) ≠ [] → ∀ key, after.1.lookup key after.2 =
      (readAfter key (calls.flatMap Call.batch) (.ok none), after) := by
    intro some key
    rcases Backend.write_flatMap_of_leads isIndex leads accepted filled with
      ⟨rfl, -⟩ | ⟨some', wrote⟩
    · have none := @Layout.length_entries keyOf 0 _ keyed
      rw [← handed.length_eq] at none
      exact absurd (List.length_eq_zero_iff.mp none.symm) some
    · have writes := Backend.writes_write isIndex sound away wrote
      obtain ⟨settled, stored⟩ := writes.done rfl
      rw [Backend.lookup_of_settled (settled some'), stored key, empty key]
  constructor
  · intro record member
    obtain ⟨key, made⟩ := Layout.findSome?_fault_eq_none_iff.mp keyed record member
    obtain ⟨entry, last, within, shown⟩ := exists_lastOf? handed distinct member made
    have content := spares.content_eq sound found
    refine ⟨key, entry.span, _, made, ?_, Blob.atPath_of_find (spares.find found), ?_⟩
    · rw [looked (List.ne_nil_of_mem member), readAfter_of_some last]
    · rw [Blob.readSpan_of_within (by rw [content]; exact within), content]
      exact congrArg Except.ok shown
  · intro some key other
    rw [looked some, readAfter_of_none (lastOf?_eq_none_iff.mpr fun entry inside same => ?_)]
    obtain ⟨before, record, rest, split, made, -⟩ :=
      Layout.mem_entries_iff.mp (handed.mem_iff.mp inside)
    exact other record (split ▸ List.mem_append_right _ List.mem_cons_self) (same ▸ made)

/-- With two workers and packages of one record, a file of two records and a tail is indexed in a
log that is held, and the second record is read back. -/
theorem record_read_back_behind_another :
    let content : Bytes := [97, 10, 98, 98, 10, 99]
    let keyOf : KeyOf := fun record => .ok (if record.length = 2 then "a" else "b")
    let disk : Disk := (Disk.empty.createAt ["f"] (.bytes content)).2
    ∃ summary after, Indexes keyOf Backend.writer ⟨1, 2, .parallel, .drain⟩ 0
        ((Source.ofBytes content).records 8) (.log ⟨"i", some 0⟩, disk) (.done summary) after ∧
      (∃ span blob, after.1.lookup "b" after.2 = (.ok (some span), after) ∧
        Blob.atPath "f" after.2 = .ok blob ∧ blob.readSpan span after.2 = .ok [98, 98, 10]) ∧
      after.1.lookup "c" after.2 = (.ok none, after) := by
  have found (bytes : Bytes) :
      (Disk.empty.createAt ["f"] (.bytes bytes)).2.find "f" = .ok (.file 0) := by cbv
  have blob : Disk.placeOf "f" = ["f"] := by cbv
  have index : Disk.placeOf "i" = ["i"] := by cbv
  intro content keyOf disk
  have lines : Bytes.lines content = [[97, 10], [98, 98, 10]] := by
    simp [content, Bytes.lines, Bytes.lines.go, Bytes.cutLine, Bytes.newline]
  obtain ⟨outcome, after, run⟩ : ∃ outcome after, Indexes keyOf Backend.writer
      ⟨1, 2, .parallel, .drain⟩ 0 ((Source.ofBytes content).records 8)
      (.log ⟨"i", some 0⟩, disk) outcome after := ⟨_, _, indexes_index _ _ _ _ _ _⟩
  obtain ⟨calls, recorded⟩ := run.recorded
  rw [Source.records_eq, Source.bytes_ofBytes, lines] at recorded
  obtain ⟨leads, entries⟩ := recorded.leads_entries
  have accepted := (Backend.accepted_of_held rfl leads fun call made entry inside => by
    have stop := Layout.stop_le_of_mem_entries (entries call made entry inside)
    simp only [List.flatten_cons, List.flatten_nil, List.length_append, List.length_cons,
      List.length_nil] at stop
    simp only [Slot.maxValue_eq]
    omega).2
  obtain ⟨-, ⟨-, -, rfl⟩ | ⟨faulty, -⟩⟩ :=
    recorded.of_drain Backend.calm_writer rfl (by decide) rfl rfl
  · have sound : disk.Sound := (@Disk.spares_createAt [] _ _ _ rfl).sound Disk.sound_empty
    have isIndex : Backend.IsIndex (.log ⟨"i", some 0⟩) := trivial
    have away : Backend.Away (Disk.placeOf "f") (.log ⟨"i", some 0⟩) disk := by
      rw [Backend.Away, blob, index]
      decide
    have empty (key : String) : Backend.stored key (.log ⟨"i", some 0⟩) disk = .ok none := rfl
    have whole : disk.content 0 = content := rfl
    obtain ⟨reads, others⟩ := record_read_back isIndex sound away empty (found content) rfl rfl run
      (by rw [whole, lines]; simp [keyOf])
    rw [whole, lines] at reads others
    obtain ⟨key, span, blob, made, read⟩ := reads [98, 98, 10] (by simp)
    cases made
    exact ⟨_, after, run, ⟨span, blob, read⟩, others (by simp) "c" (by simp [keyOf])⟩
  · exact absurd ⟨by simp [Layout.fault?, keyOf], accepted⟩ faulty

end Retrieval

end RecordStore
