import RecordStore.Append
import RecordStore.Proofs.Growth
import RecordStore.Proofs.Pipeline.Entries
import Mathlib

/-!
What an append may change.

An append may end in every way that its settings, its source, its extractor and its index
allow (`Appends`). Whatever it comes to, the file goes on with exactly the bytes that the
source handed over, and the index changes only under keys of complete records of these
bytes, to spans within them (`Adds`).
-/

namespace RecordStore

/-! ### Everything that an append can come to -/

/-- What appending to a file can come to, and the writer and the disk that it leaves behind. -/
inductive Appends {σ : Type} (path : String) (source : Source) (keyOf : KeyOf)
    (write : Writer (σ × Disk)) (settings : RunSettings) (sink : σ × Disk) :
    Outcome Growth → σ × Disk → Prop where
  | refused {error : Error} (invalid : settings.validate = .error error) :
      Appends path source keyOf write settings sink (.failed error) sink
  | unopened {fault : IoFault} (valid : settings.validate = .ok ())
      (missing : sink.2.openFile path = .error fault) :
      Appends path source keyOf write settings sink (.failed (.io fault)) sink
  | broken {message : String} {id : Nat} {disk : Disk} (valid : settings.validate = .ok ())
      (opened : sink.2.openFile path = .ok (id, disk))
      (ending : source.ending = .failed message) :
      Appends path source keyOf write settings sink (.failed (.io (.device message)))
        (sink.1, disk.appendTo id source.bytes)
  | panicked {id : Nat} {disk : Disk} (valid : settings.validate = .ok ())
      (opened : sink.2.openFile path = .ok (id, disk)) (ending : source.ending = .panicked) :
      Appends path source keyOf write settings sink (.panicked "source panicked")
        (sink.1, disk.appendTo id source.bytes)
  | indexed {id : Nat} {disk : Disk} {outcome : Outcome Summary} {after : σ × Disk}
      (valid : settings.validate = .ok ()) (opened : sink.2.openFile path = .ok (id, disk))
      (ending : source.ending = .finished)
      (run : Indexes keyOf write settings (disk.content id).length
        (Source.records Source.usualBuffer (.ofBytes (Bytes.slice
          ((disk.appendTo id source.bytes).content id) (disk.content id).length
          source.bytes.length)))
        (sink.1, disk.appendTo id source.bytes) outcome after) :
      Appends path source keyOf write settings sink
        (outcome.map fun summary => ⟨(disk.content id).length, source.bytes.length, summary⟩)
        after

/-- What `append` gives is one of the things that appending can come to. -/
theorem appends_append {σ : Type} (path : String) (source : Source) (keyOf : KeyOf)
    (write : Writer (σ × Disk)) (settings : RunSettings) (sink : σ × Disk) :
    Appends path source keyOf write settings sink
      (append path source keyOf write settings sink).outcome
      (append path source keyOf write settings sink).sink := by
  unfold append
  split
  · rename_i error invalid
    exact .refused invalid
  · rename_i valid
    split
    · rename_i fault missing
      exact .unopened valid missing
    · rename_i id disk opened
      dsimp only
      split
      · rename_i message ending
        exact .broken valid opened ending
      · rename_i ending
        exact .panicked valid opened ending
      · rename_i ending
        exact .indexed valid opened ending (indexes_index _ _ _ _ _ _)

/-! ### What an append adds -/

/-- What an append may change, whatever it comes to. -/
structure Adds (path : String) (source : Source) (keyOf : KeyOf) (settings : RunSettings)
    (before : Backend × Disk) (outcome : Outcome Growth) (after : Backend × Disk) : Prop where
  /-- Settings without a batch size change nothing, nor do they make the file. -/
  refused : settings.batchSize = 0 → after = before
  /-- Otherwise the file cannot be opened, or it goes on with what the source handed over. -/
  file : 0 < settings.batchSize →
    (∃ fault, before.2.openFile path = .error fault ∧ outcome = .failed (.io fault) ∧
        after = before) ∨
      (∃ id, after.2.find path = .ok (.file id)) ∧
        after.2.bytesAt path = before.2.bytesAt path ++ source.bytes
  /-- What could be read of the blob is read as before. -/
  reads : ∀ blob offset length bytes, Blob.atPath path before.2 = .ok blob →
    blob.read offset length before.2 = .ok bytes →
    Blob.atPath path after.2 = .ok blob ∧ blob.read offset length after.2 = .ok bytes
  /-- Without a file, or behind a source that was not read to its end, nothing else changes. -/
  spared : source.ending ≠ .finished ∨ (∃ fault, before.2.openFile path = .error fault) →
    after.1 = before.1 ∧ Disk.Grows (Disk.placeOf path) before.2 after.2 ∧
      ∀ key, after.1.stored key after.2 = before.1.stored key before.2
  /-- A key has what it had, or a complete record of the new part. -/
  stored : ∀ key, after.1.stored key after.2 = before.1.stored key before.2 ∨
    ∃ record ∈ Bytes.lines source.bytes, keyOf record = .ok key ∧
      ∃ span, after.1.stored key after.2 = .ok (some span) ∧
        (before.2.bytesAt path).length ≤ span.offset ∧
        span.offset + span.length ≤ (before.2.bytesAt path).length + source.bytes.length
  /-- An append that succeeds gives the new length, and counts what is not an open line. -/
  done : ∀ growth, outcome = .done growth →
    growth.newLength = (after.2.bytesAt path).length ∧
      growth.previous = (before.2.bytesAt path).length ∧
      growth.appended = source.bytes.length ∧
      ∃ tail, source.bytes = Bytes.throughLastNewline source.bytes ++ tail ∧
        Bytes.newline ∉ tail ∧ growth.index.bytes + tail.length = growth.appended

section Adds

variable {path : String} {source : Source} {keyOf : KeyOf} {settings : RunSettings}
  {sink after : Backend × Disk} {outcome : Outcome Growth}

/-- Where nothing was done, nothing changed. -/
theorem adds_nothing {error : Error}
    (cause : settings.batchSize = 0 ∨
      ∃ fault, sink.2.openFile path = .error fault ∧ error = .io fault) :
    Adds path source keyOf settings sink (.failed error) sink := by
  refine ⟨fun _ => rfl, ?_, fun _ _ _ _ opened read => ⟨opened, read⟩,
    fun _ => ⟨rfl, .refl _ _, fun _ => rfl⟩, fun _ => .inl rfl, fun _ done => by cases done⟩
  intro filled
  rcases cause with empty | ⟨fault, missing, rfl⟩
  · omega
  · exact .inl ⟨fault, missing, rfl, rfl⟩

/-- What is read of a file is read also when it was added to. -/
theorem Blob.read_of_longer {disk disk' : Disk} {id : Nat} {more : Bytes}
    (longer : disk'.content id = disk.content id ++ more) {offset length : Nat} {bytes : Bytes}
    (read : Blob.read ⟨path, .file id⟩ offset length disk = .ok bytes) :
    Blob.read ⟨path, .file id⟩ offset length disk' = .ok bytes := by
  unfold Blob.read at read ⊢
  dsimp only [Blob.size] at read ⊢
  split at read
  · cases read
  · rename_i within
    have room : ¬(disk'.content id).length < offset + length := by
      rw [longer, List.length_append]
      omega
    rw [if_neg room, longer, Bytes.slice_append_of_le (by omega)]
    exact read

/-- What could be read before a file was opened and added to is read afterwards. -/
theorem reads_of_openFile {disk disk' last : Disk} {id : Nat} {more : Bytes}
    (opened : disk.openFile path = .ok (id, disk'))
    (found : last.find path = .ok (.file id))
    (longer : last.bytesAt path = disk.bytesAt path ++ more) {blob : Blob} {offset length : Nat}
    {bytes : Bytes} (there : Blob.atPath path disk = .ok blob)
    (read : blob.read offset length disk = .ok bytes) :
    Blob.atPath path last = .ok blob ∧ blob.read offset length last = .ok bytes := by
  rcases Disk.openFile_cases opened with ⟨old, rfl⟩ | ⟨leads, free, -⟩
  · rw [Blob.atPath_of_find old] at there
    cases there
    rw [Disk.bytesAt_of_find found, Disk.bytesAt_of_find old] at longer
    exact ⟨Blob.atPath_of_find found, Blob.read_of_longer longer read⟩
  · have missing : disk.find path = .error .noEntry := by simp [Disk.find, leads, free]
    rw [Blob.atPath, missing] at there
    cases there

/-- A source that was not read to its end leaves its bytes in the file, and the index alone. -/
theorem adds_unread {id : Nat} {disk : Disk} (valid : settings.validate = .ok ())
    (sound : sink.2.Sound) (away : sink.1.Away (Disk.placeOf path) sink.2)
    (plain : sink.2.Plain path) (opened : sink.2.openFile path = .ok (id, disk))
    (unread : ∀ growth, outcome ≠ .done growth) :
    Adds path source keyOf settings sink outcome (sink.1, disk.appendTo id source.bytes) := by
  have filled := RunSettings.validate_eq_ok_iff.mp valid
  obtain ⟨found, grows, -, content, -⟩ := Disk.openFile_appendTo plain opened source.bytes
  have longer := (Disk.bytesAt_of_find found).trans content
  have same := (away.grows sound grows).2.1
  exact ⟨fun empty => by omega, fun _ => .inr ⟨⟨id, found⟩, longer⟩,
    fun _ _ _ _ => reads_of_openFile opened found longer, fun _ => ⟨rfl, grows, same⟩,
    fun key => .inl (same key), fun growth done => absurd done (unread growth)⟩

/-- An append to a file of bytes, which is none that the index needs, adds to this file what the
source hands over and nothing else; the index changes only under keys of complete records of the new
part, and not at all when the source was not read to its end. This holds for every way in which
the append may end. -/
theorem append_adds_and_nothing_else (isIndex : sink.1.IsIndex) (sound : sink.2.Sound)
    (away : sink.1.Away (Disk.placeOf path) sink.2) (plain : sink.2.Plain path)
    (appends : Appends path source keyOf Backend.writer settings sink outcome after) :
    Adds path source keyOf settings sink outcome after := by
  cases appends with
  | refused invalid =>
      refine adds_nothing (.inl ?_)
      by_contra filled
      rw [RunSettings.validate_eq_ok_iff.mpr (Nat.pos_of_ne_zero filled)] at invalid
      cases invalid
  | unopened _ missing => exact adds_nothing (.inr ⟨_, missing, rfl⟩)
  | broken valid opened _ | panicked valid opened _ =>
      exact adds_unread valid sound away plain opened fun _ done => by cases done
  | @indexed id disk outcome _ valid opened ending run =>
      have filled := RunSettings.validate_eq_ok_iff.mp valid
      obtain ⟨found, grows, held, content, -⟩ :=
        Disk.openFile_appendTo plain opened source.bytes
      rw [content, held, Bytes.slice_behind] at run
      obtain ⟨calls, run⟩ := run.recorded
      rw [Source.records_eq, Source.bytes_ofBytes] at run
      obtain ⟨leads, entries⟩ := run.leads_subperm
      have sound' := grows.sound sound
      obtain ⟨away', same, -⟩ := away.grows sound grows
      have begun : ((sink.1, disk.appendTo id source.bytes) : Backend × Disk).1.IsIndex := isIndex
      obtain ⟨-, -, spares⟩ := Backend.spares_of_leads begun sound' away' leads
      have found' := spares.find found
      have longer : after.2.bytesAt path = sink.2.bytesAt path ++ source.bytes := by
        rw [Disk.bytesAt_of_find found', spares.content_eq sound' found, content]
      refine ⟨fun empty => by omega, fun _ => .inr ⟨⟨id, found'⟩, longer⟩,
        fun _ _ _ _ => reads_of_openFile opened found' longer, ?_, ?_, ?_⟩
      · rintro (broken | ⟨fault, missing⟩)
        · exact absurd ending broken
        · rw [opened] at missing
          cases missing
      · intro key
        refine (Backend.stored_of_leads begun sound' away' leads key).imp
          (fun kept => kept.trans (same key)) ?_
        rintro ⟨entry, inside, rfl, stored⟩
        have member := entries.subset inside
        obtain ⟨record, line, made⟩ := Layout.exists_record_of_mem_entries member
        obtain ⟨first, last⟩ := Layout.stop_le_of_mem_entries member
        have short := (Bytes.flatten_lines_prefix source.bytes).length_le
        refine ⟨record, line, made, entry.span, stored, first, ?_⟩
        exact Nat.le_trans last (Nat.add_le_add_left short _)
      · intro growth done
        cases outcome with
        | failed | panicked => cases done
        | done summary =>
            cases done
            have counted := (run.counts_of_done Backend.calm_writer rfl).2
            obtain ⟨tail, whole, free, -⟩ := Bytes.exists_tail source.bytes
            have size := congrArg List.length whole
            rw [List.length_append] at size
            refine ⟨?_, by rw [held], rfl, tail, ?_, free, ?_⟩
            · rw [longer, List.length_append, Growth.newLength, held]
            · rw [← Bytes.flatten_lines]
              exact whole
            · rw [size]
              exact congrArg (· + tail.length) counted

/-- Behind an open line a record and a part of another one are handed over before the source fails:
the file has all of it, and the index nothing. -/
theorem append_adds_and_nothing_else_before_a_failure :
    let keyOf : KeyOf := fun record => .ok (if record.length = 2 then "a" else "b")
    let disk : Disk := (Disk.empty.createAt ["f"] (.bytes [123])).2
    let source : Source := [.data [97, 10, 98], .interrupted, .data [98], .failed "gone"]
    let sink : Backend × Disk := (.log ⟨"i", some 0⟩, disk)
    ∃ outcome after,
      Appends "f" source keyOf Backend.writer ⟨1, 0, .sequential, .drain⟩ sink outcome after ∧
      after.2.bytesAt "f" = [123, 97, 10, 98, 98] ∧ after.1 = sink.1 ∧
      after.1.stored "a" after.2 = .ok none := by
  have file : Disk.placeOf "f" = ["f"] := by cbv
  have index : Disk.placeOf "i" = ["i"] := by cbv
  intro keyOf disk source sink
  have found : disk.find "f" = .ok (.file 0) := by cbv
  have sound : disk.Sound := (@Disk.spares_createAt [] _ _ _ rfl).sound Disk.sound_empty
  have away : sink.1.Away (Disk.placeOf "f") sink.2 := by
    show Disk.placeOf "f" ≠ Disk.placeOf "i"
    rw [file, index]
    decide
  have plain : disk.Plain "f" := by
    intro id there
    rw [found] at there
    cases there
    exact ⟨[123], rfl⟩
  have isIndex : sink.1.IsIndex := trivial
  have appends := appends_append "f" source keyOf Backend.writer ⟨1, 0, .sequential, .drain⟩ sink
  have adds := append_adds_and_nothing_else isIndex sound away plain appends
  obtain ⟨backend, -, same⟩ := adds.spared (.inl fun ends => by cases ends)
  refine ⟨_, _, appends, ?_, backend, (same "a").trans rfl⟩
  rcases adds.file (by decide) with ⟨fault, missing, -⟩ | ⟨-, longer⟩
  · have opened : disk.openFile "f" = .ok (0, disk) := by cbv
    rw [opened] at missing
    cases missing
  · rw [longer, Disk.bytesAt_of_find found]
    rfl

end Adds

end RecordStore
