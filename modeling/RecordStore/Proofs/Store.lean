import RecordStore.Proofs.Appending
import RecordStore.Store
import Mathlib

/-!
What a store shows after any number of appends.

An append may end in every way that its settings, its source, its extractor and its index
allow (`Appends`). Whatever it comes to, the file only grows, and what an index has under a
key is the span of a line that makes this key (`Consistent`): the entries of a new part are
those of its complete lines, and a batch is written whole or leaves the index as it was. So
after any history the record that is read under a key is one of that key.
-/

namespace RecordStore

/-! ### What appends keep -/

/-- What an index has under a key is the span of a line of the file that makes this key; an index
that has anything is open, and its file is there. -/
structure Consistent (keyOf : KeyOf) (path : String) (sink : Backend × Disk) : Prop where
  isIndex : sink.1.IsIndex
  sound : sink.2.Sound
  away : sink.1.Away (Disk.placeOf path) sink.2
  shown : ∀ key, sink.1.stored key sink.2 = .ok none ∨
    ∃ span id, sink.1.stored key sink.2 = .ok (some span) ∧ sink.1.Settled sink.2 ∧
      sink.2.find path = .ok (.file id) ∧ Shows keyOf (sink.2.content id) key span

section Consistent

variable {keyOf : KeyOf} {path : String} {sink after : Backend × Disk}

/-- An index without keys is consistent with every file. -/
theorem consistent_of_empty (isIndex : sink.1.IsIndex) (sound : sink.2.Sound)
    (away : sink.1.Away (Disk.placeOf path) sink.2)
    (empty : ∀ key, sink.1.stored key sink.2 = .ok none) : Consistent keyOf path sink :=
  ⟨isIndex, sound, away, fun key => .inl (empty key)⟩

/-- A file that grows goes on showing what it showed. -/
theorem Consistent.grow (consistent : Consistent keyOf path sink) {disk : Disk} {id : Nat}
    (grows : Disk.Grows (Disk.placeOf path) sink.2 disk)
    (found : disk.find path = .ok (.file id))
    (longer : ∀ old, sink.2.find path = .ok (.file old) →
      old = id ∧ ∃ more, disk.content id = sink.2.content id ++ more) :
    Consistent keyOf path (sink.1, disk) := by
  obtain ⟨away, stored, settled⟩ := consistent.away.grows consistent.sound grows
  refine ⟨consistent.isIndex, grows.sound consistent.sound, away, ?_⟩
  intro key
  rcases consistent.shown key with none | ⟨span, old, some, open', there, shown⟩
  · exact .inl ((stored key).trans none)
  · obtain ⟨rfl, more, content⟩ := longer old there
    refine .inr ⟨span, old, (stored key).trans some, settled open', found, ?_⟩
    rw [content]
    exact shown.append more

/-- A batch whose entries the file shows keeps the index consistent, whatever becomes of it. -/
theorem Consistent.write (consistent : Consistent keyOf path sink) {id : Nat}
    (found : sink.2.find path = .ok (.file id)) {entries : List Entry}
    (shown : ∀ entry ∈ entries, Shows keyOf (sink.2.content id) entry.key entry.span) :
    Consistent keyOf path (Backend.writer entries sink).2 ∧
      (Backend.writer entries sink).2.2.find path = .ok (.file id) ∧
      (Backend.writer entries sink).2.2.content id = sink.2.content id := by
  rw [Backend.writer_snd]
  rcases wrote : Backend.write entries sink with ⟨result, after⟩
  have writes := Backend.writes_write consistent.isIndex consistent.sound consistent.away wrote
  have found' := writes.spares.find found
  have content := writes.spares.content_eq consistent.sound found
  have kept {key : String} (same : after.1.stored key after.2 = sink.1.stored key sink.2) :
      after.1.stored key after.2 = .ok none ∨
        ∃ span id, after.1.stored key after.2 = .ok (some span) ∧ after.1.Settled after.2 ∧
          after.2.find path = .ok (.file id) ∧ Shows keyOf (after.2.content id) key span := by
    rcases consistent.shown key with none | ⟨span, old, some, settled, there, shows'⟩
    · exact .inl (same.trans none)
    · rw [found] at there
      cases there
      exact .inr ⟨span, id, same.trans some, writes.settled settled, found', content ▸ shows'⟩
  refine ⟨⟨writes.isIndex, writes.spares.sound consistent.sound, writes.away, ?_⟩,
    found', content⟩
  intro key
  cases result with
  | error error => exact kept (writes.failed error rfl key)
  | ok done =>
      obtain ⟨settled, stored⟩ := writes.done rfl
      cases last : lastOf? key entries with
      | none => exact kept ((stored key).trans (readAfter_of_none last _))
      | some entry =>
          obtain ⟨inside, rfl⟩ := lastOf?_eq_some last
          refine .inr ⟨entry.span, id, (stored _).trans (readAfter_of_some last _),
            settled (List.ne_nil_of_mem inside), found', ?_⟩
          exact content ▸ shown entry inside

/-- Appending keeps a store consistent, whatever it comes to. -/
theorem Consistent.append (consistent : Consistent keyOf path sink) {source : Source}
    {settings : RunSettings} {outcome : Outcome Growth}
    (appends : Appends path source keyOf Backend.writer settings sink outcome after) :
    Consistent keyOf path after := by
  have grown {id : Nat} {disk : Disk} (opened : sink.2.openFile path = .ok (id, disk)) :
      Consistent keyOf path (sink.1, disk.appendTo id source.bytes) ∧
        (disk.appendTo id source.bytes).find path = .ok (.file id) := by
    obtain ⟨found, grows, same⟩ := Disk.openFile_spec opened
    obtain ⟨leads, there⟩ := Disk.find_eq_ok_iff.mp found
    have found' : (disk.appendTo id source.bytes).find path = .ok (.file id) :=
      (Disk.find_setBody _ _ _ _).trans found
    refine ⟨consistent.grow (grows.trans (Disk.grows_setBody there _)) found' ?_,
      found'⟩
    intro old earlier
    obtain ⟨rfl, rfl⟩ := same old earlier
    obtain ⟨more, content, -⟩ := Disk.exists_content_appendTo sink.2 old source.bytes
    exact ⟨rfl, more, content⟩
  cases appends with
  | refused | unopened => exact consistent
  | broken _ opened | panicked _ opened => exact (grown opened).1
  | @indexed id disk outcome _ _ opened _ run =>
      obtain ⟨consistent, found⟩ := grown opened
      obtain ⟨more, content, slice⟩ := Disk.exists_content_appendTo disk id source.bytes
      rw [content, slice] at run
      obtain ⟨calls, run⟩ := run.recorded
      rw [Source.records_eq, Source.bytes_ofBytes] at run
      obtain ⟨leads, entries⟩ := run.leads_entries
      refine (leads.invariant (P := fun sink => Consistent keyOf path sink ∧
        sink.2.find path = .ok (.file id) ∧ sink.2.content id = disk.content id ++ more)
        ⟨consistent, found, content⟩ ?_).1
      rintro call made before ⟨consistent, found, same⟩
      obtain ⟨consistent', found', kept⟩ := consistent.write found fun entry inside => by
        rw [same]
        exact shows_of_mem_entries (entries call made entry inside)
      exact ⟨consistent', found', kept.trans same⟩

/-- Looking up a key keeps a store consistent. -/
theorem Consistent.lookup (consistent : Consistent keyOf path sink) {key : String}
    {result : Except Error (Option Span)}
    (read : sink.1.lookup key sink.2 = (result, after)) :
    Consistent keyOf path after := by
  have looks := Backend.looks_lookup consistent.isIndex consistent.sound consistent.away read
  refine ⟨looks.isIndex, looks.spares.sound consistent.sound, looks.away, ?_⟩
  intro other
  rcases consistent.shown other with none | ⟨span, id, some, settled, found, shown⟩
  · exact .inl ((looks.stored other).trans none)
  · refine .inr ⟨span, id, (looks.stored other).trans some, looks.settled settled,
      looks.spares.find found, ?_⟩
    rw [looks.spares.content_eq consistent.sound found]
    exact shown

end Consistent

namespace Store

/-! ### Histories of a store -/

/-- The store that an append leaves behind. -/
def appended (store : Store) (outcome : Outcome Growth) (backend : Backend) : Store :=
  { store with
    backend
    poisoned :=
      match outcome with
      | .panicked _ => true
      | _ => store.poisoned }

/-- What a store comes to by appends with one extractor, each with a source and settings of its own,
and by reading. -/
inductive History (extractor : Extractor) (origin : Store × Disk) : Store × Disk → Prop where
  | none : History extractor origin origin
  | append {store : Store} {disk disk' : Disk} {backend : Backend} {source : Source}
      {settings : RunSettings} {outcome : Outcome Growth} :
      History extractor origin (store, disk) →
      Appends store.blob source extractor.key Backend.writer settings (store.backend, disk) outcome
        (backend, disk') →
      History extractor origin (store.appended outcome backend, disk')
  | lookup {store : Store} {disk : Disk} (key : String) :
      History extractor origin (store, disk) →
      History extractor origin (store.lookup key disk).2
  | get {store : Store} {disk : Disk} (key : String) :
      History extractor origin (store, disk) → History extractor origin (store.get key disk).2

variable {extractor : Extractor} {origin : Store × Disk} {store store' : Store}
  {disk disk' : Disk}

/-- The append of a store continues its history. -/
theorem History.appending (history : History extractor origin (store, disk)) (source : Source)
    (settings : RunSettings) :
    History extractor origin (store.append source extractor settings disk).2.2 := by
  have appends := appends_append store.blob source extractor.key Backend.writer settings
    (store.backend, disk)
  rw [Store.append, recovered_guard]
  exact history.append appends

/-- Reading a record leaves what looking up its place leaves. -/
theorem get_snd (key : String) (store : Store) (disk : Disk) :
    (store.get key disk).2 = (store.lookup key disk).2 := by
  unfold get
  rcases store.lookup key disk with ⟨result, after⟩
  cases result with
  | error error => rfl
  | ok found =>
      cases found with
      | none => rfl
      | some span =>
          dsimp only
          cases Blob.atPath after.1.blob after.2 <;> rfl

/-- A history that starts consistent stays so. -/
theorem History.consistent (history : History extractor origin (store, disk))
    (start : Consistent extractor.key origin.1.blob (origin.1.backend, origin.2)) :
    Consistent extractor.key store.blob (store.backend, disk) := by
  have looking {store : Store} {disk : Disk} (key : String)
      (consistent : Consistent extractor.key store.blob (store.backend, disk)) :
      Consistent extractor.key (store.lookup key disk).2.1.blob
        ((store.lookup key disk).2.1.backend, (store.lookup key disk).2.2) := by
    rw [lookup_eq]
    exact consistent.lookup (rfl : store.backend.lookup key disk = _)
  generalize same : (store, disk) = last at history
  have kept : Consistent extractor.key last.1.blob (last.1.backend, last.2) := by
    clear same
    induction history with
    | none => exact start
    | append _ appends consistent => exact consistent.append appends
    | lookup key _ consistent => exact looking key consistent
    | get key _ consistent =>
        rw [get_snd]
        exact looking key consistent
  subst same
  exact kept

/-- Under a key that a consistent index has, its record is read; under another one nothing is, or
the index cannot be read. -/
theorem get_of_consistent {keyOf : KeyOf}
    (consistent : Consistent keyOf store.blob (store.backend, disk)) (key : String) :
    (∃ record : Bytes, (store.get key disk).1 = .ok (some record) ∧ record.IsLine ∧
        keyOf record = .ok key) ∨
      store.backend.stored key disk = .ok none ∧ ((store.get key disk).1 = .ok none ∨
        ∃ error, (store.get key disk).1 = .error error ∧
          ∀ offset length size, error ≠ .outOfRange offset length size) := by
  rcases consistent.shown key with none | ⟨span, id, some, settled, found, within, line, made⟩
  · refine .inr ⟨none, ?_⟩
    rcases looked : store.backend.lookup key disk with ⟨result, after⟩
    have looks := Backend.looks_lookup consistent.isIndex consistent.sound consistent.away looked
    rcases looks.result with same | ⟨error, rfl, other⟩
    · rw [same.trans none] at looked
      exact .inl (by simp [get, lookup_eq, looked])
    · exact .inr ⟨error, by simp [get, lookup_eq, looked], other⟩
  · refine .inl ⟨Bytes.slice (disk.content id) span.offset span.length, ?_, line, made⟩
    have looked := Backend.lookup_of_settled settled key
    dsimp only at some looked
    rw [some] at looked
    simp [get, lookup_eq, looked, Blob.atPath_of_find found, Blob.readSpan_of_within within, Except.map]

/-- Start with an index without keys, which keeps its data apart from the file, and with any content
of the file or none, and append with one extractor any number of sources, in whatever way each of
these appends ends. Then under every key that the index has the store gives a line that makes this
key. It never gives a record of another key, and never looks for one outside the file. -/
theorem get_gives_record_of_key (isIndex : store.backend.IsIndex) (sound : disk.Sound)
    (away : store.backend.Away (Disk.placeOf store.blob) disk)
    (empty : ∀ key, store.backend.stored key disk = .ok none)
    (history : History extractor (store, disk) (store', disk')) (key : String) :
    (store'.backend.stored key disk' ≠ .ok none →
        ∃ record : Bytes, (store'.get key disk').1 = .ok (some record) ∧ record.IsLine ∧
          extractor.key record = .ok key) ∧
      (∀ record : Bytes, (store'.get key disk').1 = .ok (some record) →
        record.IsLine ∧ extractor.key record = .ok key) ∧
      ∀ offset length size, (store'.get key disk').1 ≠ .error (.outOfRange offset length size) := by
  have consistent := history.consistent (consistent_of_empty isIndex sound away empty)
  rcases get_of_consistent consistent key with ⟨record, read, line, made⟩ | ⟨none, ends⟩
  · rw [read]
    refine ⟨fun _ => ⟨record, rfl, line, made⟩, ?_, ?_⟩
    · intro other same
      cases same
      exact ⟨line, made⟩
    · intro _ _ _ same
      cases same
  · refine ⟨fun some => absurd none some, ?_, ?_⟩
    · intro record read
      rcases ends with same | ⟨error, same, -⟩
      · rw [same] at read
        cases read
      · rw [same] at read
        cases read
    · intro offset length size read
      rcases ends with same | ⟨error, same, other⟩
      · rw [same] at read
        cases read
      · rw [same] at read
        cases read
        exact other offset length size rfl

/-- A file that ends in an open line, an append whose source panics and one that fails at its second
record: what was indexed before the failure is read. -/
theorem get_gives_record_of_key_after_failures :
    let store : Store := ⟨"f", .log ⟨"i", some 0⟩, false⟩
    let disk : Disk := (Disk.empty.createAt ["f"] (.bytes [123])).2
    ∃ store' disk', History (.field "k") (store, disk) (store', disk') ∧
      store'.backend.stored "a" disk' = .ok (some ⟨2, 10⟩) ∧
      ∃ record : Bytes, (store'.get "a" disk').1 = .ok (some record) ∧ record.IsLine ∧
        (Extractor.field "k").key record = .ok "a" := by
  have file : Disk.placeOf "f" = ["f"] := by cbv
  have index : Disk.placeOf "i" = ["i"] := by cbv
  intro store disk
  have sound : disk.Sound := (@Disk.spares_createAt [] _ _ _ rfl).sound Disk.sound_empty
  have away : store.backend.Away (Disk.placeOf store.blob) disk := by
    show Disk.placeOf "f" ≠ Disk.placeOf "i"
    rw [file, index]
    decide
  have history : History (.field "k") (store, disk) (store, disk) := .none
  have first := history.appending [.data [120], .panicked] ⟨1, 0, .sequential, .drain⟩
  have second := first.appending [.data [123, 34, 107, 34, 58, 34, 97, 34, 125, 10], .data [10]]
    ⟨1, 0, .sequential, .drain⟩
  have isIndex : store.backend.IsIndex := trivial
  have empty (key : String) : store.backend.stored key disk = .ok none := rfl
  have reads := get_gives_record_of_key isIndex sound away empty second "a"
  refine ⟨_, _, second, ?_, reads.1 ?_⟩
  · cbv
  · cbv
    intro none
    cases none

end Store

end RecordStore
