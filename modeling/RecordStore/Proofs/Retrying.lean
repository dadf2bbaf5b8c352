import RecordStore.Proofs.Increments
import RecordStore.Proofs.Lookups
import RecordStore.Proofs.Store

/-!
Appending again what an append failed on.

A failed append leaves a part of its source in the file, which may end inside a record, and
perhaps some of its entries in the index. Appending the whole source puts a second copy behind
that part, and its entries replace whatever the first attempt left under their keys. Other keys
are in neither, so the first attempt did not touch them (`Keeps`), and the second does not.
-/

namespace RecordStore

/-- Whether a complete record among the bytes makes a key. -/
def MakesKey (keyOf : KeyOf) (bytes : Bytes) (key : String) : Prop :=
  ∃ record ∈ Bytes.lines bytes, keyOf record = .ok key

theorem MakesKey.of_prefix {keyOf : KeyOf} {first whole : Bytes} {key : String}
    (part : first <+: whole) (makes : MakesKey keyOf first key) : MakesKey keyOf whole key := by
  obtain ⟨record, line, made⟩ := makes
  exact ⟨record, (Bytes.lines_prefix part).subset line, made⟩

/-! ### What stays -/

/-- An index stays beside a file, of which everything can be read that could be, and it has what it
had under every key that is none of those that may change. -/
structure Keeps (path : String) (changes : String → Prop) (before after : Backend × Disk) :
    Prop where
  beside : Beside path after
  stored : ∀ key, ¬changes key → after.1.stored key after.2 = before.1.stored key before.2
  reads : ∀ blob offset length bytes, Blob.atPath path before.2 = .ok blob →
    blob.read offset length before.2 = .ok bytes →
    Blob.atPath path after.2 = .ok blob ∧ blob.read offset length after.2 = .ok bytes

section Keeps

variable {path : String} {keyOf : KeyOf} {changes changes' : String → Prop} {source : Source}
  {settings : RunSettings} {sink middle after : Backend × Disk} {outcome : Outcome Growth}

theorem Keeps.refl (beside : Beside path sink) : Keeps path changes sink sink :=
  ⟨beside, fun _ _ => rfl, fun _ _ _ _ there read => ⟨there, read⟩⟩

theorem Keeps.trans (first : Keeps path changes sink middle)
    (second : Keeps path changes' middle after) :
    Keeps path (fun key => changes key ∨ changes' key) sink after := by
  refine ⟨second.beside, ?_, ?_⟩
  · intro key unchanged
    rw [not_or] at unchanged
    rw [second.stored key unchanged.2, first.stored key unchanged.1]
  · intro blob offset length bytes there read
    obtain ⟨there', read'⟩ := first.reads blob offset length bytes there read
    exact second.reads blob offset length bytes there' read'

theorem Keeps.mono (keeps : Keeps path changes sink after)
    (sub : ∀ key, changes key → changes' key) : Keeps path changes' sink after :=
  ⟨keeps.beside, fun key unchanged => keeps.stored key fun some => unchanged (sub key some),
    keeps.reads⟩

/-- Opening the file and adding to it changes nothing in the index. -/
theorem keeps_of_openFile (beside : Beside path sink) {id : Nat} {disk : Disk}
    (opened : sink.2.openFile path = .ok (id, disk)) (bytes : Bytes) :
    Keeps path (fun _ => False) sink (sink.1, disk.appendTo id bytes) ∧
      (disk.appendTo id bytes).find path = .ok (.file id) := by
  obtain ⟨isIndex, sound, away, plain⟩ := beside
  obtain ⟨found, grows, -, content, plain'⟩ := Disk.openFile_appendTo plain opened bytes
  obtain ⟨away', stored, -⟩ := away.grows sound grows
  have longer := (Disk.bytesAt_of_find found).trans content
  refine ⟨⟨⟨isIndex, grows.sound sound, away', plain'⟩, fun key _ => stored key, ?_⟩, found⟩
  intro blob offset length read there
  exact reads_of_openFile opened found longer there

/-- Calls change an index at most under the keys of their entries, and no file that it does not
need. -/
theorem keeps_of_leads (beside : Beside path sink) {id : Nat}
    (found : sink.2.find path = .ok (.file id)) {calls : List Call}
    (leads : Backend.writer.Leads sink calls after)
    (keys : ∀ entry ∈ calls.flatMap Call.batch, changes entry.key) :
    Keeps path changes sink after ∧ after.2.find path = .ok (.file id) := by
  obtain ⟨isIndex, sound, away, plain⟩ := beside
  obtain ⟨isIndex', away', spares⟩ := Backend.spares_of_leads isIndex sound away leads
  have found' := spares.find found
  have there := (Disk.find_eq_ok_iff.mp found).2
  refine ⟨⟨⟨isIndex', spares.sound sound, away', ?_⟩, ?_, ?_⟩, found'⟩
  · intro other elsewhere
    rw [found'] at elsewhere
    cases elsewhere
    rw [spares.body sound id there]
    exact plain id found
  · intro key unchanged
    rcases Backend.stored_of_leads isIndex sound away leads key with same | ⟨entry, inside, rfl, -⟩
    · exact same
    · exact absurd (keys entry inside) unchanged
  · intro blob offset length bytes old read
    rw [Blob.atPath_of_find found] at old
    cases old
    have longer : after.2.content id = sink.2.content id ++ [] := by
      rw [spares.content_eq sound found, List.append_nil]
    exact ⟨Blob.atPath_of_find found', Blob.read_of_longer longer read⟩

/-- An append changes an index at most under the keys of complete records of what its source hands
over, whatever it comes to. -/
theorem keeps_of_appends (beside : Beside path sink)
    (appends : Appends path source keyOf Backend.writer settings sink outcome after) :
    Keeps path (MakesKey keyOf source.bytes) sink after := by
  cases appends with
  | refused | unopened => exact .refl beside
  | broken _ opened | panicked _ opened =>
      exact (keeps_of_openFile beside opened _).1.mono fun _ none => none.elim
  | @indexed id disk outcome _ _ opened _ run =>
      obtain ⟨-, -, held, content, -⟩ :=
        Disk.openFile_appendTo beside.plain opened source.bytes
      rw [content, held, Bytes.slice_behind] at run
      obtain ⟨grown, found⟩ := keeps_of_openFile beside opened source.bytes
      obtain ⟨calls, run⟩ := run.recorded
      rw [Source.records_eq, Source.bytes_ofBytes] at run
      obtain ⟨leads, entries⟩ := run.leads_subperm
      have keys : ∀ entry ∈ calls.flatMap Call.batch, MakesKey keyOf source.bytes entry.key :=
        fun entry inside => Layout.exists_record_of_mem_entries (entries.subset inside)
      have written : Keeps path (MakesKey keyOf source.bytes) _ after ∧ _ :=
        keeps_of_leads grown.beside found leads keys
      exact (grown.trans written.1).mono fun key changed => changed.resolve_left not_false

/-- An append of bytes without a complete record makes no call. -/
theorem Appends.eq_of_no_lines (beside : Beside path sink)
    (none : Bytes.lines source.bytes = [])
    (appends : Appends path source keyOf Backend.writer settings sink outcome after) :
    after = sink ∨ ∃ id disk, sink.2.openFile path = .ok (id, disk) ∧
      after = (sink.1, disk.appendTo id source.bytes) := by
  cases appends with
  | refused | unopened => exact .inl rfl
  | broken _ opened | panicked _ opened => exact .inr ⟨_, _, opened, rfl⟩
  | @indexed id disk outcome _ _ opened _ run =>
      refine .inr ⟨id, disk, opened, ?_⟩
      obtain ⟨-, -, held, content, -⟩ := Disk.openFile_appendTo beside.plain opened source.bytes
      rw [content, held, Bytes.slice_behind] at run
      obtain ⟨calls, run⟩ := run.recorded
      rw [Source.records_eq, Source.bytes_ofBytes, none] at run
      obtain ⟨leads, entries⟩ := run.leads_entries
      have silent : calls = [] := by
        refine List.eq_nil_iff_forall_not_mem.mpr ?_
        intro call made
        obtain ⟨entry, inside⟩ := List.exists_mem_of_ne_nil _ (run.batch_ne_nil call made)
        cases entries call made entry inside
      subst silent
      have begun : ((sink.1, disk.appendTo id source.bytes) : Backend × Disk).1.IsIndex :=
        beside.isIndex
      rcases Backend.write_flatMap_of_leads begun leads (by simp) (by simp) with ⟨-, same⟩ | ⟨some, -⟩
      · exact same
      · exact absurd rfl some

/-- An append of bytes without a complete record to a file that is there changes nothing of what is
looked up. -/
theorem Appends.lookup_of_no_lines (beside : Beside path sink)
    (none : Bytes.lines source.bytes = []) {id : Nat} (found : sink.2.find path = .ok (.file id))
    (appends : Appends path source keyOf Backend.writer settings sink outcome after)
    (key : String) : (after.1.lookup key after.2).1 = (sink.1.lookup key sink.2).1 := by
  rcases appends.eq_of_no_lines beside none with rfl | ⟨own, disk, opened, rfl⟩
  · rfl
  · obtain ⟨-, -, same⟩ := Disk.openFile_spec opened
    obtain ⟨rfl, rfl⟩ := same id found
    exact Backend.lookup_of_alike (Disk.alike_setBody _ _ _) beside.sound beside.away
      (Disk.find_eq_ok_iff.mp found).2 key

/-- After an append of some complete record that succeeds, the index is open. -/
theorem Appends.settled_of_done (beside : Beside path sink) (some : Bytes.lines source.bytes ≠ [])
    {growth : Growth}
    (appends : Appends path source keyOf Backend.writer settings sink (.done growth) after) :
    after.1.Settled after.2 := by
  obtain ⟨id, disk, opened, run⟩ := appends.exists_run beside.plain
  obtain ⟨isIndex, sound, away, -⟩ := (keeps_of_openFile beside opened source.bytes).1.beside
  obtain ⟨entries, any, wrote⟩ := run.exists_write_of_done isIndex rfl some
  exact ((Backend.writes_write isIndex sound away wrote).done rfl).1 any

end Keeps

/-! ### Between two attempts -/

/-- What may happen between two attempts: whatever stood in the way is put right, and nothing is
taken from the file, from the index or from who looks a key up. -/
structure Mended (path : String) (before after : Backend × Disk) : Prop extends
    Keeps path (fun _ => False) before after where
  found : ∀ key span, (before.1.lookup key before.2).1 = .ok (some span) →
    (after.1.lookup key after.2).1 = .ok (some span)

/-- Nothing has to happen. -/
theorem Mended.refl {path : String} {sink : Backend × Disk} (beside : Beside path sink) :
    Mended path sink sink :=
  ⟨.refl beside, fun _ _ found => found⟩

theorem Blob.find_of_atPath {path : String} {disk : Disk} {id : Nat}
    (there : Blob.atPath path disk = .ok ⟨path, .file id⟩) : disk.find path = .ok (.file id) := by
  unfold Blob.atPath at there
  split at there
  · cases there
  · rename_i own found
    cases there
    exact found
  · cases there

theorem Blob.read_nothing (blob : Blob) (disk : Disk) : blob.read 0 0 disk = .ok [] := by
  unfold read
  cases target : blob.target <;> simp [size, target, Bytes.slice]

/-- Where a record makes a key, there is a last one that does. -/
theorem exists_last_of_makesKey {keyOf : KeyOf} {lines : List Bytes} {key : String}
    (makes : ∃ record ∈ lines, keyOf record = .ok key) :
    ∃ before record rest, lines = before ++ record :: rest ∧ keyOf record = .ok key ∧
      ∀ later ∈ rest, keyOf later ≠ .ok key := by
  induction lines with
  | nil =>
      obtain ⟨record, none, -⟩ := makes
      cases none
  | cons first lines ih =>
      by_cases later : ∃ record ∈ lines, keyOf record = .ok key
      · obtain ⟨before, record, rest, rfl, made, last⟩ := ih later
        exact ⟨first :: before, record, rest, rfl, made, last⟩
      · obtain ⟨record, member, made⟩ := makes
        rcases List.mem_cons.mp member with rfl | behind
        · exact ⟨[], record, lines, rfl, made, fun other inside same => later ⟨other, inside, same⟩⟩
        · exact absurd ⟨record, behind, made⟩ later

/-- Behind other bytes, a line is shown at the place of its entry. -/
theorem Bytes.slice_of_lines_eq {front tail record : Bytes} {before rest : List Bytes}
    (split : Bytes.lines tail = before ++ record :: rest) :
    front.length + before.flatten.length + record.length ≤ (front ++ tail).length ∧
      Bytes.slice (front ++ tail) (front.length + before.flatten.length) record.length = record := by
  obtain ⟨open', whole⟩ := Bytes.flatten_lines_prefix tail
  have parts : front ++ tail = (front ++ before.flatten) ++ record ++ (rest.flatten ++ open') := by
    rw [← whole, split]
    simp
  constructor
  · rw [parts]
    simp only [List.length_append]
    omega
  · rw [parts, ← List.length_append]
    exact Bytes.slice_append _ _ _

/-- The last entry of a key is that of the last record that makes it. -/
theorem Layout.lastOf?_entries {keyOf : KeyOf} {start : Nat} {before rest : List Bytes}
    {record : Bytes} {key : String} (made : keyOf record = .ok key)
    (last : ∀ later ∈ rest, keyOf later ≠ .ok key) :
    lastOf? key (Layout.entries keyOf start (before ++ record :: rest)) =
      some ⟨key, start + before.flatten.length, record.length⟩ := by
  have own (start : Nat) : Layout.entries keyOf start (record :: rest) =
      ⟨key, start, record.length⟩ :: Layout.entries keyOf (start + record.length) rest := by
    simp [Layout.entries, Layout.placed, Layout.entryOf, made]
  rw [Layout.entries_append, own]
  refine @lastOf?_append_cons ⟨key, _, _⟩ _ _ ?_
  rintro later inside rfl
  obtain ⟨other, member, same⟩ := Layout.exists_record_of_mem_entries inside
  exact last other member same

namespace Store

/-- Where the file of a store is there, reading a record is looking its place up and reading the
file. -/
theorem get_eq_some_iff {store : Store} {disk : Disk} {id : Nat}
    (beside : Beside store.blob (store.backend, disk))
    (found : disk.find store.blob = .ok (.file id)) (key : String) (record : Bytes) :
    (store.get key disk).1 = .ok (some record) ↔
      ∃ span, (store.backend.lookup key disk).1 = .ok (some span) ∧
        Blob.read ⟨store.blob, .file id⟩ span.offset span.length disk = .ok record := by
  rcases looked : store.backend.lookup key disk with ⟨result, backend, disk'⟩
  have looks := Backend.looks_lookup beside.isIndex beside.sound beside.away looked
  have found' := looks.spares.find found
  have content := looks.spares.content_eq beside.sound found
  have read (offset length : Nat) : Blob.read ⟨store.blob, .file id⟩ offset length disk' =
      Blob.read ⟨store.blob, .file id⟩ offset length disk := by
    dsimp only at content
    unfold Blob.read Blob.size
    dsimp only
    rw [content]
  rw [get, lookup_eq, looked]
  cases result with
  | error error => simp
  | ok place =>
      cases place with
      | none => simp
      | some span =>
          simp only [Blob.atPath_of_find found', Blob.readSpan, read]
          cases got : Blob.read ⟨store.blob, .file id⟩ span.offset span.length disk <;>
            simp [Except.map, got]

section Retry

variable {extractor : Extractor} {store again : Store} {disk disk' : Disk} {first whole : Source}
  {settings settings' : RunSettings} {outcome : Outcome Growth} {growth : Growth}
  {middle after : Backend × Disk}

/-- After an append that succeeds and keeps the order, the store gives the last record of each key.
-/
theorem get_of_appended {store : Store} {disk : Disk} {key : String}
    (beside : Beside store.blob (store.backend, disk)) (inOrder : settings.InOrder)
    (appends : Appends store.blob whole extractor.key Backend.writer settings
      (store.backend, disk) (.done growth) after)
    (makes : MakesKey extractor.key whole.bytes key) :
    ∃ before record rest, Bytes.lines whole.bytes = before ++ record :: rest ∧
      extractor.key record = .ok key ∧ (∀ later ∈ rest, extractor.key later ≠ .ok key) ∧
      ((store.appended (.done growth) after.1).get key after.2).1 = .ok (some record) := by
  obtain ⟨before, record, rest, split, made, last⟩ := exists_last_of_makesKey makes
  obtain ⟨⟨beside', -, content, -, written, -, ordered, -, stored⟩, id, found⟩ :=
    appends.extends_of_done beside
  have some : Bytes.lines whole.bytes ≠ [] := by simp [split]
  have settled := appends.settled_of_done beside some
  refine ⟨before, record, rest, split, made, last, ?_⟩
  have own : Beside (store.appended (.done growth) after.1).blob
      ((store.appended (.done growth) after.1).backend, after.2) := beside'
  obtain ⟨within, shown⟩ := @Bytes.slice_of_lines_eq (disk.bytesAt store.blob) _ _ _ _ split
  refine (get_eq_some_iff own found key record).mpr
    ⟨⟨(disk.bytesAt store.blob).length + before.flatten.length, record.length⟩, ?_, ?_⟩
  · rw [ordered inOrder, split] at stored
    show (after.1.lookup key after.2).1 = _
    rw [Backend.lookup_of_settled settled, stored,
      readAfter_of_some (Layout.lastOf?_entries made last)]
    rfl
  · have holds : after.2.content id = disk.bytesAt store.blob ++ whole.bytes :=
      (Disk.bytesAt_of_find found).symm.trans content
    rw [← holds] at within shown
    exact (Blob.readSpan_of_within within).trans (congrArg Except.ok shown)

/-- Over both attempts an index keeps what it had under keys that no record of the source makes. -/
theorem keeps_of_retry (beside : Beside store.blob (store.backend, disk))
    (part : first.bytes <+: whole.bytes)
    (attempt : Appends store.blob first extractor.key Backend.writer settings
      (store.backend, disk) outcome middle)
    (mended : Mended store.blob middle (again.backend, disk'))
    (retry : Appends store.blob whole extractor.key Backend.writer settings'
      (again.backend, disk') (.done growth) after) :
    Keeps store.blob (MakesKey extractor.key whole.bytes) (store.backend, disk) after := by
  have one := keeps_of_appends beside attempt
  have other := keeps_of_appends mended.beside retry
  refine ((one.trans mended.toKeeps).trans other).mono ?_
  rintro key ((makes | none) | makes)
  · exact makes.of_prefix part
  · exact none.elim
  · exact makes

/-- A key that no record of the source makes is found after both attempts where it was found before.
-/
theorem lookup_of_retry (beside : Beside store.blob (store.backend, disk))
    (part : first.bytes <+: whole.bytes)
    (attempt : Appends store.blob first extractor.key Backend.writer settings
      (store.backend, disk) outcome middle)
    (mended : Mended store.blob middle (again.backend, disk'))
    (retry : Appends store.blob whole extractor.key Backend.writer settings'
      (again.backend, disk') (.done growth) after)
    {id : Nat} (found : disk.find store.blob = .ok (.file id)) {key : String} {span : Span}
    (free : ¬MakesKey extractor.key whole.bytes key)
    (looked : (store.backend.lookup key disk).1 = .ok (some span)) :
    (after.1.lookup key after.2).1 = .ok (some span) := by
  by_cases none : Bytes.lines whole.bytes = []
  · -- Without a record to index the index may stay closed, so nothing says that it can be opened.
    have none' : Bytes.lines first.bytes = [] :=
      List.prefix_nil.mp (none ▸ Bytes.lines_prefix part)
    have kept := (keeps_of_appends beside attempt).trans mended.toKeeps
    have there := (kept.reads _ 0 0 _ (Blob.atPath_of_find found) rfl).1
    rw [retry.lookup_of_no_lines mended.beside none (Blob.find_of_atPath there)]
    apply mended.found
    rw [attempt.lookup_of_no_lines beside none' found]
    exact looked
  · have settled := retry.settled_of_done mended.beside none
    rw [Backend.lookup_of_settled settled]
    refine ((keeps_of_retry beside part attempt mended retry).stored key free).trans ?_
    rcases read : store.backend.lookup key disk with ⟨result, sink⟩
    rw [read] at looked
    dsimp only at looked
    subst looked
    have looks := Backend.looks_lookup beside.isIndex beside.sound beside.away read
    rcases looks.result with same | ⟨error, refused, -⟩
    · exact same.symm
    · cases refused

/-- An append comes to anything at all, with a source that hands over the whole of something or only
a part of it, perhaps one that ends inside a record. What stood in the way is mended, and the whole
is appended again with the same extractor and in order. If that succeeds, the store gives under
every key of a record of the whole exactly the last one that makes this key. Under every other
key it has what it had before the first attempt, and if the file was there, it gives the record
that it gave. -/
theorem retry_repairs_index (beside : Beside store.blob (store.backend, disk))
    (part : first.bytes <+: whole.bytes)
    (attempt : Appends store.blob first extractor.key Backend.writer settings
      (store.backend, disk) outcome middle)
    (mended : Mended store.blob middle (again.backend, disk')) (place : again.blob = store.blob)
    (inOrder : settings'.InOrder)
    (retry : Appends again.blob whole extractor.key Backend.writer settings'
      (again.backend, disk') (.done growth) after) :
    (∀ key, MakesKey extractor.key whole.bytes key →
      ∃ before record rest, Bytes.lines whole.bytes = before ++ record :: rest ∧
        extractor.key record = .ok key ∧ (∀ later ∈ rest, extractor.key later ≠ .ok key) ∧
        ((again.appended (.done growth) after.1).get key after.2).1 = .ok (some record)) ∧
      ∀ key, ¬MakesKey extractor.key whole.bytes key →
        after.1.stored key after.2 = store.backend.stored key disk ∧
          ∀ blob record, Blob.atPath store.blob disk = .ok blob →
            (store.get key disk).1 = .ok (some record) →
            ((again.appended (.done growth) after.1).get key after.2).1 = .ok (some record) := by
  constructor
  · intro key makes
    have beside' : Beside again.blob (again.backend, disk') := place ▸ mended.beside
    exact get_of_appended beside' inOrder retry makes
  · intro key free
    rw [place] at retry
    have keeps := keeps_of_retry beside part attempt mended retry
    refine ⟨keeps.stored key free, ?_⟩
    intro blob record there gave
    obtain ⟨-, id, found'⟩ := retry.extends_of_done mended.beside
    obtain ⟨there', -⟩ := keeps.reads blob 0 0 [] there (blob.read_nothing disk)
    rw [Blob.atPath_of_find found'] at there'
    cases there'
    have found := Blob.find_of_atPath there
    obtain ⟨span, looked, read⟩ := (get_eq_some_iff beside found key record).mp gave
    have beside' : Beside (again.appended (.done growth) after.1).blob
        ((again.appended (.done growth) after.1).backend, after.2) := place.symm ▸ keeps.beside
    refine (get_eq_some_iff beside' (place.symm ▸ found') key record).mpr ⟨span, ?_, ?_⟩
    · exact lookup_of_retry beside part attempt mended retry found free looked
    · exact (keeps.reads _ _ _ _ there read).2

/-- Behind a record of another key, an append of two records of one key fails inside the second one.
When both are appended again, the second is found, and the other key gives the record it gave. -/
theorem retry_repairs_index_after_a_part_of_a_record :
    let settings : RunSettings := ⟨1, 0, .sequential, .drain⟩
    let one : Bytes := [123, 34, 107, 34, 58, 34, 97, 34, 125, 10]
    let other : Bytes := [123, 34, 107, 34, 58, 34, 97, 34, 125, 32, 10]
    let old : Bytes := [123, 34, 107, 34, 58, 34, 98, 34, 125, 10]
    let start := (RecordStore.append "f" [.data old] (Extractor.field "k").key Backend.writer
      settings (.log ⟨"i", some 0⟩, Disk.empty)).sink
    let store : Store := ⟨"f", start.1, false⟩
    ∃ outcome middle growth after,
      Appends "f" [.data one, .data [123, 34], .failed "gone"] (Extractor.field "k").key
        Backend.writer settings start outcome middle ∧
      Appends "f" [.data one, .data other] (Extractor.field "k").key Backend.writer settings
        middle (.done growth) after ∧
      ((store.appended (.done growth) after.1).get "a" after.2).1 = .ok (some other) ∧
      ((store.appended (.done growth) after.1).get "b" after.2).1 = .ok (some old) := by
  have file : Disk.placeOf "f" = ["f"] := by cbv
  have index : Disk.placeOf "i" = ["i"] := by cbv
  intro settings one other old start store
  have empty : Beside "f" (.log ⟨"i", some 0⟩, Disk.empty) := by
    refine ⟨trivial, Disk.sound_empty, ?_, fun id found => ?_⟩
    · show Disk.placeOf "f" ≠ Disk.placeOf "i"
      rw [file, index]
      decide
    · have missing : Disk.empty.find "f" = .error .noEntry := by cbv
      rw [missing] at found
      cases found
  have begun := appends_append "f" [.data old] (Extractor.field "k").key Backend.writer settings
    (.log ⟨"i", some 0⟩, Disk.empty)
  have done : (RecordStore.append "f" [.data old] (Extractor.field "k").key Backend.writer
    settings (.log ⟨"i", some 0⟩, Disk.empty)).outcome = .done ⟨0, 10, ⟨1, 10, 0, 1⟩⟩ := by cbv
  rw [done] at begun
  have beside : Beside store.blob (store.backend, start.2) :=
    (begun.extends_of_done empty).1.beside
  let middle := (RecordStore.append "f" [.data one, .data [123, 34], .failed "gone"]
    (Extractor.field "k").key Backend.writer settings start).sink
  have attempt := appends_append "f" [.data one, .data [123, 34], .failed "gone"]
    (Extractor.field "k").key Backend.writer settings start
  have retry := appends_append "f" [.data one, .data other] (Extractor.field "k").key
    Backend.writer settings middle
  have done' : (RecordStore.append "f" [.data one, .data other] (Extractor.field "k").key
    Backend.writer settings middle).outcome = .done ⟨22, 21, ⟨2, 21, 0, 2⟩⟩ := by
    simp only [middle, start]
    cbv
  rw [done'] at retry
  have part : Source.bytes [.data one, .data [123, 34], .failed "gone"] <+:
      Source.bytes [.data one, .data other] := by decide
  have mended : Mended "f" middle middle := .refl (keeps_of_appends beside attempt).beside
  obtain ⟨repaired, others⟩ := @retry_repairs_index (.field "k") store ⟨"f", middle.1, false⟩
    start.2 middle.2 _ _ settings settings _ _ _ _ beside part attempt mended rfl (.inl rfl) retry
  have lines : Bytes.lines (Source.bytes [.data one, .data other]) = [one, other] := by
    simp [one, other, Source.bytes, Bytes.lines, Bytes.lines.go, Bytes.cutLine, Bytes.newline]
  have keys : (Extractor.field "k").key one = .ok "a" ∧
      (Extractor.field "k").key other = .ok "a" := ⟨by cbv, by cbv⟩
  refine ⟨_, _, _, _, attempt, retry, ?_, ?_⟩
  · have makes : MakesKey (Extractor.field "k").key (Source.bytes [.data one, .data other]) "a" :=
      ⟨one, lines ▸ List.mem_cons_self, keys.1⟩
    obtain ⟨before, record, rest, split, -, last, gives⟩ := repaired "a" makes
    rw [lines] at split
    cases before with
    | nil =>
        cases split
        exact absurd keys.2 (last other List.mem_cons_self)
    | cons first earlier =>
        cases earlier with
        | nil =>
            cases split
            exact gives
        | cons second earlier => simp at split
  · have free : ¬MakesKey (Extractor.field "k").key (Source.bytes [.data one, .data other]) "b" := by
      rintro ⟨record, line, made⟩
      rw [lines] at line
      have same : (Extractor.field "k").key record = .ok "a" := by
        rcases List.mem_pair.mp line with rfl | rfl
        · exact keys.1
        · exact keys.2
      simp [same] at made
    have there : Blob.atPath "f" start.2 = .ok ⟨"f", .file 0⟩ := by
      simp only [start]
      cbv
    have gave : (store.get "b" start.2).1 = .ok (some old) := by
      simp only [store, start]
      cbv
    exact (others "b" free).2 _ old there gave

end Retry

end Store

end RecordStore
