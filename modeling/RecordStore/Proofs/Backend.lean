import RecordStore.Backend
import RecordStore.Proofs.Index.Log
import RecordStore.Proofs.Index.Table
import RecordStore.Proofs.Pipeline.Calls

/-!
Backends as the writers of a run.

A backend never panics. In one that is an index, calls that were all accepted come to what
their batches are as one batch, so runs that hand over the same entries in the same order
leave the same index behind, however they cut them into batches.
-/

namespace RecordStore.Backend

/-- A backend in which keys can be looked up. -/
def IsIndex : Backend → Prop
  | .log _ => True
  | .table _ => True
  | .debug _ => False

theorem calm_writer : writer.Calm := by
  intro entries sink message panicked
  unfold writer at panicked
  split at panicked <;> cases panicked

theorem writer_eq_accepted_iff {entries : List Entry} {sink after : Backend × Disk} :
    writer entries sink = (.accepted, after) ↔ write entries sink = (.ok (), after) := by
  unfold writer
  split
  · rename_i after' wrote
    rw [wrote]
    simp
  · rename_i error after' wrote
    rw [wrote]
    simp

theorem writer_snd (entries : List Entry) (sink : Backend × Disk) :
    (writer entries sink).2 = (write entries sink).2 := by
  unfold writer
  rcases write entries sink with ⟨result, after⟩
  cases result <;> rfl

/-! ### The kind of a backend -/

theorem write_log (entries : List Entry) (index : LogIndex) (disk : Disk) :
    write entries (.log index, disk) =
      ((index.write entries disk).1, .log (index.write entries disk).2.1,
        (index.write entries disk).2.2) := rfl

theorem write_table (entries : List Entry) (index : TableIndex) (disk : Disk) :
    write entries (.table index, disk) =
      ((index.write entries disk).1, .table (index.write entries disk).2.1,
        (index.write entries disk).2.2) := rfl

/-! ### Batches one after another -/

/-- Two batches one after another come to what they are as one. -/
theorem write_append {first second : List Entry} {sink middle after : Backend × Disk}
    (isIndex : sink.1.IsIndex) (filled : first ≠ []) (filled' : second ≠ [])
    (wrote : write first sink = (.ok (), middle))
    (again : write second middle = (.ok (), after)) :
    write (first ++ second) sink = (.ok (), after) := by
  obtain ⟨backend, disk⟩ := sink
  cases backend with
  | debug _ => exact isIndex.elim
  | log index =>
      rcases written : index.write first disk with ⟨result, index', disk'⟩
      rw [write_log, written] at wrote
      cases wrote
      rcases writtenAgain : index'.write second disk' with ⟨result, index'', disk''⟩
      rw [write_log, writtenAgain] at again
      cases again
      rw [write_log, LogIndex.write_append written writtenAgain]
  | table index =>
      rcases written : index.write first disk with ⟨result, index', disk'⟩
      rw [write_table, written] at wrote
      cases wrote
      rcases writtenAgain : index'.write second disk' with ⟨result, index'', disk''⟩
      rw [write_table, writtenAgain] at again
      cases again
      rw [write_table, TableIndex.write_append filled filled' written writtenAgain]

/-- Calls that were all accepted come to what their batches are as one. -/
theorem write_flatMap_of_leads {origin sink : Backend × Disk} {calls : List Call}
    (isIndex : origin.1.IsIndex) (leads : writer.Leads origin calls sink)
    (accepted : ∀ call ∈ calls, call.verdict = .accepted)
    (filled : ∀ call ∈ calls, call.batch ≠ []) :
    calls = [] ∧ sink = origin ∨ calls.flatMap Call.batch ≠ [] ∧
      write (calls.flatMap Call.batch) origin = (.ok (), sink) := by
  induction leads with
  | none => exact .inl ⟨rfl, rfl⟩
  | @call calls before after batch verdict _ wrote ih =>
      have same := accepted ⟨batch, verdict⟩ (by simp)
      dsimp only at same
      subst same
      have some : batch ≠ [] := filled ⟨batch, .accepted⟩ (by simp)
      have last := writer_eq_accepted_iff.mp wrote
      rcases ih (fun call made => accepted call (List.mem_append_left _ made))
        (fun call made => filled call (List.mem_append_left _ made)) with
        ⟨rfl, rfl⟩ | ⟨earlier, one⟩
      · exact .inr ⟨by simpa using some, by simpa using last⟩
      · refine .inr ⟨by simp [some], ?_⟩
        rw [List.flatMap_append, List.flatMap_singleton]
        exact write_append isIndex earlier some one last

/-- A log that is held accepts every call whose numbers fit. -/
theorem accepted_of_held {index : LogIndex} {id : Nat} {disk : Disk} {sink : Backend × Disk}
    {calls : List Call} (held : index.held = some id)
    (leads : writer.Leads (.log index, disk) calls sink)
    (room : ∀ call ∈ calls, ∀ entry ∈ call.batch,
      entry.offset ≤ Slot.maxValue ∧ entry.length ≤ Slot.maxValue) :
    sink.1 = .log index ∧ ∀ call ∈ calls, call.verdict = .accepted := by
  induction leads with
  | none => exact ⟨rfl, by simp⟩
  | @call calls before after batch verdict _ wrote ih =>
      obtain ⟨same, earlier⟩ := ih fun call made => room call (List.mem_append_left _ made)
      obtain ⟨backend, middle⟩ := before
      obtain rfl : backend = .log index := same
      obtain ⟨disk', written⟩ := LogIndex.write_of_held held (room ⟨batch, verdict⟩ (by simp)) middle
      have fine : writer batch (.log index, middle) = (.accepted, .log index, disk') :=
        writer_eq_accepted_iff.mpr (by rw [write_log, written])
      rw [fine] at wrote
      cases wrote
      refine ⟨rfl, ?_⟩
      intro call made
      rcases List.mem_append.mp made with first | last
      · exact earlier call first
      · rw [List.mem_singleton.mp last]

/-! ### What an index has under its keys -/

/-- What the rows of an index have under a key. -/
def stored (key : String) (backend : Backend) (disk : Disk) : Except Error (Option Span) :=
  match backend with
  | .log index => LogIndex.spanOf? key (index.rowsOn disk)
  | .table index => TableIndex.spanOf? key (index.rowsOn disk)
  | .debug _ => .ok none

/-- Whether a route is none of those that a backend needs. -/
def Away (route : Route) (backend : Backend) (disk : Disk) : Prop :=
  match backend with
  | .log index => route ≠ Disk.placeOf index.path
  | .table index => index.Away route disk
  | .debug _ => True

/-- Whether an index is open as a batch left it. -/
def Settled (backend : Backend) (disk : Disk) : Prop :=
  match backend with
  | .log index => index.held ≠ none
  | .table index => index.Settled disk
  | .debug _ => False

/-- What writing a batch comes to: its entries are what their keys have afterwards, or nothing
changes. -/
structure Writes (route : Route) (before : Backend × Disk) (entries : List Entry)
    (result : Except Error Unit) (after : Backend × Disk) : Prop where
  isIndex : after.1.IsIndex
  spares : Disk.Spares route before.2 after.2
  away : after.1.Away route after.2
  settled : before.1.Settled before.2 → after.1.Settled after.2
  done : result = .ok () → (entries ≠ [] → after.1.Settled after.2) ∧
    ∀ key, after.1.stored key after.2 = readAfter key entries (before.1.stored key before.2)
  failed : ∀ error, result = .error error →
    ∀ key, after.1.stored key after.2 = before.1.stored key before.2

theorem writes_write {route : Route} {before after : Backend × Disk} {entries : List Entry}
    {result : Except Error Unit} (isIndex : before.1.IsIndex) (sound : before.2.Sound)
    (away : before.1.Away route before.2)
    (wrote : write entries before = (result, after)) :
    Writes route before entries result after := by
  obtain ⟨backend, disk⟩ := before
  cases backend with
  | debug _ => exact isIndex.elim
  | log index =>
      rcases written : index.write entries disk with ⟨outcome, index', disk'⟩
      rw [write_log, written] at wrote
      cases wrote
      obtain ⟨spares, path, kept, done, failed⟩ := @LogIndex.writes_write _ _ _ _ route _ _ written
      refine ⟨trivial, spares away, ?_, kept, ?_, ?_⟩
      · rw [Away, path]
        exact away
      · intro ok
        obtain ⟨held, pairs, encoded, put⟩ := done ok
        refine ⟨fun _ => held, ?_⟩
        intro key
        rw [stored, put, LogIndex.spanOf?_putAll encoded]
        rfl
      · intro error failure key
        rw [stored, failed error failure]
        rfl
  | table index =>
      rcases written : index.write entries disk with ⟨outcome, index', disk'⟩
      rw [write_table, written] at wrote
      cases wrote
      obtain ⟨spares, away', settled, done, failed⟩ :=
        TableIndex.writes_write sound away written
      refine ⟨trivial, spares, away', settled, ?_, ?_⟩
      · intro ok
        obtain ⟨inserted, after⟩ := done ok
        refine ⟨after, ?_⟩
        intro key
        rw [stored, TableIndex.spanOf?_insertAll inserted]
        rfl
      · intro error failure key
        rw [stored, failed error failure]
        rfl

theorem lookup_of_settled {backend : Backend} {disk : Disk} (settled : backend.Settled disk)
    (key : String) : backend.lookup key disk = (backend.stored key disk, backend, disk) := by
  cases backend with
  | log index => simp [lookup, stored, LogIndex.lookup_of_held settled]
  | table index => simp [lookup, stored, TableIndex.lookup_of_settled settled]
  | debug _ => exact settled.elim

/-- What looking up a key comes to: what the index has under it, or an error of its database; in
both cases the index has what it had. -/
structure Looks (route : Route) (key : String) (before : Backend × Disk)
    (result : Except Error (Option Span)) (after : Backend × Disk) : Prop where
  isIndex : after.1.IsIndex
  spares : Disk.Spares route before.2 after.2
  away : after.1.Away route after.2
  settled : before.1.Settled before.2 → after.1.Settled after.2
  stored : ∀ other, after.1.stored other after.2 = before.1.stored other before.2
  result : result = before.1.stored key before.2 ∨
    ∃ error, result = .error error ∧ ∀ offset length size, error ≠ .outOfRange offset length size

theorem looks_lookup {route : Route} {key : String} {before after : Backend × Disk}
    {result : Except Error (Option Span)} (isIndex : before.1.IsIndex) (sound : before.2.Sound)
    (away : before.1.Away route before.2)
    (read : before.1.lookup key before.2 = (result, after)) :
    Looks route key before result after := by
  have settled : before.1.Settled before.2 → after.1.Settled after.2 := by
    intro settled
    rw [lookup_of_settled settled] at read
    cases read
    exact settled
  obtain ⟨backend, disk⟩ := before
  cases backend with
  | debug _ => exact isIndex.elim
  | log index =>
      rcases found : index.lookup key disk with ⟨outcome, index', disk'⟩
      simp only [lookup, found] at read
      cases read
      obtain ⟨spares, path, rows, ends⟩ := @LogIndex.lookup_spec _ _ _ _ route _ _ found
      refine ⟨trivial, spares away, ?_, settled, ?_, ends.imp_right ?_⟩
      · rw [Away, path]
        exact away
      · intro other
        rw [stored, rows]
        rfl
      · rintro ⟨reason, rfl⟩
        exact ⟨_, rfl, fun _ _ _ same => by cases same⟩
  | table index =>
      rcases found : index.lookup key disk with ⟨outcome, index', disk'⟩
      simp only [lookup, found] at read
      cases read
      obtain ⟨spares, away', rows, ends⟩ := TableIndex.lookup_spec sound away found
      refine ⟨trivial, spares, away', settled, ?_, ends.imp_right ?_⟩
      · intro other
        rw [stored, rows]
        rfl
      · rintro (⟨reason, rfl⟩ | ⟨fault, rfl⟩)
        · exact ⟨_, rfl, fun _ _ _ same => by cases same⟩
        · exact ⟨_, rfl, fun _ _ _ same => by cases same⟩

/-- Calls leave every place alone that is none of the backend's. -/
theorem spares_of_leads {route : Route} {origin after : Backend × Disk} {calls : List Call}
    (isIndex : origin.1.IsIndex) (sound : origin.2.Sound) (away : origin.1.Away route origin.2)
    (leads : writer.Leads origin calls after) :
    after.1.IsIndex ∧ after.1.Away route after.2 ∧ Disk.Spares route origin.2 after.2 := by
  refine leads.invariant (P := fun sink => sink.1.IsIndex ∧ sink.1.Away route sink.2 ∧
    Disk.Spares route origin.2 sink.2) ⟨isIndex, away, .refl _ _⟩ ?_
  rintro call - before ⟨isIndex, away, spares⟩
  rcases wrote : write call.batch before with ⟨result, last⟩
  have writes := writes_write isIndex (spares.sound sound) away wrote
  rw [writer_snd, wrote]
  exact ⟨writes.isIndex, writes.away, spares.trans writes.spares⟩

/-- After calls a key has what it had, or the place of an entry that one of the calls has for it. -/
theorem stored_of_leads {route : Route} {origin after : Backend × Disk} {calls : List Call}
    (isIndex : origin.1.IsIndex) (sound : origin.2.Sound) (away : origin.1.Away route origin.2)
    (leads : writer.Leads origin calls after) (key : String) :
    after.1.stored key after.2 = origin.1.stored key origin.2 ∨
      ∃ entry ∈ calls.flatMap Call.batch, entry.key = key ∧
        after.1.stored key after.2 = .ok (some entry.span) := by
  induction leads with
  | none => exact .inl rfl
  | @call calls before after batch verdict earlier wrote ih =>
      obtain ⟨isIndex', away', spares⟩ := spares_of_leads isIndex sound away earlier
      rcases written : write batch before with ⟨result, last⟩
      have writes := writes_write isIndex' (spares.sound sound) away' written
      have same := writer_snd batch before
      rw [wrote, written] at same
      obtain rfl : last = after := same.symm
      rw [List.flatMap_append, List.flatMap_singleton]
      have kept (same : last.1.stored key last.2 = before.1.stored key before.2) :
          last.1.stored key last.2 = origin.1.stored key origin.2 ∨
            ∃ entry ∈ calls.flatMap Call.batch ++ batch, entry.key = key ∧
              last.1.stored key last.2 = .ok (some entry.span) := by
        rw [same]
        refine ih.imp_right ?_
        rintro ⟨entry, inside, own⟩
        exact ⟨entry, List.mem_append_left _ inside, own⟩
      cases result with
      | error error => exact kept (writes.failed error rfl key)
      | ok done =>
          have stored := (writes.done rfl).2 key
          cases found : lastOf? key batch with
          | none => exact kept (stored.trans (readAfter_of_none found _))
          | some entry =>
              obtain ⟨inside, own⟩ := lastOf?_eq_some found
              exact .inr ⟨entry, List.mem_append_right _ inside, own,
                stored.trans (readAfter_of_some found _)⟩

end RecordStore.Backend
