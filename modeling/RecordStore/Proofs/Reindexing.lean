import RecordStore.Proofs.Acceptance
import RecordStore.Proofs.Agreement
import Mathlib

/-!
Indexing an input again.

An index that replaces what it has under a key is left as it was: a key that is put again keeps
its place, so the batches of the first run, written once more in the same order, put back what
is there (`Backend.write_again`). An index that refuses keys it has refuses every batch, however
the input is cut into batches the second time, because the first run left all keys there
(`Backend.refused_of_leads`).
-/

namespace RecordStore

/-! ### Putting pairs again -/

namespace Assoc

variable {κ α : Type} [DecidableEq κ]

theorem has_put (key other : κ) (value : α) (map : Assoc κ α) :
    has other (put key value map) = (decide (key = other) || has other map) := by
  unfold has
  rw [find?_put]
  by_cases same : key = other <;> simp [same]

theorem has_putAll {key : κ} (pairs : List (κ × α)) {map : Assoc κ α}
    (there : has key map ∨ key ∈ pairs.map Prod.fst) : has key (putAll pairs map) := by
  induction pairs generalizing map with
  | nil => simpa [putAll] using there
  | cons pair pairs ih =>
      apply ih
      rw [has_put]
      by_cases same : pair.1 = key
      · simp [same]
      · simpa [same, Ne.symm same] using there

/-- Changing a key that is there and putting another one do not get in each other's way. -/
theorem put_comm {key other : κ} (different : key ≠ other) (first second : α)
    {map : Assoc κ α} (there : has key map) :
    put key first (put other second map) = put other second (put key first map) := by
  induction map with
  | nil => simp [has, find?] at there
  | cons pair rest ih =>
      obtain ⟨k, old⟩ := pair
      by_cases own : k = key
      · subst own
        simp [put, different]
      · by_cases same : k = other
        · subst same
          simp [put, own]
        · have there : has key rest := by simpa [has, find?, own] using there
          simp [put, own, same, ih there]

/-- What is put under a key before pairs that have the key is not seen behind them. -/
theorem putAll_put_of_mem {key : κ} (value : α) {pairs : List (κ × α)} {map : Assoc κ α}
    (there : has key map) (inside : key ∈ pairs.map Prod.fst) :
    putAll pairs (put key value map) = putAll pairs map := by
  induction pairs generalizing map with
  | nil => cases inside
  | cons pair pairs ih =>
      rw [putAll_cons, putAll_cons]
      by_cases same : pair.1 = key
      · rw [same, put_put]
      · have later : key ∈ pairs.map Prod.fst := by
          simpa [Ne.symm same] using inside
        rw [← put_comm (Ne.symm same) _ _ there]
        exact ih (by simp [has_put, there]) later

/-- What is put under a key before changes of other keys can as well be put behind them. -/
theorem putAll_put_of_not_mem {key : κ} (value : α) {pairs : List (κ × α)} {map : Assoc κ α}
    (there : ∀ pair ∈ pairs, has pair.1 map) (outside : key ∉ pairs.map Prod.fst) :
    putAll pairs (put key value map) = put key value (putAll pairs map) := by
  induction pairs generalizing map with
  | nil => rfl
  | cons pair pairs ih =>
      rw [List.map_cons, List.mem_cons, not_or] at outside
      obtain ⟨own, others⟩ := List.forall_mem_cons.mp there
      rw [putAll_cons, putAll_cons, put_comm (Ne.symm outside.1) _ _ own]
      exact ih (fun other inside => by simp [has_put, others other inside]) outside.2

/-- Putting the same pairs again changes nothing. -/
theorem putAll_putAll (pairs : List (κ × α)) (map : Assoc κ α) :
    putAll pairs (putAll pairs map) = putAll pairs map := by
  induction pairs using List.reverseRecOn with
  | nil => rfl
  | append_singleton pairs pair ih =>
      simp only [putAll_append, putAll_cons, putAll_nil]
      by_cases inside : pair.1 ∈ pairs.map Prod.fst
      · rw [putAll_put_of_mem _ (has_putAll pairs (.inr inside)) inside, ih]
      · have there : ∀ other ∈ pairs, has other.1 (putAll pairs map) := fun other member =>
          has_putAll pairs (.inr (List.mem_map_of_mem member))
        rw [putAll_put_of_not_mem _ there inside, ih, put_put]

end Assoc

/-! ### Writing a batch again -/

/-- Writing a batch again behind itself leaves a log as it is. -/
theorem LogIndex.write_again {index index' index'' : LogIndex} {disk disk' disk'' : Disk}
    {entries : List Entry} (wrote : index.write entries disk = (.ok (), index', disk'))
    (again : index'.write entries disk' = (.ok (), index'', disk'')) :
    index'' = index' ∧ disk'' = disk' := by
  obtain ⟨id, middle, pairs, acquired, encoded, rfl⟩ := write_eq_ok_iff.mp wrote
  obtain ⟨id', middle', pairs', acquired', encoded', rfl⟩ := write_eq_ok_iff.mp again
  rw [acquire_of_held (held_of_acquire acquired)] at acquired'
  cases acquired'
  rw [encoded] at encoded'
  cases encoded'
  have same :
      Assoc.putAll pairs (Assoc.putAll pairs (middle.log id).rows) =
        Assoc.putAll pairs (middle.log id).rows :=
    Assoc.putAll_putAll pairs _
  refine ⟨rfl, ?_⟩
  rw [Disk.log_setLog_self, Disk.setLog_setLog, same]

namespace TableIndex

/-- A batch that is added is put into the rows. -/
theorem eq_putAll_of_insertAll {policy : OnDuplicate} {entries : List Entry}
    {rows rows' : TableRows} (inserted : insertAll policy entries rows = .ok rows') :
    rows' = Assoc.putAll (entries.map fun entry => (entry.key, entry.row)) rows := by
  induction entries generalizing rows with
  | nil =>
      cases inserted
      rfl
  | cons entry entries ih => exact ih (insertAll_cons_eq_ok inserted)

/-- Writing a batch again behind itself leaves a table as it is. -/
theorem write_again {index index' index'' : TableIndex} {disk disk' disk'' : Disk}
    {entries : List Entry} (filled : entries ≠ [])
    (wrote : index.write entries disk = (.ok (), index', disk'))
    (again : index'.write entries disk' = (.ok (), index'', disk'')) :
    index'' = index' ∧ disk'' = disk' := by
  obtain ⟨first, others, rfl⟩ := List.exists_cons_of_ne_nil filled
  obtain ⟨connection, middle, acquired, added⟩ := write_cons_eq_ok_iff.mp wrote
  obtain ⟨connection', middle', acquired', added'⟩ := write_cons_eq_ok_iff.mp again
  rw [acquire_of_ready (ready_of_acquire acquired).1] at acquired'
  cases acquired'
  have quiet := quiet_of_insertInto added
  obtain ⟨rows, rows', settled, -, -, inserted, rfl⟩ := insertInto_eq_ok_iff.mp added
  obtain ⟨rows₁, rows'', settled', read, -, inserted', rfl⟩ := insertInto_eq_ok_iff.mp added'
  rw [quiet.rows_eq (Disk.body_setBody_self _ _ _)] at read
  cases read
  refine ⟨rfl, ?_⟩
  rw [eq_putAll_of_insertAll inserted] at inserted' ⊢
  rw [eq_putAll_of_insertAll inserted', Assoc.putAll_putAll]
  simp [Connection.endJournal_setBody]

/-- A table that was written can be written again. -/
theorem writable_of_write {index index' : TableIndex} {disk disk' : Disk} {entries : List Entry}
    (filled : entries ≠ []) (wrote : index.write entries disk = (.ok (), index', disk')) :
    index'.Writable disk' := by
  obtain ⟨first, others, rfl⟩ := List.exists_cons_of_ne_nil filled
  obtain ⟨connection, middle, acquired, added⟩ := write_cons_eq_ok_iff.mp wrote
  have quiet := quiet_of_insertInto added
  obtain ⟨rows, rows', settled, read, free, -, rfl⟩ := insertInto_eq_ok_iff.mp added
  exact ⟨connection, index', _, rows', _, acquire_of_ready (ready_of_acquire acquired).1 _,
    quiet.rows_eq (Disk.body_setBody_self _ _ _), Connection.changeFault?_of_change read free⟩

/-- A batch whose first key is there is refused for that key, and nothing changes. -/
theorem write_of_present {index : TableIndex} {disk : Disk} {first : Entry} (others : List Entry)
    (rejects : index.onDuplicate = .reject) (settled : index.Settled disk)
    (writable : index.Writable disk) (room : overflow? first = none)
    (there : Assoc.find? first.key (index.rowsOn disk) ≠ none) :
    index.write (first :: others) disk = (.error (.duplicateKey first.key), index, disk) := by
  obtain ⟨connection, rows, ready, quiet, filled⟩ := settled
  obtain ⟨connection', index', middle, rows', last, acquired, read, free⟩ := writable
  rw [acquire_of_ready ready] at acquired
  cases acquired
  rw [quiet.rows_eq filled] at read
  cases read
  have refused : insert .reject first rows = .error (.duplicateKey first.key) := by
    have held : Assoc.has first.key rows := by
      rw [rowsOn_of_opened ready, filled] at there
      exact Option.isSome_iff_ne_none.mpr there
    simp [insert, room, held]
  simp [write, acquire_of_ready ready, insertInto, room, quiet.rows_eq filled, rejects, refused,
    free, insertAll, giveUp]

end TableIndex

namespace Backend

/-- Writing a batch again behind itself changes nothing. -/
theorem write_again {entries : List Entry} {sink after after' : Backend × Disk}
    (isIndex : sink.1.IsIndex) (filled : entries ≠ [])
    (wrote : write entries sink = (.ok (), after))
    (again : write entries after = (.ok (), after')) : after' = after := by
  obtain ⟨backend, disk⟩ := sink
  cases backend with
  | debug _ => exact isIndex.elim
  | log index =>
      rcases written : index.write entries disk with ⟨result, index', disk'⟩
      rw [write_log, written] at wrote
      cases wrote
      rcases writtenAgain : index'.write entries disk' with ⟨result, index'', disk''⟩
      rw [write_log, writtenAgain] at again
      cases again
      obtain ⟨rfl, rfl⟩ := LogIndex.write_again written writtenAgain
      rfl
  | table index =>
      rcases written : index.write entries disk with ⟨result, index', disk'⟩
      rw [write_table, written] at wrote
      cases wrote
      rcases writtenAgain : index'.write entries disk' with ⟨result, index'', disk''⟩
      rw [write_table, writtenAgain] at again
      cases again
      obtain ⟨rfl, rfl⟩ := TableIndex.write_again filled written writtenAgain
      rfl

/-- Calls with the batches of earlier ones change nothing, whatever is in between. -/
theorem eq_of_leads_again {origin after after' : Backend × Disk} {calls calls' : List Call}
    (isIndex : origin.1.IsIndex) (isIndex' : after.1.IsIndex)
    (leads : writer.Leads origin calls after) (leads' : writer.Leads after calls' after')
    (accepted : ∀ call ∈ calls, call.verdict = .accepted)
    (accepted' : ∀ call ∈ calls', call.verdict = .accepted)
    (filled : ∀ call ∈ calls, call.batch ≠ []) (same : calls'.map Call.batch = calls.map Call.batch) :
    after' = after := by
  have filled' : ∀ call ∈ calls', call.batch ≠ [] := by
    refine batch_ne_nil_of_map_eq same ?_
    intro batch member
    obtain ⟨call, made, rfl⟩ := List.mem_map.mp member
    exact filled call made
  rcases write_flatMap_of_leads isIndex' leads' accepted' filled' with ⟨-, rfl⟩ | ⟨some, again⟩
  · rfl
  · rw [List.flatMap_def, same, ← List.flatMap_def] at some again
    rcases write_flatMap_of_leads isIndex leads accepted filled with ⟨rfl, -⟩ | ⟨-, wrote⟩
    · exact absurd rfl some
    · exact write_again isIndex some wrote again

/-- Where all keys are there already, every call is refused for its first key and nothing changes.
-/
theorem refused_of_leads {index : TableIndex} {disk : Disk} {after : Backend × Disk}
    {calls : List Call} (rejects : index.onDuplicate = .reject) (settled : index.Settled disk)
    (writable : index.Writable disk) (leads : writer.Leads (.table index, disk) calls after)
    (filled : ∀ call ∈ calls, call.batch ≠ [])
    (there : ∀ call ∈ calls, ∀ entry ∈ call.batch, TableIndex.overflow? entry = none ∧
      Assoc.find? entry.key (index.rowsOn disk) ≠ none) :
    after = (.table index, disk) ∧ ∀ call ∈ calls, ∃ first others,
      call.batch = first :: others ∧ call.verdict = .refused (.duplicateKey first.key) := by
  induction leads with
  | none => exact ⟨rfl, by simp⟩
  | @call calls before after batch verdict _ wrote ih =>
      obtain ⟨rfl, earlier⟩ := ih (fun call made => filled call (List.mem_append_left _ made))
        (fun call made => there call (List.mem_append_left _ made))
      obtain ⟨first, others, rfl⟩ :=
        List.exists_cons_of_ne_nil (filled ⟨batch, verdict⟩ (by simp))
      obtain ⟨room, present⟩ := there ⟨first :: others, verdict⟩ (by simp) first (by simp)
      have written := TableIndex.write_of_present others rejects settled writable room present
      have refused : writer (first :: others) (.table index, disk) =
          (.refused (.duplicateKey first.key), .table index, disk) := by
        rw [writer, write_table, written]
      rw [refused] at wrote
      cases wrote
      refine ⟨rfl, ?_⟩
      intro call made
      rcases List.mem_append.mp made with before | last
      · exact earlier call before
      · rw [List.mem_singleton.mp last]
        exact ⟨first, others, rfl, rfl⟩

end Backend

/-! ### Runs over an input that was indexed -/

section Calls

variable {σ : Type} {keyOf : KeyOf} {write : Writer σ} {settings : RunSettings} {start : Nat}
  {scan : Scan} {sink sink' after after' : σ} {calls calls' : List Call}
  {outcome outcome' : Outcome Summary}

/-- Runs that keep the order of the same input and drain, all calls of which are accepted, hand over
the same batches and come to the same. -/
theorem Indexes.agree (calm : write.Calm) (whole : scan.ending = .finished)
    (inOrder : settings.InOrder) (drains : settings.mode = .parallel → settings.onError = .drain)
    (run : Indexes keyOf write.recorded settings start scan (sink, []) outcome (after, calls))
    (run' : Indexes keyOf write.recorded settings start scan (sink', []) outcome' (after', calls'))
    (accepted : ∀ call ∈ calls, call.verdict = .accepted)
    (accepted' : ∀ call ∈ calls', call.verdict = .accepted) :
    calls'.map Call.batch = calls.map Call.batch ∧ outcome' = outcome := by
  cases valid : settings.validate with
  | error error =>
      obtain ⟨rfl, same⟩ := run.of_invalid valid
      obtain ⟨rfl, same'⟩ := run'.of_invalid valid
      cases same
      cases same'
      exact ⟨rfl, rfl⟩
  | ok done =>
      have filled := RunSettings.validate_eq_ok_iff.mp valid
      cases mode : settings.mode with
      | sequential =>
          obtain ⟨-, batches, fails, ends⟩ := run.of_sequential filled mode accepted
          obtain ⟨-, batches', fails', ends'⟩ := run'.of_sequential filled mode accepted'
          refine ⟨batches'.trans batches.symm, ?_⟩
          cases first : scan.records.findSome? (Layout.fault? keyOf) with
          | none => rw [ends first, ends' first]
          | some error => rw [fails error first, fails' error first]
      | parallel =>
          have single : settings.workers = 1 := inOrder.resolve_left (by simp [mode])
          obtain ⟨-, batches, fails⟩ := run.of_single calm whole filled mode single (drains mode)
            accepted
          obtain ⟨-, batches', fails'⟩ := run'.of_single calm whole filled mode single (drains mode)
            accepted'
          have same := batches'.trans batches.symm
          refine ⟨same, ?_⟩
          cases first : scan.records.findSome? (Layout.fault? keyOf) with
          | some error => rw [fails error first, fails' error first]
          | none =>
              obtain ⟨-, ⟨-, -, rfl⟩ | ⟨faulty, -⟩⟩ := run.of_drain calm whole filled mode (drains mode)
              · obtain ⟨-, ⟨-, -, rfl⟩ | ⟨faulty, -⟩⟩ :=
                  run'.of_drain calm whole filled mode (drains mode)
                · rw [length_accepted accepted, length_accepted accepted', same]
                · exact absurd ⟨first, accepted'⟩ faulty
              · exact absurd ⟨first, accepted⟩ faulty

/-- Without workers, a run over records with keys is not stopped by anything but a refusal. -/
theorem Pipeline.refused_of_sequentialFrom (calm : write.Calm) {offset : Nat} {summary : Summary}
    {records : List Bytes} (keyed : records.findSome? (Layout.fault? keyOf) = none)
    (goes : sequentialFrom keyOf write.recorded .finished offset summary records (sink, calls) =
      (outcome, (after, calls'))) :
    (∃ value, outcome = .done value) ∨
      ∃ call ∈ calls', ∃ error, call.verdict = .refused error ∧ outcome = .failed error := by
  induction records generalizing offset summary sink calls with
  | nil =>
      cases goes
      exact .inl ⟨summary, rfl⟩
  | cons record records ih =>
      rw [List.findSome?_cons] at keyed
      cases found : keyOf record with
      | error error => simp [Layout.fault?, found] at keyed
      | ok key =>
          have others : records.findSome? (Layout.fault? keyOf) = none := by
            simpa [Layout.fault?, found] using keyed
          rcases wrote : write [⟨key, offset, record.length⟩] sink with ⟨verdict, next⟩
          have same : write.recorded [⟨key, offset, record.length⟩] (sink, calls) =
              (verdict, next, calls ++ [⟨[⟨key, offset, record.length⟩], verdict⟩]) :=
            Writer.recorded_eq_iff.mpr ⟨wrote, rfl⟩
          cases verdict with
          | accepted =>
              simp only [sequentialFrom, found, same] at goes
              exact ih others goes
          | refused error =>
              simp only [sequentialFrom, found, same] at goes
              cases goes
              exact .inr ⟨_, List.mem_append_right _ (List.mem_singleton.mpr rfl), error, rfl, rfl⟩
          | panicked message =>
              refine absurd (congrArg Prod.fst wrote) (calm _ _ message)

/-- A run over records with keys that does not succeed fails as one of its calls was refused. -/
theorem Indexes.exists_refused (calm : write.Calm) (whole : scan.ending = .finished)
    (filled : 0 < settings.batchSize)
    (keyed : scan.records.findSome? (Layout.fault? keyOf) = none)
    (run : Indexes keyOf write.recorded settings start scan (sink, []) outcome (after, calls))
    (unsuccessful : ∀ summary, outcome ≠ .done summary) :
    ∃ call ∈ calls, ∃ error, call.verdict = .refused error ∧ outcome = .failed error := by
  cases mode : settings.mode with
  | sequential =>
      have goes := run.eq_runSequential filled mode
      rw [Pipeline.runSequential, whole] at goes
      rcases Pipeline.refused_of_sequentialFrom calm keyed goes.symm with ⟨summary, done⟩ | refused
      · exact absurd done (unsuccessful summary)
      · exact refused
  | parallel =>
      obtain ⟨workers, final, admitted, reaches, finished, rfl, -, rfl⟩ :=
        run.exists_finished whole filled mode
      have ends := reaches.outcome_eq admitted.1 calm finished whole scan
      cases recorded : final.firstError with
      | none =>
          rw [recorded] at ends
          exact absurd ends (unsuccessful _)
      | some error =>
          rw [recorded] at ends
          rcases reaches.of_firstError recorded with ⟨package, member, faulty⟩ | ⟨call, made, refused⟩
          · have clean := (Package.forall_fault?_cut_iff keyOf start scan.records filled).mpr keyed
            cases (clean package member).symm.trans faulty
          · exact ⟨call, made, error, refused, ends⟩

end Calls

section Again

variable {route : Route} {keyOf : KeyOf} {settings again : RunSettings} {start : Nat} {scan : Scan}
  {sink after after' : Backend × Disk} {outcome outcome' : Outcome Summary} {calls : List Call}

/-- A second run into an index that replaces what it has changes nothing and comes to the same. -/
theorem Indexes.replaced_again (isIndex : sink.1.IsIndex) (sound : sink.2.Sound)
    (away : sink.1.Away route sink.2) (replaces : sink.1.kind ≠ .table .reject)
    (writable : Backend.Writable sink) (whole : scan.ending = .finished)
    (room : ∀ entry ∈ Layout.entries keyOf start scan.records, sink.1.kind.HasRoom entry)
    (inOrder : settings.InOrder) (drains : settings.mode = .parallel → settings.onError = .drain)
    (run : Indexes keyOf Backend.writer settings start scan sink outcome after)
    (run' : Indexes keyOf Backend.writer settings start scan after outcome' after') :
    outcome' = outcome ∧ after' = after := by
  obtain ⟨calls, run⟩ := run.recorded
  obtain ⟨calls', run'⟩ := run'.recorded
  obtain ⟨leads, entries⟩ := run.leads_entries
  obtain ⟨leads', entries'⟩ := run'.leads_entries
  obtain ⟨isIndex', away', spares⟩ := Backend.spares_of_leads isIndex sound away leads
  have kind := Backend.kind_of_leads leads
  have fits : Backend.Fits (calls.flatMap Call.batch) sink := by
    refine ⟨?_, fun rejects => absurd rejects replaces⟩
    intro entry inside
    obtain ⟨call, made, inside⟩ := List.mem_flatMap.mp inside
    exact room entry (entries call made entry inside)
  have fits' : Backend.Fits (calls'.flatMap Call.batch) after := by
    refine ⟨?_, fun rejects => absurd (kind ▸ rejects) replaces⟩
    intro entry inside
    obtain ⟨call, made, inside⟩ := List.mem_flatMap.mp inside
    exact kind ▸ room entry (entries' call made entry inside)
  obtain ⟨accepted, writable'⟩ := Backend.accepted_of_fits isIndex sound away writable leads fits
  obtain ⟨accepted', -⟩ := Backend.accepted_of_fits isIndex' (spares.sound sound) away' writable'
    leads' fits'
  obtain ⟨same, comes⟩ := run.agree Backend.calm_writer whole inOrder drains run' accepted accepted'
  exact ⟨comes, Backend.eq_of_leads_again isIndex isIndex' leads leads' accepted accepted'
    run.batch_ne_nil same⟩

/-- After a run that succeeded, every entry of its input is stored under its key. -/
theorem Indexes.stored_of_done (isIndex : sink.1.IsIndex) (sound : sink.2.Sound)
    (away : sink.1.Away route sink.2) (whole : scan.ending = .finished) {summary : Summary}
    (run : Indexes keyOf Backend.writer settings start scan sink (.done summary) after)
    {entry : Entry} (inside : entry ∈ Layout.entries keyOf start scan.records) :
    ∃ span, after.1.stored entry.key after.2 = .ok (some span) := by
  obtain ⟨-, written, handed, -, -, stored⟩ := run.exists_written isIndex sound away whole
  cases last : lastOf? entry.key written with
  | none => exact absurd rfl (lastOf?_eq_none_iff.mp last entry (handed.symm.subset inside))
  | some other => exact ⟨other.span, by rw [stored, readAfter_of_some last]⟩

/-- After a run into a table that succeeded and had a record, the table can be written again, there
is nothing to settle in it, and it has room for the entries of the input and their keys already. -/
theorem Indexes.exists_table_of_done {index : TableIndex} {disk : Disk} (sound : disk.Sound)
    (away : Backend.Away route (.table index) disk) (whole : scan.ending = .finished)
    (some : scan.records ≠ []) {summary : Summary}
    (run : Indexes keyOf Backend.writer settings start scan (.table index, disk) (.done summary)
      after) :
    ∃ index' disk', after = (.table index', disk') ∧ index'.onDuplicate = index.onDuplicate ∧
      index'.Settled disk' ∧ index'.Writable disk' ∧
      ∀ entry ∈ Layout.entries keyOf start scan.records, TableIndex.overflow? entry = none ∧
        Assoc.find? entry.key (index'.rowsOn disk') ≠ none := by
  have isIndex : Backend.IsIndex (.table index) := trivial
  have stored {entry : Entry} (inside : entry ∈ Layout.entries keyOf start scan.records) :=
    run.stored_of_done isIndex sound away whole inside
  obtain ⟨-, written, handed, -, fits, -⟩ := run.exists_written isIndex sound away whole
  obtain ⟨entries, any, wrote⟩ := run.exists_write_of_done isIndex whole some
  rcases added : index.write entries disk with ⟨result, index', disk'⟩
  rw [Backend.write_table, added] at wrote
  cases wrote
  have writes := TableIndex.writes_write sound away added
  refine ⟨index', disk', rfl, TableIndex.policy_of_write added, (writes.done rfl).2 any,
    TableIndex.writable_of_write any added, ?_⟩
  intro entry inside
  constructor
  · exact (Backend.overflow?_eq_none_iff _).mpr (fits.room entry (handed.symm.subset inside))
  · intro absent
    obtain ⟨span, same⟩ := stored inside
    rw [Backend.stored, TableIndex.spanOf?_eq_none_iff.mpr absent] at same
    cases same

/-- A second run into a table that refuses keys it has fails for the first key of one of its
batches, each of which is refused for its first key, and changes nothing. -/
theorem Indexes.refused_again {index : TableIndex} {disk : Disk} (sound : disk.Sound)
    (away : Backend.Away route (.table index) disk) (rejects : index.onDuplicate = .reject)
    (whole : scan.ending = .finished) (some : scan.records ≠ []) {summary : Summary}
    (run : Indexes keyOf Backend.writer settings start scan (.table index, disk) (.done summary)
      after)
    (run' : Indexes keyOf Backend.writer.recorded again start scan (after, []) outcome'
      (after', calls)) :
    after' = after ∧
      (∀ call ∈ calls, ∃ first others, call.batch = first :: others ∧
        call.verdict = .refused (.duplicateKey first.key)) ∧
      (0 < again.batchSize → ∃ call ∈ calls, ∃ first others, call.batch = first :: others ∧
        outcome' = .failed (.duplicateKey first.key)) := by
  have isIndex : Backend.IsIndex (.table index) := trivial
  have keyed := (run.exists_written isIndex sound away whole).1
  obtain ⟨index', disk', rfl, policy, settled, writable, there⟩ :=
    run.exists_table_of_done sound away whole some
  obtain ⟨leads, entries⟩ := run'.leads_entries
  obtain ⟨same, refused⟩ := Backend.refused_of_leads (policy.trans rejects) settled writable leads
    run'.batch_ne_nil fun call made entry inside => there entry (entries call made entry inside)
  refine ⟨same, refused, ?_⟩
  intro filled
  have unsuccessful : ∀ summary, outcome' ≠ .done summary := by
    rintro summary rfl
    obtain ⟨accepted, -, -, made⟩ := run'.of_done Backend.calm_writer whole
    obtain ⟨entry, inside⟩ := List.exists_mem_of_length_pos (l := calls.flatMap Call.batch) (by
      rw [made.length_eq, Layout.length_entries keyed]
      exact List.length_pos_iff.mpr some)
    obtain ⟨call, called, -⟩ := List.mem_flatMap.mp inside
    obtain ⟨first, others, -, verdict⟩ := refused call called
    rw [accepted call called] at verdict
    cases verdict
  obtain ⟨call, called, error, verdict, failed⟩ :=
    run'.exists_refused Backend.calm_writer whole filled keyed unsuccessful
  obtain ⟨first, others, batch, same⟩ := refused call called
  rw [same] at verdict
  cases verdict
  exact ⟨call, called, first, others, batch, failed⟩

end Again

/-- Indexing an input that was read to its end a second time changes nothing. An index that replaces
what it has under a key and can be written takes the batches again: with a run that keeps the order
of the input and drains, it is left exactly as the first run left it and both come to the same,
whether keys come twice and whether records have no key. A table that refuses keys it has refuses
them: once a run over some record succeeded, every further run, whatever its settings and the order
of its batches, fails for the first key of one of them. -/
theorem indexing_again_changes_nothing {keyOf : KeyOf} {start buffer buffer' : Nat}
    {source : Source} {backend : Backend} {disk : Disk} {after : Backend × Disk}
    {settings : RunSettings} {outcome : Outcome Summary} (isIndex : backend.IsIndex)
    (sound : disk.Sound) (known : backend.Known disk) (whole : source.ending = .finished)
    (run : Indexes keyOf Backend.writer settings start (source.records buffer) (backend, disk)
      outcome after) :
    (backend.kind ≠ .table .reject → Backend.Writable (backend, disk) →
      (∀ entry ∈ Layout.entries keyOf start (Bytes.lines source.bytes),
        backend.kind.HasRoom entry) →
      (settings.mode = .sequential ∨
        settings.mode = .parallel ∧ settings.workers = 1 ∧ settings.onError = .drain) →
      ∀ outcome' after', Indexes keyOf Backend.writer settings start (source.records buffer')
          after outcome' after' →
        outcome' = outcome ∧ after' = after) ∧
    (backend.kind = .table .reject → Bytes.lines source.bytes ≠ [] →
      (∃ summary, outcome = .done summary) →
      ∀ again outcome' after' calls, Indexes keyOf Backend.writer.recorded again start
          (source.records buffer') (after, []) outcome' (after', calls) →
        after' = after ∧
        (∀ call ∈ calls, ∃ first others, call.batch = first :: others ∧
          call.verdict = .refused (.duplicateKey first.key)) ∧
        (0 < again.batchSize → ∃ call ∈ calls, ∃ first others, call.batch = first :: others ∧
          outcome' = .failed (.duplicateKey first.key))) := by
  obtain ⟨route, away⟩ := Backend.exists_away known
  rw [Source.records_eq] at run
  constructor
  · intro replaces writable room plain outcome' after' run'
    rw [Source.records_eq] at run'
    have inOrder : settings.InOrder := plain.imp_right fun ⟨_, single, _⟩ => single
    refine run.replaced_again isIndex sound away replaces writable whole room inOrder ?_ run'
    intro parallel
    rcases plain with sequential | ⟨-, -, drains⟩
    · rw [parallel] at sequential
      cases sequential
    · exact drains
  · rintro rejects some ⟨summary, rfl⟩ again outcome' after' calls run'
    rw [Source.records_eq] at run'
    cases backend with
    | log index => cases rejects
    | debug printer => cases rejects
    | table index =>
        exact run.refused_again sound away (Backend.Kind.table.inj rejects) whole some run'

/-- A log that is held is the same after a second run over three records, of which the first and the
last have the same key and the second has none; and a second run, with more workers, over two
records that were added to a table fails for one of their keys. -/
theorem indexing_again_changes_nothing_over_three_records :
    let source : Source := [.data [97, 10, 98], .glance, .data [98, 10, 97, 10, 100]]
    let faulty : KeyOf := fun record =>
      if record.length = 3 then .error (.keyNotFound "id" "bb") else .ok "a"
    let log : Backend := .log ⟨"index", some 0⟩
    let short : Source := [.data [97, 10, 98], .interrupted, .data [98, 10, 99]]
    let keyOf : KeyOf := fun record => .ok (if record.length = 2 then "a" else "b")
    let disk : Disk := (Disk.empty.createAt ["d"] (.table [("z", (0, 2))])).2
    let table : Backend := .table ⟨"d", .reject, some ⟨⟨0, some ["d"], true, none⟩, true⟩⟩
    (∃ outcome after, Indexes faulty Backend.writer ⟨2, 1, .parallel, .drain⟩ 7 (source.records 1)
        (log, Disk.empty) outcome after ∧
      ∃ outcome' after', Indexes faulty Backend.writer ⟨2, 1, .parallel, .drain⟩ 7
          (source.records 8) after outcome' after' ∧
        outcome' = outcome ∧ after' = after) ∧
    ∃ summary after, Indexes keyOf Backend.writer .sequential 0 (short.records 1) (table, disk)
        (.done summary) after ∧
      ∃ outcome' after' calls, Indexes keyOf Backend.writer.recorded ⟨1, 3, .parallel, .abort⟩ 0
          (short.records 8) (after, []) outcome' (after', calls) ∧
        after' = after ∧ ∃ call ∈ calls, ∃ first others, call.batch = first :: others ∧
          outcome' = .failed (.duplicateKey first.key) := by
  intro source faulty log short keyOf disk table
  constructor
  · have lines : Bytes.lines source.bytes = [[97, 10], [98, 98, 10], [97, 10]] := by
      simp [source, Source.bytes, Bytes.lines, Bytes.lines.go, Bytes.cutLine, Bytes.newline]
    obtain ⟨outcome, after, run⟩ : ∃ outcome after, Indexes faulty Backend.writer
        ⟨2, 1, .parallel, .drain⟩ 7 (source.records 1) (log, Disk.empty) outcome after :=
      ⟨_, _, indexes_index _ _ _ _ _ _⟩
    obtain ⟨outcome', after', run'⟩ : ∃ outcome' after', Indexes faulty Backend.writer
        ⟨2, 1, .parallel, .drain⟩ 7 (source.records 8) after outcome' after' :=
      ⟨_, _, indexes_index _ _ _ _ _ _⟩
    have isIndex : log.IsIndex := trivial
    have room : ∀ entry ∈ Layout.entries faulty 7 (Bytes.lines source.bytes),
        log.kind.HasRoom entry := by
      intro entry inside
      have stop := Layout.stop_le_of_mem_entries inside
      rw [lines] at stop
      simp only [List.flatten_cons, List.flatten_nil, List.length_append, List.length_cons,
        List.length_nil] at stop
      show entry.offset ≤ Slot.maxValue ∧ entry.length ≤ Slot.maxValue
      simp only [Slot.maxValue_eq]
      omega
    exact ⟨outcome, after, run, outcome', after', run',
      (indexing_again_changes_nothing isIndex Disk.sound_empty trivial rfl run).1 (by decide)
        ⟨0, ⟨"index", some 0⟩, Disk.empty, rfl⟩ room (.inr ⟨rfl, rfl, rfl⟩) outcome' after' run'⟩
  · have lines : Bytes.lines short.bytes = [[97, 10], [98, 98, 10]] := by
      simp [short, Source.bytes, Bytes.lines, Bytes.lines.go, Bytes.cutLine, Bytes.newline]
    have sound : disk.Sound := (@Disk.spares_createAt [] _ _ _ rfl).sound Disk.sound_empty
    have isIndex : table.IsIndex := trivial
    have known : table.Known disk := by
      rintro _ ⟨⟩
      exact Nat.one_pos
    have writable : Backend.Writable (table, disk) :=
      ⟨_, _, disk, [("z", (0, 2))], disk, rfl, by cbv, by cbv⟩
    have fits : Backend.Fits (Layout.entries keyOf 0 [[97, 10], [98, 98, 10]]) (table, disk) := by
      have entries : Layout.entries keyOf 0 [[97, 10], [98, 98, 10]] =
          [⟨"a", 0, 2⟩, ⟨"b", 2, 3⟩] := rfl
      rw [entries]
      refine ⟨?_, fun _ => ⟨by decide, ?_⟩⟩
      · intro entry inside
        show entry.offset ≤ TableIndex.maxValue ∧ entry.length ≤ TableIndex.maxValue
        rcases List.mem_pair.mp inside with rfl | rfl <;> decide
      · intro entry inside
        rcases List.mem_pair.mp inside with rfl | rfl <;> rfl
    obtain ⟨outcome, after, run⟩ : ∃ outcome after, Indexes keyOf Backend.writer .sequential 0
        (short.records 1) (table, disk) outcome after := ⟨_, _, indexes_index _ _ _ _ _ _⟩
    obtain ⟨route, away⟩ := Backend.exists_away known
    obtain ⟨summary, rfl⟩ : ∃ summary, outcome = .done summary := by
      have same := run
      rw [Source.records_eq, lines] at same
      exact same.done_of_fits isIndex sound away writable rfl (by decide) (by decide) fits
    obtain ⟨outcome', after', calls, run'⟩ : ∃ outcome' after' calls, Indexes keyOf
        Backend.writer.recorded ⟨1, 3, .parallel, .abort⟩ 0 (short.records 8) (after, []) outcome'
        (after', calls) := ⟨_, _, _, indexes_index _ _ _ _ _ _⟩
    obtain ⟨same, -, fails⟩ := (indexing_again_changes_nothing isIndex sound known rfl run).2 rfl
      (by simp [lines]) ⟨summary, rfl⟩ _ outcome' after' calls run'
    exact ⟨summary, after, run, outcome', after', calls, run', same, fails (by decide)⟩

end RecordStore
