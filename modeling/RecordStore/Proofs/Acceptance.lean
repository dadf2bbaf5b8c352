import RecordStore.Proofs.Backend
import RecordStore.Proofs.Pipeline.Entries
import Mathlib.Data.Fintype.EquivFin

/-!
What an index accepts.

An index that can be written accepts a batch just when its numbers have room and, where keys
are refused that are there already, its keys are new (`Fits`). Fitting does not depend on how
entries are cut into batches (`fits_append_iff`) nor, for one batch, on their order. So whether
a run succeeds is a matter of its input alone, and not of how it is worked through.
-/

namespace RecordStore

/-! ### A database that can be written -/

/-- Where a change was possible, another one is possible after it. -/
theorem Connection.changeFault?_of_change {connection : Connection} {disk settled : Disk}
    {rows rows' : TableRows} (read : connection.rows disk = (.ok rows, settled))
    (free : connection.changeFault? settled = none) :
    connection.changeFault?
      ((connection.endJournal settled).setBody connection.id (.table rows')) = none := by
  have filled : settled.body connection.id = .table rows := by
    rw [(clears_rows read).body_eq]
    exact TableIndex.table_of_rows read
  have blank : connection.isBlank settled = false := by simp [isBlank, filled]
  have blank' : connection.isBlank
      ((connection.endJournal settled).setBody connection.id (.table rows')) = false := by
    simp [isBlank]
  unfold changeFault? at free ⊢
  split at free
  · cases free
  · rename_i writable
    rw [if_neg writable]
    cases found : connection.home with
    | none => rfl
    | some home =>
        simp only [found, blank, blank', Bool.not_false, true_and, Bool.false_eq_true,
          false_and, if_false] at free ⊢
        split at free
        · cases free
        · rename_i there
          split at free
          · cases free
          · rename_i short
            have home' : ((connection.endJournal settled).setBody connection.id
                (.table rows')).node? home = settled.node? home := by
              rw [Disk.node?_setBody, endJournal, found]
              exact Disk.node?_eraseNode_of_ne _ (journal_ne_self home)
            have journal' : ((connection.endJournal settled).setBody connection.id
                (.table rows')).node? (journal home) = none := by
              rw [Disk.node?_setBody, endJournal, found, Disk.node?_eraseNode, if_pos rfl,
                if_neg (journal_ne_nil home)]
            rw [home', journal', if_neg there, if_neg]
            rintro (long | blocked)
            · exact short (.inl long)
            · cases blocked

namespace TableIndex

variable {index index' : TableIndex} {disk disk' : Disk} {route : Route}

/-- Whether the database of an index can be opened, read and changed. -/
def Writable (index : TableIndex) (disk : Disk) : Prop :=
  ∃ connection index' middle rows settled, index.acquire disk = (.ok connection, index', middle) ∧
    connection.rows middle = (.ok rows, settled) ∧ connection.changeFault? settled = none

/-- The rows that are read where the index opens its database are those of the index. -/
theorem rowsOn_of_acquire (sound : disk.Sound) (away : index.Away route disk)
    {connection : Connection} {middle settled : Disk} {rows : TableRows}
    (acquired : index.acquire disk = (.ok connection, index', middle))
    (read : connection.rows middle = (.ok rows, settled)) : index.rowsOn disk = rows := by
  rw [← (acquires_acquire sound away acquired).rows, rowsOn_of_opened (ready_of_acquire acquired).1,
    table_of_rows read]
  rfl

/-- A database that can be changed takes every batch that can be added to its rows. -/
theorem write_of_writable (sound : disk.Sound) (away : index.Away route disk)
    (writable : index.Writable disk) {entries : List Entry} {rows' : TableRows}
    (inserted : insertAll index.onDuplicate entries (index.rowsOn disk) = .ok rows') :
    ∃ index' disk', index.write entries disk = (.ok (), index', disk') ∧
      index'.Writable disk' := by
  obtain ⟨connection, index', middle, rows, settled, acquired, read, free⟩ := writable
  obtain ⟨ready, policy⟩ := ready_of_acquire acquired
  rw [rowsOn_of_acquire sound away acquired read, ← policy] at inserted
  cases entries with
  | nil =>
      refine ⟨index', middle, by simp [write, acquired], ?_⟩
      exact ⟨connection, index', middle, rows, settled, acquire_of_ready ready _, read, free⟩
  | cons first others =>
      have added := insertInto_eq_ok_iff.mpr ⟨rows, rows', settled, read, free, inserted, rfl⟩
      refine ⟨index', _, write_cons_eq_ok_iff.mpr ⟨connection, middle, acquired, added⟩, ?_⟩
      exact ⟨connection, index', _, rows', _, acquire_of_ready ready _,
        (quiet_of_insertInto added).rows_eq (Disk.body_setBody_self _ _ _),
        Connection.changeFault?_of_change read free⟩

/-- Writing does not change what an index does with keys that are there already. -/
theorem policy_of_write {entries : List Entry} {result : Except Error Unit}
    (wrote : index.write entries disk = (result, index', disk')) :
    index'.onDuplicate = index.onDuplicate := by
  have acquires : ∀ {disk : Disk} {result index' disk'},
      index.acquire disk = (result, index', disk') → index'.onDuplicate = index.onDuplicate := by
    intro disk result index' disk' acquired
    unfold acquire at acquired
    dsimp only at acquired
    repeat' split at acquired
    all_goals
      cases acquired
      rfl
  unfold write at wrote
  rcases acquired : index.acquire disk with ⟨outcome, index₁, middle⟩
  rw [acquired] at wrote
  have same := acquires acquired
  cases outcome with
  | error error =>
      cases wrote
      exact same
  | ok connection =>
      cases entries with
      | nil =>
          cases wrote
          exact same
      | cons first others =>
          cases wrote
          exact same

end TableIndex

namespace Backend

/-! ### Places that are not needed -/

/-- A database needs only so many places. -/
theorem exists_needed_of_place (database : DatabasePlace) :
    ∃ needed : List Route, ∀ route ∉ needed, database.Away route := by
  cases database with
  | shared _ | alone => exact ⟨[], fun _ _ => trivial⟩
  | file path =>
      refine ⟨[Disk.placeOf path, Connection.journal (Disk.placeOf path),
        Connection.writeAhead (Disk.placeOf path)], ?_⟩
      intro route apart
      simpa [DatabasePlace.Away] using apart

/-- A connection needs only so many places. -/
theorem exists_needed_of_connection {connection : Connection} {disk : Disk}
    (known : connection.id < disk.next) :
    ∃ needed : List Route, ∀ route ∉ needed, connection.Away route disk := by
  have beside : ∃ needed : List Route, ∀ route ∉ needed, ∀ home, connection.home = some home →
      route ≠ Connection.journal home ∧ route ≠ Connection.writeAhead home := by
    cases found : connection.home with
    | none => exact ⟨[], fun _ _ _ none => by cases none⟩
    | some home =>
        refine ⟨[Connection.journal home, Connection.writeAhead home], ?_⟩
        rintro route apart _ ⟨⟩
        simpa using apart
  obtain ⟨needed, apart⟩ := beside
  refine ⟨needed ++ Assoc.keys disk.nodes, ?_⟩
  intro route free
  obtain ⟨free, empty⟩ := not_or.mp (List.mem_append.not.mp free)
  refine ⟨known, ?_, apart route free⟩
  intro there
  have nothing : Assoc.find? route disk.nodes = none := Assoc.find?_eq_none_of_not_mem empty
  rw [Disk.node?, nothing] at there
  split at there <;> cases there

/-- Whether the file that an index has open is one of the disk. -/
def Known (backend : Backend) (disk : Disk) : Prop :=
  match backend with
  | .table index => ∀ opened, index.opened = some opened → opened.connection.id < disk.next
  | _ => True

/-- On every disk there are places that an index does not need. -/
theorem exists_away {backend : Backend} {disk : Disk} (known : backend.Known disk) :
    ∃ route, backend.Away route disk := by
  cases backend with
  | debug _ => exact ⟨[], trivial⟩
  | log index =>
      obtain ⟨route, apart⟩ := Infinite.exists_notMem_finset {Disk.placeOf index.path}
      exact ⟨route, by simpa [Away] using apart⟩
  | table index =>
      have place : ∃ needed : List Route, ∀ route ∉ needed, ∀ address,
          Address.ofText index.path .create = .ok address → address.place.Away route := by
        cases read : Address.ofText index.path .create with
        | error fault => exact ⟨[], fun _ _ _ none => by cases none⟩
        | ok address =>
            obtain ⟨needed, apart⟩ := exists_needed_of_place address.place
            exact ⟨needed, fun route free _ same => by cases same; exact apart route free⟩
      have opened : ∃ needed : List Route, ∀ route ∉ needed, ∀ opened,
          index.opened = some opened → opened.connection.Away route disk := by
        cases there : index.opened with
        | none => exact ⟨[], fun _ _ _ none => by cases none⟩
        | some opened =>
            obtain ⟨needed, apart⟩ := exists_needed_of_connection (known opened there)
            exact ⟨needed, fun route free _ same => by cases same; exact apart route free⟩
      obtain ⟨first, apart⟩ := place
      obtain ⟨second, apart'⟩ := opened
      obtain ⟨route, free⟩ := Infinite.exists_notMem_finset (first ++ second).toFinset
      rw [List.mem_toFinset, List.mem_append, not_or] at free
      exact ⟨route, apart route free.1, apart' route free.2⟩

/-! ### Batches that fit -/

/-- The kinds of backends; a table has a rule for keys that are there already. -/
inductive Kind
  | log
  | table (onDuplicate : OnDuplicate)
  | debug
  deriving DecidableEq

/-- The kind of a backend. -/
def kind : Backend → Kind
  | .log _ => .log
  | .table index => .table index.onDuplicate
  | .debug _ => .debug

theorem isIndex_iff {backend : Backend} : backend.IsIndex ↔ backend.kind ≠ .debug := by
  cases backend <;> simp [IsIndex, kind]

/-- Whether an index of a kind has room for the numbers of an entry. -/
def Kind.HasRoom (entry : Entry) : Kind → Prop
  | .log => entry.offset ≤ Slot.maxValue ∧ entry.length ≤ Slot.maxValue
  | .table _ => entry.offset ≤ TableIndex.maxValue ∧ entry.length ≤ TableIndex.maxValue
  | .debug => True

/-- Whether entries hold nothing for which an index refuses a batch. -/
structure Fits (entries : List Entry) (sink : Backend × Disk) : Prop where
  room : ∀ entry ∈ entries, sink.1.kind.HasRoom entry
  fresh : sink.1.kind = .table .reject → (entries.map Entry.key).Nodup ∧
    ∀ entry ∈ entries, sink.1.stored entry.key sink.2 = .ok none

/-- Whether an index can be opened and written. -/
def Writable (sink : Backend × Disk) : Prop :=
  match sink.1 with
  | .log index => ∃ id index' disk', index.acquire true sink.2 = (.ok id, index', disk')
  | .table index => index.Writable sink.2
  | .debug _ => False

theorem overflow?_eq_none_iff {entry : Entry} (policy : OnDuplicate) :
    TableIndex.overflow? entry = none ↔ (Kind.table policy).HasRoom entry := by
  unfold TableIndex.overflow? Kind.HasRoom
  split
  · rename_i large
    exact ⟨fun same => (by cases same), fun ⟨room, _⟩ => absurd room (by omega)⟩
  · split
    · rename_i large
      exact ⟨fun same => (by cases same), fun ⟨_, room⟩ => absurd room (by omega)⟩
    · exact ⟨fun _ => by omega, fun _ => rfl⟩

section Fits

variable {route : Route} {origin sink after : Backend × Disk} {entries first second : List Entry}

/-- The rows of a table take what fits. -/
theorem fits_table_iff {index : TableIndex} {disk : Disk} :
    Fits entries (.table index, disk) ↔
      ∃ rows, TableIndex.insertAll index.onDuplicate entries (index.rowsOn disk) = .ok rows := by
  rw [TableIndex.exists_insertAll_iff]
  constructor
  · rintro ⟨room, fresh⟩
    refine ⟨fun entry inside => (overflow?_eq_none_iff _).mpr (room entry inside), ?_⟩
    intro rejects
    refine (fresh (congrArg Kind.table rejects)).imp_right ?_
    intro new entry inside
    exact TableIndex.spanOf?_eq_none_iff.mp (new entry inside)
  · rintro ⟨room, fresh⟩
    refine ⟨fun entry inside => (overflow?_eq_none_iff _).mp (room entry inside), ?_⟩
    intro rejects
    refine (fresh (Kind.table.inj rejects)).imp_right ?_
    intro new entry inside
    exact TableIndex.spanOf?_eq_none_iff.mpr (new entry inside)

theorem kind_of_write {result : Except Error Unit}
    (wrote : write entries sink = (result, after)) : after.1.kind = sink.1.kind := by
  obtain ⟨backend, disk⟩ := sink
  cases backend with
  | log index =>
      rcases written : index.write entries disk with ⟨outcome, index', disk'⟩
      rw [write_log, written] at wrote
      cases wrote
      rfl
  | table index =>
      rcases written : index.write entries disk with ⟨outcome, index', disk'⟩
      rw [write_table, written] at wrote
      cases wrote
      exact congrArg Kind.table (TableIndex.policy_of_write written)
  | debug printer =>
      cases wrote
      rfl

/-- What was written had nothing for which it would be refused. -/
theorem fits_of_write (isIndex : sink.1.IsIndex) (sound : sink.2.Sound)
    (away : sink.1.Away route sink.2) (wrote : write entries sink = (.ok (), after)) :
    Fits entries sink := by
  obtain ⟨backend, disk⟩ := sink
  cases backend with
  | debug _ => exact isIndex.elim
  | log index =>
      rcases written : index.write entries disk with ⟨outcome, index', disk'⟩
      rw [write_log, written] at wrote
      cases wrote
      obtain ⟨-, pairs, encoded, -⟩ := (@LogIndex.writes_write _ _ _ _ route _ _ written).done rfl
      exact ⟨LogIndex.fits_of_encodeAll encoded, fun rejects => by cases rejects⟩
  | table index =>
      rcases written : index.write entries disk with ⟨outcome, index', disk'⟩
      rw [write_table, written] at wrote
      cases wrote
      exact fits_table_iff.mpr ⟨_, ((TableIndex.writes_write sound away written).done rfl).1⟩

/-- An index that can be written takes what fits, and can be written again. -/
theorem write_of_fits (sound : sink.2.Sound) (away : sink.1.Away route sink.2)
    (writable : Writable sink) (fits : Fits entries sink) :
    ∃ after, write entries sink = (.ok (), after) ∧ Writable after := by
  obtain ⟨backend, disk⟩ := sink
  cases backend with
  | debug _ => exact writable.elim
  | log index =>
      obtain ⟨id, index', middle, acquired⟩ := writable
      obtain ⟨pairs, encoded⟩ := LogIndex.exists_encodeAll fits.room
      have wrote := LogIndex.write_eq_ok_iff.mpr ⟨id, middle, pairs, acquired, encoded, rfl⟩
      have again := LogIndex.acquire_of_held (LogIndex.held_of_acquire acquired) true
      exact ⟨(.log index', _), by rw [write_log, wrote], id, index', _, again _⟩
  | table index =>
      obtain ⟨rows, inserted⟩ := fits_table_iff.mp fits
      obtain ⟨index', disk', wrote, again⟩ :=
        TableIndex.write_of_writable sound away writable inserted
      exact ⟨(.table index', disk'), by rw [write_table, wrote], again⟩

/-- Entries fit in two parts just when they fit at once: the second part into what the index is
behind the first. -/
theorem fits_append_iff (kind : after.1.kind = origin.1.kind)
    (stored : ∀ key, after.1.stored key after.2 =
      readAfter key first (origin.1.stored key origin.2)) :
    Fits (first ++ second) origin ↔ Fits first origin ∧ Fits second after := by
  have absent : (∀ entry ∈ second, after.1.stored entry.key after.2 = .ok none) ↔
      (∀ entry ∈ second, ∀ other ∈ first, other.key ≠ entry.key) ∧
        ∀ entry ∈ second, origin.1.stored entry.key origin.2 = .ok none := by
    simp only [stored, readAfter_eq_none_iff]
    exact ⟨fun both => ⟨fun entry inside => (both entry inside).1,
      fun entry inside => (both entry inside).2⟩, fun both entry inside =>
        ⟨both.1 entry inside, both.2 entry inside⟩⟩
  have apart : (∀ entry ∈ second, ∀ other ∈ first, other.key ≠ entry.key) ↔
      (first.map Entry.key).Disjoint (second.map Entry.key) := by
    simp only [List.Disjoint, List.mem_map]
    constructor
    · rintro differ _ ⟨other, before, rfl⟩ ⟨entry, behind, same⟩
      exact differ entry behind other before same.symm
    · intro disjoint entry behind other before same
      exact disjoint ⟨other, before, rfl⟩ ⟨entry, behind, same.symm⟩
  constructor
  · rintro ⟨room, fresh⟩
    obtain ⟨room, room'⟩ := List.forall_mem_append.mp room
    refine ⟨⟨room, ?_⟩, ⟨kind ▸ room', ?_⟩⟩
    · intro rejects
      obtain ⟨distinct, none⟩ := fresh rejects
      rw [List.map_append, List.nodup_append'] at distinct
      exact ⟨distinct.1, (List.forall_mem_append.mp none).1⟩
    · intro rejects
      obtain ⟨distinct, none⟩ := fresh (kind ▸ rejects)
      rw [List.map_append, List.nodup_append'] at distinct
      exact ⟨distinct.2.1, absent.mpr ⟨apart.mpr distinct.2.2, (List.forall_mem_append.mp none).2⟩⟩
  · rintro ⟨⟨room, fresh⟩, room', fresh'⟩
    rw [kind] at room' fresh'
    refine ⟨List.forall_mem_append.mpr ⟨room, room'⟩, ?_⟩
    intro rejects
    obtain ⟨distinct, none⟩ := fresh rejects
    obtain ⟨distinct', none'⟩ := fresh' rejects
    obtain ⟨new, none'⟩ := absent.mp none'
    rw [List.map_append, List.nodup_append']
    exact ⟨⟨distinct, distinct', apart.mp new⟩, List.forall_mem_append.mpr ⟨none, none'⟩⟩

/-- A part of what fits, in any order, fits. -/
theorem Fits.of_subperm (fits : Fits entries sink) (part : first.Subperm entries) :
    Fits first sink := by
  refine ⟨fun entry inside => fits.room entry (part.subset inside), ?_⟩
  intro rejects
  obtain ⟨distinct, none⟩ := fits.fresh rejects
  refine ⟨?_, fun entry inside => none entry (part.subset inside)⟩
  obtain ⟨same, perm, sub⟩ := part
  exact ((perm.map Entry.key).nodup_iff).mp ((sub.map Entry.key).nodup distinct)

/-- What fits into an index fits into every one of its kind with the same keys. -/
theorem Fits.congr (fits : Fits entries origin) (kind : after.1.kind = origin.1.kind)
    (stored : ∀ key, after.1.stored key after.2 = origin.1.stored key origin.2) :
    Fits entries after := by
  refine ⟨kind ▸ fits.room, ?_⟩
  intro rejects
  refine (fits.fresh (kind ▸ rejects)).imp_right ?_
  intro none entry inside
  exact (stored entry.key).trans (none entry inside)

/-! ### Calls one after another -/

theorem kind_of_leads {calls : List Call} (leads : writer.Leads origin calls after) :
    after.1.kind = origin.1.kind := by
  refine leads.invariant (P := fun sink => sink.1.kind = origin.1.kind) rfl ?_
  intro call _ before same
  rw [writer_snd]
  exact (kind_of_write rfl).trans same

/-- The entries of calls that were all accepted fit together, and are what their keys then have. -/
theorem fits_of_accepted {calls : List Call} (isIndex : origin.1.IsIndex)
    (sound : origin.2.Sound) (away : origin.1.Away route origin.2)
    (leads : writer.Leads origin calls after) (accepted : ∀ call ∈ calls, call.verdict = .accepted) :
    Fits (calls.flatMap Call.batch) origin ∧ ∀ key, after.1.stored key after.2 =
      readAfter key (calls.flatMap Call.batch) (origin.1.stored key origin.2) := by
  induction leads with
  | none => exact ⟨⟨by simp, fun _ => ⟨by simp, by simp⟩⟩, fun _ => rfl⟩
  | @call calls before after batch verdict earlier wrote ih =>
      obtain ⟨fits, stored⟩ := ih fun call made => accepted call (List.mem_append_left _ made)
      obtain ⟨isIndex', away', spares⟩ := spares_of_leads isIndex sound away earlier
      have same := accepted ⟨batch, verdict⟩ (by simp)
      dsimp only at same
      subst same
      have written := writer_eq_accepted_iff.mp wrote
      have last := fits_of_write isIndex' (spares.sound sound) away' written
      have writes := writes_write isIndex' (spares.sound sound) away' written
      rw [List.flatMap_append, List.flatMap_singleton]
      refine ⟨(fits_append_iff (kind_of_leads earlier) stored).mpr ⟨fits, last⟩, ?_⟩
      intro key
      rw [(writes.done rfl).2 key, stored key, readAfter_append]

/-- An index that can be written accepts all calls when their entries fit together. -/
theorem accepted_of_fits {calls : List Call} (isIndex : origin.1.IsIndex)
    (sound : origin.2.Sound) (away : origin.1.Away route origin.2) (writable : Writable origin)
    (leads : writer.Leads origin calls after) (fits : Fits (calls.flatMap Call.batch) origin) :
    (∀ call ∈ calls, call.verdict = .accepted) ∧ Writable after := by
  induction leads with
  | none => exact ⟨by simp, writable⟩
  | @call calls before after batch verdict earlier wrote ih =>
      rw [List.flatMap_append, List.flatMap_singleton] at fits
      have part := fits.of_subperm (List.sublist_append_left _ batch).subperm
      obtain ⟨accepted, writable'⟩ := ih part
      obtain ⟨-, stored⟩ := fits_of_accepted isIndex sound away earlier accepted
      obtain ⟨-, away', spares⟩ := spares_of_leads isIndex sound away earlier
      have last := ((fits_append_iff (kind_of_leads earlier) stored).mp fits).2
      obtain ⟨after', written, again⟩ :=
        write_of_fits (spares.sound sound) away' writable' last
      rw [writer_eq_accepted_iff.mpr written] at wrote
      cases wrote
      refine ⟨?_, again⟩
      intro call made
      rcases List.mem_append.mp made with first | last
      · exact accepted call first
      · rw [List.mem_singleton.mp last]

end Fits

end Backend

/-! ### Runs into an index -/

section Runs

variable {route : Route} {keyOf : KeyOf} {settings : RunSettings} {start : Nat} {scan : Scan}
  {sink after : Backend × Disk} {outcome : Outcome Summary} {summary : Summary}

/-- A run into an index that succeeds wrote the entries of all records, which fit, in some order,
and that of the input where its settings keep it. -/
theorem Indexes.exists_written (isIndex : sink.1.IsIndex) (sound : sink.2.Sound)
    (away : sink.1.Away route sink.2) (whole : scan.ending = .finished)
    (run : Indexes keyOf Backend.writer settings start scan sink (.done summary) after) :
    scan.records.findSome? (Layout.fault? keyOf) = none ∧
      ∃ written, written.Perm (Layout.entries keyOf start scan.records) ∧
        (settings.InOrder → written = Layout.entries keyOf start scan.records) ∧
        Backend.Fits written sink ∧ ∀ key, after.1.stored key after.2 =
          readAfter key written (sink.1.stored key sink.2) := by
  obtain ⟨calls, run⟩ := run.recorded
  obtain ⟨leads, -⟩ := run.leads_subperm
  obtain ⟨accepted, -, keyed, handed⟩ := run.of_done Backend.calm_writer whole
  exact ⟨keyed, _, handed, run.in_order_of_done Backend.calm_writer whole,
    Backend.fits_of_accepted isIndex sound away leads accepted⟩

/-- A run into an index that succeeds and has a record comes to writing one batch. -/
theorem Indexes.exists_write_of_done (isIndex : sink.1.IsIndex) (whole : scan.ending = .finished)
    (some : scan.records ≠ [])
    (run : Indexes keyOf Backend.writer settings start scan sink (.done summary) after) :
    ∃ entries, entries ≠ [] ∧ Backend.write entries sink = (.ok (), after) := by
  obtain ⟨calls, run⟩ := run.recorded
  obtain ⟨leads, -⟩ := run.leads_subperm
  obtain ⟨accepted, filled, keyed, made⟩ := run.of_done Backend.calm_writer whole
  rcases Backend.write_flatMap_of_leads isIndex leads accepted filled with ⟨rfl, -⟩ | wrote
  · have none := made.length_eq
    rw [Layout.length_entries keyed] at none
    exact absurd (List.length_eq_zero_iff.mp none.symm) some
  · exact ⟨_, wrote⟩

/-- A run into an index that can be written succeeds when every record has a key and the entries
fit. -/
theorem Indexes.done_of_fits (isIndex : sink.1.IsIndex) (sound : sink.2.Sound)
    (away : sink.1.Away route sink.2) (writable : Backend.Writable sink)
    (whole : scan.ending = .finished) (filled : 0 < settings.batchSize)
    (keyed : scan.records.findSome? (Layout.fault? keyOf) = none)
    (fits : Backend.Fits (Layout.entries keyOf start scan.records) sink)
    (run : Indexes keyOf Backend.writer settings start scan sink outcome after) :
    ∃ summary, outcome = .done summary := by
  obtain ⟨calls, run⟩ := run.recorded
  obtain ⟨leads, part⟩ := run.leads_subperm
  have accepted :=
    (Backend.accepted_of_fits isIndex sound away writable leads (fits.of_subperm part)).1
  exact (run.done_iff Backend.calm_writer whole filled).mpr ⟨keyed, accepted⟩

end Runs

end RecordStore
