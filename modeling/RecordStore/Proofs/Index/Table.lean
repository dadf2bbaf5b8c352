import RecordStore.Proofs.Database

/-!
Writing to a table and reading from it.

A database that was opened for a batch stays open, and a change leaves nothing behind that
the next one has to settle, so two batches one after another are one (`write_append`). The
rows of an index are those of the database that it has open, or would open (`rowsOn`): a
batch that is written is added to them, and neither a refused batch nor reading changes
them.
-/

namespace RecordStore.TableIndex

variable {index index' index'' : TableIndex} {disk disk' disk'' : Disk}
  {connection : Connection}

theorem acquire_of_ready (ready : index.opened = some ⟨connection, true⟩) (disk : Disk) :
    index.acquire disk = (.ok connection, index, disk) := by
  simp [acquire, ready]

theorem acquireExisting_of_opened {opened : OpenTable} (there : index.opened = some opened)
    (disk : Disk) : index.acquireExisting disk = (.ok opened.connection, index, disk) := by
  simp [acquireExisting, there]

theorem ready_of_acquire (acquired : index.acquire disk = (.ok connection, index', disk')) :
    index'.opened = some ⟨connection, true⟩ ∧ index'.onDuplicate = index.onDuplicate := by
  unfold acquire at acquired
  dsimp only at acquired
  split at acquired
  · rename_i ready
    cases acquired
    exact ⟨ready, rfl⟩
  · split at acquired
    · cases acquired
    · cases acquired
      exact ⟨rfl, rfl⟩
  · split at acquired
    · cases acquired
    · split at acquired
      · cases acquired
      · cases acquired
        exact ⟨rfl, rfl⟩

/-! ### Adding to the rows of a database -/

theorem insertAll_ok_insert {policy : OnDuplicate} {first : Entry} {others : List Entry}
    {rows rows' : TableRows} (inserted : insertAll policy (first :: others) rows = .ok rows') :
    ∃ rows₁, insert policy first rows = .ok rows₁ := by
  unfold insertAll at inserted
  split at inserted
  · cases inserted
  · rename_i rows₁ one
    exact ⟨rows₁, one⟩

/-- A batch is added when the rows can be read and changed and every entry has room. -/
theorem insertInto_eq_ok_iff {policy : OnDuplicate} {first : Entry} {others : List Entry} :
    insertInto connection policy first others disk = (.ok (), disk') ↔
      ∃ rows rows' settled, connection.rows disk = (.ok rows, settled) ∧
        connection.changeFault? settled = none ∧
        insertAll policy (first :: others) rows = .ok rows' ∧
        disk' = (connection.endJournal settled).setBody connection.id (.table rows') := by
  constructor
  · intro added
    unfold insertInto at added
    split at added
    · cases added
    · split at added
      · cases added
      · rename_i rows settled read
        dsimp only at added
        split at added
        · cases added
        · rename_i free
          split at added
          · cases added
          · rename_i rows' inserted
            cases added
            exact ⟨rows, rows', settled, read, free, inserted, by simp [Connection.change, free]⟩
  · rintro ⟨rows, rows', settled, read, free, inserted, rfl⟩
    obtain ⟨rows₁, one⟩ := insertAll_ok_insert inserted
    simp [insertInto, (insert_eq_ok_iff.mp one).1, read, free, inserted, Connection.change]

theorem table_of_rows {rows : TableRows} (read : connection.rows disk = (.ok rows, disk')) :
    disk.body connection.id = .table rows := by
  rcases Connection.rows_eq_iff.mp read with ⟨fault, -, failed⟩ | ⟨-, same⟩
  · cases failed
  · unfold Connection.rowsOf at same
    split at same
    · rename_i stored found
      cases same
      exact found
    · cases same
    · cases same

/-- After a batch was added, reading gives the rows that were put and changes nothing. -/
theorem quiet_of_insertInto {policy : OnDuplicate} {first : Entry} {others : List Entry}
    (added : insertInto connection policy first others disk = (.ok (), disk')) :
    connection.Quiet disk' := by
  obtain ⟨rows, rows', settled, read, free, -, rfl⟩ := insertInto_eq_ok_iff.mp added
  apply Connection.quiet_of_change rows' free
  intro home found node there
  rcases Connection.rows_eq_iff.mp read with ⟨fault, -, failed⟩ | ⟨settles, -⟩
  · cases failed
  · exact Connection.noFolder_of_settle found settles there

/-- Two batches added one after another come to what they are as one. -/
theorem insertInto_append {policy : OnDuplicate} {first second : Entry}
    {others others' : List Entry}
    (added : insertInto connection policy first others disk = (.ok (), disk'))
    (again : insertInto connection policy second others' disk' = (.ok (), disk'')) :
    insertInto connection policy first (others ++ second :: others') disk = (.ok (), disk'') := by
  have quiet := quiet_of_insertInto added
  obtain ⟨rows, rows', settled, read, free, inserted, rfl⟩ := insertInto_eq_ok_iff.mp added
  obtain ⟨rows₁, rows'', settled', read', -, inserted', rfl⟩ := insertInto_eq_ok_iff.mp again
  rw [quiet.rows_eq (Disk.body_setBody_self _ _ _)] at read'
  cases read'
  refine insertInto_eq_ok_iff.mpr ⟨rows, rows'', settled, read, free, ?_, ?_⟩
  · rw [← List.cons_append, insertAll_append, inserted]
    exact inserted'
  · simp [Connection.endJournal_setBody]

/-! ### Batches -/

theorem write_cons_eq_ok_iff {first : Entry} {others : List Entry} :
    index.write (first :: others) disk = (.ok (), index', disk') ↔
      ∃ connection middle, index.acquire disk = (.ok connection, index', middle) ∧
        insertInto connection index'.onDuplicate first others middle = (.ok (), disk') := by
  unfold write
  rcases acquired : index.acquire disk with ⟨result, index₁, middle⟩
  cases result with
  | error error => simp
  | ok connection =>
      simp only [Prod.mk.injEq]
      constructor
      · rintro ⟨added, rfl, rfl⟩
        exact ⟨connection, middle, ⟨rfl, rfl, rfl⟩, Prod.ext added rfl⟩
      · rintro ⟨_, _, ⟨same, rfl, rfl⟩, added⟩
        cases same
        exact ⟨congrArg Prod.fst added, rfl, congrArg Prod.snd added⟩

/-- Two batches one after another come to what they are as one. -/
theorem write_append {first second : List Entry} (filled : first ≠ []) (filled' : second ≠ [])
    (wrote : index.write first disk = (.ok (), index', disk'))
    (again : index'.write second disk' = (.ok (), index'', disk'')) :
    index.write (first ++ second) disk = (.ok (), index'', disk'') := by
  obtain ⟨one, others, rfl⟩ := List.exists_cons_of_ne_nil filled
  obtain ⟨two, others', rfl⟩ := List.exists_cons_of_ne_nil filled'
  obtain ⟨connection, middle, acquired, added⟩ := write_cons_eq_ok_iff.mp wrote
  obtain ⟨connection', middle', acquired', added'⟩ := write_cons_eq_ok_iff.mp again
  rw [acquire_of_ready (ready_of_acquire acquired).1] at acquired'
  cases acquired'
  exact write_cons_eq_ok_iff.mpr ⟨connection, middle, acquired, insertInto_append added added'⟩

/-! ### The rows of an index -/

/-- The rows of the database that an index has open, or would open. -/
def rowsOn (index : TableIndex) (disk : Disk) : TableRows :=
  match index.opened with
  | some opened => (disk.body opened.connection.id).rows
  | none =>
    match Address.ofText index.path .create with
    | .ok address => address.place.rows disk
    | .error _ => []

theorem rowsOn_of_opened {opened : OpenTable} (there : index.opened = some opened)
    (disk : Disk) : index.rowsOn disk = (disk.body opened.connection.id).rows := by
  simp [rowsOn, there]

theorem rowsOn_of_address {address : Address} (closed : index.opened = none)
    (read : Address.ofText index.path .create = .ok address) (disk : Disk) :
    index.rowsOn disk = address.place.rows disk := by
  simp [rowsOn, closed, read]

/-- Whether a route is none of those that an index needs. -/
structure Away (route : Route) (index : TableIndex) (disk : Disk) : Prop where
  place : ∀ address, Address.ofText index.path .create = .ok address →
    address.place.Away route
  opened : ∀ opened, index.opened = some opened → opened.connection.Away route disk

/-- Whether an index has written a batch: then its table is there, and there is nothing to settle.
-/
def Settled (index : TableIndex) (disk : Disk) : Prop :=
  ∃ connection rows, index.opened = some ⟨connection, true⟩ ∧ connection.Quiet disk ∧
    disk.body connection.id = .table rows

/-- What getting hold of the database comes to: no rows change, and what is spared is spared. -/
structure Acquires (route : Route) (index : TableIndex) (disk : Disk)
    (result : Except Error Connection) (index' : TableIndex) (disk' : Disk) : Prop where
  spares : Disk.Spares route disk disk'
  away : index'.Away route disk'
  rows : index'.rowsOn disk' = index.rowsOn disk
  policy : index'.onDuplicate = index.onDuplicate
  kept : index.Settled disk → index' = index ∧ disk' = disk
  opened : ∀ connection, result = .ok connection →
    ∃ opened, index'.opened = some opened ∧ opened.connection = connection
  failed : ∀ error, result = .error error → ∃ reason, error = .backendOpen index.path reason

theorem not_settled_of_closed (closed : index.opened = none) : ¬index.Settled disk := by
  rintro ⟨connection, rows, there, -⟩
  rw [closed] at there
  cases there

/-- Nothing was done. -/
theorem acquires_self {route : Route} {result : Except Error Connection}
    (away : index.Away route disk)
    (opened : ∀ connection, result = .ok connection →
      ∃ opened, index.opened = some opened ∧ opened.connection = connection)
    (failed : ∀ error, result = .error error → ∃ reason, error = .backendOpen index.path reason) :
    Acquires route index disk result index disk :=
  ⟨.refl _ _, away, rfl, rfl, fun _ => ⟨rfl, rfl⟩, opened, failed⟩

theorem acquires_acquire {route : Route} {result : Except Error Connection}
    (sound : disk.Sound) (away : index.Away route disk)
    (acquired : index.acquire disk = (result, index', disk')) :
    Acquires route index disk result index' disk' := by
  have refused {reason : OpenFault} : ∀ error,
      (.error (.backendOpen index.path reason) : Except Error Connection) = .error error →
        ∃ reason, error = .backendOpen index.path reason := by
    rintro _ ⟨⟩
    exact ⟨reason, rfl⟩
  unfold acquire at acquired
  dsimp only at acquired
  split at acquired
  · rename_i connection ready
    cases acquired
    exact acquires_self away (fun _ same => ⟨_, ready, by cases same; rfl⟩)
      (fun _ same => by cases same)
  · rename_i connection unready
    have unsettled : ¬index.Settled disk := by
      rintro ⟨other, rows, there, -⟩
      rw [unready] at there
      cases there
    split at acquired
    · rename_i fault middle made
      cases acquired
      obtain ⟨spares, away', rows, -⟩ := Connection.makeTable_spec (away.opened _ unready) made
      refine ⟨spares, ⟨away.place, ?_⟩, ?_, rfl, fun settled =>
        absurd settled unsettled, fun _ same => (by cases same), refused⟩
      · intro opened there
        rw [unready] at there
        cases there
        exact away'
      · rw [rowsOn_of_opened unready, rowsOn_of_opened unready, rows]
    · rename_i middle made
      cases acquired
      obtain ⟨spares, away', rows, -⟩ := Connection.makeTable_spec (away.opened _ unready) made
      refine ⟨spares, ⟨away.place, ?_⟩, ?_, rfl, fun settled =>
        absurd settled unsettled, fun _ same => ⟨_, rfl, by cases same; rfl⟩,
        fun _ same => (by cases same)⟩
      · intro opened there
        cases there
        exact away'
      · rw [rowsOn_of_opened unready]
        exact rows
  · rename_i closed
    have unsettled : ¬index.Settled disk := not_settled_of_closed closed
    split at acquired
    · cases acquired
      exact acquires_self away (fun _ same => by cases same) refused
    · rename_i connection middle connected
      obtain ⟨address, read, connects⟩ := Connection.connects_ofText away.place sound connected
      split at acquired
      · rename_i fault last made
        cases acquired
        obtain ⟨spares, -, -, clears⟩ := Connection.makeTable_spec connects.away made
        obtain ⟨spares', rows⟩ := connects.closed last (clears fault rfl)
        refine ⟨(connects.spares.trans spares).trans spares', ⟨away.place, ?_⟩,
          ?_, rfl, fun settled => absurd settled unsettled, fun _ same => (by cases same), refused⟩
        · intro opened there
          rw [closed] at there
          cases there
        · rw [rowsOn_of_address closed read, rowsOn_of_address closed read, rows]
      · rename_i last made
        cases acquired
        obtain ⟨spares, away', rows, -⟩ := Connection.makeTable_spec connects.away made
        refine ⟨connects.spares.trans spares, ⟨away.place, ?_⟩, ?_, rfl,
          fun settled => absurd settled unsettled, fun _ same => ⟨_, rfl, by cases same; rfl⟩,
          fun _ same => (by cases same)⟩
        · intro opened there
          cases there
          exact away'
        · rw [rowsOn_of_address closed read, ← connects.rows]
          exact rows

/-- A place that is none of a database's when it is opened for writing is none when it is opened for
reading. -/
theorem away_of_create {path : String} {route : Route}
    (away : ∀ address, Address.ofText path .create = .ok address → address.place.Away route) :
    ∀ address, Address.ofText path .readWrite = .ok address → address.place.Away route := by
  intro address read
  obtain ⟨writes, same, place⟩ := Address.ofText_create read
  exact place ▸ away writes same

/-- Connecting for reading leads to the database that is opened for writing. -/
theorem Away.connects {route : Route} (away : index.Away route disk) (sound : disk.Sound)
    (connected : Connection.ofText index.path .readWrite disk = .ok (connection, disk')) :
    ∃ address, Address.ofText index.path .create = .ok address ∧
      Connection.Connects route address.place disk connection disk' := by
  obtain ⟨address, read, connects⟩ :=
    Connection.connects_ofText (away_of_create away.place) sound connected
  obtain ⟨writes, same, place⟩ := Address.ofText_create read
  exact ⟨writes, same, place ▸ connects⟩

theorem acquires_acquireExisting {route : Route} {result : Except Error Connection}
    (sound : disk.Sound) (away : index.Away route disk)
    (acquired : index.acquireExisting disk = (result, index', disk')) :
    Acquires route index disk result index' disk' := by
  unfold acquireExisting at acquired
  split at acquired
  · rename_i opened there
    cases acquired
    exact acquires_self away (fun _ same => ⟨opened, there, by cases same; rfl⟩)
      (fun _ same => by cases same)
  · rename_i closed
    split at acquired
    · rename_i reason _
      cases acquired
      exact acquires_self away (fun _ same => by cases same)
        (fun _ same => ⟨reason, by cases same; rfl⟩)
    · rename_i connection middle connected
      cases acquired
      obtain ⟨address, named, connects⟩ := away.connects sound connected
      refine ⟨connects.spares, ⟨away.place, ?_⟩, ?_, rfl,
        fun settled => absurd settled (not_settled_of_closed closed),
        fun _ same => ⟨_, rfl, by cases same; rfl⟩, fun _ same => (by cases same)⟩
      · intro opened there
        cases there
        exact connects.away
      · rw [rowsOn_of_address closed named, ← connects.rows]
        rfl

/-! ### Batches and the rows -/

/-- A batch that is refused was not begun, or was given up. -/
theorem clears_of_insertInto {policy : OnDuplicate} {first : Entry} {others : List Entry}
    {error : Error}
    (refused : insertInto connection policy first others disk = (.error error, disk')) :
    connection.Clears disk disk' := by
  unfold insertInto at refused
  split at refused
  · cases refused
    exact .refl _ _
  · split at refused
    · rename_i read
      cases refused
      exact Connection.clears_rows read
    · rename_i rows settled read
      have clears := Connection.clears_rows read
      dsimp only at refused
      split at refused
      · cases refused
        exact clears
      · rename_i free
        split at refused
        · cases refused
          unfold giveUp
          split
          · exact clears
          · exact clears.trans (Connection.clears_endJournal free)
        · cases refused

/-- A batch that is accepted is added to the rows. -/
theorem settled_of_insertInto {first : Entry} {others : List Entry}
    (ready : index.opened = some ⟨connection, true⟩)
    (added : insertInto connection index.onDuplicate first others disk = (.ok (), disk')) :
    index.Settled disk' ∧
      insertAll index.onDuplicate (first :: others) (index.rowsOn disk) =
        .ok (index.rowsOn disk') := by
  have quiet := quiet_of_insertInto added
  obtain ⟨rows, rows', settled, read, -, inserted, rfl⟩ := insertInto_eq_ok_iff.mp added
  have filled := Disk.body_setBody_self (connection.endJournal settled) connection.id (.table rows')
  refine ⟨⟨connection, rows', ready, quiet, filled⟩, ?_⟩
  rw [rowsOn_of_opened ready, rowsOn_of_opened ready, filled, table_of_rows read]
  exact inserted

/-- What writing a batch comes to: all of it is added to the rows, or nothing. -/
structure Writes (route : Route) (index : TableIndex) (disk : Disk) (entries : List Entry)
    (result : Except Error Unit) (index' : TableIndex) (disk' : Disk) : Prop where
  spares : Disk.Spares route disk disk'
  away : index'.Away route disk'
  settled : index.Settled disk → index'.Settled disk'
  done : result = .ok () →
    insertAll index.onDuplicate entries (index.rowsOn disk) = .ok (index'.rowsOn disk') ∧
      (entries ≠ [] → index'.Settled disk')
  failed : ∀ error, result = .error error → index'.rowsOn disk' = index.rowsOn disk

theorem writes_write {route : Route} {entries : List Entry} {result : Except Error Unit}
    (sound : disk.Sound) (away : index.Away route disk)
    (wrote : index.write entries disk = (result, index', disk')) :
    Writes route index disk entries result index' disk' := by
  unfold write at wrote
  rcases acquired : index.acquire disk with ⟨outcome, index₁, middle⟩
  have acquires := acquires_acquire sound away acquired
  have settled : index.Settled disk → index₁.Settled middle := by
    intro settled
    obtain ⟨rfl, rfl⟩ := acquires.kept settled
    exact settled
  rw [acquired] at wrote
  cases outcome with
  | error error =>
      cases wrote
      exact ⟨acquires.spares, acquires.away, settled, fun same => (by cases same),
        fun _ _ => acquires.rows⟩
  | ok connection =>
      have ready := (ready_of_acquire acquired).1
      have own := acquires.away.opened _ ready
      cases entries with
      | nil =>
          cases wrote
          refine ⟨acquires.spares, acquires.away, settled, fun _ => ⟨?_, fun some => absurd rfl some⟩,
            fun _ same => (by cases same)⟩
          rw [acquires.rows]
          rfl
      | cons first others =>
          rcases added : insertInto connection index₁.onDuplicate first others middle with
            ⟨inserted, last⟩
          simp only [added] at wrote
          cases wrote
          cases result with
          | error error =>
              have clears := clears_of_insertInto added
              refine ⟨acquires.spares.trans (clears.spares own.beside),
                ⟨acquires.away.place, fun opened there => clears.away (acquires.away.opened _ there)⟩,
                ?_, fun same => (by cases same), ?_⟩
              · intro before
                obtain ⟨other, rows, there, quiet, filled⟩ := settled before
                rw [ready] at there
                cases there
                exact ⟨connection, rows, ready, quiet.of_clears clears, by rw [clears.body_eq, filled]⟩
              · intro _ _
                rw [← acquires.rows, rowsOn_of_opened ready, rowsOn_of_opened ready, clears.body_eq]
          | ok done =>
              obtain ⟨after, inserted⟩ := settled_of_insertInto ready added
              obtain ⟨rows, rows', cleared, read, free, -, rfl⟩ := insertInto_eq_ok_iff.mp added
              have clears := (Connection.clears_rows read).trans (Connection.clears_endJournal free)
              refine ⟨(acquires.spares.trans (clears.spares own.beside)).trans
                  (Disk.spares_setBody (clears.away own).other _),
                ⟨acquires.away.place, fun opened there =>
                  (clears.away (acquires.away.opened _ there)).setBody _ _⟩,
                fun _ => after, fun _ => ⟨?_, fun _ => after⟩, fun _ same => (by cases same)⟩
              rw [← acquires.policy, ← acquires.rows]
              exact inserted

/-- Reading a table that was written leaves everything as it is. -/
theorem lookup_of_settled (settled : index.Settled disk) (key : String) :
    index.lookup key disk = (spanOf? key (index.rowsOn disk), index, disk) := by
  obtain ⟨connection, rows, there, quiet, filled⟩ := settled
  simp [lookup, reading, acquireExisting_of_opened there, quiet.rows_eq filled,
    rowsOn_of_opened there, filled, Body.rows]

/-- What looking up a key comes to: what the rows have under it, or no table. -/
theorem lookup_spec {route : Route} {key : String} {result : Except Error (Option Span)}
    (sound : disk.Sound) (away : index.Away route disk)
    (read : index.lookup key disk = (result, index', disk')) :
    Disk.Spares route disk disk' ∧ index'.Away route disk' ∧
      index'.rowsOn disk' = index.rowsOn disk ∧
      (result = spanOf? key (index.rowsOn disk) ∨
        (∃ reason, result = .error (.backendOpen index.path reason)) ∨
        ∃ fault, result = .error (.database fault)) := by
  unfold lookup reading at read
  rcases acquired : index.acquireExisting disk with ⟨outcome, index₁, middle⟩
  have acquires := acquires_acquireExisting sound away acquired
  rw [acquired] at read
  cases outcome with
  | error error =>
      cases read
      obtain ⟨reason, rfl⟩ := acquires.failed error rfl
      exact ⟨acquires.spares, acquires.away, acquires.rows, .inr (.inl ⟨reason, rfl⟩)⟩
  | ok connection =>
      obtain ⟨opened, there, rfl⟩ := acquires.opened connection rfl
      rcases got : opened.connection.rows middle with ⟨rows, last⟩
      have clears := Connection.clears_rows got
      have own := acquires.away.opened _ there
      have same : index₁.rowsOn last = index.rowsOn disk := by
        rw [← acquires.rows, rowsOn_of_opened there, rowsOn_of_opened there, clears.body_eq]
      have spares := acquires.spares.trans (clears.spares own.beside)
      have away' : index₁.Away route last :=
        ⟨acquires.away.place, fun _ there => clears.away (acquires.away.opened _ there)⟩
      simp only [got] at read
      cases rows with
      | error fault =>
          cases read
          exact ⟨spares, away', same, .inr (.inr ⟨fault, rfl⟩)⟩
      | ok rows =>
          cases read
          refine ⟨spares, away', same, .inl ?_⟩
          rw [← acquires.rows, rowsOn_of_opened there, table_of_rows got]
          rfl

end RecordStore.TableIndex
