import RecordStore.Proofs.Index.Table
import RecordStore.Proofs.Sharing
import Mathlib

/-!
Handles on one table.

A database that was made at a place stays there, and whoever opens it, for reading or for
writing, gets the same connection and leaves the disk as it is (`Connection.Stands`). So the
handles on a path differ in whether they have it open and in their policy, of which only the
policy is seen: they follow a ledger of the batches that were written (`TableIndex.Follows`).
-/

namespace RecordStore

/-! ### A database that stays where it is -/

namespace Connection

variable {connection : Connection} {disk made : Disk} {file : String} {place : Route}

/-- Names that lead to a place through folders can be followed as text as long as these stay. -/
theorem placeFrom?_of_walk {after : Disk} {start route : Route} {names : List String}
    (leads : disk.walk start names = .ok route)
    (follows : placeFrom? disk start names = some place)
    (folders : ∀ route, disk.HasFolder route → after.HasFolder route) :
    placeFrom? after start names = some place := by
  induction names generalizing start with
  | nil => exact follows
  | cons name names ih =>
      unfold placeFrom? at follows ⊢
      unfold Disk.walk at leads
      split at leads
      · cases leads
      · rename_i next entered
        unfold Disk.enter at entered
        split at entered
        · cases entered
        · rename_i node there
          split at entered
          · rename_i folder
            split at follows
            · rename_i stay
              rw [if_pos stay] at entered ⊢
              cases entered
              exact ih leads follows
            · rename_i move
              rw [if_neg move] at entered ⊢
              split at follows
              · rename_i up
                rw [if_pos up] at entered ⊢
                cases entered
                exact ih leads follows
              · rename_i down
                rw [if_neg down] at entered ⊢
                split at entered
                · cases entered
                · rename_i short
                  cases entered
                  split at follows
                  · rename_i fits
                    have again : canFollow after start name = true := by
                      obtain ⟨node', there', folder'⟩ := folders start ⟨node, there, folder⟩
                      simp only [canFollow, Bool.and_eq_true, decide_eq_true_eq] at fits ⊢
                      refine ⟨fits.1, ?_⟩
                      rw [there']
                      simp [folder', Nat.le_of_not_lt short]
                    rw [if_pos again]
                    exact ih leads follows
                  · cases follows
          · cases entered

/-- A database at a place that a path leads to, with nothing left to settle and room for a
journal. -/
structure Stands (file : String) (place : Route) (connection : Connection) (disk : Disk) :
    Prop where
  shape : connection = ⟨connection.id, some place, true, none⟩
  follows : placeFrom? disk [] (file.splitOn "/") = some place
  there : disk.node? place = some (.file connection.id)
  quiet : connection.Quiet disk
  short : ¬255 < ((journal place).getLast?.getD "").utf8ByteSize

theorem placeFrom?_setBody (id : Nat) (body : Body) (start : Route) (names : List String) :
    placeFrom? (disk.setBody id body) start names = placeFrom? disk start names := by
  induction names generalizing start with
  | nil => rfl
  | cons name names ih =>
      have same : canFollow (disk.setBody id body) start name = canFollow disk start name := rfl
      simp only [placeFrom?, same, ih]

theorem Stands.setBody (stands : Stands file place connection disk) (body : Body) :
    Stands file place connection (disk.setBody connection.id body) where
  shape := stands.shape
  follows := (placeFrom?_setBody _ _ _ _).trans stands.follows
  there := stands.there
  quiet := ⟨stands.quiet.journal, stands.quiet.writeAhead, stands.quiet.home⟩
  short := stands.short

/-- Whoever connects gets the connection that there was. -/
theorem Stands.toAddress (stands : Stands file place connection disk) (access : Access)
    (writes : access ≠ .readOnly) :
    toAddress ⟨.file file, access, false⟩ disk = .ok (connection, disk) := by
  simp only [Connection.toAddress, toFile, stands.follows, openAt, stands.there]
  rw [stands.shape]
  simp [writes]

theorem Stands.changeFault?_eq_none (stands : Stands file place connection disk)
    {rows : TableRows} (filled : disk.body connection.id = .table rows) :
    connection.changeFault? disk = none := by
  have home : connection.home = some place := by rw [stands.shape]
  have writable : connection.writable = true := by rw [stands.shape]
  have unblank : connection.isBlank disk = false := by simp [isBlank, filled]
  simp [changeFault?, home, writable, unblank, stands.there, stands.quiet.journal place home,
    Nat.le_of_not_lt stands.short]

theorem Stands.makeTable_eq (stands : Stands file place connection disk) {rows : TableRows}
    (filled : disk.body connection.id = .table rows) :
    connection.makeTable disk = (.ok (), disk) := by
  simp [makeTable, stands.quiet.rows_eq filled]

theorem Stands.close_eq (stands : Stands file place connection disk) (other : Disk) :
    connection.close other = other := by
  rw [stands.shape]
  rfl

/-- Where nothing is left to settle, there is no journal to take away. -/
theorem Quiet.endJournal_eq (quiet : connection.Quiet disk) :
    connection.endJournal disk = disk := by
  unfold endJournal
  split
  · rfl
  · rename_i home found
    have absent := quiet.journal home found
    rw [Disk.node?, if_neg (journal_ne_nil home), Option.or_none] at absent
    rw [Disk.eraseNode, Assoc.erase_of_find?_eq_none absent]

/-- Where nothing is, nothing can be read. -/
theorem toAddress_of_absent {access : Access} {immutable : Bool} (reads : access ≠ .create)
    (routed : disk.route file = .ok place) (absent : disk.node? place = none) :
    toAddress ⟨.file file, access, immutable⟩ disk = .error .cannotOpen := by
  simp only [toAddress, toFile]
  split
  · rfl
  · rename_i route follows
    obtain rfl : route = place :=
      (Disk.eq_follow_of_placeFrom? follows).trans (Disk.eq_placeOf_of_route routed).symm
    simp [openAt, absent, reads]

/-- Connecting to a free place makes an empty file there. -/
theorem eq_createAt_of_toAddress {access : Access} {immutable : Bool} {fresh : Disk}
    (routed : disk.route file = .ok place) (absent : disk.node? place = none)
    (connected : toAddress ⟨.file file, access, immutable⟩ disk = .ok (connection, fresh)) :
    placeFrom? disk [] (file.splitOn "/") = some place ∧ access = .create ∧
      fresh = (disk.createAt place (.bytes [])).2 ∧
      connection = if immutable then ⟨disk.next, none, false, none⟩
        else ⟨disk.next, some place, true, none⟩ := by
  simp only [toAddress, toFile] at connected
  split at connected
  · cases connected
  · rename_i route follows
    obtain rfl : route = place :=
      (Disk.eq_follow_of_placeFrom? follows).trans (Disk.eq_placeOf_of_route routed).symm
    simp only [openAt, absent] at connected
    split at connected
    · cases connected
    · rename_i id middle opened
      split at opened
      · rename_i allowed
        obtain ⟨rfl, -⟩ := allowed
        cases opened
        simp only [Except.ok.injEq, Prod.mk.injEq] at connected
        obtain ⟨rfl, rfl⟩ := connected
        exact ⟨follows, rfl, rfl, rfl⟩
      · cases opened

/-- Making the table in an empty file is a change of it, behind settling what stands beside. -/
theorem of_makeTable_of_blank (blank : disk.body connection.id = .bytes [])
    (makes : connection.makeTable disk = (.ok (), made)) :
    ∃ settled, connection.settle disk = (.ok (), settled) ∧
      connection.changeFault? settled = none ∧
      made = (connection.endJournal settled).setBody connection.id (.table []) := by
  unfold makeTable at makes
  split at makes
  · rename_i rows settled read
    rcases rows_eq_iff.mp read with ⟨fault, -, failed⟩ | ⟨-, same⟩
    · cases failed
    · rw [blank] at same
      cases same
  · rename_i settled read
    rcases rows_eq_iff.mp read with ⟨fault, settles, failed⟩ | ⟨settles, -⟩
    · cases failed
      exact absurd settles settle_ne_noTable
    · unfold change at makes
      split at makes
      · cases makes
      · rename_i free
        cases makes
        exact ⟨settled, settles, free, rfl⟩
  · cases makes

/-- Where a change is possible, its journal can have a name. -/
theorem short_of_changeFault?_eq_none (free : connection.changeFault? disk = none)
    (home : connection.home = some place) :
    ¬255 < ((journal place).getLast?.getD "").utf8ByteSize := by
  intro long
  unfold changeFault? at free
  rw [home] at free
  simp only [long, true_or, if_true] at free
  repeat' split at free
  all_goals cases free

/-- A change leaves a database standing at the place that its path leads to. -/
theorem stands_of_change (shape : connection = ⟨connection.id, some place, true, none⟩)
    (follows : placeFrom? (connection.endJournal disk) [] (file.splitOn "/") = some place)
    (there : (connection.endJournal disk).node? place = some (.file connection.id))
    (free : connection.changeFault? disk = none)
    (clear : ∀ home, connection.home = some home →
      ∀ node, disk.node? (writeAhead home) = some node → ∃ id, node = .file id) :
    Stands file place connection
      ((connection.endJournal disk).setBody connection.id (.table [])) where
  shape := shape
  follows := (placeFrom?_setBody _ _ _ _).trans follows
  there := there
  quiet := quiet_of_change [] free clear
  short := short_of_changeFault?_eq_none free (by rw [shape])

/-- A database that is made at a free place stays there. -/
theorem stands_of_makeTable {access : Access} {immutable : Bool} {fresh : Disk}
    (routed : disk.route file = .ok place) (absent : disk.node? place = none)
    (connected : toAddress ⟨.file file, access, immutable⟩ disk = .ok (connection, fresh))
    (makes : connection.makeTable fresh = (.ok (), made)) :
    Stands file place connection made ∧ made.setBody connection.id (.table []) = made ∧
      access = .create ∧ immutable = false := by
  obtain ⟨follows, rfl, rfl, shape⟩ := eq_createAt_of_toAddress routed absent connected
  have own : connection.id = disk.next := by
    rw [shape]
    split <;> rfl
  have blank : (disk.createAt place (.bytes [])).2.body connection.id = .bytes [] := by
    rw [own]
    exact (Disk.body_createFile disk (.bytes []) disk.next).trans (if_pos rfl)
  obtain ⟨settled, settles, free, rfl⟩ := of_makeTable_of_blank blank makes
  cases immutable with
  | true =>
      rw [shape] at free
      cases free
  | false =>
      have shape : connection = ⟨connection.id, some place, true, none⟩ := by
        rw [own]
        exact shape
      have away : ∀ home, connection.home = some home →
          place ≠ journal home ∧ place ≠ writeAhead home := by
        intro home found
        rw [shape] at found
        cases found
        exact ⟨(journal_ne_self place).symm, (writeAhead_ne_self place).symm⟩
      have created : Disk.Spares place disk (disk.createAt place (.bytes [])).2 :=
        Disk.spares_createAt absent
      have cleared := ((clears_settle settles).trans (clears_endJournal free)).spares away
      have follows : placeFrom? (connection.endJournal settled) [] (file.splitOn "/") =
          some place := by
        unfold Disk.route at routed
        split at routed
        · cases routed
        · exact placeFrom?_of_walk routed follows fun route there =>
            cleared.folders route (created.folders route there)
      have there : (connection.endJournal settled).node? place = some (.file connection.id) := by
        apply cleared.node
        rw [Disk.node?_createAt, if_pos rfl, own]
      refine ⟨stands_of_change shape follows there free ?_, Disk.setBody_setBody _ _ _ _, rfl, rfl⟩
      intro home found node stands
      exact noFolder_of_settle found settles stands

end Connection

/-! ### Batches behind what was written -/

/-- The first entry whose key is taken, by what was written or by an entry before it. -/
def firstTaken? : (taken : List String) → List Entry → Option Entry
  | _, [] => none
  | taken, entry :: entries =>
    if entry.key ∈ taken then some entry else firstTaken? (entry.key :: taken) entries

namespace TableIndex

variable {policy : OnDuplicate} {entries : List Entry} {rows rows' : TableRows}

/-- How indexes in a table at a path fail. -/
def manner {ι : Type} (path : String) (policy : ι → OnDuplicate) : Manner ι where
  absent := .backendOpen path (.database .cannotOpen)
  refusal? handle written entries :=
    match policy handle with
    | .reject =>
      (firstTaken? (written.map Entry.key) entries).map fun entry => .duplicateKey entry.key
    | .overwrite => none

/-- A batch that is added could also have replaced what it did not find. -/
theorem insertAll_overwrite (inserted : insertAll policy entries rows = .ok rows') :
    insertAll .overwrite entries rows = .ok rows' := by
  induction entries generalizing rows with
  | nil => exact inserted
  | cons entry entries ih =>
      obtain ⟨rows₁, first⟩ := insertAll_ok_insert inserted
      have room := (insert_eq_ok_iff.mp first).1
      have put : insert .overwrite entry rows = .ok (Assoc.put entry.key entry.row rows) :=
        insert_eq_ok_iff.mpr ⟨room, fun rejects => (by cases rejects), rfl⟩
      simp only [insertAll, put]
      exact ih (insertAll_cons_eq_ok inserted)

/-- Where keys are not replaced, a batch whose entries have room is refused for the first key that
is taken. -/
theorem insertAll_reject {taken : List String}
    (room : ∀ entry ∈ entries, overflow? entry = none)
    (free : ∀ key, Assoc.find? key rows = none ↔ key ∉ taken) :
    (∃ entry, firstTaken? taken entries = some entry ∧
        insertAll .reject entries rows = .error (.duplicateKey entry.key)) ∨
      (firstTaken? taken entries = none ∧ ∃ rows', insertAll .reject entries rows = .ok rows') := by
  induction entries generalizing rows taken with
  | nil => exact .inr ⟨rfl, rows, rfl⟩
  | cons entry entries ih =>
      obtain ⟨first, others⟩ := List.forall_mem_cons.mp room
      by_cases inside : entry.key ∈ taken
      · have held : Assoc.find? entry.key rows ≠ none := fun none => (free _).mp none inside
        have there : Assoc.has entry.key rows := Option.isSome_iff_ne_none.mpr held
        refine .inl ⟨entry, if_pos inside, ?_⟩
        simp [insertAll, insert, first, there]
      · have put : insert .reject entry rows = .ok (Assoc.put entry.key entry.row rows) :=
          insert_eq_ok_iff.mpr ⟨first, fun _ => (free entry.key).mpr inside, rfl⟩
        have free' (key : String) :
            Assoc.find? key (Assoc.put entry.key entry.row rows) = none ↔
              key ∉ entry.key :: taken := by
          rw [Assoc.find?_put, List.mem_cons, not_or, ← free key]
          by_cases own : entry.key = key
          · simp [own]
          · simp [own, Ne.symm own]
        simp only [insertAll, put, firstTaken?, if_neg inside]
        exact ih others free'

/-- A key has no row just when no entry that was written has it. -/
theorem find?_eq_none_iff_of_written {written : List Entry}
    (filled : insertAll policy written [] = .ok rows) (key : String) :
    Assoc.find? key rows = none ↔ lastOf? key written = none := by
  rw [find?_insertAll filled]
  cases lastOf? key written with
  | none => simp [Assoc.find?]
  | some entry => simp

/-- A batch with room is refused behind what was written where a ledger refuses it, and otherwise
added to it. -/
theorem insertAll_of_written {ι : Type} (path : String) (policies : ι → OnDuplicate) (handle : ι)
    {written : List Entry} (filled : insertAll .overwrite written [] = .ok rows)
    (room : ∀ entry ∈ entries, overflow? entry = none) :
    (∃ error, (manner path policies).refusal? handle written entries = some error ∧
        insertAll (policies handle) entries rows = .error error) ∨
      ((manner path policies).refusal? handle written entries = none ∧
        ∃ rows', insertAll (policies handle) entries rows = .ok rows' ∧
          insertAll .overwrite (written ++ entries) [] = .ok rows') := by
  have added {policy : OnDuplicate} {rows' : TableRows}
      (inserted : insertAll policy entries rows = .ok rows') :
      insertAll .overwrite (written ++ entries) [] = .ok rows' := by
    rw [insertAll_append, filled]
    exact insertAll_overwrite inserted
  cases own : policies handle with
  | overwrite =>
      obtain ⟨rows', inserted⟩ : ∃ rows', insertAll .overwrite entries rows = .ok rows' :=
        exists_insertAll_iff.mpr ⟨room, fun rejects => by cases rejects⟩
      exact .inr ⟨by simp [manner, own], rows', inserted, added inserted⟩
  | reject =>
      have free (key : String) : Assoc.find? key rows = none ↔ key ∉ written.map Entry.key := by
        rw [find?_eq_none_iff_of_written filled, lastOf?_eq_none_iff]
        simp
      rcases insertAll_reject room free with ⟨entry, taken, refused⟩ | ⟨taken, rows', inserted⟩
      · exact .inl ⟨_, by simp [manner, own, taken], refused⟩
      · exact .inr ⟨by simp [manner, own, taken], rows', inserted, added inserted⟩

theorem nodup_keys_insertAll (distinct : (Assoc.keys rows).Nodup)
    (inserted : insertAll policy entries rows = .ok rows') : (Assoc.keys rows').Nodup := by
  induction entries generalizing rows with
  | nil =>
      cases inserted
      exact distinct
  | cons entry entries ih =>
      exact ih (Assoc.nodup_keys_put distinct _ _) (insertAll_cons_eq_ok inserted)

/-- The rows that were written are as many as they have different keys. -/
theorem length_of_written {written : List Entry}
    (filled : insertAll policy written [] = .ok rows) :
    rows.length = (written.map Entry.key).dedup.length := by
  have empty : (Assoc.keys ([] : TableRows)).Nodup := List.nodup_nil
  exact Assoc.length_eq_of_keys (nodup_keys_insertAll empty filled)
    (find?_eq_none_iff_of_written filled)

/-- Under a key stands the span of the last entry that was written with it. -/
theorem spanOf?_of_written {written : List Entry}
    (filled : insertAll policy written [] = .ok rows) (key : String) :
    spanOf? key rows = .ok ((lastOf? key written).map Entry.span) := by
  rw [spanOf?_insertAll filled]
  cases last : lastOf? key written with
  | none => exact readAfter_of_none last _
  | some entry => exact readAfter_of_some last _

/-! ### Handles on a database that stands -/

variable {index : TableIndex} {connection : Connection} {path file : String} {place : Route}
  {disk made : Disk}

/-- A path that leads to a database that stands, for reading and for writing. -/
structure LeadsTo (path file : String) (place : Route) (connection : Connection) (disk : Disk) :
    Prop where
  reads : Address.ofText path .readWrite = .ok ⟨.file file, .readWrite, false⟩
  writes : Address.ofText path .create = .ok ⟨.file file, .create, false⟩
  stands : connection.Stands file place disk

/-- A handle on a path has nothing open but the connection that all share. -/
structure Shares (path : String) (policy : OnDuplicate) (connection : Connection)
    (index : TableIndex) : Prop where
  path : index.path = path
  policy : index.onDuplicate = policy
  opened : ∀ opened, index.opened = some opened → opened.connection = connection

theorem LeadsTo.setBody (leads : LeadsTo path file place connection disk) (body : Body) :
    LeadsTo path file place connection (disk.setBody connection.id body) :=
  ⟨leads.reads, leads.writes, leads.stands.setBody body⟩

theorem shares_ofPath (path : String) (policy : OnDuplicate) (connection : Connection) :
    (ofPath path policy).Shares path policy connection :=
  ⟨rfl, rfl, fun _ none => by cases none⟩

theorem shares_ready (path : String) (policy : OnDuplicate) (connection : Connection) :
    Shares path policy connection ⟨path, policy, some ⟨connection, true⟩⟩ := by
  refine ⟨rfl, rfl, ?_⟩
  rintro _ ⟨⟩
  rfl

theorem Shares.acquire_eq (shares : index.Shares path policy connection)
    (leads : LeadsTo path file place connection disk)
    (filled : disk.body connection.id = .table rows) :
    index.acquire disk = (.ok connection, ⟨path, policy, some ⟨connection, true⟩⟩, disk) := by
  obtain ⟨_, _, opened⟩ := index
  obtain ⟨rfl, rfl, own⟩ := shares
  have connects := leads.stands.toAddress .create (by decide)
  have ready := leads.stands.makeTable_eq filled
  rcases opened with _ | ⟨other, _ | _⟩
  · simp [acquire, Connection.ofText, leads.writes, connects, ready, Except.mapError]
  · obtain rfl : other = connection := own _ rfl
    simp [acquire, ready]
  · obtain rfl : other = connection := own _ rfl
    rfl

theorem Shares.prepare_eq (shares : index.Shares path policy connection)
    (leads : LeadsTo path file place connection disk)
    (filled : disk.body connection.id = .table rows) :
    operations.prepare index disk =
      (.ok (), ⟨path, policy, some ⟨connection, true⟩⟩, disk) := by
  simp [operations, shares.acquire_eq leads filled, Except.map]

theorem Shares.acquireExisting_eq (shares : index.Shares path policy connection)
    (leads : LeadsTo path file place connection disk) :
    ∃ index', index.acquireExisting disk = (.ok connection, index', disk) ∧
      index'.Shares path policy connection := by
  obtain ⟨_, _, opened⟩ := index
  obtain ⟨rfl, rfl, own⟩ := shares
  have connects := leads.stands.toAddress .readWrite (by decide)
  cases opened with
  | none =>
      refine ⟨⟨_, _, some ⟨connection, false⟩⟩, ?_, rfl, rfl, ?_⟩
      · simp [acquireExisting, Connection.ofText, leads.reads, connects, Except.mapError]
      · rintro _ ⟨⟩
        rfl
  | some opened => exact ⟨_, by simp [acquireExisting, own opened rfl], rfl, rfl, own⟩

/-- Reading gives what the rows say, and changes nothing on the disk. -/
theorem Shares.reading_eq {α : Type} (shares : index.Shares path policy connection)
    (leads : LeadsTo path file place connection disk)
    (filled : disk.body connection.id = .table rows) (read : TableRows → Except Error α) :
    ∃ index', reading read index disk = (read rows, index', disk) ∧
      index'.Shares path policy connection := by
  obtain ⟨index', acquired, shares'⟩ := shares.acquireExisting_eq leads
  exact ⟨index', by simp [reading, acquired, leads.stands.quiet.rows_eq filled], shares'⟩

theorem Shares.close_eq (shares : index.Shares path policy connection)
    (leads : LeadsTo path file place connection disk) :
    index.close disk = (ofPath path policy, disk) := by
  obtain ⟨_, _, opened⟩ := index
  obtain ⟨rfl, rfl, own⟩ := shares
  cases opened with
  | none => rfl
  | some opened => simp [close, ofPath, own opened rfl, leads.stands.close_eq]

/-- A batch with room is added to the rows, or refused and nothing changes. -/
theorem Shares.write_eq (shares : index.Shares path policy connection)
    (leads : LeadsTo path file place connection disk) (rows : TableRows)
    (room : ∀ entry ∈ entries, overflow? entry = none) :
    index.write entries (disk.setBody connection.id (.table rows)) =
      match insertAll policy entries rows with
      | .error error => (.error error, ⟨path, policy, some ⟨connection, true⟩⟩,
          disk.setBody connection.id (.table rows))
      | .ok rows' => (.ok (), ⟨path, policy, some ⟨connection, true⟩⟩,
          disk.setBody connection.id (.table rows')) := by
  have leads := leads.setBody (.table rows)
  have filled := Disk.body_setBody_self disk connection.id (.table rows)
  rw [write, shares.acquire_eq leads filled]
  cases entries with
  | nil => rfl
  | cons first others =>
      have read := leads.stands.quiet.rows_eq filled
      have free := leads.stands.changeFault?_eq_none filled
      have still := leads.stands.quiet.endJournal_eq
      have fits := room first List.mem_cons_self
      cases inserted : insertAll policy (first :: others) rows with
      | ok rows' => simp [insertInto, fits, read, free, inserted, Connection.change, still]
      | error error =>
          have given : giveUp connection (insert policy first rows)
              (disk.setBody connection.id (.table rows)) =
                disk.setBody connection.id (.table rows) := by
            unfold giveUp
            split
            · rfl
            · exact still
          simp [insertInto, fits, read, free, inserted, given]

/-! ### Handles and ledgers -/

section Ledger

variable {ι : Type} {policies : ι → OnDuplicate} {written : List Entry}

/-- Whether all numbers of a request have room in a row. -/
def Fits (request : Request ι) : Prop :=
  ∀ entry ∈ request.entries, entry.offset ≤ maxValue ∧ entry.length ≤ maxValue

theorem overflow?_eq_none {entry : Entry} (offset : entry.offset ≤ maxValue)
    (length : entry.length ≤ maxValue) : overflow? entry = none := by
  simp [overflow?, Nat.not_lt.mpr offset, Nat.not_lt.mpr length]

/-- Where a database stands, a handle answers as the ledger of what was written. -/
theorem Shares.answer_eq {request : Request ι}
    (shares : index.Shares path (policies request.handle) connection)
    (leads : LeadsTo path file place connection made)
    (filled : insertAll .overwrite written [] = .ok rows) (fits : Fits request) :
    ∃ index' rows',
      operations.answer request index (made.setBody connection.id (.table rows)) =
        ((Ledger.perform (manner path policies) request ⟨true, written⟩).1, index',
          made.setBody connection.id (.table rows')) ∧
      index'.Shares path (policies request.handle) connection ∧
      insertAll .overwrite (Ledger.perform (manner path policies) request ⟨true, written⟩).2.written
        [] = .ok rows' := by
  have here := leads.setBody (.table rows)
  have stored := Disk.body_setBody_self made connection.id (.table rows)
  cases request with
  | write handle entries =>
      have room : ∀ entry ∈ entries, overflow? entry = none := by
        intro entry inside
        obtain ⟨offset, length⟩ := fits entry inside
        exact overflow?_eq_none offset length
      have wrote := shares.write_eq leads rows room
      rcases insertAll_of_written path policies handle filled room with
        ⟨error, refused, failed⟩ | ⟨allowed, rows', inserted, added⟩
      · simp only [Request.handle, failed] at wrote
        refine ⟨_, rows, ?_, shares_ready _ _ _, by simpa [Ledger.perform, refused] using filled⟩
        simp [Operations.answer, operations, wrote, Ledger.perform, refused, Request.handle]
      · simp only [Request.handle, inserted] at wrote
        refine ⟨_, rows', ?_, shares_ready _ _ _, by simpa [Ledger.perform, allowed] using added⟩
        simp [Operations.answer, operations, wrote, Ledger.perform, allowed, Request.handle]
  | lookup handle key =>
      obtain ⟨index', read, shares'⟩ := shares.reading_eq here stored (spanOf? key)
      refine ⟨index', rows, ?_, shares', filled⟩
      simp [Operations.answer, operations, lookup, read, spanOf?_of_written filled, Ledger.perform,
        Ledger.reading, Ledger.spanOf?]
  | size handle =>
      obtain ⟨index', read, shares'⟩ :=
        shares.reading_eq here stored fun rows => .ok rows.length
      refine ⟨index', rows, ?_, shares', filled⟩
      simp [Operations.answer, operations, size, read, length_of_written filled, Ledger.perform,
        Ledger.reading, Ledger.size]
  | close handle =>
      refine ⟨_, rows, ?_, shares_ofPath _ _ _, filled⟩
      simp [Operations.answer, operations, shares.close_eq here, Ledger.perform]
  | reopen handle eager =>
      have closed : operations.close index _ = _ := shares.close_eq here
      have renewed : operations.renew (ofPath path (policies handle)) =
        ofPath path (policies handle) := rfl
      have fresh := shares_ofPath path (policies handle) connection
      cases eager with
      | false =>
          refine ⟨_, rows, ?_, fresh, filled⟩
          simp [Operations.answer, closed, Request.handle, renewed, Ledger.perform]
      | true =>
          refine ⟨_, rows, ?_, shares_ready _ _ _, filled⟩
          simp [Operations.answer, closed, Request.handle, renewed, fresh.prepare_eq here stored,
            Ledger.perform]

/-- Opening a path makes a database where there was none. -/
structure Founds (path file : String) (place : Route) (connection : Connection)
    (disk made : Disk) : Prop where
  leads : LeadsTo path file place connection made
  missing : ∀ policy, (ofPath path policy).acquireExisting disk =
    (.error (.backendOpen path (.database .cannotOpen)), ofPath path policy, disk)
  opens : ∀ policy, (ofPath path policy).acquire disk =
    (.ok connection, ⟨path, policy, some ⟨connection, true⟩⟩,
      made.setBody connection.id (.table []))

/-- A path to a free place founds a database if one can be made there at all. -/
theorem exists_founds
    (leads : Address.ofText path .readWrite = .ok ⟨.file file, .readWrite, false⟩)
    (routed : disk.route file = .ok place) (absent : disk.node? place = none)
    (opens : (operations.prepare (ofPath path .reject) disk).1 = .ok ()) :
    ∃ connection made, Founds path file place connection disk made := by
  obtain ⟨⟨spot, access, immutable⟩, writes, rfl⟩ := Address.ofText_create leads
  have missing : Connection.toAddress ⟨.file file, .readWrite, false⟩ disk = .error .cannotOpen :=
    Connection.toAddress_of_absent (by decide) routed absent
  cases connected : Connection.toAddress ⟨.file file, access, immutable⟩ disk with
  | error fault =>
      simp [operations, acquire, ofPath, Connection.ofText, writes, connected, Except.mapError,
        Except.map] at opens
  | ok pair =>
      obtain ⟨connection, fresh⟩ := pair
      rcases makes : connection.makeTable fresh with ⟨result, made⟩
      cases result with
      | error fault =>
          simp [operations, acquire, ofPath, Connection.ofText, writes, connected, makes,
            Except.mapError, Except.map] at opens
      | ok done =>
          obtain ⟨stands, blank, rfl, rfl⟩ :=
            Connection.stands_of_makeTable routed absent connected makes
          refine ⟨connection, made, ⟨leads, writes, stands⟩, fun policy => ?_, fun policy => ?_⟩
          · simp [acquireExisting, ofPath, Connection.ofText, leads, missing, Except.mapError]
          · simp [acquire, ofPath, Connection.ofText, writes, connected, makes, blank,
              Except.mapError]

/-- Where no database is, a request that makes none finds none. -/
theorem Founds.answer_of_absent (founds : Founds path file place connection disk made)
    (policies : ι → OnDuplicate) {request : Request ι} (still : request.creates = false) :
    operations.answer request (ofPath path (policies request.handle)) disk =
        ((Ledger.perform (manner path policies) request .blank).1,
          ofPath path (policies request.handle), disk) ∧
      (Ledger.perform (manner path policies) request .blank).2 = .blank := by
  cases request with
  | write => cases still
  | lookup | size =>
      refine ⟨?_, rfl⟩
      simp [Operations.answer, operations, lookup, size, reading, founds.missing, Ledger.perform,
        Ledger.reading, Ledger.blank, manner]
  | close => exact ⟨rfl, rfl⟩
  | reopen handle eager =>
      obtain rfl : eager = false := still
      exact ⟨rfl, rfl⟩

/-- Where no database is, a request that makes one is answered as by an open handle on an empty
one. -/
theorem Founds.answer_of_creates (founds : Founds path file place connection disk made)
    {request : Request ι} (creates : request.creates = true) {policy : OnDuplicate} :
    operations.answer request (ofPath path policy) disk =
      operations.answer request ⟨path, policy, some ⟨connection, true⟩⟩
        (made.setBody connection.id (.table [])) := by
  have ready := shares_ready path policy connection
  cases request with
  | write handle entries =>
      have wrote : write entries (ofPath path policy) disk =
          write entries ⟨path, policy, some ⟨connection, true⟩⟩
            (made.setBody connection.id (.table [])) := by
        rw [write, write, founds.opens, acquire_of_ready rfl]
      simp [Operations.answer, operations, wrote]
  | lookup | size | close => cases creates
  | reopen handle eager =>
      obtain rfl : eager = true := creates
      have here := founds.leads.setBody (.table [])
      have stored := Disk.body_setBody_self made connection.id (.table [])
      have closed := ready.close_eq here
      have prepared : operations.prepare (ofPath path policy) disk =
          operations.prepare (ofPath path policy) (made.setBody connection.id (.table [])) := by
        rw [(shares_ofPath path policy connection).prepare_eq here stored]
        simp [operations, founds.opens, Except.map]
      have before : operations.close (ofPath path policy) disk = (ofPath path policy, disk) := rfl
      have after : operations.close ⟨path, policy, some ⟨connection, true⟩⟩ _ = _ := closed
      have renewed : operations.renew (ofPath path policy) = ofPath path policy := rfl
      simp [Operations.answer, before, after, renewed, prepared]

/-- Handles on a path to which nothing leads at first, and the ledger of what was written. -/
inductive Follows (path : String) (policies : ι → OnDuplicate) (connection : Connection)
    (disk made : Disk) : Handles ι TableIndex → Ledger → Prop
  | absent : Follows path policies connection disk made
      ⟨fun handle => ofPath path (policies handle), disk⟩ .blank
  | present {index : ι → TableIndex} {rows : TableRows} {written : List Entry}
      (shares : ∀ handle, (index handle).Shares path (policies handle) connection)
      (filled : insertAll .overwrite written [] = .ok rows) :
      Follows path policies connection disk made
        ⟨index, made.setBody connection.id (.table rows)⟩ ⟨true, written⟩

/-- Where a handle answers as one on a database that stands, all follow the ledger. -/
theorem follows_of_answer [DecidableEq ι] {request : Request ι} {index : ι → TableIndex}
    {opened : TableIndex} (leads : LeadsTo path file place connection made)
    (same : operations.answer request (index request.handle) disk =
      operations.answer request opened (made.setBody connection.id (.table rows)))
    (own : opened.Shares path (policies request.handle) connection)
    (others : ∀ handle, handle ≠ request.handle →
      (index handle).Shares path (policies handle) connection)
    (filled : insertAll .overwrite written [] = .ok rows) (fits : Fits request) {start : Disk} :
    (operations.perform request ⟨index, disk⟩).1 =
        (Ledger.perform (manner path policies) request ⟨true, written⟩).1 ∧
      Follows path policies connection start made (operations.perform request ⟨index, disk⟩).2
        (Ledger.perform (manner path policies) request ⟨true, written⟩).2 := by
  obtain ⟨index', rows', answered, shares', filled'⟩ := own.answer_eq leads filled fits
  rw [Operations.perform_of_answer (same.trans answered)]
  have there : (Ledger.perform (manner path policies) request ⟨true, written⟩).2.made = _ :=
    Ledger.made_of_perform request ⟨true, written⟩
  rcases after : Ledger.perform (manner path policies) request ⟨true, written⟩ with
    ⟨answer, made', written'⟩
  rw [after] at there filled'
  obtain rfl : made' = true := by simpa using there
  refine ⟨rfl, .present ?_ filled'⟩
  rw [Function.forall_update_iff index fun handle index =>
    index.Shares path (policies handle) connection]
  exact ⟨shares', others⟩

/-- A request keeps handles and their ledger together, and is answered as the ledger says. -/
theorem Follows.perform [DecidableEq ι] (founds : Founds path file place connection disk made)
    {request : Request ι} {state : Handles ι TableIndex} {ledger : Ledger}
    (follows : Follows path policies connection disk made state ledger) (fits : Fits request) :
    (operations.perform request state).1 =
        (Ledger.perform (manner path policies) request ledger).1 ∧
      Follows path policies connection disk made (operations.perform request state).2
        (Ledger.perform (manner path policies) request ledger).2 := by
  cases follows with
  | absent =>
      cases creates : request.creates with
      | false =>
          obtain ⟨answered, still⟩ := founds.answer_of_absent policies creates
          rw [Operations.perform_of_answer answered, still, Function.update_eq_self]
          exact ⟨rfl, .absent⟩
      | true =>
          rw [Ledger.blank, Ledger.perform_of_creates creates]
          exact follows_of_answer founds.leads (founds.answer_of_creates creates)
            (shares_ready _ _ _) (fun _ _ => shares_ofPath _ _ _) rfl fits
  | present shares filled =>
      exact follows_of_answer founds.leads rfl (shares _) (fun handle _ => shares handle) filled
        fits

/-- Where no request made a database, nothing was made at all. -/
theorem Follows.disk_eq {state : Handles ι TableIndex} {ledger : Ledger}
    (follows : Follows path policies connection disk made state ledger)
    (absent : ledger.made = false) : state.disk = disk := by
  cases follows with
  | absent => rfl
  | present => cases absent

end Ledger

/-- Handles on the path of a file that is not there and can be made, each with its own policy,
answer as a ledger does: until one of them writes or is opened eagerly, nothing is read and nothing
made; then all of them read what the batches that were accepted come to. Where handles are closed,
made anew or read from changes no other answer. -/
theorem tables_share_one_map {ι : Type} [DecidableEq ι] {path file : String} {place : Route}
    {disk : Disk} (leads : Address.ofText path .readWrite = .ok ⟨.file file, .readWrite, false⟩)
    (routed : disk.route file = .ok place) (absent : disk.node? place = none)
    (creatable : (operations.prepare (ofPath path .reject) disk).1 = .ok ())
    (policies : ι → OnDuplicate) :
    let start : Handles ι TableIndex := ⟨fun handle => ofPath path (policies handle), disk⟩
    (∀ requests, (∀ request ∈ requests, Fits request) →
      (serve operations.perform requests start).1 =
          (serve (Ledger.perform (manner path policies)) requests .blank).1 ∧
        ((∀ request ∈ requests, request.creates = false) →
          (serve operations.perform requests start).2.disk = disk)) ∧
      ∀ before extra after, (∀ request ∈ before ++ extra :: after, Fits request) →
        extra.Idle before →
          (serve operations.perform (before ++ after) start).1 =
            (serve operations.perform (before ++ extra :: after) start).1.eraseIdx
              before.length := by
  obtain ⟨connection, made, founds⟩ := exists_founds leads routed absent creatable
  intro start
  have first : Follows path policies connection disk made start .blank := .absent
  have agrees (requests : List (Request ι)) (fits : ∀ request ∈ requests, Fits request) :=
    have orderly : Throughout operations.perform (fun request _ => Fits request) requests start :=
      Throughout.of_forall (fun request inside _ => fits request inside) start
    serve_of_follows (fun _ _ _ follows fits => follows.perform founds fits)
      (fun _ _ follows absent => follows.disk_eq absent) first orderly
  refine ⟨agrees, ?_⟩
  intro before extra after fits idle
  refine answers_eraseIdx_of_ledger (manner path policies) (Ledger.perform_of_idle idle) ?_
  rintro requests (rfl | rfl)
  · refine (agrees _ fun request inside => fits request ?_).1
    rw [List.mem_append] at inside ⊢
    exact inside.imp_right (List.mem_cons_of_mem _)
  · exact (agrees _ fits).1

/-- A handle that reads too early finds nothing; then one that refuses keys and one that replaces
them write to one map, whether or not one of them is closed in between. -/
theorem tables_share_one_map_of_two :
    let policies : Bool → OnDuplicate := fun first => if first then .reject else .overwrite
    let start : Handles Bool TableIndex :=
      ⟨fun handle => ofPath "t" (policies handle), Disk.empty⟩
    let before : List (Request Bool) := [.size false, .write true [⟨"a", 0, 1⟩]]
    let after : List (Request Bool) := [.write false [⟨"a", 5, 2⟩], .lookup true "a"]
    (serve operations.perform (before ++ after) start).1 =
        [.count (.error (.backendOpen "t" (.database .cannotOpen))), .done (.ok ()),
          .done (.ok ()), .span (.ok (some ⟨5, 2⟩))] ∧
      (serve operations.perform (before ++ after) start).1 =
        (serve operations.perform (before ++ .close true :: after) start).1.eraseIdx 2 ∧
      (serve operations.perform [.size false] start).2.disk = Disk.empty := by
  intro policies start before after
  have leads : Address.ofText "t" .readWrite = .ok ⟨.file "t", .readWrite, false⟩ := by cbv
  have routed : Disk.empty.route "t" = .ok ["t"] := by cbv
  have absent : Disk.empty.node? ["t"] = none := by decide
  have creatable : (operations.prepare (ofPath "t" .reject) Disk.empty).1 = .ok () := by cbv
  obtain ⟨answers, unchanged⟩ := tables_share_one_map leads routed absent creatable policies
  have fits : ∀ request ∈ before ++ .close true :: after, Fits request := by
    simp [before, after, Fits, Request.entries, maxValue]
  have fits' : ∀ request ∈ before ++ after, Fits request := by
    simp [before, after, Fits, Request.entries, maxValue]
  have idle : (Request.close true).Idle before := ⟨by simp, by simp [Request.creates]⟩
  refine ⟨?_, unchanged before (.close true) after fits idle, ?_⟩
  · rw [(answers _ fits').1]
    cbv
  · exact (answers [.size false] (by simp [Fits, Request.entries])).2 (by simp [Request.creates])

end TableIndex

end RecordStore
