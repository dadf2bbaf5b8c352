import RecordStore.Proofs.Places
import RecordStore.Proofs.Rows

/-!
Opening a database.

A text leads to the same database whether it is opened for reading or for writing, and a
connection finds there what the database holds (`bodyAt`). Making the table, settling and
closing again change none of its rows; like a change of the rows they spare every place
that is not one of the connection's own (`Away`).
-/

namespace RecordStore

namespace Address

/-- Options that were followed from the right to read and write, and from the right to create. -/
structure Options.Follows (lower upper : Options) : Prop where
  sharing : upper.sharing = lower.sharing
  system : upper.system = lower.system
  access : upper.access = lower.access ∨ lower.access = .readWrite ∧ upper.access = .create

theorem Options.Follows.set {lower lower' upper : Options} (follows : lower.Follows upper)
    {pair : String × String} (one : lower.set pair = .ok lower') :
    ∃ upper', upper.set pair = .ok upper' ∧ lower'.Follows upper' := by
  obtain ⟨sharing, system, access⟩ := follows
  unfold Options.set at one ⊢
  split at one
  · cases one
    exact ⟨_, rfl, sharing, rfl, access⟩
  · split at one
    · rename_i shared
      cases one
      simp only [if_pos shared]
      exact ⟨_, rfl, rfl, system, access⟩
    · rename_i unshared
      split at one
      · rename_i alone
        cases one
        simp only [if_neg unshared, if_pos alone]
        exact ⟨_, rfl, rfl, system, access⟩
      · cases one
  · split at one
    · cases one
    · rename_i mode named
      split at one
      · cases one
      · rename_i allowed
        cases one
        have higher : ¬(mode ≠ .memory ∧ upper.access.rank < mode.rank) := by
          rintro ⟨other, less⟩
          refine allowed ⟨other, ?_⟩
          rcases access with same | ⟨low, high⟩
          · rwa [same] at less
          · rw [high] at less
            rw [low]
            simp only [Access.rank] at less ⊢
            omega
        simp only [if_neg higher]
        exact ⟨_, rfl, sharing, system, .inl rfl⟩
  · cases one
    exact ⟨upper, rfl, sharing, system, access⟩

theorem Options.Follows.setAll {lower lower' upper : Options} (follows : lower.Follows upper)
    {pairs : List (String × String)} (all : lower.setAll pairs = .ok lower') :
    ∃ upper', upper.setAll pairs = .ok upper' ∧ lower'.Follows upper' := by
  induction pairs generalizing lower upper with
  | nil =>
      unfold Options.setAll at all ⊢
      split at all
      · rename_i known
        cases all
        rw [follows.system, if_pos known]
        exact ⟨upper, rfl, follows⟩
      · cases all
  | cons pair pairs ih =>
      unfold Options.setAll at all ⊢
      split at all
      · cases all
      · rename_i middle one
        obtain ⟨upper', same, follows'⟩ := follows.set one
        rw [same]
        exact ih follows' all

theorem Options.Follows.placeOf_eq {lower upper : Options} (follows : lower.Follows upper)
    (name : String) : placeOf name upper = placeOf name lower := by
  have memory : upper.access = .memory ↔ lower.access = .memory := by
    rcases follows.access with same | ⟨low, high⟩
    · rw [same]
    · simp [low, high]
  simp only [placeOf, memory, follows.sharing, follows.system]

/-- What may be read and written may be created, at the same place. -/
theorem ofText_create {text : String} {address : Address}
    (reads : ofText text .readWrite = .ok address) :
    ∃ writes, ofText text .create = .ok writes ∧ writes.place = address.place := by
  unfold ofText at reads ⊢
  split at reads
  · cases reads
  · rename_i plain
    rw [if_neg plain]
    split at reads
    · rename_i rest uri
      cases found : ofUri rest .readWrite with
      | error fault =>
          rw [found] at reads
          cases reads
      | ok other =>
          rw [found] at reads
          cases reads
          unfold ofUri at found ⊢
          split at found
          · cases found
          · rename_i behind host
            dsimp only at found
            split at found
            · cases found
            · rename_i options all
              cases found
              have start : Options.Follows ⟨.readWrite, false, machineSystem⟩
                  ⟨.create, false, machineSystem⟩ := ⟨rfl, rfl, .inr ⟨rfl, rfl⟩⟩
              obtain ⟨upper, same, follows⟩ := start.setAll all
              simp only [same]
              exact ⟨_, rfl, follows.placeOf_eq _⟩
    · cases reads
      exact ⟨_, rfl, rfl⟩

end Address

/-! ### The rows of a database -/

/-- The rows of what a file holds; what is no table has none. -/
def Body.rows : Body → TableRows
  | .table rows => rows
  | _ => []

/-- The rows of the database at a place. -/
def DatabasePlace.rows (place : DatabasePlace) (disk : Disk) : TableRows :=
  match place with
  | .file path =>
    match disk.node? (Disk.placeOf path) with
    | some (.file id) => (disk.body id).rows
    | _ => []
  | .shared name =>
    match Assoc.find? name disk.memories with
    | some memory => (disk.body memory.id).rows
    | none => []
  | .alone => []

theorem DatabasePlace.rows_of_file {path : String} {disk : Disk} {id : Nat}
    (there : disk.node? (Disk.placeOf path) = some (.file id)) :
    DatabasePlace.rows (.file path) disk = (disk.body id).rows := by
  simp [DatabasePlace.rows, there]

theorem DatabasePlace.rows_of_memory {name : String} {disk : Disk} {memory : SharedMemory}
    (there : Assoc.find? name disk.memories = some memory) :
    DatabasePlace.rows (.shared name) disk = (disk.body memory.id).rows := by
  simp [DatabasePlace.rows, there]

/-- Whether a route is none of those that a database needs. -/
def DatabasePlace.Away (route : Route) : DatabasePlace → Prop
  | .file path => route ≠ Disk.placeOf path ∧
      route ≠ Connection.journal (Disk.placeOf path) ∧
      route ≠ Connection.writeAhead (Disk.placeOf path)
  | _ => True

namespace Connection

variable {route : Route} {connection : Connection} {disk disk' : Disk}

/-- Whether the file at a route is none that a connection changes or takes away. -/
structure Away (route : Route) (connection : Connection) (disk : Disk) : Prop where
  known : connection.id < disk.next
  other : disk.node? route ≠ some (.file connection.id)
  beside : ∀ home, connection.home = some home →
    route ≠ journal home ∧ route ≠ writeAhead home

theorem Clears.away {other : Connection} (clears : other.Clears disk disk')
    (away : connection.Away route disk) : connection.Away route disk' := by
  refine ⟨clears.next ▸ away.known, ?_, away.beside⟩
  intro there
  rcases clears.nodes route with same | ⟨gone, -⟩
  · exact away.other (same ▸ there)
  · rw [gone] at there
    cases there

theorem Away.setBody (away : connection.Away route disk) (id : Nat) (body : Body) :
    connection.Away route (disk.setBody id body) :=
  ⟨away.known, away.other, away.beside⟩

/-! ### Connecting -/

/-- What connecting comes to: the connection has the rows of the database, and when nothing but
clearing follows, closing it again leaves the database as it was. -/
structure Connects (route : Route) (place : DatabasePlace) (disk : Disk)
    (connection : Connection) (disk' : Disk) : Prop where
  spares : Disk.Spares route disk disk'
  away : connection.Away route disk'
  rows : (disk'.body connection.id).rows = place.rows disk
  closed : ∀ last, connection.Clears disk' last →
    Disk.Spares route last (connection.close last) ∧
      place.rows (connection.close last) = place.rows disk

/-- A connection to the file at a path. -/
theorem connects_of_file {path : String} (away : (DatabasePlace.file path).Away route)
    (sound : disk.Sound) (spares : Disk.Spares route disk disk')
    (there : disk'.node? (Disk.placeOf path) = some (.file connection.id))
    (rows : (disk'.body connection.id).rows = (DatabasePlace.file path).rows disk)
    (unshared : connection.shared = none)
    (home : ∀ home, connection.home = some home → home = Disk.placeOf path) :
    Connects route (.file path) disk connection disk' := by
  obtain ⟨apart, noJournal, noWriteAhead⟩ := away
  refine ⟨spares, ⟨?_, ?_, ?_⟩, rows, ?_⟩
  · exact (spares.sound sound).known _ _ there
  · intro here
    exact apart ((spares.sound sound).distinct _ _ _ here there)
  · intro place found
    rw [home place found]
    exact ⟨noJournal, noWriteAhead⟩
  · intro last clears
    have kept : last.node? (Disk.placeOf path) = some (.file connection.id) := by
      rcases clears.nodes (Disk.placeOf path) with same | ⟨-, -, place, found, beside⟩
      · exact same.trans there
      · rw [home place found] at beside
        rcases beside with same | same
        · exact absurd same.symm (journal_ne_self _)
        · exact absurd same.symm (writeAhead_ne_self _)
    have closes : connection.close last = last := by simp [close, unshared]
    rw [closes, DatabasePlace.rows_of_file kept, clears.body_eq, rows]
    exact ⟨.refl _ _, rfl⟩

theorem connects_toFile {path : String} {address : Address}
    (away : (DatabasePlace.file path).Away route) (sound : disk.Sound)
    (connected : toFile path address disk = .ok (connection, disk')) :
    Connects route (.file path) disk connection disk' := by
  unfold toFile at connected
  split at connected
  · cases connected
  · rename_i place leads
    obtain rfl : place = Disk.placeOf path := Disk.eq_follow_of_placeFrom? leads
    split at connected
    · cases connected
    · rename_i id middle opened
      have shape : connection.id = id ∧ connection.shared = none ∧
          ∀ home, connection.home = some home → home = Disk.placeOf path := by
        dsimp only at connected
        split at connected
        · cases connected
          exact ⟨rfl, rfl, fun _ found => by cases found⟩
        · cases connected
          exact ⟨rfl, rfl, fun _ found => by cases found; rfl⟩
      obtain rfl : middle = disk' := by
        dsimp only at connected
        split at connected <;> (cases connected; rfl)
      obtain ⟨same, unshared, home⟩ := shape
      unfold openAt at opened
      split at opened
      · rename_i there
        cases opened
        rw [← same] at there
        exact connects_of_file away sound (.refl _ _) there
          (DatabasePlace.rows_of_file there).symm unshared home
      · cases opened
      · rename_i free
        split at opened
        · cases opened
          have made := Disk.node?_createAt disk (Disk.placeOf path) (Disk.placeOf path) (.bytes [])
          rw [if_pos rfl, ← same] at made
          refine connects_of_file away sound (Disk.spares_createAt free) made ?_ unshared home
          have blank : (disk.createAt (Disk.placeOf path) (.bytes [])).2.body disk.next =
              .bytes [] := (Disk.body_createFile disk (.bytes []) disk.next).trans (if_pos rfl)
          have unmade : (DatabasePlace.file path).rows disk = [] := by
            simp [DatabasePlace.rows, free]
          rw [unmade, same]
          exact congrArg Body.rows blank
        · cases opened

/-- Closing changes nothing but the number of connections to what is shared. -/
theorem spares_close (connection : Connection) (disk : Disk) :
    Disk.Spares route disk (connection.close disk) := by
  unfold close
  split
  · exact .refl _ _
  · rename_i name _
    split
    · exact .refl _ _
    · rename_i memory found
      split
      · exact Disk.spares_eraseMemory
      · rename_i more
        apply Disk.spares_putMemory
        intro sound
        obtain ⟨known, hidden, -⟩ := sound.shared name memory found
        exact ⟨known, hidden, show 0 < memory.holders - 1 by omega⟩

/-- One more connection to what is shared, and one less when it is closed. -/
theorem connects_toShared (name : String) (access : Access) (sound : disk.Sound) :
    Connects route (.shared name) disk (toShared name access disk).1
      (toShared name access disk).2 := by
  cases found : Assoc.find? name disk.memories with
  | some memory =>
      obtain ⟨known, hidden, held⟩ := sound.shared name memory found
      let counted : SharedMemory := { memory with holders := memory.holders + 1 }
      have same : toShared name access disk = (⟨memory.id, none, memory.writable, some name⟩,
          { disk with memories := Assoc.put name counted disk.memories }) := by
        simp [toShared, found, counted]
      rw [same]
      refine ⟨Disk.spares_putMemory fun _ => ⟨known, hidden, Nat.succ_pos _⟩,
        ⟨known, hidden route, fun _ none => by cases none⟩,
        (DatabasePlace.rows_of_memory found).symm, fun last clears => ⟨spares_close _ _, ?_⟩⟩
      have there : Assoc.find? name last.memories = some counted := by
        rw [clears.memories, Assoc.find?_put_self]
      have closes : close ⟨memory.id, none, memory.writable, some name⟩ last =
          { last with memories := Assoc.put name memory last.memories } := by
        have more : ¬counted.holders ≤ 1 := by simp only [counted]; omega
        simp [close, there, more, counted]
      rw [closes, DatabasePlace.rows_of_memory found,
        DatabasePlace.rows_of_memory (Assoc.find?_put_self _ _ _)]
      exact congrArg Body.rows (clears.body_eq memory.id)
  | none =>
      let counted : SharedMemory := ⟨disk.next, access ≠ .readOnly, 1⟩
      have same : toShared name access disk = (⟨disk.next, none, counted.writable, some name⟩,
          { (disk.createFile (.bytes [])).2 with
            memories := Assoc.put name counted disk.memories }) := by
        simp [toShared, found, counted, Disk.createFile]
      have hidden : ∀ route, disk.node? route ≠ some (.file disk.next) :=
        fun route there => absurd (sound.known route _ there) (Nat.lt_irrefl _)
      have nothing : (DatabasePlace.shared name).rows disk = [] := by
        simp [DatabasePlace.rows, found]
      rw [same]
      refine ⟨(Disk.spares_createFile (.bytes [])).trans (Disk.spares_putMemory fun _ =>
          ⟨Nat.lt_succ_self _, hidden, Nat.one_pos⟩),
        ⟨Nat.lt_succ_self _, hidden route, fun _ none => by cases none⟩, ?_,
        fun last clears => ⟨spares_close _ _, ?_⟩⟩
      · rw [nothing]
        exact congrArg Body.rows ((Disk.body_createFile disk _ _).trans (if_pos rfl))
      · have there : Assoc.find? name last.memories = some counted := by
          rw [clears.memories, Assoc.find?_put_self]
        have closes : close ⟨disk.next, none, counted.writable, some name⟩ last =
            { last with memories := Assoc.erase name last.memories } := by
          simp [close, there, counted]
        rw [closes, nothing]
        simp [DatabasePlace.rows, Assoc.find?_erase]

/-- A database of a connection's own is empty. -/
theorem connects_alone {writable : Bool} (sound : disk.Sound) :
    Connects route .alone disk ⟨disk.next, none, writable, none⟩
      (disk.createFile (.bytes [])).2 := by
  refine ⟨Disk.spares_createFile _, ⟨Nat.lt_succ_self _, ?_,
    fun _ none => by cases none⟩, ?_, fun last _ => ⟨spares_close _ _, rfl⟩⟩
  · intro there
    exact absurd (sound.known route _ there) (Nat.lt_irrefl _)
  · exact congrArg Body.rows ((Disk.body_createFile disk _ _).trans (if_pos rfl))

theorem connects_toAddress {address : Address} (away : address.place.Away route)
    (sound : disk.Sound) (connected : toAddress address disk = .ok (connection, disk')) :
    Connects route address.place disk connection disk' := by
  unfold toAddress at connected
  split at connected
  · rename_i path place
    rw [place] at away ⊢
    exact connects_toFile away sound connected
  · rename_i name place
    rw [place]
    cases connected
    exact connects_toShared name address.access sound
  · rename_i place
    rw [place]
    cases connected
    exact connects_alone sound

theorem connects_ofText {text : String} {access : Access}
    (away : ∀ address, Address.ofText text access = .ok address → address.place.Away route)
    (sound : disk.Sound) (connected : ofText text access disk = .ok (connection, disk')) :
    ∃ address, Address.ofText text access = .ok address ∧
      Connects route address.place disk connection disk' := by
  unfold ofText at connected
  split at connected
  · cases connected
  · rename_i address read
    cases made : toAddress address disk with
    | error fault =>
        rw [made] at connected
        cases connected
    | ok pair =>
        rw [made] at connected
        cases connected
        exact ⟨address, read, connects_toAddress (away address read) sound made⟩

/-! ### Making the table -/

theorem settleJournal_ne_noTable {home : Route} :
    connection.settleJournal home disk ≠ .error .noTable := by
  intro failed
  unfold settleJournal at failed
  dsimp only at failed
  repeat' split at failed
  all_goals cases failed

theorem settleWriteAhead_ne_noTable {home : Route} :
    connection.settleWriteAhead home disk ≠ .error .noTable := by
  intro failed
  unfold settleWriteAhead at failed
  dsimp only at failed
  repeat' split at failed
  all_goals cases failed

/-- What stands beside a file never says that there is no table. -/
theorem settle_ne_noTable : connection.settle disk ≠ (.error .noTable, disk') := by
  intro settled
  unfold settle at settled
  split at settled
  · cases settled
  · split at settled
    · rename_i failed
      cases settled
      exact settleJournal_ne_noTable failed
    · split at settled
      · rename_i failed
        cases settled
        exact settleWriteAhead_ne_noTable failed
      · cases settled

/-- The table is missing only where the file is as good as empty, whatever stands beside it. -/
theorem rows_eq_nil_of_noTable (read : connection.rows disk = (.error .noTable, disk')) :
    (disk.body connection.id).rows = [] := by
  rcases rows_eq_iff.mp read with ⟨fault, settled, same⟩ | ⟨-, same⟩
  · cases same
    exact absurd settled settle_ne_noTable
  · unfold rowsOf at same
    split at same
    · cases same
    · cases same
    · rename_i content found
      simp [Body.rows, found]

/-- Making the table adds no rows; where it fails, nothing but clearing was done. -/
theorem makeTable_spec {result : Except DatabaseFault Unit} (away : connection.Away route disk)
    (made : connection.makeTable disk = (result, disk')) :
    Disk.Spares route disk disk' ∧ connection.Away route disk' ∧
      (disk'.body connection.id).rows = (disk.body connection.id).rows ∧
      ∀ fault, result = .error fault → connection.Clears disk disk' := by
  have cleared {last : Disk} (clears : connection.Clears disk last) :
      Disk.Spares route disk last ∧ connection.Away route last ∧
        (last.body connection.id).rows = (disk.body connection.id).rows :=
    ⟨clears.spares away.beside, clears.away away, by rw [clears.body_eq]⟩
  unfold makeTable at made
  split at made
  · rename_i read
    cases made
    obtain ⟨spares, away', rows⟩ := cleared (clears_rows read)
    exact ⟨spares, away', rows, fun _ failed => by cases failed⟩
  · rename_i middle read
    have clears := clears_rows read
    unfold change at made
    split at made
    · cases made
      obtain ⟨spares, away', rows⟩ := cleared clears
      exact ⟨spares, away', rows, fun _ _ => clears⟩
    · rename_i free
      cases made
      obtain ⟨spares, away', -⟩ := cleared (clears.trans (clears_endJournal free))
      refine ⟨spares.trans (Disk.spares_setBody away'.other _), away'.setBody _ _, ?_,
        fun _ failed => by cases failed⟩
      rw [Disk.body_setBody_self, rows_eq_nil_of_noTable read]
      rfl
  · rename_i read
    cases made
    have clears := clears_rows read
    obtain ⟨spares, away', rows⟩ := cleared clears
    exact ⟨spares, away', rows, fun _ _ => clears⟩

end Connection

end RecordStore
