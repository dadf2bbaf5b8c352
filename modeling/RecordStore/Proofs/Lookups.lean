import RecordStore.Proofs.Backend

/-!
What looking up a key depends on.

Looking up reads the folders on the way, the log or the file of the database and what stands
beside it, and no other file. So on two disks that differ in what one such file holds (`Alike`)
it finds the same. The first lookup that does not fail leaves the index open and the database
settled, and those behind it change nothing (`Backend.lookup_again`) and find what they would have
found before (`Backend.lookup_after`).
-/

namespace RecordStore

namespace Disk

/-- Nothing differs but what one file holds. -/
structure Alike (id : Nat) (disk other : Disk) : Prop where
  node : ∀ route, other.node? route = disk.node? route
  body : ∀ own, own ≠ id → other.body own = disk.body own
  logs : other.logs = disk.logs
  memories : other.memories = disk.memories
  next : other.next = disk.next

/-- What an operation comes to in two places: the same failure, or values that belong together. -/
inductive Agree {ε α : Type} (belong : α → α → Prop) : Except ε α → Except ε α → Prop where
  | failed (error : ε) : Agree belong (.error error) (.error error)
  | done {value value' : α} : belong value value' → Agree belong (.ok value) (.ok value')

/-- The same value, and disks that are alike. -/
def AlikeWith {α : Type} (id : Nat) (result result' : α × Disk) : Prop :=
  result'.1 = result.1 ∧ Alike id result.2 result'.2

variable {id : Nat} {disk disk' other : Disk}

theorem alike_setBody (disk : Disk) (id : Nat) (body : Body) : Alike id disk (disk.setBody id body) :=
  ⟨fun _ => rfl, fun _ different => disk.body_setBody_of_ne (Ne.symm different) body, rfl, rfl, rfl⟩

namespace Alike

theorem log (alike : Alike id disk other) (own : Nat) : other.log own = disk.log own := by
  simp only [Disk.log, alike.logs]

theorem content (alike : Alike id disk other) {own : Nat} (different : own ≠ id) :
    other.content own = disk.content own := by
  simp only [Disk.content, alike.body own different]

theorem walk (alike : Alike id disk other) (start : Route) (names : List String) :
    other.walk start names = disk.walk start names := by
  induction names generalizing start with
  | nil => rfl
  | cons name names ih =>
      have same : other.enter start name = disk.enter start name := by
        simp only [enter, alike.node]
      rw [Disk.walk, Disk.walk, same]
      cases disk.enter start name with
      | error fault => rfl
      | ok next => exact ih next

theorem find (alike : Alike id disk other) (path : String) : other.find path = disk.find path := by
  have same : other.route path = disk.route path := by
    simp only [route, alike.walk]
  simp only [Disk.find, same, alike.node]

theorem has (alike : Alike id disk other) (path : String) : other.has path = disk.has path := by
  simp only [Disk.has, alike.find]

theorem setNode (alike : Alike id disk other) (route : Route) (node : Node) :
    Alike id (disk.setNode route node) (other.setNode route node) :=
  ⟨fun place => by rw [node?_setNode, node?_setNode, alike.node], alike.body, alike.logs,
    alike.memories, alike.next⟩

theorem eraseNode (alike : Alike id disk other) (route : Route) :
    Alike id (disk.eraseNode route) (other.eraseNode route) :=
  ⟨fun place => by rw [node?_eraseNode, node?_eraseNode, alike.node], alike.body, alike.logs,
    alike.memories, alike.next⟩

theorem setLog (alike : Alike id disk other) (own : Nat) (log : Log) :
    Alike id (disk.setLog own log) (other.setLog own log) :=
  ⟨alike.node, alike.body, by rw [Disk.setLog, Disk.setLog, alike.logs], alike.memories, alike.next⟩

theorem createFile (alike : Alike id disk other) (body : Body) :
    AlikeWith id (disk.createFile body) (other.createFile body) := by
  refine ⟨alike.next, alike.node, ?_, alike.logs, alike.memories, ?_⟩
  · intro own different
    rw [body_createFile, body_createFile, alike.next, alike.body own different]
  · exact congrArg (· + 1) alike.next

theorem createAt (alike : Alike id disk other) (route : Route) (body : Body) :
    AlikeWith id (disk.createAt route body) (other.createAt route body) := by
  obtain ⟨same, alike'⟩ := alike.createFile body
  have made := alike'.setNode route (.file (disk.createFile body).1)
  refine ⟨same, ?_⟩
  unfold Disk.createAt
  dsimp only
  rwa [same]

/-! ### Opening a log -/

theorem makeFolderAt (alike : Alike id disk other) (names : List String) :
    Agree (Alike id) (disk.makeFolderAt names) (other.makeFolderAt names) := by
  unfold Disk.makeFolderAt
  rw [alike.walk]
  cases disk.walk [] names with
  | error fault => exact .failed fault
  | ok route =>
      dsimp only
      rw [alike.node]
      cases disk.node? route with
      | some node => exact .failed _
      | none => exact .done (alike.setNode route .folder)

theorem isFolderAt (alike : Alike id disk other) (names : List String) :
    other.isFolderAt names = disk.isFolderAt names := by
  simp only [Disk.isFolderAt, alike.walk, alike.node]

theorem makeFolders (alike : Alike id disk other) (names : List String) :
    AlikeWith id (disk.makeFolders names) (other.makeFolders names) := by
  induction names with
  | nil => exact ⟨rfl, alike⟩
  | cons name around ih =>
      have first := alike.makeFolderAt (name :: around).reverse
      unfold Disk.makeFolders
      dsimp only
      generalize disk.makeFolderAt (name :: around).reverse = made at first ⊢
      generalize other.makeFolderAt (name :: around).reverse = made' at first ⊢
      cases first with
      | done alike' => exact ⟨rfl, alike'⟩
      | failed fault =>
          generalize disk.makeFolders around = outer at ih ⊢
          generalize other.makeFolders around = outer' at ih ⊢
          obtain ⟨result, middle⟩ := outer
          obtain ⟨result', middle'⟩ := outer'
          obtain ⟨same, alike'⟩ := ih
          dsimp only at same alike'
          subst same
          cases fault with
          | noEntry =>
              cases result' with
              | error fault => exact ⟨rfl, alike'⟩
              | ok done =>
                  have second := alike'.makeFolderAt (name :: around).reverse
                  dsimp only
                  rw [alike'.isFolderAt]
                  generalize middle.makeFolderAt (name :: around).reverse = made at second ⊢
                  generalize middle'.makeFolderAt (name :: around).reverse = made' at second ⊢
                  cases second with
                  | done alike'' => exact ⟨rfl, alike''⟩
                  | failed fault => exact ⟨rfl, alike'⟩
          | _ =>
              dsimp only
              rw [alike.isFolderAt]
              exact ⟨rfl, alike⟩

theorem createLog (alike : Alike id disk other) (route : Route) :
    AlikeWith id (disk.createLog route) (other.createLog route) := by
  have fill {disk other : Disk} (alike : Alike id disk other) (name : String) :
      Alike id
        (if (disk.node? (route ++ [name])).isSome then disk
          else (disk.createAt (route ++ [name]) (.bytes (Bytes.ofText name))).2)
        (if (other.node? (route ++ [name])).isSome then other
          else (other.createAt (route ++ [name]) (.bytes (Bytes.ofText name))).2) := by
    rw [alike.node]
    split
    · exact alike
    · exact (alike.createAt _ _).2
  have filled := fill (fill alike "conf") "db"
  unfold Disk.createLog
  simp only [logFiles, List.foldl_cons, List.foldl_nil]
  refine ⟨filled.next, ?_, filled.body, ?_, filled.memories, congrArg (· + 1) filled.next⟩
  · intro place
    have same := (filled.setNode route (.log (disk.createLog route).1)).node place
    simp only [filled.next]
    exact same
  · simp only [filled.next, filled.logs]

theorem openLogAt (alike : Alike id disk other) (route : Route) :
    AlikeWith id (disk.openLogAt route) (other.openLogAt route) := by
  unfold Disk.openLogAt
  simp only [alike.node]
  split
  · exact ⟨rfl, alike⟩
  · split
    · exact ⟨rfl, alike⟩
    · obtain ⟨same, alike'⟩ := alike.createLog route
      exact ⟨congrArg Except.ok same, alike'⟩

theorem openLog (alike : Alike id disk other) (path : String) :
    AlikeWith id (disk.openLog path) (other.openLog path) := by
  unfold Disk.openLog
  dsimp only
  split
  · exact ⟨rfl, alike⟩
  · rw [alike.has]
    generalize folders : (if disk.has (pathWithin path "blobs") then (.ok (), disk) else
      disk.makeFolders _ : Except IoFault Unit × Disk) = made
    generalize folders' : (if disk.has (pathWithin path "blobs") then (.ok (), other) else
      other.makeFolders _ : Except IoFault Unit × Disk) = made'
    have around : AlikeWith id made made' := by
      subst folders folders'
      split
      · exact ⟨rfl, alike⟩
      · exact alike.makeFolders _
    obtain ⟨result, middle⟩ := made
    obtain ⟨result', middle'⟩ := made'
    obtain ⟨same, alike'⟩ := around
    dsimp only at same alike' ⊢
    subst same
    rw [alike'.walk]
    cases result' with
    | error fault => exact ⟨rfl, alike'⟩
    | ok done =>
        cases middle.walk [] (path.splitOn "/") with
        | error fault => exact ⟨rfl, alike'⟩
        | ok route => exact alike'.openLogAt route

end Alike

end Disk

variable {id : Nat} {disk disk' other : Disk}

/-! ### Looking up in a log -/

namespace LogIndex

theorem acquire_of_alike (alike : Disk.Alike id disk other) (create : Bool) (index : LogIndex) :
    (index.acquire create other).1 = (index.acquire create disk).1 ∧
      (index.acquire create other).2.1 = (index.acquire create disk).2.1 ∧
      Disk.Alike id (index.acquire create disk).2.2 (index.acquire create other).2.2 := by
  unfold acquire
  dsimp only
  split
  · exact ⟨rfl, rfl, alike⟩
  · rw [alike.has]
    split
    · exact ⟨rfl, rfl, alike⟩
    · obtain ⟨same, alike'⟩ := alike.openLog index.path
      rcases opened : disk.openLog index.path with ⟨result, middle⟩
      rcases opened' : other.openLog index.path with ⟨result', middle'⟩
      rw [opened, opened'] at same alike'
      dsimp only at same alike'
      subst same
      cases result' with
      | error fault => exact ⟨rfl, rfl, alike'⟩
      | ok own =>
          dsimp only
          rw [alike'.log]
          split
          · exact ⟨rfl, rfl, alike'⟩
          · exact ⟨rfl, rfl, alike'.setLog own _⟩

/-- What is looked up in a log does not depend on what a file holds. -/
theorem lookup_of_alike (alike : Disk.Alike id disk other) (key : String) (index : LogIndex) :
    (index.lookup key other).1 = (index.lookup key disk).1 := by
  obtain ⟨same, -, alike'⟩ := acquire_of_alike alike false index
  rcases acquired : index.acquire false disk with ⟨result, index₁, middle⟩
  rcases acquired' : index.acquire false other with ⟨result', index₂, middle'⟩
  rw [acquired, acquired'] at same alike'
  dsimp only at same alike'
  subst same
  unfold lookup reading
  rw [acquired, acquired']
  cases result' with
  | error error => rfl
  | ok own => exact congrArg (fun log : Log => spanOf? key log.rows) (alike'.log own)

end LogIndex

/-! ### Looking up in a table -/

namespace Connection

theorem placeFrom?_of_alike (alike : Disk.Alike id disk other) (start : Route)
    (names : List String) : placeFrom? other start names = placeFrom? disk start names := by
  have follow (route : Route) (name : String) : canFollow other route name = canFollow disk route name := by
    simp only [canFollow, alike.node]
  induction names generalizing start with
  | nil => rfl
  | cons name names ih => simp only [placeFrom?, follow, ih]

theorem openAt_of_alike (alike : Disk.Alike id disk other) (route : Route) (access : Access) :
    Disk.Agree (Disk.AlikeWith id) (openAt route access disk) (openAt route access other) := by
  unfold openAt
  rw [alike.node, alike.node]
  cases disk.node? route with
  | some node =>
      cases node with
      | file own => exact .done ⟨rfl, alike⟩
      | folder | log own => exact .failed _
  | none =>
      dsimp only
      split
      · exact .done (alike.createAt route (.bytes []))
      · exact .failed _

theorem toFile_of_alike (alike : Disk.Alike id disk other) (path : String) (address : Address) :
    Disk.Agree (Disk.AlikeWith id) (toFile path address disk) (toFile path address other) := by
  unfold toFile
  rw [placeFrom?_of_alike alike]
  cases placeFrom? disk [] (path.splitOn "/") with
  | none => exact .failed _
  | some route =>
      have agree := openAt_of_alike alike route address.access
      dsimp only
      generalize openAt route address.access disk = opened at agree ⊢
      generalize openAt route address.access other = opened' at agree ⊢
      cases agree with
      | failed fault => exact .failed fault
      | @done one one' both =>
          obtain ⟨own, made⟩ := one
          obtain ⟨own', made'⟩ := one'
          obtain ⟨same, alike'⟩ := both
          dsimp only at same alike'
          subst same
          exact .done ⟨rfl, alike'⟩

theorem toShared_of_alike (alike : Disk.Alike id disk other) (name : String) (access : Access) :
    Disk.AlikeWith id (toShared name access disk) (toShared name access other) := by
  unfold toShared
  rw [alike.memories]
  cases Assoc.find? name disk.memories with
  | some memory =>
      refine ⟨rfl, alike.node, alike.body, alike.logs, ?_, alike.next⟩
      dsimp only
      rw [alike.memories]
  | none =>
      obtain ⟨same, alike'⟩ := alike.createFile (.bytes [])
      dsimp only
      rw [same]
      refine ⟨rfl, alike'.node, alike'.body, alike'.logs, ?_, alike'.next⟩
      dsimp only
      rw [alike'.memories]

/-- Connecting comes to the same on disks that are alike. -/
theorem ofText_of_alike (alike : Disk.Alike id disk other) (text : String) (access : Access) :
    Disk.Agree (Disk.AlikeWith id) (ofText text access disk) (ofText text access other) := by
  unfold ofText
  cases Address.ofText text access with
  | error fault => exact .failed fault
  | ok address =>
      have agree : Disk.Agree (Disk.AlikeWith id) (toAddress address disk)
          (toAddress address other) := by
        unfold toAddress
        cases address.place with
        | file path => exact toFile_of_alike alike path address
        | shared name => exact .done (toShared_of_alike alike name address.access)
        | alone =>
            obtain ⟨same, alike'⟩ := alike.createFile (.bytes [])
            dsimp only
            rw [same]
            exact .done ⟨rfl, alike'⟩
      dsimp only
      generalize toAddress address disk = connected at agree ⊢
      generalize toAddress address other = connected' at agree ⊢
      cases agree with
      | failed fault => exact .failed _
      | done both => exact .done both

section Settle

variable {place home : Route} {connection : Connection}

theorem isBlank_of_alike (alike : Disk.Alike id disk other) (own : connection.id ≠ id) :
    connection.isBlank other = connection.isBlank disk := by
  simp only [isBlank, alike.body _ own]

theorem settleJournal_of_alike (alike : Disk.Alike id disk other) (own : connection.id ≠ id)
    (apart : disk.node? (journal home) ≠ some (.file id)) :
    Disk.Agree (Disk.Alike id) (connection.settleJournal home disk)
      (connection.settleJournal home other) := by
  have undone := alike.eraseNode (journal home)
  unfold settleJournal
  dsimp only
  rw [isBlank_of_alike alike own, alike.node, alike.node]
  cases beside : disk.node? (journal home) with
  | none => exact .done alike
  | some node =>
      cases node with
      | file left =>
          dsimp only
          rw [alike.content fun same => apart (same ▸ beside)]
          cases disk.content left with
          | nil => exact .done alike
          | cons byte rest =>
              dsimp only
              split
              · split
                · exact .done undone
                · exact .done alike
              · split
                · exact .failed _
                · split
                  · exact .done alike
                  · split
                    · exact .done undone
                    · exact .failed _
      | folder | log left =>
          dsimp only
          split
          · exact .done alike
          · exact .failed _

theorem settleWriteAhead_of_alike (alike : Disk.Alike id disk other) (own : connection.id ≠ id)
    (apart : disk.node? (writeAhead home) ≠ some (.file id)) :
    Disk.Agree (Disk.Alike id) (connection.settleWriteAhead home disk)
      (connection.settleWriteAhead home other) := by
  unfold settleWriteAhead
  dsimp only
  rw [isBlank_of_alike alike own, alike.node, alike.node]
  cases beside : disk.node? (writeAhead home) with
  | none => exact .done alike
  | some node =>
      cases node with
      | file left =>
          dsimp only
          rw [alike.content fun same => apart (same ▸ beside)]
          split
          · exact .done alike
          · split
            · exact .done (alike.eraseNode _)
            · split
              · exact .failed _
              · exact .done alike
      | folder | log left =>
          dsimp only
          split
          · exact .failed _
          · exact .failed _

/-- Settling comes to the same on disks that are alike, if the file in which they differ is not the
connection's and does not stand beside it. -/
theorem settle_of_alike (alike : Disk.Alike id disk other) (sound : disk.Sound)
    (away : connection.Away place disk) (there : disk.node? place = some (.file id)) :
    Disk.AlikeWith id (connection.settle disk) (connection.settle other) := by
  have own : connection.id ≠ id := fun same => away.other (same ▸ there)
  have apart {route : Route} (different : place ≠ route) : disk.node? route ≠ some (.file id) :=
    fun beside => different (sound.distinct _ _ _ there beside)
  unfold settle
  cases found : connection.home with
  | none => exact ⟨rfl, alike⟩
  | some home =>
      obtain ⟨notJournal, notWriteAhead⟩ := away.beside home found
      have first := settleJournal_of_alike alike own (apart notJournal)
      dsimp only
      cases settled : connection.settleJournal home disk with
      | error fault =>
          rw [settled] at first
          generalize connection.settleJournal home other = settled' at first ⊢
          cases first
          exact ⟨rfl, alike⟩
      | ok middle =>
          rw [settled] at first
          generalize connection.settleJournal home other = settled' at first ⊢
          cases first with
          | done alike' =>
              have apart' : middle.node? (writeAhead home) ≠ some (.file id) := by
                intro beside
                rcases (clears_settleJournal found settled).nodes (writeAhead home) with same | gone
                · exact apart notWriteAhead (same ▸ beside)
                · rw [gone.1] at beside
                  cases beside
              have second := settleWriteAhead_of_alike alike' own apart'
              dsimp only
              generalize connection.settleWriteAhead home middle = last at second ⊢
              generalize connection.settleWriteAhead home _ = last' at second ⊢
              cases second with
              | failed fault => exact ⟨rfl, alike'⟩
              | done alike'' => exact ⟨rfl, alike''⟩

theorem rows_of_alike (alike : Disk.Alike id disk other) (sound : disk.Sound)
    (away : connection.Away place disk) (there : disk.node? place = some (.file id)) :
    Disk.AlikeWith id (connection.rows disk) (connection.rows other) := by
  have own : connection.id ≠ id := fun same => away.other (same ▸ there)
  have settles := settle_of_alike alike sound away there
  unfold rows
  generalize connection.settle disk = settled at settles ⊢
  generalize connection.settle other = settled' at settles ⊢
  obtain ⟨result, middle⟩ := settled
  obtain ⟨result', middle'⟩ := settled'
  obtain ⟨same, alike'⟩ := settles
  dsimp only at same alike'
  subst same
  cases result' with
  | error fault => exact ⟨rfl, alike'⟩
  | ok done => exact ⟨congrArg rowsOf (alike'.body _ own), alike'⟩

end Settle

end Connection

namespace TableIndex

theorem acquireExisting_of_alike (alike : Disk.Alike id disk other) (index : TableIndex) :
    (index.acquireExisting other).1 = (index.acquireExisting disk).1 ∧
      Disk.Alike id (index.acquireExisting disk).2.2 (index.acquireExisting other).2.2 := by
  unfold acquireExisting
  split
  · exact ⟨rfl, alike⟩
  · have agree := Connection.ofText_of_alike alike index.path .readWrite
    generalize Connection.ofText index.path .readWrite disk = connected at agree ⊢
    generalize Connection.ofText index.path .readWrite other = connected' at agree ⊢
    cases agree with
    | failed reason => exact ⟨rfl, alike⟩
    | done both => exact ⟨congrArg Except.ok both.1, both.2⟩

/-- What looking up gives, by its steps. -/
theorem lookup_fst (key : String) (index : TableIndex) (disk : Disk) :
    (index.lookup key disk).1 =
      match (index.acquireExisting disk).1 with
      | .error error => .error error
      | .ok connection =>
        match (connection.rows (index.acquireExisting disk).2.2).1 with
        | .error fault => .error (.database fault)
        | .ok rows => spanOf? key rows := by
  unfold lookup reading
  rcases index.acquireExisting disk with ⟨result, index', middle⟩
  cases result with
  | error error => rfl
  | ok connection =>
      dsimp only
      rcases connection.rows middle with ⟨rows, last⟩
      cases rows <;> rfl

/-- What is looked up in a table does not depend on what a file holds that the index does not need.
-/
theorem lookup_of_alike {place : Route} {index : TableIndex} (alike : Disk.Alike id disk other)
    (sound : disk.Sound) (away : index.Away place disk)
    (there : disk.node? place = some (.file id)) (key : String) :
    (index.lookup key other).1 = (index.lookup key disk).1 := by
  obtain ⟨same, alike'⟩ := acquireExisting_of_alike alike index
  rw [lookup_fst, lookup_fst, same]
  rcases acquired : index.acquireExisting disk with ⟨result, index', middle⟩
  have acquires := acquires_acquireExisting sound away acquired
  rw [acquired] at alike'
  cases result with
  | error error => rfl
  | ok connection =>
      obtain ⟨opened, own, rfl⟩ := acquires.opened connection rfl
      have rows := Connection.rows_of_alike alike' (acquires.spares.sound sound)
        (acquires.away.opened opened own) (acquires.spares.node id there)
      dsimp only
      rw [rows.1]

end TableIndex

/-! ### Looking up in an index -/

namespace Backend

/-- What is looked up does not depend on what a file holds that the index does not need. -/
theorem lookup_of_alike {place : Route} {backend : Backend} (alike : Disk.Alike id disk other)
    (sound : disk.Sound) (away : backend.Away place disk)
    (there : disk.node? place = some (.file id)) (key : String) :
    (backend.lookup key other).1 = (backend.lookup key disk).1 := by
  cases backend with
  | debug printer => rfl
  | log index => exact LogIndex.lookup_of_alike alike key index
  | table index => exact TableIndex.lookup_of_alike alike sound away there key

end Backend

/-! ### Looking up again -/

namespace Connection

section Again

variable {connection : Connection} {home : Route} {middle : Disk}

/-- What was settled needs no settling where the journal, the file and all bodies are the same. -/
theorem settleJournal_again (settled : connection.settleJournal home disk = .ok middle)
    (beside : other.node? (journal home) = middle.node? (journal home))
    (there : other.node? home = middle.node? home) (bodies : other.bodies = middle.bodies) :
    connection.settleJournal home other = .ok other := by
  have blank : connection.isBlank other = connection.isBlank middle := by
    simp [isBlank, Disk.body, bodies]
  have content (id : Nat) : other.content id = middle.content id := by
    simp [Disk.content, Disk.body, bodies]
  have gone (erased : middle = disk.eraseNode (journal home)) :
      connection.settleJournal home other = .ok other := by
    have none : other.node? (journal home) = none := by
      rw [beside, erased, Disk.node?_eraseNode, if_pos rfl, if_neg (journal_ne_nil home)]
    simp [settleJournal, none]
  unfold settleJournal at settled
  dsimp only at settled
  split at settled
  · rename_i none
    cases settled
    simp [settleJournal, beside, none]
  · rename_i id file
    split at settled
    · rename_i empty
      cases settled
      simp [settleJournal, beside, file, content, empty]
    · rename_i first rest starts
      split at settled
      · rename_i bare
        split at settled
        · cases settled
          exact gone rfl
        · rename_i fixed
          cases settled
          simp [settleJournal, beside, file, content, starts, blank, bare, fixed]
      · rename_i filled
        split at settled
        · cases settled
        · rename_i stands
          split at settled
          · rename_i kept
            cases settled
            simp [settleJournal, beside, file, content, starts, blank, filled, there, stands, kept]
          · split at settled
            · cases settled
              exact gone rfl
            · cases settled
  · rename_i node notFile folder
    split at settled
    · rename_i bare
      cases settled
      cases node with
      | file id => exact absurd rfl (notFile id)
      | folder | log => simp [settleJournal, beside, folder, blank, bare]
    · cases settled

theorem settleWriteAhead_again (settled : connection.settleWriteAhead home disk = .ok middle) :
    connection.settleWriteAhead home middle = .ok middle := by
  unfold settleWriteAhead at settled
  dsimp only at settled
  split at settled
  · rename_i none
    cases settled
    simp [settleWriteAhead, none]
  · rename_i id file
    split at settled
    · rename_i empty
      cases settled
      simp [settleWriteAhead, file, empty]
    · rename_i some
      split at settled
      · cases settled
        have none : (disk.eraseNode (writeAhead home)).node? (writeAhead home) = none := by
          rw [Disk.node?_eraseNode, if_pos rfl, if_neg (writeAhead_ne_nil home)]
        simp [settleWriteAhead, none]
      · rename_i filled
        split at settled
        · cases settled
        · rename_i stands
          cases settled
          simp [settleWriteAhead, file, some, filled, stands]
  · split at settled <;> cases settled

theorem journal_ne_writeAhead (home : Route) : journal home ≠ writeAhead home := by
  intro same
  have names : (home.getLast?.getD "") ++ "-journal" = (home.getLast?.getD "") ++ "-wal" := by
    simp [journal, writeAhead, beside] at same
  have lengths := congrArg String.length names
  rw [String.length_append, String.length_append] at lengths
  exact absurd (Nat.add_left_cancel lengths) (by decide)

/-- Settling a write-ahead log takes it away or changes nothing. -/
theorem settleWriteAhead_cases (settled : connection.settleWriteAhead home disk = .ok middle) :
    middle = disk ∨ middle = disk.eraseNode (writeAhead home) := by
  unfold settleWriteAhead at settled
  dsimp only at settled
  repeat' split at settled
  all_goals first
    | cases settled; exact .inl rfl
    | cases settled; exact .inr rfl
    | cases settled

/-- What was settled is settled. -/
theorem settle_again (settled : connection.settle disk = (.ok (), disk')) :
    connection.settle disk' = (.ok (), disk') := by
  unfold settle at settled ⊢
  split at settled
  · rfl
  · rename_i home found
    split at settled
    · cases settled
    · rename_i middle first
      split at settled
      · cases settled
      · rename_i last second
        cases settled
        have others {route : Route} (apart : route ≠ writeAhead home) :
            disk'.node? route = middle.node? route := by
          rcases settleWriteAhead_cases second with rfl | rfl
          · rfl
          · exact Disk.node?_eraseNode_of_ne _ (Ne.symm apart)
        have journal := settleJournal_again first (others (journal_ne_writeAhead home))
          (others (Ne.symm (writeAhead_ne_self home)))
          (clears_settleWriteAhead found second).1.bodies
        simp only [journal, settleWriteAhead_again second]

/-- Reading rows a second time changes nothing, and gives the same. -/
theorem rows_again {rows : TableRows} (read : connection.rows disk = (.ok rows, disk')) :
    connection.rows disk' = (.ok rows, disk') := by
  rcases rows_eq_iff.mp read with ⟨fault, -, failed⟩ | ⟨settled, same⟩
  · cases failed
  · refine rows_eq_iff.mpr (.inr ⟨settle_again settled, ?_⟩)
    rw [same, (clears_settle settled).body_eq]

end Again

end Connection

namespace LogIndex

/-- A lookup that did not fail read the rows of the log. Every lookup reads them, before it and
behind it, and leaves what it left. -/
theorem exists_rows_of_lookup {key : String} {found : Option Span} {index index' : LogIndex}
    (read : index.lookup key disk = (.ok found, index', disk')) :
    ∃ rows, ∀ other, index.lookup other disk = (spanOf? other rows, index', disk') ∧
      index'.lookup other disk' = (spanOf? other rows, index', disk') := by
  unfold lookup reading at read
  rcases acquired : index.acquire false disk with ⟨result, index₁, middle⟩
  rw [acquired] at read
  cases result with
  | error error => cases read
  | ok id =>
      obtain ⟨-, rfl, rfl⟩ := (Prod.mk.inj read).imp_right Prod.mk.inj
      refine ⟨(middle.log id).rows, fun other => ⟨?_, ?_⟩⟩
      · rw [lookup, reading, acquired]
      · rw [lookup, reading, acquire_of_held (held_of_acquire acquired)]

end LogIndex

namespace TableIndex

theorem opened_of_acquireExisting {index index' : TableIndex} {connection : Connection}
    (acquired : index.acquireExisting disk = (.ok connection, index', disk')) :
    ∃ opened, index'.opened = some opened ∧ opened.connection = connection := by
  unfold acquireExisting at acquired
  split at acquired
  · rename_i opened there
    cases acquired
    exact ⟨opened, there, rfl⟩
  · split at acquired
    · cases acquired
    · cases acquired
      exact ⟨_, rfl, rfl⟩

/-- A lookup that did not fail read the rows of the table. Every lookup reads them, before it and
behind it, and leaves what it left. -/
theorem exists_rows_of_lookup {key : String} {found : Option Span} {index index' : TableIndex}
    (read : index.lookup key disk = (.ok found, index', disk')) :
    ∃ rows, ∀ other, index.lookup other disk = (spanOf? other rows, index', disk') ∧
      index'.lookup other disk' = (spanOf? other rows, index', disk') := by
  unfold lookup reading at read
  rcases acquired : index.acquireExisting disk with ⟨result, index₁, middle⟩
  rw [acquired] at read
  cases result with
  | error error => cases read
  | ok connection =>
      dsimp only at read
      rcases got : connection.rows middle with ⟨rows, last⟩
      rw [got] at read
      cases rows with
      | error fault => cases read
      | ok rows =>
          obtain ⟨-, rfl, rfl⟩ := (Prod.mk.inj read).imp_right Prod.mk.inj
          obtain ⟨opened, there, rfl⟩ := opened_of_acquireExisting acquired
          refine ⟨rows, fun other => ⟨?_, ?_⟩⟩
          · simp only [lookup, reading, acquired, got]
          · simp only [lookup, reading, acquireExisting_of_opened there,
              Connection.rows_again got]

end TableIndex

namespace Backend

section Again

variable {key : String} {found : Option Span} {backend backend' : Backend}

/-- When one lookup does not fail, all of them leave what it left, and find the same before it and
behind it. -/
theorem exists_spans_of_lookup (read : backend.lookup key disk = (.ok found, backend', disk')) :
    ∃ spans : String → Except Error (Option Span), ∀ other,
      backend.lookup other disk = (spans other, backend', disk') ∧
      backend'.lookup other disk' = (spans other, backend', disk') := by
  cases backend with
  | debug printer => cases read
  | log index =>
      rcases looked : index.lookup key disk with ⟨result, index', middle⟩
      rw [lookup, looked] at read
      cases read
      obtain ⟨rows, all⟩ := LogIndex.exists_rows_of_lookup looked
      refine ⟨fun other => LogIndex.spanOf? other rows, fun other => ?_⟩
      rw [lookup, lookup, (all other).1, (all other).2]
      exact ⟨rfl, rfl⟩
  | table index =>
      rcases looked : index.lookup key disk with ⟨result, index', middle⟩
      rw [lookup, looked] at read
      cases read
      obtain ⟨rows, all⟩ := TableIndex.exists_rows_of_lookup looked
      refine ⟨fun other => TableIndex.spanOf? other rows, fun other => ?_⟩
      rw [lookup, lookup, (all other).1, (all other).2]
      exact ⟨rfl, rfl⟩

/-- Behind a lookup that did not fail, another one changes nothing. -/
theorem lookup_again (read : backend.lookup key disk = (.ok found, backend', disk'))
    (other : String) : (backend'.lookup other disk').2 = (backend', disk') := by
  obtain ⟨spans, all⟩ := exists_spans_of_lookup read
  rw [(all other).2]

end Again

end Backend

end RecordStore
