import RecordStore.Append
import RecordStore.Proofs.Backend
import RecordStore.Proofs.Blob

/-!
A file that grows.

Opening a file to add to its end changes nothing but this file (`Grows`), so an index whose
own places are elsewhere has under its keys what it had, and stays open as it was.
-/

namespace RecordStore

namespace Disk

/-- Nothing changes but the file at a place, which may be new. -/
structure Grows (place : Route) (before after : Disk) : Prop where
  node : ∀ route, route ≠ place → after.node? route = before.node? route
  kept : before.node? place ≠ none → after.node? place = before.node? place
  file : ∀ id, after.node? place = some (.file id) →
    before.node? place = some (.file id) ∨ before.next ≤ id
  body : ∀ id, id < before.next → before.node? place ≠ some (.file id) →
    after.body id = before.body id
  logs : after.logs = before.logs
  memories : after.memories = before.memories
  next : before.next ≤ after.next
  sound : before.Sound → after.Sound

variable {place : Route} {disk disk' : Disk} {path : String} {id : Nat}

theorem Grows.refl (place : Route) (disk : Disk) : Grows place disk disk :=
  ⟨fun _ _ => rfl, fun _ => rfl, fun _ there => .inl there, fun _ _ _ => rfl, rfl, rfl,
    Nat.le_refl _, fun sound => sound⟩

theorem Grows.trans {first second third : Disk} (one : Grows place first second)
    (other : Grows place second third) : Grows place first third := by
  have file : ∀ id, id < first.next → first.node? place ≠ some (.file id) →
      second.node? place ≠ some (.file id) := by
    intro id known elsewhere there
    rcases one.file id there with same | new
    · exact elsewhere same
    · omega
  refine ⟨fun route away => (other.node route away).trans (one.node route away),
    ?_, ?_, ?_, other.logs.trans one.logs, other.memories.trans one.memories,
    Nat.le_trans one.next other.next, fun sound => other.sound (one.sound sound)⟩
  · intro there
    have same := one.kept there
    exact (other.kept (same ▸ there)).trans same
  · intro id there
    rcases other.file id there with same | new
    · exact one.file id same
    · exact .inr (Nat.le_trans one.next new)
  · intro id known elsewhere
    rw [other.body id (Nat.lt_of_lt_of_le known one.next) (file id known elsewhere),
      one.body id known elsewhere]

theorem grows_createAt (free : disk.node? place = none) (body : Body) :
    Grows place disk (disk.createAt place body).2 := by
  refine ⟨?_, fun there => absurd free there, fun other there => .inr ?_,
    ?_, rfl, rfl, Nat.le_succ _, (@spares_createAt place disk place body free).sound⟩
  · intro route away
    rw [node?_createAt, if_neg (Ne.symm away)]
  · rw [node?_createAt, if_pos rfl] at there
    cases there
    exact Nat.le_refl _
  · intro other known _
    exact (body_createFile disk body other).trans (if_neg (Nat.ne_of_gt known))

theorem grows_setBody (there : disk.node? place = some (.file id)) (body : Body) :
    Grows place disk (disk.setBody id body) := by
  refine ⟨fun _ _ => rfl, fun _ => rfl, fun _ same => .inl same, ?_,
    rfl, rfl, Nat.le_refl _, fun sound => ⟨sound.known, sound.distinct, sound.shared⟩⟩
  intro other _ elsewhere
  refine body_setBody_of_ne disk ?_ body
  rintro rfl
  exact elsewhere there

theorem walk_setBody (disk : Disk) (id : Nat) (body : Body) (start : Route)
    (names : List String) : (disk.setBody id body).walk start names = disk.walk start names := by
  induction names generalizing start with
  | nil => rfl
  | cons name names ih =>
      have same : (disk.setBody id body).enter start name = disk.enter start name := rfl
      rw [walk, walk, same]
      cases disk.enter start name with
      | error fault => rfl
      | ok next => exact ih next

/-- What a file holds does not matter to finding it. -/
theorem find_setBody (disk : Disk) (id : Nat) (body : Body) (path : String) :
    (disk.setBody id body).find path = disk.find path := by
  have same : (disk.setBody id body).route path = disk.route path := by
    simp only [route, walk_setBody]
  simp only [find, same, node?_setBody]

/-! ### Opening a file to add to it -/

/-- A file that is opened is the one at its path, or is made there where nothing was. -/
theorem openFile_cases (opened : disk.openFile path = .ok (id, disk')) :
    disk.find path = .ok (.file id) ∧ disk' = disk ∨
      disk.route path = .ok (placeOf path) ∧ disk.node? (placeOf path) = none ∧
        (id, disk') = disk.createAt (placeOf path) (.bytes []) := by
  have route : ∃ place, disk.fileRoute path = .ok place := by
    cases leads : disk.fileRoute path with
    | error fault =>
        simp only [openFile, leads] at opened
        cases opened
    | ok place => exact ⟨place, rfl⟩
  obtain ⟨place, leads⟩ := route
  have same : disk.route path = .ok place := by
    unfold fileRoute at leads
    split at leads
    · cases leads
    · exact leads
    · split at leads <;> cases leads
  obtain rfl := eq_placeOf_of_route same
  simp only [openFile, leads] at opened
  split at opened
  · rename_i free
    cases opened
    exact .inr ⟨same, free, rfl⟩
  · rename_i there
    cases opened
    exact .inl ⟨find_eq_ok_iff.mpr ⟨same, there⟩, rfl⟩
  · cases opened

/-- A file that is opened is at its path, and nothing but this file is new. -/
theorem openFile_spec (opened : disk.openFile path = .ok (id, disk')) :
    disk'.find path = .ok (.file id) ∧ Grows (placeOf path) disk disk' ∧
      ∀ old, disk.find path = .ok (.file old) → old = id ∧ disk' = disk := by
  rcases openFile_cases opened with ⟨found, rfl⟩ | ⟨leads, free, made⟩
  · refine ⟨found, .refl _ _, ?_⟩
    intro old there
    rw [found] at there
    cases there
    exact ⟨rfl, rfl⟩
  · cases made
    refine ⟨find_eq_ok_iff.mpr ⟨(@spares_createAt (placeOf path) _ _ _ free).route leads,
      node?_setNode_self _ _ _⟩, grows_createAt free _, ?_⟩
    intro old there
    rw [find_eq_ok_iff, free] at there
    cases there.2

/-- The bytes of the file at a path; without a file there are none. -/
def bytesAt (path : String) (disk : Disk) : Bytes :=
  match disk.find path with
  | .ok (.file id) => disk.content id
  | _ => []

theorem bytesAt_of_find (found : disk.find path = .ok (.file id)) :
    disk.bytesAt path = disk.content id := by
  simp [bytesAt, found]

/-- Whether what is at a path is, if it is a file at all, one of bytes and no database. -/
def Plain (path : String) (disk : Disk) : Prop :=
  ∀ id, disk.find path = .ok (.file id) → ∃ bytes, disk.body id = .bytes bytes

/-- A file of bytes that is opened and added to holds what it held and then what was added. -/
theorem openFile_appendTo (plain : disk.Plain path)
    (opened : disk.openFile path = .ok (id, disk')) (bytes : Bytes) :
    (disk'.appendTo id bytes).find path = .ok (.file id) ∧
      Grows (placeOf path) disk (disk'.appendTo id bytes) ∧
      disk'.content id = disk.bytesAt path ∧
      (disk'.appendTo id bytes).content id = disk.bytesAt path ++ bytes ∧
      (disk'.appendTo id bytes).Plain path := by
  obtain ⟨found, grows, -⟩ := openFile_spec opened
  have there := (find_eq_ok_iff.mp found).2
  have found' : (disk'.appendTo id bytes).find path = .ok (.file id) :=
    (find_setBody _ _ _ _).trans found
  obtain ⟨held, body, same⟩ : ∃ held, disk'.body id = .bytes held ∧ disk.bytesAt path = held := by
    rcases openFile_cases opened with ⟨old, rfl⟩ | ⟨leads, free, made⟩
    · obtain ⟨held, body⟩ := plain id old
      exact ⟨held, body, by rw [bytesAt_of_find old, content, body]⟩
    · cases made
      refine ⟨[], (body_createFile disk _ _).trans (if_pos rfl), ?_⟩
      simp [bytesAt, find, leads, free]
  have body' : (disk'.appendTo id bytes).body id = .bytes (held ++ bytes) := by
    rw [body_appendTo_self, body, Body.append]
  refine ⟨found', grows.trans (grows_setBody there _), ?_, ?_, ?_⟩
  · rw [same, content, body]
  · rw [same, content, body']
  · intro other elsewhere
    rw [found'] at elsewhere
    cases elsewhere
    exact ⟨_, body'⟩

/-- Bytes that are added stand behind those that were there; behind a table they mean nothing. -/
theorem exists_content_appendTo (disk : Disk) (id : Nat) (bytes : Bytes) :
    ∃ more, (disk.appendTo id bytes).content id = disk.content id ++ more ∧
      Bytes.slice (disk.content id ++ more) (disk.content id).length bytes.length = more := by
  cases held : disk.body id with
  | bytes old =>
      refine ⟨bytes, ?_, by simp [Bytes.slice]⟩
      simp [content, body_appendTo_self, held, Body.append]
  | table | damaged =>
      refine ⟨[], ?_, by simp [Bytes.slice]⟩
      simp [content, body_appendTo_self, held, Body.append]

end Disk

/-! ### An index beside a file that grows -/

variable {place : Route} {disk disk' : Disk}

theorem Connection.Away.grows {connection : Connection} (away : connection.Away place disk)
    (grows : Disk.Grows place disk disk') :
    connection.Away place disk' ∧ disk'.body connection.id = disk.body connection.id := by
  refine ⟨⟨Nat.lt_of_lt_of_le away.known grows.next, ?_, away.beside⟩,
    grows.body _ away.known away.other⟩
  intro there
  rcases grows.file _ there with same | new
  · exact away.other same
  · exact absurd away.known (Nat.not_lt.mpr new)

theorem Connection.Quiet.grows {connection : Connection} (quiet : connection.Quiet disk)
    (away : connection.Away place disk) (grows : Disk.Grows place disk disk') :
    connection.Quiet disk' := by
  refine ⟨?_, ?_, ?_⟩
  · intro home found
    rw [grows.node _ (Ne.symm (away.beside home found).1), quiet.journal home found]
  · intro home found node there
    rw [grows.node _ (Ne.symm (away.beside home found).2)] at there
    exact quiet.writeAhead home found node there
  · intro home found gone
    by_cases same : home = place
    · subst same
      rw [grows.kept (quiet.home home found)] at gone
      exact quiet.home home found gone
    · rw [grows.node home same] at gone
      exact quiet.home home found gone

theorem DatabasePlace.rows_of_grows {database : DatabasePlace} (away : database.Away place)
    (sound : disk.Sound) (grows : Disk.Grows place disk disk') :
    database.rows disk' = database.rows disk := by
  cases database with
  | alone => rfl
  | file path =>
      have apart := away.1
      have same := grows.node _ (Ne.symm apart)
      unfold DatabasePlace.rows
      simp only [same]
      split
      · rename_i id there
        rw [grows.body id (sound.known _ _ there) fun here =>
          apart (sound.distinct _ _ _ here there)]
      · rfl
  | shared name =>
      unfold DatabasePlace.rows
      simp only [grows.memories]
      split
      · rename_i memory found
        obtain ⟨known, hidden, -⟩ := sound.shared name memory found
        rw [grows.body memory.id known (hidden place)]
      · rfl

theorem TableIndex.Away.grows {index : TableIndex} (away : index.Away place disk)
    (sound : disk.Sound) (grows : Disk.Grows place disk disk') :
    index.Away place disk' ∧ index.rowsOn disk' = index.rowsOn disk ∧
      (index.Settled disk → index.Settled disk') := by
  refine ⟨⟨away.place, fun opened there => ((away.opened opened there).grows grows).1⟩, ?_, ?_⟩
  · unfold TableIndex.rowsOn
    split
    · rename_i opened there
      rw [((away.opened opened there).grows grows).2]
    · split
      · rename_i address read
        exact DatabasePlace.rows_of_grows (away.place address read) sound grows
      · rfl
  · rintro ⟨connection, rows, there, quiet, filled⟩
    have own := away.opened _ there
    exact ⟨connection, rows, there, quiet.grows own grows, (own.grows grows).2.trans filled⟩

theorem LogIndex.rowsOn_of_grows {index : LogIndex} (away : place ≠ Disk.placeOf index.path)
    (grows : Disk.Grows place disk disk') : index.rowsOn disk' = index.rowsOn disk := by
  have logs (id : Nat) : disk'.log id = disk.log id := by simp only [Disk.log, grows.logs]
  unfold LogIndex.rowsOn Disk.logRows
  simp only [logs, grows.node _ (Ne.symm away)]

/-- An index is not touched by a file that grows elsewhere. -/
theorem Backend.Away.grows {backend : Backend} (away : backend.Away place disk)
    (sound : disk.Sound) (grows : Disk.Grows place disk disk') :
    backend.Away place disk' ∧ (∀ key, backend.stored key disk' = backend.stored key disk) ∧
      (backend.Settled disk → backend.Settled disk') := by
  cases backend with
  | debug _ => exact ⟨trivial, fun _ => rfl, fun settled => settled⟩
  | log index =>
      refine ⟨away, ?_, fun settled => settled⟩
      intro key
      simp only [stored, LogIndex.rowsOn_of_grows away grows]
  | table index =>
      obtain ⟨away', rows, settled⟩ := TableIndex.Away.grows away sound grows
      exact ⟨away', fun key => by simp only [stored, rows], settled⟩

end RecordStore
