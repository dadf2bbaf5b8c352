import RecordStore.Proofs.Logs
import RecordStore.Proofs.Rows

/-!
Writing to a log and reading from it.

A log that was opened for a batch stays held, so the next batch goes where the first one
went, and two batches one after another are one (`write_append`). The rows of an index are
those of the log that it holds or would open (`rowsOn`): a batch that is written is put
into them, and neither a refused batch nor reading changes them.
-/

namespace RecordStore.LogIndex

variable {index index' index'' : LogIndex} {disk disk' disk'' : Disk} {id : Nat}

theorem acquire_of_held (held : index.held = some id) (create : Bool) (disk : Disk) :
    index.acquire create disk = (.ok id, index, disk) := by
  simp [acquire, held]

theorem held_of_acquire {create : Bool}
    (acquired : index.acquire create disk = (.ok id, index', disk')) :
    index'.held = some id := by
  unfold acquire at acquired
  split at acquired
  · rename_i held
    cases acquired
    exact held
  · split at acquired
    · cases acquired
    · split at acquired
      · cases acquired
      · dsimp only at acquired
        split at acquired
        · cases acquired
        · cases acquired
          rfl

/-- A batch is written when the log is there and every span has a stored form. -/
theorem write_eq_ok_iff {entries : List Entry} :
    index.write entries disk = (.ok (), index', disk') ↔
      ∃ id middle pairs, index.acquire true disk = (.ok id, index', middle) ∧
        encodeAll entries = .ok pairs ∧
        disk' = middle.setLog id
          { middle.log id with rows := Assoc.putAll pairs (middle.log id).rows } := by
  unfold write
  rcases acquired : index.acquire true disk with ⟨result, index₁, middle⟩
  cases result with
  | error error => simp
  | ok id =>
      cases encoded : encodeAll entries with
      | error error => simp
      | ok pairs =>
          simp only [Prod.mk.injEq, true_and, Except.ok.injEq]
          constructor
          · rintro ⟨rfl, rfl⟩
            exact ⟨id, middle, pairs, ⟨rfl, rfl, rfl⟩, rfl, rfl⟩
          · rintro ⟨_, _, _, ⟨rfl, rfl, rfl⟩, rfl, rfl⟩
            exact ⟨rfl, rfl⟩

/-- A log that is held takes every batch whose numbers fit. -/
theorem write_of_held (held : index.held = some id) {entries : List Entry}
    (room : ∀ entry ∈ entries, entry.offset ≤ Slot.maxValue ∧ entry.length ≤ Slot.maxValue)
    (disk : Disk) : ∃ disk', index.write entries disk = (.ok (), index, disk') := by
  obtain ⟨pairs, encoded⟩ := exists_encodeAll room
  exact ⟨_, write_eq_ok_iff.mpr ⟨id, disk, pairs, acquire_of_held held true disk, encoded, rfl⟩⟩

/-- Two batches one after another come to what they are as one. -/
theorem write_append {first second : List Entry}
    (wrote : index.write first disk = (.ok (), index', disk'))
    (again : index'.write second disk' = (.ok (), index'', disk'')) :
    index.write (first ++ second) disk = (.ok (), index'', disk'') := by
  obtain ⟨id, middle, pairs, acquired, encoded, rfl⟩ := write_eq_ok_iff.mp wrote
  obtain ⟨id', middle', pairs', acquired', encoded', rfl⟩ := write_eq_ok_iff.mp again
  rw [acquire_of_held (held_of_acquire acquired)] at acquired'
  cases acquired'
  refine write_eq_ok_iff.mpr ⟨id, middle, pairs ++ pairs', acquired, ?_, ?_⟩
  · rw [encodeAll_append, encoded, encoded']
    rfl
  · simp

/-! ### The rows of an index -/

/-- The rows of the log that an index holds, or would open. -/
def rowsOn (index : LogIndex) (disk : Disk) : Assoc String Bytes :=
  match index.held with
  | some id => (disk.log id).rows
  | none => disk.logRows (Disk.placeOf index.path)

theorem rowsOn_of_held (held : index.held = some id) (disk : Disk) :
    index.rowsOn disk = (disk.log id).rows := by
  simp [rowsOn, held]

theorem rowsOn_of_not_held (free : index.held = none) (disk : Disk) :
    index.rowsOn disk = disk.logRows (Disk.placeOf index.path) := by
  simp [rowsOn, free]

/-- What getting hold of the log comes to: no rows change, and what is spared is spared. -/
structure Acquires (place : Route) (index : LogIndex) (disk : Disk) (result : Except Error Nat)
    (index' : LogIndex) (disk' : Disk) : Prop where
  spares : place ≠ Disk.placeOf index.path → Disk.Spares place disk disk'
  rows : index'.rowsOn disk' = index.rowsOn disk
  path : index'.path = index.path
  kept : index.held ≠ none → index' = index
  failed : ∀ error, result = .error error → ∃ reason, error = .backendOpen index.path reason

theorem acquires_acquire {place : Route} {create : Bool} {result : Except Error Nat}
    (acquired : index.acquire create disk = (result, index', disk')) :
    Acquires place index disk result index' disk' := by
  cases held : index.held with
  | some id =>
      rw [acquire_of_held held] at acquired
      cases acquired
      exact ⟨fun _ => .refl _ _, rfl, rfl, fun _ => rfl, fun _ same => (by cases same)⟩
  | none =>
      have refused {disk' : Disk} {reason : OpenFault}
          (spares : place ≠ Disk.placeOf index.path → Disk.Spares place disk disk')
          (rows : disk'.logRows (Disk.placeOf index.path) =
            disk.logRows (Disk.placeOf index.path)) :
          Acquires place index disk (.error (.backendOpen index.path reason)) index disk' := by
        refine ⟨spares, ?_, rfl, fun _ => rfl, ?_⟩
        · rw [rowsOn_of_not_held held, rowsOn_of_not_held held, rows]
        · intro error same
          cases same
          exact ⟨reason, rfl⟩
      unfold acquire at acquired
      rw [held] at acquired
      dsimp only at acquired
      split at acquired
      · cases acquired
        exact refused (fun _ => .refl _ _) rfl
      · split at acquired
        · rename_i fault middle opened
          cases acquired
          have opens := @Disk.opens_openLog place _ _ _ _ opened
          exact refused opens.spares (opens.failed fault rfl _)
        · rename_i id middle opened
          have opens := @Disk.opens_openLog place _ _ _ _ opened
          split at acquired
          · cases acquired
            apply refused opens.spares
            rw [Disk.logRows_of_log (opens.node id rfl), opens.rows id rfl]
          · cases acquired
            refine ⟨fun away => (opens.spares away).trans (Disk.spares_setLog _ _), ?_, rfl,
              fun some => absurd held some, fun _ same => (by cases same)⟩
            rw [rowsOn_of_not_held held, ← opens.rows id rfl]
            have same : ((middle.setLog id { middle.log id with held := true }).log id).rows =
                (middle.log id).rows := by rw [Disk.log_setLog_self]
            exact same

/-- What writing a batch comes to: all of it is put into the rows, or none. -/
structure Writes (place : Route) (index : LogIndex) (disk : Disk) (entries : List Entry)
    (result : Except Error Unit) (index' : LogIndex) (disk' : Disk) : Prop where
  spares : place ≠ Disk.placeOf index.path → Disk.Spares place disk disk'
  path : index'.path = index.path
  kept : index.held ≠ none → index'.held ≠ none
  done : result = .ok () → index'.held ≠ none ∧ ∃ pairs, encodeAll entries = .ok pairs ∧
    index'.rowsOn disk' = Assoc.putAll pairs (index.rowsOn disk)
  failed : ∀ error, result = .error error → index'.rowsOn disk' = index.rowsOn disk

theorem writes_write {place : Route} {entries : List Entry} {result : Except Error Unit}
    (wrote : index.write entries disk = (result, index', disk')) :
    Writes place index disk entries result index' disk' := by
  unfold write at wrote
  rcases acquired : index.acquire true disk with ⟨outcome, index₁, middle⟩
  have acquires := @acquires_acquire _ _ _ _ place _ _ acquired
  have kept : index.held ≠ none → index₁.held ≠ none := fun some => acquires.kept some ▸ some
  rw [acquired] at wrote
  cases outcome with
  | error error =>
      cases wrote
      exact ⟨acquires.spares, acquires.path, kept, fun same => (by cases same),
        fun _ _ => acquires.rows⟩
  | ok id =>
      have held := held_of_acquire acquired
      cases encoded : encodeAll entries with
      | error error =>
          simp only [encoded] at wrote
          cases wrote
          exact ⟨acquires.spares, acquires.path, kept, fun same => (by cases same),
            fun _ _ => acquires.rows⟩
      | ok pairs =>
          simp only [encoded] at wrote
          cases wrote
          refine ⟨fun away => (acquires.spares away).trans (Disk.spares_setLog _ _),
            acquires.path, kept, fun _ => ⟨by simp [held], pairs, encoded, ?_⟩,
            fun _ same => (by cases same)⟩
          rw [← acquires.rows, rowsOn_of_held held, rowsOn_of_held held, Disk.log_setLog_self]

/-- Reading a log that is held leaves everything as it is. -/
theorem lookup_of_held (held : index.held ≠ none) (key : String) (disk : Disk) :
    index.lookup key disk = (spanOf? key (index.rowsOn disk), index, disk) := by
  obtain ⟨id, same⟩ := Option.ne_none_iff_exists'.mp held
  simp [lookup, reading, acquire_of_held same, rowsOn_of_held same]

/-- What looking up a key comes to: what the rows have under it, or no log. -/
theorem lookup_spec {place : Route} {key : String} {result : Except Error (Option Span)}
    (read : index.lookup key disk = (result, index', disk')) :
    (place ≠ Disk.placeOf index.path → Disk.Spares place disk disk') ∧
      index'.path = index.path ∧ index'.rowsOn disk' = index.rowsOn disk ∧
      (result = spanOf? key (index.rowsOn disk) ∨
        ∃ reason, result = .error (.backendOpen index.path reason)) := by
  unfold lookup reading at read
  rcases acquired : index.acquire false disk with ⟨outcome, index₁, middle⟩
  have acquires := @acquires_acquire _ _ _ _ place _ _ acquired
  rw [acquired] at read
  cases outcome with
  | error error =>
      cases read
      obtain ⟨reason, rfl⟩ := acquires.failed error rfl
      exact ⟨acquires.spares, acquires.path, acquires.rows, .inr ⟨reason, rfl⟩⟩
  | ok id =>
      cases read
      refine ⟨acquires.spares, acquires.path, acquires.rows, .inl ?_⟩
      rw [← acquires.rows, rowsOn_of_held (held_of_acquire acquired)]

end RecordStore.LogIndex
