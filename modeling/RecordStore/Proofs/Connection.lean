import RecordStore.Database.Connection
import RecordStore.Proofs.Disk
import Mathlib.Data.List.Basic

/-!
What a connection does to a disk.

Settling takes files away that stand beside the file of the connection, and nothing else
(`Clears`); a change puts rows into that file. After a change nothing is left to settle
(`Quiet`), so the rows that were put there are the ones that are read.
-/

namespace RecordStore

namespace Connection

/-! ### Places beside a file -/

theorem beside_ne_nil (home : Route) (ending : String) : beside home ending ≠ [] := by
  simp [beside]

theorem beside_ne_self {ending : String} (some : ending ≠ "") (home : Route) :
    beside home ending ≠ home := by
  intro same
  rcases List.eq_nil_or_concat home with rfl | ⟨around, name, rfl⟩
  · exact beside_ne_nil [] ending same
  · have names : name ++ ending = name := by simpa [beside] using same
    have empty := congrArg String.length names
    rw [String.length_append] at empty
    exact some (String.length_eq_zero_iff.mp (by omega))

theorem journal_ne_nil (home : Route) : journal home ≠ [] :=
  beside_ne_nil home _

theorem writeAhead_ne_nil (home : Route) : writeAhead home ≠ [] :=
  beside_ne_nil home _

theorem journal_ne_self (home : Route) : journal home ≠ home :=
  beside_ne_self (by decide) home

theorem writeAhead_ne_self (home : Route) : writeAhead home ≠ home :=
  beside_ne_self (by decide) home

/-! ### Clearing -/

/-- Only files beside the one of the connection are taken away. -/
structure Clears (connection : Connection) (before after : Disk) : Prop where
  bodies : after.bodies = before.bodies
  logs : after.logs = before.logs
  memories : after.memories = before.memories
  next : after.next = before.next
  nodes : ∀ route, after.node? route = before.node? route ∨
    after.node? route = none ∧ (∃ id, before.node? route = some (.file id)) ∧
      ∃ home, connection.home = some home ∧ (route = journal home ∨ route = writeAhead home)

variable {connection : Connection} {disk disk' : Disk}

theorem Clears.refl (connection : Connection) (disk : Disk) : connection.Clears disk disk :=
  ⟨rfl, rfl, rfl, rfl, fun _ => .inl rfl⟩

theorem Clears.trans {first second third : Disk} (one : connection.Clears first second)
    (other : connection.Clears second third) : connection.Clears first third := by
  refine ⟨other.bodies.trans one.bodies, other.logs.trans one.logs,
    other.memories.trans one.memories, other.next.trans one.next, ?_⟩
  intro route
  rcases other.nodes route with same | ⟨gone, ⟨id, was⟩, home⟩
  · rw [same]
    exact one.nodes route
  · rcases one.nodes route with same | ⟨gone', -⟩
    · exact .inr ⟨gone, ⟨id, same ▸ was⟩, home⟩
    · rw [gone'] at was
      cases was

theorem Clears.body_eq (clears : connection.Clears disk disk') (id : Nat) :
    disk'.body id = disk.body id := by
  simp only [Disk.body, clears.bodies]

/-- Nothing but a file is taken away, so nothing but a file is missing. -/
theorem clears_eraseNode {home route : Route} (found : connection.home = some home)
    (beside : route = journal home ∨ route = writeAhead home)
    (file : ∀ node, disk.node? route = some node → ∃ id, node = .file id) :
    connection.Clears disk (disk.eraseNode route) := by
  have inner : route ≠ [] := by
    rcases beside with rfl | rfl
    · exact journal_ne_nil home
    · exact writeAhead_ne_nil home
  refine ⟨rfl, rfl, rfl, rfl, ?_⟩
  intro other
  rw [Disk.node?_eraseNode]
  by_cases same : route = other
  · subst same
    rw [if_pos rfl, if_neg inner]
    cases there : disk.node? route with
    | none => exact .inl rfl
    | some node =>
        obtain ⟨id, rfl⟩ := file node there
        exact .inr ⟨rfl, ⟨id, rfl⟩, home, found, beside⟩
  · rw [if_neg same]
    exact .inl rfl

theorem clears_settleJournal {home : Route} (found : connection.home = some home)
    (settled : connection.settleJournal home disk = .ok disk') :
    connection.Clears disk disk' := by
  have undone : ∀ {id}, disk.node? (journal home) = some (.file id) →
      connection.Clears disk (disk.eraseNode (journal home)) := by
    intro id there
    refine clears_eraseNode found (.inl rfl) fun node same => ⟨id, ?_⟩
    rw [there] at same
    cases same
    rfl
  unfold settleJournal at settled
  dsimp only at settled
  split at settled
  · cases settled
    exact .refl _ _
  · rename_i id there
    split at settled
    · cases settled
      exact .refl _ _
    · split at settled
      · cases settled
        split
        · exact undone there
        · exact .refl _ _
      · split at settled
        · cases settled
        · split at settled
          · cases settled
            exact .refl _ _
          · split at settled
            · cases settled
              exact undone there
            · cases settled
  · split at settled
    · cases settled
      exact .refl _ _
    · cases settled

/-- Behind a settled write-ahead log stands no folder. -/
theorem clears_settleWriteAhead {home : Route} (found : connection.home = some home)
    (settled : connection.settleWriteAhead home disk = .ok disk') :
    connection.Clears disk disk' ∧
      ∀ node, disk'.node? (writeAhead home) = some node → ∃ id, node = .file id := by
  unfold settleWriteAhead at settled
  dsimp only at settled
  split at settled
  · rename_i none
    cases settled
    refine ⟨.refl _ _, ?_⟩
    intro node there
    rw [none] at there
    cases there
  · rename_i id there
    have file : ∀ node, disk.node? (writeAhead home) = some node → ∃ id, node = .file id := by
      intro node same
      rw [there] at same
      cases same
      exact ⟨id, rfl⟩
    split at settled
    · cases settled
      exact ⟨.refl _ _, file⟩
    · split at settled
      · cases settled
        refine ⟨clears_eraseNode found (.inr rfl) file, ?_⟩
        intro node erased
        rw [Disk.node?_eraseNode, if_pos rfl, if_neg (writeAhead_ne_nil home)] at erased
        cases erased
      · split at settled
        · cases settled
        · cases settled
          exact ⟨.refl _ _, file⟩
  · split at settled
    · cases settled
    · cases settled

theorem clears_settle {result : Except DatabaseFault Unit}
    (settled : connection.settle disk = (result, disk')) : connection.Clears disk disk' := by
  unfold settle at settled
  split at settled
  · cases settled
    exact .refl _ _
  · rename_i home found
    split at settled
    · cases settled
      exact .refl _ _
    · rename_i middle first
      have journal := clears_settleJournal found first
      split at settled
      · cases settled
        exact journal
      · rename_i last second
        cases settled
        exact journal.trans (clears_settleWriteAhead found second).1

theorem noFolder_of_settle {home : Route} (found : connection.home = some home)
    (settled : connection.settle disk = (.ok (), disk')) {node : Node}
    (there : disk'.node? (writeAhead home) = some node) : ∃ id, node = .file id := by
  unfold settle at settled
  rw [found] at settled
  simp only at settled
  split at settled
  · cases settled
  · split at settled
    · cases settled
    · rename_i last second
      cases settled
      exact (clears_settleWriteAhead found second).2 node there

theorem rows_eq_iff {result : Except DatabaseFault TableRows} :
    connection.rows disk = (result, disk') ↔
      (∃ fault, connection.settle disk = (.error fault, disk') ∧ result = .error fault) ∨
      (connection.settle disk = (.ok (), disk') ∧
        result = rowsOf (disk.body connection.id)) := by
  unfold rows
  cases settled : connection.settle disk with
  | mk outcome middle =>
      have body := (clears_settle settled).body_eq connection.id
      cases outcome with
      | error fault =>
          simp only [Prod.mk.injEq]
          constructor
          · rintro ⟨rfl, rfl⟩
            exact .inl ⟨fault, ⟨rfl, rfl⟩, rfl⟩
          · rintro (⟨other, ⟨same, rfl⟩, rfl⟩ | ⟨⟨same, -⟩, -⟩)
            · cases same
              exact ⟨rfl, rfl⟩
            · cases same
      | ok done =>
          simp only [Prod.mk.injEq, body]
          constructor
          · rintro ⟨rfl, rfl⟩
            exact .inr ⟨⟨trivial, rfl⟩, rfl⟩
          · rintro (⟨fault, ⟨same, -⟩, -⟩ | ⟨⟨-, rfl⟩, rfl⟩)
            · cases same
            · exact ⟨rfl, rfl⟩

theorem clears_rows {result : Except DatabaseFault TableRows}
    (read : connection.rows disk = (result, disk')) : connection.Clears disk disk' := by
  rcases rows_eq_iff.mp read with ⟨fault, settled, -⟩ | ⟨settled, -⟩
  · exact clears_settle settled
  · exact clears_settle settled

/-! ### Changing -/

/-- Where a change is possible, the file is there and no folder is in the way of the journal. -/
theorem of_changeFault?_eq_none (free : connection.changeFault? disk = none) {home : Route}
    (found : connection.home = some home) :
    disk.node? home ≠ none ∧
      ∀ node, disk.node? (journal home) = some node → ∃ id, node = .file id := by
  unfold changeFault? at free
  rw [found] at free
  simp only at free
  split at free
  · cases free
  · split at free
    · cases free
    · split at free
      · cases free
      · split at free
        · cases free
        · rename_i moved gone blocked
          constructor
          · intro none
            cases blank : connection.isBlank disk with
            | true => exact gone ⟨blank, none⟩
            | false => exact moved ⟨by simp [blank], by simp [none]⟩
          · intro node there
            cases node with
            | file id => exact ⟨id, rfl⟩
            | folder => exact absurd (.inr (by simp [there, Disk.isFolder])) blocked
            | log id => exact absurd (.inr (by simp [there, Disk.isFolder])) blocked

theorem clears_endJournal (free : connection.changeFault? disk = none) :
    connection.Clears disk (connection.endJournal disk) := by
  unfold endJournal
  split
  · exact .refl _ _
  · rename_i home found
    exact clears_eraseNode found (.inl rfl) (of_changeFault?_eq_none free found).2

theorem endJournal_setBody (id : Nat) (body : Body) :
    connection.endJournal (disk.setBody id body) =
      (connection.endJournal disk).setBody id body := by
  unfold endJournal
  split
  · rfl
  · rfl

@[simp] theorem endJournal_endJournal :
    connection.endJournal (connection.endJournal disk) = connection.endJournal disk := by
  unfold endJournal
  split
  · rfl
  · simp

/-- Nothing beside the file is left to settle. -/
structure Quiet (connection : Connection) (disk : Disk) : Prop where
  journal : ∀ home, connection.home = some home → disk.node? (journal home) = none
  writeAhead : ∀ home, connection.home = some home →
    ∀ node, disk.node? (writeAhead home) = some node → ∃ id, node = .file id
  home : ∀ home, connection.home = some home → disk.node? home ≠ none

/-- With nothing to settle, reading a file with rows leaves the disk as it is. -/
theorem Quiet.rows_eq (quiet : connection.Quiet disk) {rows : TableRows}
    (filled : disk.body connection.id = .table rows) :
    connection.rows disk = (.ok rows, disk) := by
  refine rows_eq_iff.mpr (.inr ⟨?_, by rw [filled]; rfl⟩)
  have unblank : connection.isBlank disk = false := by simp [isBlank, filled]
  unfold settle
  split
  · rfl
  · rename_i home found
    have first : connection.settleJournal home disk = .ok disk := by
      simp [settleJournal, quiet.journal home found]
    have second : connection.settleWriteAhead home disk = .ok disk := by
      unfold settleWriteAhead
      split
      · rfl
      · simp [unblank, quiet.home home found]
      · rename_i node file there
        obtain ⟨id, rfl⟩ := quiet.writeAhead home found node there
        exact absurd rfl (file id)
    simp [first, second]

/-- After a change there is nothing to settle. -/
theorem quiet_of_change (rows : TableRows) (free : connection.changeFault? disk = none)
    (settled : ∀ home, connection.home = some home →
      ∀ node, disk.node? (writeAhead home) = some node → ∃ id, node = .file id) :
    connection.Quiet ((connection.endJournal disk).setBody connection.id (.table rows)) := by
  refine ⟨?_, ?_, ?_⟩
  · intro home found
    simp [endJournal, found, Disk.node?_eraseNode, journal_ne_nil]
  · intro home found node there
    rw [Disk.node?_setBody] at there
    rcases (clears_endJournal free).nodes (RecordStore.Connection.writeAhead home) with same | gone
    · rw [same] at there
      exact settled home found node there
    · rw [gone.1] at there
      cases there
  · intro home found gone
    refine (of_changeFault?_eq_none free found).1 ?_
    rw [Disk.node?_setBody, endJournal, found] at gone
    rwa [Disk.node?_eraseNode_of_ne _ (journal_ne_self home)] at gone

/-- Where nothing is left to settle, clearing finds nothing to take away but a write-ahead log. -/
theorem Quiet.of_clears (quiet : connection.Quiet disk) (clears : connection.Clears disk disk') :
    connection.Quiet disk' := by
  refine ⟨?_, ?_, ?_⟩
  · intro home found
    rcases clears.nodes (RecordStore.Connection.journal home) with same | ⟨gone, -⟩
    · rw [same, quiet.journal home found]
    · exact gone
  · intro home found node there
    rcases clears.nodes (RecordStore.Connection.writeAhead home) with same | ⟨gone, -⟩
    · exact quiet.writeAhead home found node (same ▸ there)
    · rw [gone] at there
      cases there
  · intro home found gone
    rcases clears.nodes home with same | ⟨-, -, other, found', beside⟩
    · exact quiet.home home found (same ▸ gone)
    · rw [found] at found'
      cases found'
      rcases beside with same | same
      · exact journal_ne_self home same.symm
      · exact writeAhead_ne_self home same.symm

end Connection

end RecordStore
