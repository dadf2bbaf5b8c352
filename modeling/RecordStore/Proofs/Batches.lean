import RecordStore.Proofs.Acceptance
import RecordStore.Proofs.Spans
import Mathlib

/-!
What a batch comes to.

A batch is written whole, so that every key of it stands for the last entry that has it, or it
leaves an index as it was. Then the error is that of the first entry that cannot be written when
those before it are (`FirstRefused`): a number that has no room, the offset before the length,
and, in a table that refuses them, a key that is there already.
-/

namespace RecordStore

/-- Which number of an entry exceeds a ceiling. -/
inductive Entry.Overflows (ceiling : Nat) (entry : Entry) : Error → Prop
  | offset (large : ceiling < entry.offset) :
      Overflows ceiling entry (.valueOverflow entry.offset)
  | length (fits : entry.offset ≤ ceiling) (large : ceiling < entry.length) :
      Overflows ceiling entry (.valueOverflow entry.length)

/-- Whether an error is that of the first entry of a batch that is refused; what is refused may
depend on the entries before it. -/
def FirstRefused (refuses : List Entry → Entry → Error → Prop) (entries : List Entry)
    (error : Error) : Prop :=
  ∃ before entry rest, entries = before ++ entry :: rest ∧ refuses before entry error ∧
    ∀ earlier other later, before = earlier ++ other :: later →
      ∀ fault, ¬refuses earlier other fault

/-- What a batch makes of rows that keep entries in some form: each key of it stands for the last
entry that has it and the others for what they did; or the rows are the same, and the error is that
of the first entry that is refused. -/
structure WholeOrNot {α : Type} (refuses : List Entry → Entry → Error → Prop)
    (form : Entry → Option α) (entries : List Entry) (rows rows' : Assoc String α)
    (result : Except Error Unit) : Prop where
  done : result = .ok () → ∀ key, Assoc.find? key rows' =
    match lastOf? key entries with
    | some entry => form entry
    | none => Assoc.find? key rows
  failed : ∀ error, result = .error error → rows' = rows ∧ FirstRefused refuses entries error

section First

variable {refuses : List Entry → Entry → Error → Prop} {entry : Entry} {entries : List Entry}
  {error : Error}

theorem firstRefused_cons_of_refused (refused : refuses [] entry error) :
    FirstRefused refuses (entry :: entries) error := by
  refine ⟨[], entry, entries, rfl, refused, ?_⟩
  intro earlier other later same
  exact absurd same.symm (by simp)

/-- Behind an entry that is not refused the first one that is refused is looked for in the rest. -/
theorem firstRefused_cons_of_accepted {refuses' : List Entry → Entry → Error → Prop}
    (accepted : ∀ fault, ¬refuses [] entry fault)
    (shifts : ∀ before other fault, refuses (entry :: before) other fault ↔
      refuses' before other fault)
    (first : FirstRefused refuses' entries error) :
    FirstRefused refuses (entry :: entries) error := by
  obtain ⟨before, other, rest, rfl, refused, earliest⟩ := first
  refine ⟨entry :: before, other, rest, rfl, (shifts _ _ _).mpr refused, ?_⟩
  intro earlier another later same fault
  cases earlier with
  | nil =>
      cases same
      exact accepted fault
  | cons head earlier =>
      cases same
      exact fun refused => earliest earlier another later rfl fault ((shifts _ _ _).mp refused)

end First

theorem Entry.not_overflows_of_le {ceiling : Nat} {entry : Entry}
    (offset : entry.offset ≤ ceiling) (length : entry.length ≤ ceiling) (error : Error) :
    ¬entry.Overflows ceiling error := by
  intro overflows
  cases overflows <;> omega

/-! ### Tables -/

namespace TableIndex

variable {index index' : TableIndex} {disk disk' : Disk} {entries : List Entry}
  {policy : OnDuplicate} {rows : TableRows}

/-- Why a table refuses an entry behind others: it has no room for a number, or a key that may not
come twice is among the rows or the entries before it. -/
inductive Refuses (policy : OnDuplicate) (rows : TableRows) (before : List Entry) (entry : Entry) :
    Error → Prop
  | overflow {error : Error} (overflows : entry.Overflows (2 ^ 63 - 1) error) :
      Refuses policy rows before entry error
  | duplicate (offset : entry.offset ≤ 2 ^ 63 - 1) (length : entry.length ≤ 2 ^ 63 - 1)
      (rejects : policy = .reject)
      (taken : Assoc.find? entry.key rows ≠ none ∨ ∃ other ∈ before, other.key = entry.key) :
      Refuses policy rows before entry (.duplicateKey entry.key)

/-- Refusing an entry behind one that was inserted. -/
theorem refuses_cons_iff {first entry : Entry} {before : List Entry} {error : Error} :
    Refuses policy rows (first :: before) entry error ↔
      Refuses policy (Assoc.put first.key first.row rows) before entry error := by
  have taken : (Assoc.find? entry.key rows ≠ none ∨
        ∃ other ∈ first :: before, other.key = entry.key) ↔
      (Assoc.find? entry.key (Assoc.put first.key first.row rows) ≠ none ∨
        ∃ other ∈ before, other.key = entry.key) := by
    rw [Assoc.find?_put]
    by_cases same : first.key = entry.key <;> simp [same]
  constructor
  · intro refused
    cases refused with
    | overflow overflows => exact .overflow overflows
    | duplicate offset length rejects held =>
        exact .duplicate offset length rejects (taken.mp held)
  · intro refused
    cases refused with
    | overflow overflows => exact .overflow overflows
    | duplicate offset length rejects held =>
        exact .duplicate offset length rejects (taken.mpr held)

theorem overflows_of_overflow? {entry : Entry} {error : Error}
    (overflow : overflow? entry = some error) : entry.Overflows (2 ^ 63 - 1) error := by
  have ceiling : maxValue = 2 ^ 63 - 1 := rfl
  unfold overflow? at overflow
  rw [ceiling] at overflow
  split at overflow
  · rename_i large
    cases overflow
    exact .offset large
  · rename_i fits
    split at overflow
    · rename_i large
      cases overflow
      exact .length (Nat.le_of_not_lt fits) large
    · cases overflow

theorem overflow?_eq_none_iff {entry : Entry} :
    overflow? entry = none ↔ entry.offset ≤ 2 ^ 63 - 1 ∧ entry.length ≤ 2 ^ 63 - 1 :=
  Backend.overflow?_eq_none_iff .reject

/-- An entry that cannot be inserted is refused for the reason that is given. -/
theorem refuses_of_insert {entry : Entry} {error : Error}
    (failed : insert policy entry rows = .error error) : Refuses policy rows [] entry error := by
  unfold insert at failed
  split at failed
  · rename_i fault overflow
    cases failed
    exact .overflow (overflows_of_overflow? overflow)
  · rename_i room
    obtain ⟨offset, length⟩ := overflow?_eq_none_iff.mp room
    split at failed
    · rename_i held
      cases failed
      exact .duplicate offset length held.1 (.inl (Option.isSome_iff_ne_none.mp held.2))
    · cases failed

/-- An entry that is inserted is not refused. -/
theorem not_refuses_of_insert {entry : Entry} {rows' : TableRows}
    (inserted : insert policy entry rows = .ok rows') (error : Error) :
    ¬Refuses policy rows [] entry error := by
  obtain ⟨room, new, -⟩ := insert_eq_ok_iff.mp inserted
  obtain ⟨offset, length⟩ := overflow?_eq_none_iff.mp room
  intro refused
  cases refused with
  | overflow overflows => exact Entry.not_overflows_of_le offset length _ overflows
  | duplicate _ _ rejects taken =>
      rcases taken with held | ⟨other, inside, -⟩
      · exact held (new rejects)
      · cases inside

/-- What cannot be inserted is refused for its first entry that is refused. -/
theorem firstRefused_of_insertAll {error : Error}
    (failed : insertAll policy entries rows = .error error) :
    FirstRefused (Refuses policy rows) entries error := by
  induction entries generalizing rows with
  | nil => cases failed
  | cons entry entries ih =>
      unfold insertAll at failed
      split at failed
      · rename_i fault refused
        cases failed
        exact firstRefused_cons_of_refused (refuses_of_insert refused)
      · rename_i middle inserted
        obtain ⟨-, -, rfl⟩ := insert_eq_ok_iff.mp inserted
        exact firstRefused_cons_of_accepted (not_refuses_of_insert inserted)
          (fun _ _ _ => refuses_cons_iff) (ih failed)

/-- A batch that is refused by a database that can be changed has no place in its rows. -/
theorem insertAll_of_write_error {error : Error} {route : Route} (sound : disk.Sound)
    (away : index.Away route disk) (writable : index.Writable disk)
    (failed : index.write entries disk = (.error error, index', disk')) :
    insertAll index.onDuplicate entries (index.rowsOn disk) = .error error := by
  obtain ⟨connection, index₁, middle, rows, settled, acquired, read, free⟩ := writable
  have policy := (ready_of_acquire acquired).2
  rw [rowsOn_of_acquire sound away acquired read, ← policy]
  unfold write at failed
  rw [acquired] at failed
  cases entries with
  | nil => cases failed
  | cons first others =>
      have refused : (insertInto connection index₁.onDuplicate first others middle).1 =
          .error error := congrArg Prod.fst failed
      unfold insertInto at refused
      split at refused
      · rename_i fault overflow
        cases refused
        simp [insertAll, insert, overflow]
      · simp only [read, free] at refused
        split at refused
        · rename_i fault inserted
          cases refused
          exact inserted
        · cases refused

/-- A database that can be changed accepts a batch just when it can be inserted. -/
theorem result_eq_ok_iff {result : Except Error Unit} {route : Route} (sound : disk.Sound)
    (away : index.Away route disk) (writable : index.Writable disk)
    (wrote : index.write entries disk = (result, index', disk')) :
    result = .ok () ↔
      ∃ rows', insertAll index.onDuplicate entries (index.rowsOn disk) = .ok rows' := by
  constructor
  · intro done
    exact ⟨_, ((writes_write sound away wrote).done done).1⟩
  · rintro ⟨rows', inserted⟩
    obtain ⟨_, _, done, -⟩ := write_of_writable sound away writable inserted
    rw [wrote] at done
    exact congrArg Prod.fst done

theorem wholeOrNot_of_write {result : Except Error Unit} {route : Route} (sound : disk.Sound)
    (away : index.Away route disk) (writable : index.Writable disk)
    (wrote : index.write entries disk = (result, index', disk')) :
    WholeOrNot (Refuses index.onDuplicate (index.rowsOn disk)) (fun entry => some entry.row) entries
      (index.rowsOn disk) (index'.rowsOn disk') result := by
  have writes := writes_write sound away wrote
  constructor
  · intro done key
    exact find?_insertAll (writes.done done).1 key
  · rintro error rfl
    exact ⟨writes.failed error rfl,
      firstRefused_of_insertAll (insertAll_of_write_error sound away writable wrote)⟩

end TableIndex

/-! ### Logs -/

namespace LogIndex

variable {index index' : LogIndex} {disk disk' : Disk} {entries : List Entry}

/-- What has no stored form has a number that exceeds the ceiling of a slot. -/
theorem overflows_of_encode {entry : Entry} {error : Error}
    (failed : entry.span.encode = .error error) : entry.Overflows (2 ^ 55 - 1) error := by
  have ceiling : Slot.maxValue = 2 ^ 55 - 1 := rfl
  rw [← ceiling]
  by_cases offset : entry.offset ≤ Slot.maxValue
  · by_cases length : entry.length ≤ Slot.maxValue
    · obtain ⟨stored, made⟩ := @Span.exists_encode entry.span offset length
      rw [failed] at made
      cases made
    · have large := Nat.lt_of_not_le length
      rw [@Span.encode_of_large_length entry.span offset large] at failed
      cases failed
      exact .length offset large
  · have large := Nat.lt_of_not_le offset
    rw [@Span.encode_of_large_offset entry.span large] at failed
    cases failed
    exact .offset large

/-- Entries of which one has no stored form are refused for the first of them. -/
theorem firstRefused_of_encodeAll {error : Error} (failed : encodeAll entries = .error error) :
    FirstRefused (fun _ entry => entry.Overflows (2 ^ 55 - 1)) entries error := by
  induction entries with
  | nil => cases failed
  | cons entry entries ih =>
      unfold encodeAll at failed
      split at failed
      · rename_i fault refused
        cases failed
        exact firstRefused_cons_of_refused (overflows_of_encode refused)
      · rename_i stored made
        split at failed
        · rename_i fault others
          cases failed
          obtain ⟨offset, length⟩ := Span.fits_of_encode made
          exact firstRefused_cons_of_accepted (Entry.not_overflows_of_le offset length)
            (fun _ _ _ => Iff.rfl) (ih others)
        · cases failed

/-- A log that can be opened refuses a batch just for an entry that has no stored form. -/
theorem result_of_write {result : Except Error Unit} {id : Nat} {index₁ : LogIndex} {middle : Disk}
    (acquired : index.acquire true disk = (.ok id, index₁, middle))
    (wrote : index.write entries disk = (result, index', disk')) :
    result = (encodeAll entries).map fun _ => () := by
  unfold write at wrote
  rw [acquired] at wrote
  cases encoded : encodeAll entries with
  | error error =>
      simp only [encoded] at wrote
      cases wrote
      rfl
  | ok pairs =>
      simp only [encoded] at wrote
      cases wrote
      rfl

/-- A log that can be opened accepts a batch just when all numbers have room. -/
theorem result_eq_ok_iff {result : Except Error Unit} {id : Nat} {index₁ : LogIndex} {middle : Disk}
    (acquired : index.acquire true disk = (.ok id, index₁, middle))
    (wrote : index.write entries disk = (result, index', disk')) :
    result = .ok () ↔
      ∀ entry ∈ entries, entry.offset ≤ 2 ^ 55 - 1 ∧ entry.length ≤ 2 ^ 55 - 1 := by
  rw [result_of_write acquired wrote]
  constructor
  · intro done
    cases encoded : encodeAll entries with
    | error error =>
        rw [encoded] at done
        cases done
    | ok pairs => exact fits_of_encodeAll encoded
  · intro room
    obtain ⟨pairs, encoded⟩ := exists_encodeAll room
    rw [encoded]
    rfl

theorem wholeOrNot_of_write {result : Except Error Unit} {id : Nat} {index₁ : LogIndex}
    {middle : Disk} (acquired : index.acquire true disk = (.ok id, index₁, middle))
    (wrote : index.write entries disk = (result, index', disk')) :
    WholeOrNot (fun _ entry => entry.Overflows (2 ^ 55 - 1))
      (fun entry => entry.span.encode.toOption) entries (index.rowsOn disk) (index'.rowsOn disk')
      result := by
  have writes := @writes_write _ _ _ _ [] _ _ wrote
  constructor
  · intro done key
    obtain ⟨-, pairs, encoded, put⟩ := writes.done done
    rw [put]
    rcases find?_putAll encoded key (index.rowsOn disk) with
      ⟨none, same⟩ | ⟨entry, stored, last, made, same⟩
    · rw [none, same]
    · simp only [last, same, made]
      rfl
  · rintro error rfl
    have failed := result_of_write acquired wrote
    cases encoded : encodeAll entries with
    | error fault =>
        rw [encoded] at failed
        cases failed
        exact ⟨writes.failed _ rfl, firstRefused_of_encodeAll encoded⟩
    | ok pairs =>
        rw [encoded] at failed
        cases failed

end LogIndex

/-- Writing a batch to an index that can be opened and changed. A table accepts it just when its
numbers stay below `2 ^ 63` and, where keys are refused that are there already, its keys are all
different and new; a log just when its numbers stay below `2 ^ 55`. Then each key of the batch
stands for its last entry and the others for what they did. Otherwise nothing changes and the error
is that of the first entry that cannot be written when those before it are: a number that has no
room, the offset before the length, or else a key that is there already. -/
theorem batch_is_whole_or_names_its_first_fault {entries : List Entry} {disk disk' : Disk}
    {result : Except Error Unit} :
    (∀ index index' : TableIndex, disk.Sound → Backend.Known (.table index) disk →
      index.Writable disk → index.write entries disk = (result, index', disk') →
      (result = .ok () ↔
        (∀ entry ∈ entries, entry.offset ≤ 2 ^ 63 - 1 ∧ entry.length ≤ 2 ^ 63 - 1) ∧
        (index.onDuplicate = .reject → (entries.map Entry.key).Nodup ∧
          ∀ entry ∈ entries, Assoc.find? entry.key (index.rowsOn disk) = none)) ∧
      WholeOrNot (TableIndex.Refuses index.onDuplicate (index.rowsOn disk))
        (fun entry => some entry.row) entries (index.rowsOn disk) (index'.rowsOn disk') result) ∧
    (∀ index index' : LogIndex, Backend.Writable (.log index, disk) →
      index.write entries disk = (result, index', disk') →
      (result = .ok () ↔
        ∀ entry ∈ entries, entry.offset ≤ 2 ^ 55 - 1 ∧ entry.length ≤ 2 ^ 55 - 1) ∧
      WholeOrNot (fun _ entry => entry.Overflows (2 ^ 55 - 1))
        (fun entry => entry.span.encode.toOption) entries (index.rowsOn disk) (index'.rowsOn disk')
        result) := by
  constructor
  · intro index index' sound known writable wrote
    obtain ⟨route, away⟩ := Backend.exists_away known
    refine ⟨?_, TableIndex.wholeOrNot_of_write sound away writable wrote⟩
    rw [TableIndex.result_eq_ok_iff sound away writable wrote, TableIndex.exists_insertAll_iff]
    simp only [TableIndex.overflow?_eq_none_iff]
  · rintro index index' ⟨id, index₁, middle, acquired⟩ wrote
    exact ⟨LogIndex.result_eq_ok_iff acquired wrote, LogIndex.wholeOrNot_of_write acquired wrote⟩

/-- A batch that repeats a key with a length that has no room, in front of a key that the table has
with an offset that has none, is refused for the length, and the table is as it was; a log that is
held takes a batch that repeats a key, which then stands for its last entry. -/
theorem batch_is_whole_or_names_its_first_fault_of_several :
    let disk : Disk := (Disk.empty.createAt ["d"] (.table [("z", (0, 2))])).2
    let table : TableIndex := ⟨"d", .reject, some ⟨⟨0, some ["d"], true, none⟩, true⟩⟩
    let faulty : List Entry := [⟨"a", 5, 2⟩, ⟨"a", 7, 2 ^ 63⟩, ⟨"z", 2 ^ 64, 2⟩]
    let log : LogIndex := ⟨"index", some 0⟩
    let batch : List Entry := [⟨"a", 5, 2⟩, ⟨"b", 0, 2 ^ 54⟩, ⟨"a", 9, 3⟩]
    (∃ index' disk', table.write faulty disk = (.error (.valueOverflow (2 ^ 63)), index', disk') ∧
      index'.rowsOn disk' = [("z", (0, 2))]) ∧
    ∃ index' disk', log.write batch Disk.empty = (.ok (), index', disk') ∧
      Assoc.find? "a" (index'.rowsOn disk') = (⟨9, 3⟩ : Span).encode.toOption := by
  intro disk table faulty log batch
  constructor
  · have sound : disk.Sound := (@Disk.spares_createAt [] _ _ _ rfl).sound Disk.sound_empty
    have known : Backend.Known (.table table) disk := by
      rintro _ ⟨⟩
      exact Nat.one_pos
    have writable : table.Writable disk :=
      ⟨_, table, disk, [("z", (0, 2))], disk, rfl, by cbv, by cbv⟩
    have rows : table.rowsOn disk = [("z", (0, 2))] := by cbv
    have refused : (table.write faulty disk).1 = .error (.valueOverflow (2 ^ 63)) := by cbv
    have wrote : table.write faulty disk = (.error (.valueOverflow (2 ^ 63)),
        (table.write faulty disk).2.1, (table.write faulty disk).2.2) := Prod.ext refused rfl
    obtain ⟨same, -⟩ := (batch_is_whole_or_names_its_first_fault.1 table _ sound known writable
      wrote).2.failed _ rfl
    exact ⟨_, _, wrote, same.trans rows⟩
  · have writable : Backend.Writable (.log log, Disk.empty) := ⟨0, log, Disk.empty, rfl⟩
    have accepted : (log.write batch Disk.empty).1 = .ok () := by cbv
    have wrote : log.write batch Disk.empty = (.ok (),
        (log.write batch Disk.empty).2.1, (log.write batch Disk.empty).2.2) :=
      Prod.ext accepted rfl
    exact ⟨_, _, wrote,
      (batch_is_whole_or_names_its_first_fault.2 log _ writable wrote).2.done rfl "a"⟩

end RecordStore
