import RecordStore.Pipeline.Package
import Mathlib.Data.List.Flatten
import Mathlib.Data.List.Nodup
import Mathlib.Data.List.TakeWhile

/-!
Where records lie, and which entries they make.

`placed` gives every record of an input the offset behind all records before it, and
`batches` cuts what lies there into groups of a fixed number, each ending in front of
its first record without a key. Both are said of the whole input, without a package:
`map_cut` shows that the packages that are cut off one after another come to the same.
-/

namespace RecordStore

namespace Layout

/-- Records in a row, each with its offset, the first one at `start`. -/
def placed : (start : Nat) → List Bytes → List (Nat × Bytes)
  | _, [] => []
  | start, record :: records => (start, record) :: placed (start + record.length) records

/-- The entry of a record at an offset; a record without a key has none. -/
def entryOf (keyOf : KeyOf) (place : Nat × Bytes) : Option Entry :=
  match keyOf place.2 with
  | .ok key => some ⟨key, place.1, place.2.length⟩
  | .error _ => none

/-- What is wrong with a record without a key. -/
def fault? (keyOf : KeyOf) (record : Bytes) : Option Error :=
  match keyOf record with
  | .ok _ => none
  | .error error => some error

/-- The entries of records that have keys, wherever they stand. -/
def entries (keyOf : KeyOf) (start : Nat) (records : List Bytes) : List Entry :=
  (placed start records).filterMap (entryOf keyOf)

/-- The entries of records in a row up to the first one without a key. -/
def entriesUpTo (keyOf : KeyOf) (places : List (Nat × Bytes)) : List Entry :=
  (places.takeWhile fun place => (entryOf keyOf place).isSome).filterMap (entryOf keyOf)

/-- The number of groups that `length` things make. -/
def groupCount (size length : Nat) : Nat :=
  (length + size - 1) / size

/-- The group with a number, of `size` things in a row or of those that are left. -/
def group {α : Type} (size number : Nat) (things : List α) : List α :=
  (things.drop (number * size)).take size

/-- The entries of every group of an input, up to its first record without a key. -/
def batches (keyOf : KeyOf) (size start : Nat) (records : List Bytes) : List (List Entry) :=
  (List.range (groupCount size records.length)).map fun number =>
    entriesUpTo keyOf (group size number (placed start records))

/-- The entries of all records of a group that have keys, wherever they stand in it. -/
def groupEntries (keyOf : KeyOf) (size start : Nat) (records : List Bytes) (number : Nat) :
    List Entry :=
  (group size number (placed start records)).filterMap (entryOf keyOf)

/-! ### Places -/

theorem placed_append (start : Nat) (before after : List Bytes) :
    placed start (before ++ after) =
      placed start before ++ placed (start + before.flatten.length) after := by
  induction before generalizing start with
  | nil => simp [placed]
  | cons record before ih => simp [placed, ih, Nat.add_assoc]

theorem mem_placed_iff {start offset : Nat} {record : Bytes} {records : List Bytes} :
    (offset, record) ∈ placed start records ↔
      ∃ before after, records = before ++ record :: after ∧
        offset = start + before.flatten.length := by
  constructor
  · intro member
    induction records generalizing start with
    | nil => simp [placed] at member
    | cons first records ih =>
        rcases List.mem_cons.mp member with same | later
        · cases same
          exact ⟨[], records, rfl, by simp⟩
        · obtain ⟨before, after, split, rfl⟩ := ih later
          exact ⟨first :: before, after, by simp [split], by simp [Nat.add_assoc]⟩
  · rintro ⟨before, after, rfl, rfl⟩
    simp [placed_append, placed]

theorem drop_placed (start n : Nat) (records : List Bytes) :
    (placed start records).drop n =
      placed (start + (records.take n).flatten.length) (records.drop n) := by
  induction n generalizing start records with
  | zero => simp
  | succ n ih =>
      cases records with
      | nil => simp [placed]
      | cons record records => simp [placed, ih, Nat.add_assoc]

theorem take_placed (start n : Nat) (records : List Bytes) :
    (placed start records).take n = placed start (records.take n) := by
  induction n generalizing start records with
  | zero => simp [placed]
  | succ n ih =>
      cases records with
      | nil => simp [placed]
      | cons record records => simp [placed, ih]

/-! ### Entries -/

theorem isSome_entryOf_iff {keyOf : KeyOf} {place : Nat × Bytes} :
    (entryOf keyOf place).isSome ↔ fault? keyOf place.2 = none := by
  unfold entryOf fault?
  split <;> simp [*]

theorem mem_entries_iff {keyOf : KeyOf} {start : Nat} {records : List Bytes} {entry : Entry} :
    entry ∈ entries keyOf start records ↔
      ∃ before record after, records = before ++ record :: after ∧
        keyOf record = .ok entry.key ∧ entry.offset = start + before.flatten.length ∧
        entry.length = record.length := by
  unfold entries
  rw [List.mem_filterMap]
  constructor
  · rintro ⟨⟨offset, record⟩, member, made⟩
    obtain ⟨before, after, split, rfl⟩ := mem_placed_iff.mp member
    unfold entryOf at made
    split at made
    · rename_i key found
      cases made
      exact ⟨before, record, after, split, found, rfl, rfl⟩
    · cases made
  · rintro ⟨before, record, after, split, found, offset, length⟩
    refine ⟨(entry.offset, record), mem_placed_iff.mpr ⟨before, after, split, offset⟩, ?_⟩
    simp [entryOf, found, ← length]

theorem entries_append (keyOf : KeyOf) (start : Nat) (before after : List Bytes) :
    entries keyOf start (before ++ after) =
      entries keyOf start before ++ entries keyOf (start + before.flatten.length) after := by
  rw [entries, placed_append, List.filterMap_append]
  rfl

/-- Every entry is that of a record. -/
theorem exists_record_of_mem_entries {keyOf : KeyOf} {start : Nat} {records : List Bytes}
    {entry : Entry} (member : entry ∈ entries keyOf start records) :
    ∃ record ∈ records, keyOf record = .ok entry.key := by
  obtain ⟨before, record, after, rfl, found, -⟩ := mem_entries_iff.mp member
  exact ⟨record, List.mem_append_right _ List.mem_cons_self, found⟩

/-- Where every record has a key, the keys of the entries are those of the records. -/
theorem map_keyOf_eq {keyOf : KeyOf} {start : Nat} {records : List Bytes}
    (keyed : records.findSome? (fault? keyOf) = none) :
    records.map keyOf = (entries keyOf start records).map fun entry => .ok entry.key := by
  induction records generalizing start with
  | nil => rfl
  | cons record records ih =>
      cases found : keyOf record with
      | error error => simp [fault?, found] at keyed
      | ok key =>
          have rest : records.findSome? (fault? keyOf) = none := by
            simpa [fault?, found] using keyed
          rw [List.map_cons, found, @ih (start + record.length) rest]
          simp [entries, placed, entryOf, found]

/-- The keys of the records are all different when those of the entries are. -/
theorem nodup_map_keyOf_iff {keyOf : KeyOf} (start : Nat) {records : List Bytes}
    (keyed : records.findSome? (fault? keyOf) = none) :
    (records.map keyOf).Nodup ↔ ((entries keyOf start records).map Entry.key).Nodup := by
  have injective : Function.Injective (Except.ok : String → Except Error String) :=
    fun _ _ same => Except.ok.inj same
  rw [@map_keyOf_eq keyOf start records keyed, ← List.nodup_map_iff injective, List.map_map]
  rfl

/-- The record of an entry lies within what the records take up. -/
theorem stop_le_of_mem_entries {keyOf : KeyOf} {start : Nat} {records : List Bytes}
    {entry : Entry} (member : entry ∈ entries keyOf start records) :
    start ≤ entry.offset ∧ entry.offset + entry.length ≤ start + records.flatten.length := by
  obtain ⟨before, record, after, rfl, -, offset, length⟩ := mem_entries_iff.mp member
  simp [offset, length]
  omega

theorem offset_of_entryOf {keyOf : KeyOf} {place : Nat × Bytes} {entry : Entry}
    (made : entryOf keyOf place = some entry) : entry.offset = place.1 := by
  unfold entryOf at made
  split at made <;> cases made
  rfl

/-- Records that are not empty lie at places of their own, each behind those before it. -/
theorem pairwise_placed {start : Nat} {records : List Bytes}
    (filled : ∀ record ∈ records, record ≠ []) :
    (placed start records).Pairwise (fun earlier later => earlier.1 < later.1) := by
  induction records generalizing start with
  | nil => exact .nil
  | cons record records ih =>
      obtain ⟨first, rest⟩ := List.forall_mem_cons.mp filled
      refine .cons ?_ (ih rest)
      rintro ⟨offset, later⟩ member
      obtain ⟨before, after, -, rfl⟩ := mem_placed_iff.mp member
      have some := List.length_pos_iff.mpr first
      show start < start + record.length + before.flatten.length
      omega

/-- No entry of records that are not empty comes twice. -/
theorem nodup_entries {keyOf : KeyOf} {start : Nat} {records : List Bytes}
    (filled : ∀ record ∈ records, record ≠ []) : (entries keyOf start records).Nodup := by
  refine (pairwise_placed filled).filterMap (entryOf keyOf) ?_
  intro earlier later before entry made other made' same
  subst same
  rw [← offset_of_entryOf made, ← offset_of_entryOf made'] at before
  exact Nat.lt_irrefl _ before

/-- What the recursion over records makes of them. -/
theorem entriesFrom_eq (keyOf : KeyOf) (offset : Nat) (records : List Bytes) :
    Package.entriesFrom keyOf offset records =
      (entriesUpTo keyOf (placed offset records), records.findSome? (fault? keyOf)) := by
  induction records generalizing offset with
  | nil => rfl
  | cons record records ih =>
      cases found : keyOf record with
      | error error =>
          simp [Package.entriesFrom, placed, entriesUpTo, entryOf, fault?, found]
      | ok key =>
          simp only [Package.entriesFrom, found, ih]
          simp [placed, entriesUpTo, entryOf, fault?, found]

/-- Where no record lacks a key, nothing is left out. -/
theorem entriesUpTo_eq_filterMap {keyOf : KeyOf} {places : List (Nat × Bytes)}
    (keyed : ∀ place ∈ places, fault? keyOf place.2 = none) :
    entriesUpTo keyOf places = places.filterMap (entryOf keyOf) := by
  unfold entriesUpTo
  rw [List.takeWhile_eq_self_iff.mpr ?_]
  intro place member
  exact isSome_entryOf_iff.mpr (keyed place member)

theorem entriesUpTo_sublist (keyOf : KeyOf) (places : List (Nat × Bytes)) :
    (entriesUpTo keyOf places).Sublist (places.filterMap (entryOf keyOf)) :=
  (List.takeWhile_sublist _).filterMap _

/-! ### Groups -/

theorem groupCount_zero {size : Nat} (positive : 0 < size) : groupCount size 0 = 0 :=
  Nat.div_eq_of_lt (by omega)

theorem groupCount_of_pos {size length : Nat} (positive : 0 < size) (some : 0 < length) :
    groupCount size length = groupCount size (length - size) + 1 := by
  unfold groupCount
  rcases Nat.le_total size length with more | less
  · obtain ⟨rest, rfl⟩ := Nat.exists_eq_add_of_le more
    have shift : size + rest + size - 1 = rest + size - 1 + size := by omega
    rw [shift, Nat.add_div_right _ positive, Nat.add_sub_cancel_left]
  · have rest : length - size = 0 := by omega
    have first : length + size - 1 = length - 1 + size := by omega
    rw [rest, first, Nat.add_div_right _ positive, Nat.div_eq_of_lt (by omega),
      Nat.div_eq_of_lt (by omega)]

/-- Every group that is counted has a thing in it. -/
theorem group_ne_nil {α : Type} {size number : Nat} {things : List α}
    (inside : number < groupCount size things.length) : group size number things ≠ [] := by
  have positive : 0 < size := by
    by_contra zero
    simp [groupCount, Nat.eq_zero_of_not_pos zero] at inside
  have room := (Nat.le_div_iff_mul_le positive).mp (show number + 1 ≤ _ from inside)
  rw [Nat.succ_mul] at room
  rw [group, ← List.length_pos_iff, List.length_take, List.length_drop]
  omega

theorem group_zero {α : Type} (size : Nat) (things : List α) :
    group size 0 things = things.take size := by
  simp [group]

theorem group_succ {α : Type} (size number : Nat) (things : List α) :
    group size (number + 1) things = group size number (things.drop size) := by
  simp [group, Nat.succ_mul, Nat.add_comm]

theorem group_placed (size number start : Nat) (records : List Bytes) :
    group size number (placed start records) =
      placed (start + (records.take (number * size)).flatten.length)
        (group size number records) := by
  simp [group, drop_placed, take_placed]

/-! ### Packages -/

/-- One package after another is cut off. -/
theorem cut_of_ne_nil {size start : Nat} {records : List Bytes} (positive : 0 < size)
    (some : records ≠ []) :
    Package.cut (size - 1) start records =
      ⟨start, records.take size⟩ ::
        Package.cut (size - 1) (start + (records.take size).flatten.length)
          (records.drop size) := by
  obtain ⟨size, rfl⟩ : ∃ less, size = less + 1 := ⟨size - 1, by omega⟩
  obtain ⟨record, rest, rfl⟩ := List.exists_cons_of_ne_nil some
  rw [Package.cut]
  simp [Package.size, List.length_flatten]

/-- The packages of an input are its groups at the places where their records lie. -/
theorem cut_eq {size start : Nat} (records : List Bytes) (positive : 0 < size) :
    Package.cut (size - 1) start records =
      (List.range (groupCount size records.length)).map fun number =>
        ⟨start + (records.take (number * size)).flatten.length, group size number records⟩ := by
  generalize length : records.length = n
  induction n using Nat.strongRecOn generalizing start records with
  | ind n ih =>
      by_cases empty : records = []
      · subst empty
        subst length
        rw [Package.cut]
        simp [groupCount_zero positive]
      · have some : 0 < records.length := List.length_pos_iff.mpr empty
        have count : groupCount size n = groupCount size (n - size) + 1 :=
          groupCount_of_pos positive (by omega)
        rw [cut_of_ne_nil positive empty,
          ih (n - size) (by omega) (records.drop size) (by rw [List.length_drop, length]),
          count, List.range_succ_eq_map, List.map_cons, List.map_map]
        congr 1
        · simp [group_zero]
        · apply List.map_congr_left
          intro number _
          have split : records.take ((number + 1) * size) =
              records.take size ++ (records.drop size).take (number * size) := by
            rw [← List.take_add, Nat.succ_mul, Nat.add_comm]
          simp only [Function.comp_apply, Nat.succ_eq_add_one, group_succ, split,
            List.flatten_append, List.length_append, Nat.add_assoc]

theorem length_cut {size start : Nat} (records : List Bytes) (positive : 0 < size) :
    (Package.cut (size - 1) start records).length = groupCount size records.length := by
  simp [cut_eq records positive]

/-- The batches of the packages are those of the groups. -/
theorem map_cut (keyOf : KeyOf) {size start : Nat} (records : List Bytes) (positive : 0 < size) :
    (Package.cut (size - 1) start records).map (fun package => (package.entries keyOf).1) =
      batches keyOf size start records := by
  simp [cut_eq records positive, batches, Package.entries, entriesFrom_eq, group_placed]

/-- The packages hold all records in their order. -/
theorem flatMap_cut {size start : Nat} (records : List Bytes) (positive : 0 < size) :
    (Package.cut (size - 1) start records).flatMap
      (fun package => placed package.offset package.records) = placed start records := by
  generalize length : records.length = n
  induction n using Nat.strongRecOn generalizing start records with
  | ind n ih =>
      by_cases empty : records = []
      · subst empty
        rw [Package.cut]
        rfl
      · have some : 0 < records.length := List.length_pos_iff.mpr empty
        rw [cut_of_ne_nil positive empty, List.flatMap_cons,
          ih (records.drop size).length (by rw [List.length_drop]; omega) (records.drop size) rfl,
          ← placed_append, List.take_append_drop]

theorem map_snd_placed (start : Nat) (records : List Bytes) :
    (placed start records).map Prod.snd = records := by
  induction records generalizing start with
  | nil => rfl
  | cons record records ih => simp [placed, ih]

/-- Nothing is cut off that is not a record, and nothing else. -/
theorem flatMap_records_cut {size start : Nat} (records : List Bytes) (positive : 0 < size) :
    (Package.cut (size - 1) start records).flatMap Package.records = records := by
  have whole := congrArg (List.map Prod.snd) (@flatMap_cut size start records positive)
  rw [map_snd_placed, List.map_flatMap] at whole
  simpa only [map_snd_placed] using whole

/-- The first package with a fault has the fault of the first record with one. -/
theorem findSome?_cut (keyOf : KeyOf) {size start : Nat} (records : List Bytes)
    (positive : 0 < size) :
    (Package.cut (size - 1) start records).findSome?
      (fun package => (package.entries keyOf).2) = records.findSome? (fault? keyOf) := by
  conv => rhs; rw [← @flatMap_records_cut size start records positive]
  induction Package.cut (size - 1) start records with
  | nil => rfl
  | cons package packages ih =>
      rw [List.findSome?_cons, List.flatMap_cons, List.findSome?_append, ← ih, Package.entries,
        entriesFrom_eq]
      cases package.records.findSome? (fault? keyOf) <;> rfl

theorem fault?_eq_none_iff {keyOf : KeyOf} {record : Bytes} :
    fault? keyOf record = none ↔ ∃ key, keyOf record = .ok key := by
  unfold fault?
  split
  · rename_i key found
    exact ⟨fun _ => ⟨key, found⟩, fun _ => rfl⟩
  · rename_i error found
    constructor
    · intro none
      cases none
    · rintro ⟨key, same⟩
      rw [found] at same
      cases same

theorem findSome?_fault_eq_none_iff {keyOf : KeyOf} {records : List Bytes} :
    records.findSome? (fault? keyOf) = none ↔
      ∀ record ∈ records, ∃ key, keyOf record = .ok key := by
  simp only [List.findSome?_eq_none_iff, fault?_eq_none_iff]

theorem length_entries {keyOf : KeyOf} {start : Nat} {records : List Bytes}
    (keyed : records.findSome? (fault? keyOf) = none) :
    (entries keyOf start records).length = records.length := by
  induction records generalizing start with
  | nil => rfl
  | cons record records ih =>
      obtain ⟨first, rest⟩ := List.forall_mem_cons.mp (List.findSome?_eq_none_iff.mp keyed)
      obtain ⟨entry, made⟩ := Option.isSome_iff_exists.mp
        (isSome_entryOf_iff.mpr (show fault? keyOf (start, record).2 = none from first))
      have later := @ih (start + record.length) (List.findSome?_eq_none_iff.mpr rest)
      simp only [entries] at later
      simp [entries, placed, made, later]

/-- Where no record lacks a key, nothing is left out of the records' entries. -/
theorem entriesUpTo_placed {keyOf : KeyOf} {start : Nat} {records : List Bytes}
    (keyed : records.findSome? (fault? keyOf) = none) :
    entriesUpTo keyOf (placed start records) = entries keyOf start records := by
  apply entriesUpTo_eq_filterMap
  intro place member
  have record : place.2 ∈ records := by
    rw [← map_snd_placed start records]
    exact List.mem_map_of_mem member
  exact List.findSome?_eq_none_iff.mp keyed _ record

/-- Where no record lacks a key, the batches hold all entries. -/
theorem flatten_batches (keyOf : KeyOf) {size start : Nat} {records : List Bytes}
    (positive : 0 < size) (keyed : records.findSome? (fault? keyOf) = none) :
    (batches keyOf size start records).flatten = entries keyOf start records := by
  rw [← @flatMap_records_cut size start records positive] at keyed
  rw [entries, ← flatMap_cut records positive, List.filterMap_flatMap, ← map_cut keyOf records
    positive, List.flatMap_def]
  congr 1
  apply List.map_congr_left
  intro package member
  rw [Package.entries, entriesFrom_eq]
  apply entriesUpTo_placed
  rw [List.findSome?_eq_none_iff] at keyed ⊢
  exact fun record inside => keyed record (List.mem_flatMap.mpr ⟨package, member, inside⟩)

/-- The batches hold entries of the records only, in their order and none twice. -/
theorem flatten_batches_sublist (keyOf : KeyOf) {size : Nat} (start : Nat) (records : List Bytes)
    (positive : 0 < size) :
    (batches keyOf size start records).flatten.Sublist (entries keyOf start records) := by
  rw [entries, ← flatMap_cut records positive, List.filterMap_flatMap, ← map_cut keyOf records
    positive, ← List.flatMap_def]
  refine List.Sublist.flatMap_right _ fun package _ => ?_
  rw [Package.entries, entriesFrom_eq]
  exact entriesUpTo_sublist keyOf _

/-- A group without a fault is handed over whole. -/
theorem entriesUpTo_group {keyOf : KeyOf} {size start : Nat} {records : List Bytes} {number : Nat}
    (keyed : (group size number records).findSome? (fault? keyOf) = none) :
    entriesUpTo keyOf (group size number (placed start records)) =
      groupEntries keyOf size start records number := by
  rw [groupEntries, group_placed]
  exact entriesUpTo_placed keyed

/-- A group without a fault has an entry for every record. -/
theorem length_groupEntries {keyOf : KeyOf} {size start : Nat} {records : List Bytes} {number : Nat}
    (keyed : (group size number records).findSome? (fault? keyOf) = none) :
    (groupEntries keyOf size start records number).length = (group size number records).length := by
  rw [groupEntries, group_placed]
  exact length_entries keyed

theorem findSome?_group {keyOf : KeyOf} {size number : Nat} {records : List Bytes}
    (keyed : records.findSome? (fault? keyOf) = none) :
    (group size number records).findSome? (fault? keyOf) = none := by
  rw [List.findSome?_eq_none_iff] at keyed ⊢
  intro record member
  exact keyed record (List.mem_of_mem_drop (List.mem_of_mem_take member))

/-- Where no record lacks a key, the batches are the groups' entries. -/
theorem batches_eq_map_groupEntries {keyOf : KeyOf} {size start : Nat} {records : List Bytes}
    (keyed : records.findSome? (fault? keyOf) = none) :
    batches keyOf size start records =
      (List.range (groupCount size records.length)).map
        (groupEntries keyOf size start records) :=
  List.map_congr_left fun _ _ => entriesUpTo_group (findSome?_group keyed)

/-- Where no record lacks a key, no batch is empty. -/
theorem filter_batches {keyOf : KeyOf} {size start : Nat} {records : List Bytes}
    (keyed : records.findSome? (fault? keyOf) = none) :
    (batches keyOf size start records).filter (· ≠ []) = batches keyOf size start records := by
  rw [batches_eq_map_groupEntries keyed, List.filter_eq_self]
  intro batch member
  obtain ⟨number, inside, rfl⟩ := List.mem_map.mp member
  have filled := List.length_pos_iff.mpr (@group_ne_nil _ size number _ (List.mem_range.mp inside))
  rw [← @length_groupEntries keyOf size start _ _ (findSome?_group keyed)] at filled
  exact decide_eq_true (List.length_pos_iff.mp filled)

/-- Every entry of a batch is that of a record. -/
theorem mem_entries_of_mem_batches {keyOf : KeyOf} {size start : Nat} {records : List Bytes}
    (positive : 0 < size) {batch : List Entry} (member : batch ∈ batches keyOf size start records)
    {entry : Entry} (inside : entry ∈ batch) : entry ∈ entries keyOf start records :=
  (flatten_batches_sublist keyOf start records positive).subset
    (List.mem_flatten.mpr ⟨batch, member, inside⟩)

end Layout

end RecordStore
