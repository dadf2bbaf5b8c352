import RecordStore.Index.Log
import RecordStore.Index.Table
import RecordStore.Proofs.Disk
import RecordStore.Proofs.Slots
import Mathlib.Data.List.Nodup

/-!
The rows of an index.

Putting a batch into rows changes what is found under its keys and under no others: a key
of the batch then stands for the last entry that has it (`lastOf?`). A log and a table
differ in the form of their rows only.
-/

namespace RecordStore

/-- The last entry of a key. -/
def lastOf? (key : String) (entries : List Entry) : Option Entry :=
  entries.reverse.find? fun entry => entry.key = key

theorem lastOf?_cons (key : String) (entry : Entry) (entries : List Entry) :
    lastOf? key (entry :: entries) =
      (lastOf? key entries).or (if entry.key = key then some entry else none) := by
  rw [lastOf?, lastOf?, List.reverse_cons, List.find?_append]
  by_cases same : entry.key = key <;> simp [same]

theorem lastOf?_eq_none_iff {key : String} {entries : List Entry} :
    lastOf? key entries = none ↔ ∀ entry ∈ entries, entry.key ≠ key := by
  simp [lastOf?]

theorem lastOf?_eq_some {key : String} {entries : List Entry} {entry : Entry}
    (last : lastOf? key entries = some entry) : entry ∈ entries ∧ entry.key = key := by
  refine ⟨List.mem_reverse.mp (List.mem_of_find?_eq_some last), ?_⟩
  simpa using List.find?_some last

theorem lastOf?_append_cons {entry : Entry} {before rest : List Entry}
    (last : ∀ later ∈ rest, later.key ≠ entry.key) :
    lastOf? entry.key (before ++ entry :: rest) = some entry := by
  induction before with
  | nil => simp [lastOf?_cons, lastOf?_eq_none_iff.mpr last]
  | cons first before ih => simp [lastOf?_cons, ih]

theorem lastOf?_append (key : String) (first second : List Entry) :
    lastOf? key (first ++ second) = (lastOf? key second).or (lastOf? key first) := by
  rw [lastOf?, lastOf?, lastOf?, List.reverse_append, List.find?_append]

/-- With keys that are all different, every entry is the last one of its key. -/
theorem lastOf?_of_mem {entries : List Entry} (distinct : (entries.map Entry.key).Nodup)
    {entry : Entry} (inside : entry ∈ entries) : lastOf? entry.key entries = some entry := by
  cases last : lastOf? entry.key entries with
  | none => exact absurd rfl (lastOf?_eq_none_iff.mp last entry inside)
  | some other =>
      obtain ⟨member, same⟩ := lastOf?_eq_some last
      rw [List.inj_on_of_nodup_map distinct member inside same]

/-- With keys that are all different, the order of entries does not matter. -/
theorem lastOf?_of_perm {first second : List Entry} (same : first.Perm second)
    (distinct : (first.map Entry.key).Nodup) (key : String) :
    lastOf? key first = lastOf? key second := by
  cases last : lastOf? key second with
  | none =>
      refine lastOf?_eq_none_iff.mpr ?_
      intro entry inside
      exact lastOf?_eq_none_iff.mp last entry (same.subset inside)
  | some entry =>
      obtain ⟨inside, rfl⟩ := lastOf?_eq_some last
      exact lastOf?_of_mem distinct (same.symm.subset inside)

/-- What is read under a key after a batch: the place of the last entry that has it, or else what
was read before. -/
def readAfter (key : String) (entries : List Entry) (before : Except Error (Option Span)) :
    Except Error (Option Span) :=
  match lastOf? key entries with
  | some entry => .ok (some entry.span)
  | none => before

theorem readAfter_of_some {key : String} {entries : List Entry} {entry : Entry}
    (last : lastOf? key entries = some entry) (before : Except Error (Option Span)) :
    readAfter key entries before = .ok (some entry.span) := by
  simp [readAfter, last]

theorem readAfter_of_none {key : String} {entries : List Entry}
    (none : lastOf? key entries = none) (before : Except Error (Option Span)) :
    readAfter key entries before = before := by
  simp [readAfter, none]

theorem readAfter_append (key : String) (first second : List Entry)
    (before : Except Error (Option Span)) :
    readAfter key (first ++ second) before =
      readAfter key second (readAfter key first before) := by
  unfold readAfter
  rw [lastOf?_append]
  cases lastOf? key second <;> rfl

/-- Nothing is read just when no entry has the key and nothing was read before. -/
theorem readAfter_eq_none_iff {key : String} {entries : List Entry}
    {before : Except Error (Option Span)} :
    readAfter key entries before = .ok none ↔
      (∀ entry ∈ entries, entry.key ≠ key) ∧ before = .ok none := by
  cases last : lastOf? key entries with
  | none =>
      rw [readAfter_of_none last]
      exact ⟨fun same => ⟨lastOf?_eq_none_iff.mp last, same⟩, And.right⟩
  | some entry =>
      rw [readAfter_of_some last]
      obtain ⟨inside, own⟩ := lastOf?_eq_some last
      constructor
      · intro same
        cases same
      · rintro ⟨absent, -⟩
        exact absurd own (absent entry inside)

/-! ### The rows of a log -/

namespace LogIndex

theorem encodeAll_append {first second : List Entry} :
    encodeAll (first ++ second) =
      (encodeAll first).bind fun pairs => (encodeAll second).map (pairs ++ ·) := by
  induction first with
  | nil => cases encoded : encodeAll second <;> simp [encodeAll, encoded, Except.bind, Except.map]
  | cons entry entries ih =>
      rw [List.cons_append, encodeAll, encodeAll]
      cases entry.span.encode with
      | error error => rfl
      | ok stored =>
          rw [ih]
          cases encodeAll entries with
          | error error => rfl
          | ok pairs => cases encodeAll second <;> rfl

theorem encodeAll_cons_eq_ok {entry : Entry} {entries : List Entry}
    {pairs : List (String × Bytes)} (encoded : encodeAll (entry :: entries) = .ok pairs) :
    ∃ stored rest, entry.span.encode = .ok stored ∧ encodeAll entries = .ok rest ∧
      pairs = (entry.key, stored) :: rest := by
  unfold encodeAll at encoded
  split at encoded
  · cases encoded
  · rename_i stored made
    split at encoded
    · cases encoded
    · rename_i rest others
      cases encoded
      exact ⟨stored, rest, made, others, rfl⟩

/-- Entries whose numbers fit have stored forms. -/
theorem exists_encodeAll {entries : List Entry}
    (room : ∀ entry ∈ entries, entry.offset ≤ Slot.maxValue ∧ entry.length ≤ Slot.maxValue) :
    ∃ pairs, encodeAll entries = .ok pairs := by
  induction entries with
  | nil => exact ⟨[], rfl⟩
  | cons entry entries ih =>
      obtain ⟨first, others⟩ := List.forall_mem_cons.mp room
      obtain ⟨stored, made⟩ := @Span.exists_encode entry.span first.1 first.2
      obtain ⟨pairs, rest⟩ := ih others
      exact ⟨(entry.key, stored) :: pairs, by simp [encodeAll, made, rest]⟩

/-- Entries that have stored forms have numbers that fit. -/
theorem fits_of_encodeAll {entries : List Entry} {pairs : List (String × Bytes)}
    (encoded : encodeAll entries = .ok pairs) :
    ∀ entry ∈ entries, entry.offset ≤ Slot.maxValue ∧ entry.length ≤ Slot.maxValue := by
  induction entries generalizing pairs with
  | nil => simp
  | cons entry entries ih =>
      obtain ⟨stored, rest, made, others, -⟩ := encodeAll_cons_eq_ok encoded
      exact List.forall_mem_cons.mpr ⟨Span.fits_of_encode made, ih others⟩

/-- A key of a batch is found with the last entry that has it, another key as before. -/
theorem find?_putAll {entries : List Entry} {pairs : List (String × Bytes)}
    (encoded : encodeAll entries = .ok pairs) (key : String) (rows : Assoc String Bytes) :
    (lastOf? key entries = none ∧
        Assoc.find? key (Assoc.putAll pairs rows) = Assoc.find? key rows) ∨
      ∃ entry stored, lastOf? key entries = some entry ∧ entry.span.encode = .ok stored ∧
        Assoc.find? key (Assoc.putAll pairs rows) = some stored := by
  induction entries generalizing pairs rows with
  | nil =>
      cases encoded
      exact .inl ⟨rfl, rfl⟩
  | cons entry entries ih =>
      obtain ⟨stored, rest, made, others, rfl⟩ := encodeAll_cons_eq_ok encoded
      rw [lastOf?_cons]
      rcases ih others (Assoc.put entry.key stored rows) with
        ⟨none, same⟩ | ⟨last, value, found, encodes, same⟩
      · by_cases own : entry.key = key
        · subst own
          refine .inr ⟨entry, stored, by simp [none], made, ?_⟩
          exact same.trans (Assoc.find?_put_self _ _ _)
        · refine .inl ⟨by simp [none, own], ?_⟩
          exact same.trans (Assoc.find?_put_of_ne own _ _)
      · exact .inr ⟨last, value, by simp [found], encodes, same⟩

/-- The span under a key of a batch is that of the last entry that has it. -/
theorem spanOf?_putAll {entries : List Entry} {pairs : List (String × Bytes)}
    (encoded : encodeAll entries = .ok pairs) (key : String) (rows : Assoc String Bytes) :
    spanOf? key (Assoc.putAll pairs rows) = readAfter key entries (spanOf? key rows) := by
  rcases find?_putAll encoded key rows with ⟨none, same⟩ | ⟨entry, stored, last, made, same⟩
  · simp [spanOf?, readAfter_of_none none, same]
  · simp [spanOf?, readAfter_of_some last, same, Span.decode_of_encode made]

end LogIndex

/-! ### The rows of a table -/

/-- The row of an entry. -/
def Entry.row (entry : Entry) : Int × Int :=
  (entry.offset, entry.length)

namespace TableIndex

theorem insertAll_append (policy : OnDuplicate) (first second : List Entry) (rows : TableRows) :
    insertAll policy (first ++ second) rows =
      (insertAll policy first rows).bind (insertAll policy second) := by
  induction first generalizing rows with
  | nil => rfl
  | cons entry entries ih =>
      rw [List.cons_append, insertAll, insertAll]
      cases insert policy entry rows with
      | error error => rfl
      | ok rows => exact ih rows

/-- An entry is added when it has room and, unless keys may be replaced, its key is new. -/
theorem insert_eq_ok_iff {policy : OnDuplicate} {entry : Entry} {rows rows' : TableRows} :
    insert policy entry rows = .ok rows' ↔
      overflow? entry = none ∧ (policy = .reject → Assoc.find? entry.key rows = none) ∧
        rows' = Assoc.put entry.key entry.row rows := by
  unfold insert
  split
  · rename_i error large
    constructor
    · intro refused
      cases refused
    · rintro ⟨room, -⟩
      rw [large] at room
      cases room
  · rename_i room
    split
    · rename_i held
      constructor
      · intro refused
        cases refused
      · rintro ⟨-, new, -⟩
        simp [Assoc.has, new held.1] at held
    · rename_i free
      constructor
      · intro same
        cases same
        refine ⟨room, fun rejects => ?_, rfl⟩
        simpa [Assoc.has, rejects] using free
      · rintro ⟨-, -, rfl⟩
        rfl

theorem insertAll_cons_eq_ok {policy : OnDuplicate} {entry : Entry} {entries : List Entry}
    {rows rows' : TableRows} (inserted : insertAll policy (entry :: entries) rows = .ok rows') :
    insertAll policy entries (Assoc.put entry.key entry.row rows) = .ok rows' := by
  unfold insertAll at inserted
  split at inserted
  · cases inserted
  · rename_i middle first
    rwa [(insert_eq_ok_iff.mp first).2.2] at inserted

/-- A batch is added when all its entries have room and, unless keys may be replaced, its keys are
all different and new. -/
theorem exists_insertAll_iff {policy : OnDuplicate} {entries : List Entry} {rows : TableRows} :
    (∃ rows', insertAll policy entries rows = .ok rows') ↔
      (∀ entry ∈ entries, overflow? entry = none) ∧
        (policy = .reject → (entries.map Entry.key).Nodup ∧
          ∀ entry ∈ entries, Assoc.find? entry.key rows = none) := by
  induction entries generalizing rows with
  | nil => simp [insertAll]
  | cons entry entries ih =>
      have step : (∃ rows', insertAll policy (entry :: entries) rows = .ok rows') ↔
          (∃ rows', insertAll policy entries (Assoc.put entry.key entry.row rows) = .ok rows') ∧
            overflow? entry = none ∧
              (policy = .reject → Assoc.find? entry.key rows = none) := by
        constructor
        · rintro ⟨rows', inserted⟩
          refine ⟨⟨rows', insertAll_cons_eq_ok inserted⟩, ?_⟩
          unfold insertAll at inserted
          split at inserted
          · cases inserted
          · rename_i middle first
            obtain ⟨room, new, -⟩ := insert_eq_ok_iff.mp first
            exact ⟨room, new⟩
        · rintro ⟨⟨rows', inserted⟩, room, new⟩
          refine ⟨rows', ?_⟩
          rw [insertAll, insert_eq_ok_iff.mpr ⟨room, new, rfl⟩]
          exact inserted
      rw [step, ih]
      simp only [List.forall_mem_cons, List.map_cons, List.nodup_cons, List.mem_map,
        Assoc.find?_put]
      constructor
      · rintro ⟨⟨others, rest⟩, room, new⟩
        refine ⟨⟨room, others⟩, fun rejects => ?_⟩
        obtain ⟨distinct, absent⟩ := rest rejects
        refine ⟨⟨?_, distinct⟩, new rejects, ?_⟩
        · rintro ⟨other, member, same⟩
          simpa [same] using absent other member
        · intro other member
          have free := absent other member
          split at free
          · cases free
          · exact free
      · rintro ⟨⟨room, others⟩, rest⟩
        refine ⟨⟨others, fun rejects => ?_⟩, room, fun rejects => (rest rejects).2.1⟩
        obtain ⟨⟨once, distinct⟩, -, absent⟩ := rest rejects
        refine ⟨distinct, ?_⟩
        intro other member
        rw [if_neg fun same => once ⟨other, member, same.symm⟩]
        exact absent other member

/-- Where keys are refused that are there already, a batch adds its rows behind the others. -/
theorem eq_append_of_insertAll {entries : List Entry} {rows rows' : TableRows}
    (inserted : insertAll .reject entries rows = .ok rows') :
    rows' = rows ++ entries.map fun entry => (entry.key, entry.row) := by
  induction entries generalizing rows with
  | nil =>
      cases inserted
      simp
  | cons entry entries ih =>
      have new := ((exists_insertAll_iff.mp ⟨rows', inserted⟩).2 rfl).2 entry List.mem_cons_self
      rw [ih (insertAll_cons_eq_ok inserted), Assoc.put_of_find?_eq_none new]
      simp

/-- A key of a batch is found with the last entry that has it, another key as before. -/
theorem find?_insertAll {policy : OnDuplicate} {entries : List Entry} {rows rows' : TableRows}
    (inserted : insertAll policy entries rows = .ok rows') (key : String) :
    Assoc.find? key rows' =
      match lastOf? key entries with
      | some entry => some entry.row
      | none => Assoc.find? key rows := by
  induction entries generalizing rows with
  | nil =>
      cases inserted
      rfl
  | cons entry entries ih =>
      rw [ih (insertAll_cons_eq_ok inserted), lastOf?_cons]
      cases lastOf? key entries with
      | some last => rfl
      | none =>
          by_cases own : entry.key = key
          · subst own
            simp
          · simp [own, Assoc.find?_put_of_ne own]

theorem spanOfRow_row (entry : Entry) : spanOfRow entry.row = .ok entry.span := by
  have offset : ¬(entry.offset : Int) < 0 := by omega
  have length : ¬(entry.length : Int) < 0 := by omega
  simp [spanOfRow, Entry.row, Entry.span, offset, length]

theorem spanOf?_eq_none_iff {key : String} {rows : TableRows} :
    spanOf? key rows = .ok none ↔ Assoc.find? key rows = none := by
  unfold spanOf?
  cases Assoc.find? key rows with
  | none => simp
  | some row => cases made : spanOfRow row <;> simp [made]

/-- The span under a key of a batch is that of the last entry that has it. -/
theorem spanOf?_insertAll {policy : OnDuplicate} {entries : List Entry} {rows rows' : TableRows}
    (inserted : insertAll policy entries rows = .ok rows') (key : String) :
    spanOf? key rows' = readAfter key entries (spanOf? key rows) := by
  rw [spanOf?, find?_insertAll inserted key]
  cases last : lastOf? key entries with
  | some entry => simp [spanOfRow_row, readAfter_of_some last]
  | none => rw [readAfter_of_none last, spanOf?]

end TableIndex

end RecordStore
