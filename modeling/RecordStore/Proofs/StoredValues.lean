import RecordStore.Proofs.Spans
import RecordStore.Proofs.Store

/-!
Whatever an index keeps under a key.

A value may come from anywhere: any bytes in a log, any two words in a row. It stands for a span
or says why not (`StoredValue.read_cases`), and no span that it stands for ends behind the last
word, so the end of the range that is read is never a sum that wrapped (`Blob.readWords_eq`).
What a store gives for the key is decided by the value and the size of the file.
-/

namespace RecordStore

/-! ### Ranges of words -/

namespace Blob

theorem stop?_eq (offset length : UInt64) :
    stop? offset length =
      if offset.toNat + length.toNat < 2 ^ 64 then some (offset + length) else none := by
  have first := offset.toNat_lt
  have second := length.toNat_lt
  have sum : (offset + length).toNat = (offset.toNat + length.toNat) % 2 ^ 64 :=
    UInt64.toNat_add offset length
  unfold stop?
  by_cases small : offset.toNat + length.toNat < 2 ^ 64
  · have natural : ¬offset + length < offset := by
      rw [UInt64.lt_iff_toNat_lt, sum, Nat.mod_eq_of_lt small]
      omega
    rw [if_pos small, if_neg natural]
  · have wrapped : offset + length < offset := by
      rw [UInt64.lt_iff_toNat_lt, sum]
      omega
    rw [if_neg small, if_pos wrapped]

/-- A range of words that ends at a word is read as the range of naturals. -/
theorem readWords_of_lt {offset length : UInt64} (room : offset.toNat + length.toNat < 2 ^ 64)
    (blob : Blob) (disk : Disk) :
    blob.readWords offset length disk = blob.read offset.toNat length.toNat disk := by
  have stop : (offset + length).toNat = offset.toNat + length.toNat := by
    rw [UInt64.toNat_add, Nat.mod_eq_of_lt room]
  have zero : length = 0 ↔ length.toNat = 0 := UInt64.toNat_inj.symm
  simp only [readWords, read, stop?_eq, if_pos room, stop, zero]

/-- Reading a file gives the bytes of a range within it, or says how long it is. -/
theorem read_file (path : String) (id offset length : Nat) (disk : Disk) :
    Blob.read ⟨path, .file id⟩ offset length disk =
      if (disk.content id).length < offset + length then
        .error (.outOfRange offset length (disk.content id).length)
      else .ok (Bytes.slice (disk.content id) offset length) := rfl

/-- Whatever becomes of reading a blob, no value is reported. -/
theorem read_ne_corrupt (blob : Blob) (offset length : Nat) (disk : Disk) (why : Corruption) :
    blob.read offset length disk ≠ .error (.corruptValue why) := by
  unfold read
  dsimp only
  split
  · simp
  · cases blob.target with
    | file id => simp
    | folder =>
        dsimp only
        split <;> simp

/-- Where the size is a word, every range of words is read as the range of naturals: one that ends
behind the last word ends behind the blob as well. -/
theorem readWords_eq {blob : Blob} {disk : Disk} (small : blob.size disk < 2 ^ 64)
    (offset length : UInt64) :
    blob.readWords offset length disk = blob.read offset.toNat length.toNat disk := by
  by_cases room : offset.toNat + length.toNat < 2 ^ 64
  · exact readWords_of_lt room blob disk
  · have behind : blob.size disk < offset.toNat + length.toNat := by omega
    simp only [readWords, read, stop?_eq, if_neg room, if_pos behind]

end Blob

/-- The bytes of a range within a byte string are a part of it. -/
theorem Bytes.exists_slice {content : Bytes} {offset length : Nat}
    (within : offset + length ≤ content.length) :
    ∃ before rest, content = before ++ slice content offset length ++ rest ∧
      before.length = offset ∧ (slice content offset length).length = length := by
  refine ⟨content.take offset, content.drop (offset + length), ?_, ?_, ?_⟩
  · rw [slice, List.append_assoc, ← List.drop_drop, List.take_append_drop, List.take_append_drop]
  · exact List.length_take_of_le (by omega)
  · rw [slice, List.length_take, List.length_drop]
    omega

/-! ### Values -/

/-- A value as an index keeps it: the bytes of a log, or the two numbers of a row. -/
inductive StoredValue
  | bytes (stored : Bytes)
  | row (offset length : Int64)

namespace StoredValue

/-- The span that a value is read as. -/
def read : StoredValue → Except Error Span
  | .bytes stored => Span.decode stored
  | .row offset length => TableIndex.spanOfRow (offset.toInt, length.toInt)

/-- Whether a value stands for a span. -/
inductive Means : StoredValue → Span → Prop
  | bytes {stored : Bytes} {span : Span} (decoded : Span.decode stored = .ok span) :
      Means (.bytes stored) span
  | row {offset length : Int64} (first : 0 ≤ offset.toInt) (second : 0 ≤ length.toInt) :
      Means (.row offset length) ⟨offset.toInt.toNat, length.toInt.toNat⟩

/-- What is wrong with a value that stands for no span. Of two negative numbers the offset is named.
-/
inductive Faulty : StoredValue → Corruption → Prop
  | bytes {stored : Bytes} {why : Corruption} (faulty : Span.Faulty stored why) :
      Faulty (.bytes stored) why
  | offset {offset length : Int64} (negative : offset.toInt < 0) :
      Faulty (.row offset length) (.negative .offset offset.toInt)
  | length {offset length : Int64} (first : 0 ≤ offset.toInt) (negative : length.toInt < 0) :
      Faulty (.row offset length) (.negative .length length.toInt)

variable {value : StoredValue} {span : Span}

theorem read_eq_ok_iff : value.read = .ok span ↔ value.Means span := by
  constructor
  · intro read
    cases value with
    | bytes stored => exact .bytes read
    | row offset length =>
        simp only [StoredValue.read, TableIndex.spanOfRow] at read
        split at read
        · cases read
        · split at read
          · cases read
          · cases read
            exact .row (by omega) (by omega)
  · intro means
    cases means with
    | bytes decoded => exact decoded
    | row first second =>
        rw [StoredValue.read, TableIndex.spanOfRow, if_neg (by omega), if_neg (by omega)]

/-- A value that stands for no span says why. -/
theorem read_cases (value : StoredValue) :
    (∃ span, value.read = .ok span) ∨
      ∃ why, value.read = .error (.corruptValue why) ∧ value.Faulty why := by
  cases value with
  | bytes stored =>
      rcases Span.decode_cases stored with ⟨span, decoded, -⟩ | ⟨why, failed, faulty⟩
      · exact .inl ⟨span, decoded⟩
      · exact .inr ⟨why, failed, .bytes faulty⟩
  | row offset length =>
      by_cases first : offset.toInt < 0
      · exact .inr ⟨_, if_pos first, .offset first⟩
      · by_cases second : length.toInt < 0
        · refine .inr ⟨_, ?_, .length (by omega) second⟩
          rw [read, TableIndex.spanOfRow, if_neg first, if_pos second]
        · exact .inl ⟨_, read_eq_ok_iff.mpr (.row (by omega) (by omega))⟩

/-- No span that a value stands for ends behind the last word. -/
theorem Means.stop_lt (means : value.Means span) : span.stop < 2 ^ 64 := by
  cases means with
  | @bytes stored _ decoded =>
      have ceiling : Slot.maxValue = 2 ^ 55 - 1 := rfl
      rcases Span.decode_cases stored with ⟨other, same, -, first, second⟩ | ⟨why, failed, -⟩
      · rw [decoded] at same
        cases same
        have below := first.below
        have below' := second.below
        unfold Span.stop
        omega
      · rw [decoded] at failed
        cases failed
  | @row offset length _ _ =>
      have below := offset.toInt_lt
      have below' := length.toInt_lt
      simp only [Span.stop]
      omega

end StoredValue

/-! ### Indexes that keep them -/

/-- Whether an index that can be opened keeps a value under a key, or none. -/
inductive Backend.Keeps (key : String) (disk : Disk) : Backend → Option StoredValue → Prop
  | log {index : LogIndex} {stored : Option Bytes}
      (found : (index.reading (fun rows => .ok (Assoc.find? key rows)) disk).1 = .ok stored) :
      Keeps key disk (.log index) (stored.map .bytes)
  | absent {index : TableIndex}
      (found : (index.reading (fun rows => .ok (Assoc.find? key rows)) disk).1 = .ok none) :
      Keeps key disk (.table index) none
  | row {index : TableIndex} {offset length : Int64}
      (found : (index.reading (fun rows => .ok (Assoc.find? key rows)) disk).1 =
        .ok (some (offset.toInt, length.toInt))) :
      Keeps key disk (.table index) (some (.row offset length))

/-- Reading on from what was read in a log reads in the log once. -/
theorem LogIndex.reading_bind {α β : Type} (read : Assoc String Bytes → Except Error α)
    (next : α → Except Error β) (index : LogIndex) (disk : Disk) :
    (index.reading (fun rows => (read rows).bind next) disk).1 =
      (index.reading read disk).1.bind next := by
  unfold reading
  rcases index.acquire false disk with ⟨outcome, index', disk'⟩
  cases outcome <;> rfl

/-- Reading on from what was read in a table reads in the table once. -/
theorem TableIndex.reading_bind {α β : Type} (read : TableRows → Except Error α)
    (next : α → Except Error β) (index : TableIndex) (disk : Disk) :
    (index.reading (fun rows => (read rows).bind next) disk).1 =
      (index.reading read disk).1.bind next := by
  unfold reading
  rcases index.acquireExisting disk with ⟨outcome, index', disk'⟩
  cases outcome with
  | error error => rfl
  | ok connection =>
      dsimp only
      rcases connection.rows disk' with ⟨rows, disk''⟩
      cases rows <;> rfl

/-- Looking up a key in a log reads what the log keeps. -/
theorem LogIndex.lookup_of_reading {key : String} {index : LogIndex} {disk : Disk}
    {stored : Option Bytes}
    (found : (index.reading (fun rows => .ok (Assoc.find? key rows)) disk).1 = .ok stored) :
    (index.lookup key disk).1 = stored.elim (.ok none) fun bytes => (Span.decode bytes).map some := by
  have on : spanOf? key = fun rows => (Except.ok (Assoc.find? key rows)).bind
      fun stored => stored.elim (.ok none) fun bytes => (Span.decode bytes).map some := by
    funext rows
    unfold spanOf?
    cases Assoc.find? key rows with
    | none => rfl
    | some bytes =>
        simp only [Except.bind, Option.elim]
        cases Span.decode bytes <;> rfl
  rw [lookup, on, reading_bind, found]
  rfl

/-- Looking up a key in a table reads the row of the key. -/
theorem TableIndex.lookup_of_reading {key : String} {index : TableIndex} {disk : Disk}
    {row : Option (Int × Int)}
    (found : (index.reading (fun rows => .ok (Assoc.find? key rows)) disk).1 = .ok row) :
    (index.lookup key disk).1 = row.elim (.ok none) fun row => (spanOfRow row).map some := by
  have on : spanOf? key = fun rows => (Except.ok (Assoc.find? key rows)).bind
      fun row => row.elim (.ok none) fun row => (spanOfRow row).map some := by
    funext rows
    unfold spanOf?
    cases Assoc.find? key rows with
    | none => rfl
    | some row =>
        simp only [Except.bind, Option.elim]
        cases spanOfRow row <;> rfl
  rw [lookup, on, reading_bind, found]
  rfl

theorem Backend.Keeps.isIndex {key : String} {disk : Disk} {backend : Backend}
    {value : Option StoredValue} (keeps : backend.Keeps key disk value) : backend.IsIndex := by
  cases keeps <;> trivial

/-- Looking up a key reads the value that is kept. -/
theorem Backend.Keeps.lookup {key : String} {disk : Disk} {backend : Backend}
    {value : Option StoredValue} (keeps : backend.Keeps key disk value) :
    (backend.lookup key disk).1 = value.elim (.ok none) fun value => value.read.map some := by
  cases keeps with
  | @log index stored found =>
      refine (LogIndex.lookup_of_reading found).trans ?_
      cases stored <;> rfl
  | absent found => exact TableIndex.lookup_of_reading found
  | row found => exact TableIndex.lookup_of_reading found

theorem Backend.Keeps.lookup_of_means {key : String} {disk : Disk} {backend : Backend}
    {value : StoredValue} {span : Span} (keeps : backend.Keeps key disk (some value))
    (means : value.Means span) : (backend.lookup key disk).1 = .ok (some span) := by
  rw [keeps.lookup, Option.elim, StoredValue.read_eq_ok_iff.mpr means]
  rfl

/-! ### What a store gives -/

namespace Store

variable {store : Store} {disk : Disk} {key : String} {span : Span}

theorem get_of_lookup_none (looked : (store.backend.lookup key disk).1 = .ok none) :
    (store.get key disk).1 = .ok none := by
  rw [get, lookup_eq]
  rcases found : store.backend.lookup key disk with ⟨result, after⟩
  rw [found] at looked
  cases looked
  rfl

theorem get_of_lookup_error {error : Error}
    (looked : (store.backend.lookup key disk).1 = .error error) :
    (store.get key disk).1 = .error error := by
  rw [get, lookup_eq]
  rcases found : store.backend.lookup key disk with ⟨result, after⟩
  rw [found] at looked
  cases looked
  rfl

/-- A span that was found is read where the blob is then. -/
theorem get_of_lookup_some (looked : (store.backend.lookup key disk).1 = .ok (some span)) :
    (store.get key disk).1 = match Blob.atPath store.blob (store.get key disk).2.2 with
      | .error error => .error error
      | .ok blob => (blob.readSpan span (store.get key disk).2.2).map some := by
  rw [get_snd]
  rw [get, lookup_eq]
  rcases found : store.backend.lookup key disk with ⟨result, after⟩
  rw [found] at looked
  cases looked
  dsimp only
  cases Blob.atPath store.blob after.2 <;> rfl

/-- A span is read by words, which do not wrap. -/
theorem get_of_means {value : StoredValue} {id : Nat}
    (keeps : store.backend.Keeps key disk (some value)) (means : value.Means span)
    (found : (store.get key disk).2.2.find store.blob = .ok (.file id)) :
    (store.get key disk).1 = (Blob.read ⟨store.blob, .file id⟩ span.offset span.length
        (store.get key disk).2.2).map some ∧
      (store.get key disk).1 = (Blob.readWords ⟨store.blob, .file id⟩ (.ofNat span.offset)
        (.ofNat span.length) (store.get key disk).2.2).map some := by
  have stop := means.stop_lt
  unfold Span.stop at stop
  have offset : (UInt64.ofNat span.offset).toNat = span.offset :=
    UInt64.toNat_ofNat_of_lt' (Nat.lt_of_le_of_lt (Nat.le_add_right _ _) stop)
  have length : (UInt64.ofNat span.length).toNat = span.length :=
    UInt64.toNat_ofNat_of_lt' (Nat.lt_of_le_of_lt (Nat.le_add_left _ _) stop)
  have natural := get_of_lookup_some (keeps.lookup_of_means means)
  rw [Blob.atPath_of_find found] at natural
  refine ⟨natural, ?_⟩
  rw [Blob.readWords_of_lt (by omega), offset, length]
  exact natural

/-- Where a span was found, whatever becomes of reading it, no value is reported. -/
theorem get_ne_corrupt (looked : (store.backend.lookup key disk).1 = .ok (some span))
    (why : Corruption) : (store.get key disk).1 ≠ .error (.corruptValue why) := by
  rw [get_of_lookup_some looked]
  cases opened : Blob.atPath store.blob (store.get key disk).2.2 with
  | error error =>
      rintro ⟨⟩
      unfold Blob.atPath at opened
      split at opened <;> cases opened
  | ok blob =>
      dsimp only
      cases read : blob.readSpan span (store.get key disk).2.2 with
      | ok bytes => simp [Except.map]
      | error error =>
          rintro ⟨⟩
          exact blob.read_ne_corrupt _ _ _ why read

/-- A value that stands for no span is reported before the blob is opened. -/
theorem get_of_faulty {value : StoredValue} {why : Corruption}
    (keeps : store.backend.Keeps key disk (some value))
    (failed : value.read = .error (.corruptValue why)) :
    (store.get key disk).1 = .error (.corruptValue why) := by
  apply get_of_lookup_error
  rw [keeps.lookup, Option.elim, failed]
  rfl

/-- The blob is where it was, and as long, if the index keeps its data elsewhere. -/
theorem blob_of_get {value : Option StoredValue} {id : Nat}
    (keeps : store.backend.Keeps key disk value) (sound : disk.Sound)
    (away : store.backend.Away (Disk.placeOf store.blob) disk)
    (found : disk.find store.blob = .ok (.file id)) :
    (store.get key disk).2.2.find store.blob = .ok (.file id) ∧
      (store.get key disk).2.2.content id = disk.content id := by
  have spares : Disk.Spares (Disk.placeOf store.blob) disk (store.get key disk).2.2 := by
    rw [get_snd, lookup_eq]
    exact (@Backend.looks_lookup _ key (store.backend, disk) _ _ keeps.isIndex sound away
      rfl).spares
  exact ⟨spares.find found, spares.content_eq sound found⟩

/-- Let a value be kept under a key, or none, in an index that can be read. Without a value there is
no record, blob or not. A value that stands for no span is reported, with what is wrong with it, and
nothing else is reported as such. A span ends at a word, and what is read by words is what is read
by naturals: the range, the size of the file and nothing else are reported if the file is shorter,
and the bytes of the range are given otherwise, which are no more than the file has. The file is
the one that was there before, if the index keeps its data elsewhere. -/
theorem get_judges_any_value {value : Option StoredValue}
    (keeps : store.backend.Keeps key disk value) :
    (value = none → (store.get key disk).1 = .ok none) ∧
    (∀ stored, value = some stored →
      ((∃ why, (store.get key disk).1 = .error (.corruptValue why)) ↔
        ∀ span, ¬stored.Means span) ∧
      (∀ why, (store.get key disk).1 = .error (.corruptValue why) → stored.Faulty why) ∧
      ∀ span id, stored.Means span →
        (store.get key disk).2.2.find store.blob = .ok (.file id) →
        let content := (store.get key disk).2.2.content id
        span.stop < 2 ^ 64 ∧
        (store.get key disk).1 = (Blob.readWords ⟨store.blob, .file id⟩ (.ofNat span.offset)
          (.ofNat span.length) (store.get key disk).2.2).map some ∧
        ((store.get key disk).1 = .error (.outOfRange span.offset span.length content.length) ↔
          content.length < span.offset + span.length) ∧
        (span.offset + span.length ≤ content.length → ∃ before bytes rest,
          (store.get key disk).1 = .ok (some bytes) ∧ content = before ++ bytes ++ rest ∧
            before.length = span.offset ∧ bytes.length = span.length)) ∧
    (disk.Sound → store.backend.Away (Disk.placeOf store.blob) disk →
      ∀ id, disk.find store.blob = .ok (.file id) →
        (store.get key disk).2.2.find store.blob = .ok (.file id) ∧
          (store.get key disk).2.2.content id = disk.content id) := by
  refine ⟨?_, ?_, fun sound away id => blob_of_get keeps sound away⟩
  · rintro rfl
    exact get_of_lookup_none keeps.lookup
  · rintro stored rfl
    have looked {span : Span} (means : stored.Means span) :
        (store.backend.lookup key disk).1 = .ok (some span) := keeps.lookup_of_means means
    refine ⟨⟨?_, ?_⟩, ?_, ?_⟩
    · rintro ⟨why, failed⟩ span means
      exact get_ne_corrupt (looked means) why failed
    · intro none
      rcases stored.read_cases with ⟨span, read⟩ | ⟨why, failed, -⟩
      · exact absurd (StoredValue.read_eq_ok_iff.mp read) (none span)
      · exact ⟨why, get_of_faulty keeps failed⟩
    · intro why reported
      rcases stored.read_cases with ⟨span, read⟩ | ⟨why', failed, faulty⟩
      · have means := StoredValue.read_eq_ok_iff.mp read
        exact absurd reported (get_ne_corrupt (looked means) why)
      · rw [get_of_faulty keeps failed] at reported
        cases reported
        exact faulty
    · intro span id means found content
      obtain ⟨natural, words⟩ := get_of_means keeps means found
      refine ⟨means.stop_lt, words, ?_, ?_⟩
      · rw [natural, Blob.read_file]
        split
        · rename_i short
          exact ⟨fun _ => short, fun _ => rfl⟩
        · rename_i within
          exact ⟨fun failed => (by cases failed), fun short => absurd short within⟩
      · intro within
        obtain ⟨before, rest, whole, first, second⟩ := Bytes.exists_slice within
        refine ⟨before, _, rest, ?_, whole, first, second⟩
        rw [natural, Blob.read_file, if_neg (Nat.not_lt.mpr within)]
        rfl

/-- A row whose numbers are the largest ones there are stands for a range that a file of three bytes
does not have, and of a row with two negative numbers the offset is reported. Under another key
there is no record. -/
theorem get_judges_any_value_up_to_the_last_word :
    let disk : Disk := ((Disk.empty.createAt ["f"] (.bytes [97, 98, 10])).2.createAt ["d"]
      (.table [("k", (2 ^ 63 - 1, 2 ^ 63 - 1)), ("n", (-1, -2 ^ 63))])).2
    let store : Store := ⟨"f", .table ⟨"d", .reject, some ⟨⟨1, some ["d"], true, none⟩, true⟩⟩, false⟩
    (store.get "k" disk).1 = .error (.outOfRange (2 ^ 63 - 1) (2 ^ 63 - 1) 3) ∧
      (store.get "n" disk).1 = .error (.corruptValue (.negative .offset (-1))) ∧
      (store.get "x" disk).1 = .ok none := by
  intro disk store
  have keeps : store.backend.Keeps "k" disk
      (some (.row (Int64.ofInt (2 ^ 63 - 1)) (Int64.ofInt (2 ^ 63 - 1)))) := .row (by cbv)
  have keeps' : store.backend.Keeps "n" disk (some (.row (-1) Int64.minValue)) := .row (by cbv)
  have keeps'' : store.backend.Keeps "x" disk none := .absent (by cbv)
  refine ⟨?_, ?_, (get_judges_any_value keeps'').1 rfl⟩
  · have means : (StoredValue.row (Int64.ofInt (2 ^ 63 - 1)) (Int64.ofInt (2 ^ 63 - 1))).Means
        ⟨2 ^ 63 - 1, 2 ^ 63 - 1⟩ := .row (by decide) (by decide)
    have found : (store.get "k" disk).2.2.find store.blob = .ok (.file 0) := by cbv
    have content : (store.get "k" disk).2.2.content 0 = [97, 98, 10] := by cbv
    obtain ⟨-, -, short, -⟩ := ((get_judges_any_value keeps).2.1 _ rfl).2.2 _ 0 means found
    rw [content] at short
    exact short.mpr (by decide)
  · obtain ⟨corrupt, faulty, -⟩ := (get_judges_any_value keeps').2.1 _ rfl
    obtain ⟨why, failed⟩ := corrupt.mpr fun span means => by
      cases means with
      | row first => exact absurd first (by decide)
    rw [failed]
    cases faulty why failed with
    | offset => rfl
    | length first => exact absurd first (by decide)

end Store

end RecordStore
