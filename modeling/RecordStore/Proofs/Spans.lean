import RecordStore.Proofs.Varint
import Mathlib

/-!
What is a stored span, and what it stands for.

A span has a stored form just when both numbers stay below the ceiling of a slot, and is read
back from it whatever follows. Of any bytes at all it is said whether they are read as a span
and what is wrong with them otherwise: a slot is read when a varint ends in it and its first
byte is even, however its value is spelled and whatever stands behind it.
-/

namespace RecordStore

namespace Slot

/-- Whether a slot holds the varint of a value, for which it has room, and zeros behind it. -/
structure Holds (value : Nat) (slot : Bytes) : Prop where
  size : slot.length = 8
  room : (Varint.put (Int64.ofNat value) []).2 ≤ 8
  varint : slot.take (Varint.put (Int64.ofNat value) []).2 = (Varint.put (Int64.ofNat value) []).1
  zeros : ∀ byte ∈ slot.drop (Varint.put (Int64.ofNat value) []).2, byte = 0

/-- Whether a varint ends in a slot. -/
def Ended (slot : Bytes) : Prop :=
  ∃ byte ∈ slot, byte < 128

/-- Whether a slot starts with an even byte, as that of a value does that is not negative. -/
def StartsEven (slot : Bytes) : Prop :=
  ∃ first ∈ slot.head?, first.toNat % 2 = 0

/-- What is wrong with a slot. -/
inductive Faulty (part : SpanPart) (slot : Bytes) : Corruption → Prop
  | unterminated (open' : ¬Ended slot) : Faulty part slot (.unterminated part)
  | negative {value : Int64} {length : Nat} (ended : Ended slot) (odd : ¬StartsEven slot)
      (read : Varint.read? slot = some (value, length)) (below : value.toInt < 0) :
      Faulty part slot (.negative part value.toInt)

/-- Whether a slot is what its value is stored as: its varint is the shortest one that is read as
the value, and zeros stand behind it. -/
def Canonical (slot : Bytes) : Prop :=
  ∃ value length, Varint.read? slot = some (value, length) ∧
    (∀ bytes other, Varint.read? bytes = some (value, other) → length ≤ other) ∧
    ∀ byte ∈ slot.drop length, byte = 0

theorem toInt_of_le {value : Nat} (fits : value ≤ maxValue) :
    (Int64.ofNat value).toInt = value := by
  rw [maxValue_eq] at fits
  exact Int64.toInt_ofNat_of_lt (by omega)

theorem put_of_le {value : Nat} (fits : value ≤ maxValue) :
    Varint.put (Int64.ofNat value) [] = (Varint.encode value, (Varint.encode value).length) := by
  rw [Varint.put_eq, toInt_of_le fits, List.nil_append]

theorem holds_of_encode {value : Nat} {slot : Bytes} (made : encode value = .ok slot) :
    Holds value slot := by
  have full := length_of_encode made
  obtain ⟨fits, rfl⟩ := encode_eq_ok_iff.mp made
  have put := put_of_le fits
  refine ⟨full, ?_, ?_, ?_⟩
  · rw [List.length_append] at full
    rw [put]
    simp only [size] at full
    omega
  · rw [put, List.take_left]
  · rw [put, List.drop_left]
    intro byte inside
    exact List.eq_of_mem_replicate inside

theorem encode_of_large {value : Nat} (large : maxValue < value) :
    encode value = .error (.valueOverflow value) := by
  simp [encode, large]

/-! ### Slots of any bytes -/

section Slot

variable {part : SpanPart} {slot : Bytes} {why : Corruption}

/-- What a slot that is read comes to: a value below the ceiling, by a varint that ends in the slot.
-/
structure Reads (part : SpanPart) (slot : Bytes) (value : Nat) : Prop where
  decoded : decode part slot = .ok value
  below : value ≤ maxValue
  ended : Ended slot
  even : StartsEven slot
  read : ∃ length, Varint.decode? slot = some ((value : Int), length)

theorem Faulty.not_sound (faulty : Faulty part slot why) : ¬(Ended slot ∧ StartsEven slot) := by
  rintro ⟨ended, even⟩
  cases faulty with
  | unterminated open' => exact open' ended
  | negative _ odd _ _ => exact odd even

/-- A slot is too short for a tenth byte, so it is read just when a varint ends in it. -/
theorem readGroups_eq_none_iff (full : slot.length = size) :
    Varint.readGroups Varint.maxLength slot = none ↔ ¬Ended slot := by
  have short : slot.length ≤ 10 := by rw [full]; decide
  have tenth : slot[9]? = none := List.getElem?_eq_none (by rw [full]; decide)
  have none := @Varint.readGroups_eq_none_iff 9 slot
  rw [List.take_of_length_le short, tenth] at none
  simpa [Varint.maxLength, Ended] using none

/-- What is read in a slot in which a varint ends: an integer below the ceiling whose sign is told
by the first byte. -/
theorem exists_read_of_ended (full : slot.length = size) (ended : Ended slot) :
    ∃ n length, Varint.decode? slot = some (Varint.unfold n, length) ∧ n < 2 * 2 ^ 55 ∧
      (n % 2 = 0 ↔ StartsEven slot) := by
  obtain ⟨⟨n, length⟩, read⟩ := Option.ne_none_iff_exists'.mp
    fun none => (readGroups_eq_none_iff full).mp none ended
  obtain ⟨-, inside, spells⟩ := Varint.spells_of_readGroups read
  refine ⟨n, length, by rw [Varint.decode?, read, Option.map_some], ?_, ?_⟩
  · calc n < 128 ^ (slot.take length).length := spells.lt_pow
      _ ≤ 128 ^ size := Nat.pow_le_pow_right (by decide) (full ▸ List.length_take_le' _ _)
      _ = 2 * 2 ^ 55 := by decide
  · obtain ⟨first, rest, taken, same⟩ := spells.exists_first
    have head : slot.head? = some first := by
      rw [← List.take_append_drop length slot, taken]
      rfl
    simp [StartsEven, head, same]

/-- A slot is read when a varint ends in it that starts with an even byte. -/
theorem decode_cases (part : SpanPart) (full : slot.length = size) :
    (∃ value, Reads part slot value) ∨
      ∃ why, decode part slot = .error (.corruptValue why) ∧ Faulty part slot why := by
  by_cases ended : Ended slot
  · obtain ⟨n, length, read, below, even⟩ := exists_read_of_ended full ended
    by_cases zero : n % 2 = 0
    · have positive : Varint.unfold n = ((n / 2 : Nat) : Int) := by simp [Varint.unfold, zero]
      rw [positive] at read
      refine .inl ⟨n / 2, ?_, ?_, ended, even.mp zero, length, read⟩
      · have natural : ¬((n / 2 : Nat) : Int) < 0 := by omega
        simp only [decode, read, if_neg natural, Int.toNat_natCast]
      · rw [maxValue_eq]
        omega
    · have negative : Varint.unfold n < 0 := by
        rw [Varint.unfold, if_neg zero, Int.negSucc_eq]
        omega
      obtain ⟨⟨value, length⟩, word, same⟩ :=
        Option.map_eq_some_iff.mp ((Varint.read?_eq slot).trans read)
      simp only [Prod.mk.injEq] at same
      refine .inr ⟨.negative part (Varint.unfold n), ?_, ?_⟩
      · simp only [decode, read, if_pos negative]
      · rw [← same.1] at negative ⊢
        exact .negative ended (fun other => zero (even.mpr other)) word negative
  · have none := (readGroups_eq_none_iff full).mpr ended
    refine .inr ⟨.unterminated part, ?_, .unterminated ended⟩
    simp only [decode, Varint.decode?, none, Option.map_none]

/-- A value that was read in a slot is stored as that slot just when the slot is canonical. -/
theorem encode_eq_iff_canonical {value : Nat} {stored : Bytes} (full : slot.length = size)
    (reads : Reads part slot value) (made : encode value = .ok stored) :
    stored = slot ↔ Canonical slot := by
  obtain ⟨length, read⟩ := reads.read
  obtain ⟨fits, rfl⟩ := encode_eq_ok_iff.mp made
  have integer := toInt_of_le fits
  have room : Varint.fold value < 2 ^ 64 := by
    rw [fold_natCast]
    rw [maxValue_eq] at fits
    omega
  have whole (rest : Bytes) : Varint.read? (Varint.encode value ++ rest) =
      some (Int64.ofNat value, (Varint.encode value).length) := by
    rw [Varint.read?_eq_some_iff, integer, Varint.decode?_append room]
  constructor
  · intro same
    refine ⟨Int64.ofNat value, (Varint.encode value).length, same ▸ whole _, ?_, ?_⟩
    · intro bytes other found
      rw [Varint.read?_eq_some_iff, integer] at found
      exact (Varint.encode_shortest found).1
    · rw [← same, List.drop_left]
      exact fun byte inside => List.eq_of_mem_replicate inside
  · -- What is read is unique, so the slot's varint is as short as the one of its value.
    rintro ⟨word, _, found, least, zeros⟩
    rw [← integer, ← Varint.read?_eq_some_iff, found] at read
    cases read
    obtain ⟨shorter, only⟩ := Varint.encode_shortest
      (integer ▸ Varint.read?_eq_some_iff.mp found)
    have longer := least _ _ ((List.append_nil (Varint.encode value)) ▸ whole [])
    have shortest := Nat.le_antisymm shorter longer
    have padding : slot.drop length = Bytes.zeros (size - length) := by
      refine List.eq_replicate_iff.mpr ⟨?_, zeros⟩
      rw [List.length_drop, full]
    rw [shortest, only.mp shortest, ← padding, List.take_append_drop]

end Slot

end Slot

namespace Span

/-! ### Spans that are stored -/

theorem encode_eq_ok_iff {span : Span} {stored : Bytes} :
    span.encode = .ok stored ↔ ∃ offset length, Slot.encode span.offset = .ok offset ∧
      Slot.encode span.length = .ok length ∧ stored = offset ++ length := by
  unfold encode
  cases Slot.encode span.offset with
  | error _ => simp
  | ok offset =>
      cases Slot.encode span.length with
      | error _ => simp
      | ok length => simp [eq_comm]

/-- Reading a span does not mind what stands behind it. -/
theorem decode_append {stored : Bytes} (whole : storedSize ≤ stored.length) (rest : Bytes) :
    decode (stored ++ rest) = decode stored := by
  have longer : ¬(stored ++ rest).length < storedSize := by
    rw [List.length_append]
    omega
  have first : (stored ++ rest).take Slot.size = stored.take Slot.size :=
    List.take_append_of_le_length (Nat.le_trans (by decide) whole)
  have second : ((stored ++ rest).drop Slot.size).take Slot.size =
      (stored.drop Slot.size).take Slot.size := by
    rw [List.drop_append_of_le_length (Nat.le_trans (by decide) whole)]
    apply List.take_append_of_le_length
    rw [List.length_drop]
    simp only [storedSize] at whole
    omega
  rw [decode, decode, if_neg longer, if_neg (by omega), first, second]

theorem length_of_encode {span : Span} {stored : Bytes} (made : span.encode = .ok stored) :
    stored.length = storedSize := by
  obtain ⟨offset, length, first, second, rfl⟩ := encode_eq_ok_iff.mp made
  rw [List.length_append, Slot.length_of_encode first, Slot.length_of_encode second]
  rfl

theorem encode_of_large_offset {span : Span} (large : Slot.maxValue < span.offset) :
    span.encode = .error (.valueOverflow span.offset) := by
  simp only [encode, Slot.encode_of_large large]

theorem encode_of_large_length {span : Span} (fits : span.offset ≤ Slot.maxValue)
    (large : Slot.maxValue < span.length) :
    span.encode = .error (.valueOverflow span.length) := by
  simp only [encode, Slot.encode_eq_ok_iff.mpr ⟨fits, rfl⟩, Slot.encode_of_large large]

/-- A span has a stored form just when neither number exceeds the ceiling; otherwise the first one
that does is named. The form is read back whatever follows, so no two spans share it, and it is a
slot for each number, which holds its varint and zeros. -/
theorem stored_form_is_read_back (span : Span) :
    ((∃ stored, span.encode = .ok stored) ↔
      span.offset ≤ 2 ^ 55 - 1 ∧ span.length ≤ 2 ^ 55 - 1) ∧
    (2 ^ 55 - 1 < span.offset → span.encode = .error (.valueOverflow span.offset)) ∧
    (span.offset ≤ 2 ^ 55 - 1 → 2 ^ 55 - 1 < span.length →
      span.encode = .error (.valueOverflow span.length)) ∧
    ∀ stored, span.encode = .ok stored →
      (∀ rest, decode (stored ++ rest) = .ok span) ∧
      (∀ other : Span, other.encode = .ok stored → other = span) ∧
      ∃ offset length, stored = offset ++ length ∧ Slot.Holds span.offset offset ∧
        Slot.Holds span.length length := by
  have ceiling : Slot.maxValue = 2 ^ 55 - 1 := rfl
  rw [← ceiling]
  refine ⟨⟨?_, ?_⟩, encode_of_large_offset, encode_of_large_length, ?_⟩
  · rintro ⟨stored, made⟩
    exact fits_of_encode made
  · rintro ⟨offset, length⟩
    exact exists_encode offset length
  · intro stored made
    have full := length_of_encode made
    refine ⟨fun rest => ?_, fun other shared => ?_, ?_⟩
    · rw [decode_append full.ge, decode_of_encode made]
    · have same := (decode_of_encode shared).symm.trans (decode_of_encode made)
      cases same
      rfl
    · obtain ⟨offset, length, first, second, rfl⟩ := encode_eq_ok_iff.mp made
      exact ⟨offset, length, rfl, Slot.holds_of_encode first, Slot.holds_of_encode second⟩

/-- At the ceiling a span fills its first slot and is read back in front of another byte; above it
the number that exceeds it is named, the offset first. -/
theorem stored_form_is_read_back_at_the_ceiling :
    let span : Span := ⟨2 ^ 55 - 1, 300⟩
    let stored : Bytes := [254, 255, 255, 255, 255, 255, 255, 127, 216, 4, 0, 0, 0, 0, 0, 0]
    span.encode = .ok stored ∧ decode (stored ++ [7]) = .ok span ∧
      (⟨2 ^ 55, 2 ^ 56⟩ : Span).encode = .error (.valueOverflow (2 ^ 55)) ∧
      (⟨0, 2 ^ 55⟩ : Span).encode = .error (.valueOverflow (2 ^ 55)) := by
  intro span stored
  have made : span.encode = .ok stored := by cbv
  exact ⟨made, ((stored_form_is_read_back span).2.2.2 stored made).1 [7],
    (stored_form_is_read_back ⟨2 ^ 55, 2 ^ 56⟩).2.1 (by decide),
    (stored_form_is_read_back ⟨0, 2 ^ 55⟩).2.2.1 (by decide) (by decide)⟩

/-! ### Spans of any bytes -/

/-- What is wrong with a stored span: its length before its slots, the offset's before the length's.
-/
inductive Faulty (stored : Bytes) : Corruption → Prop
  | tooShort (short : stored.length < 16) : Faulty stored (.tooShort stored.length)
  | offset {why : Corruption} (long : 16 ≤ stored.length)
      (faulty : Slot.Faulty .offset (stored.take 8) why) : Faulty stored why
  | length {why : Corruption} (long : 16 ≤ stored.length)
      (ended : Slot.Ended (stored.take 8)) (even : Slot.StartsEven (stored.take 8))
      (faulty : Slot.Faulty .length ((stored.drop 8).take 8) why) : Faulty stored why

theorem Faulty.not_sound {stored : Bytes} {why : Corruption} (faulty : Faulty stored why) :
    ¬(16 ≤ stored.length ∧ (Slot.Ended (stored.take 8) ∧ Slot.StartsEven (stored.take 8)) ∧
      Slot.Ended ((stored.drop 8).take 8) ∧ Slot.StartsEven ((stored.drop 8).take 8)) := by
  rintro ⟨long, first, second⟩
  cases faulty with
  | tooShort short => omega
  | offset _ faulty => exact faulty.not_sound first
  | length _ _ _ faulty => exact faulty.not_sound second

/-- Sixteen bytes fill both slots. -/
theorem slots_of_long {stored : Bytes} (long : 16 ≤ stored.length) :
    (stored.take 8).length = Slot.size ∧ ((stored.drop 8).take 8).length = Slot.size := by
  refine ⟨List.length_take_of_le (by omega), List.length_take_of_le ?_⟩
  rw [List.length_drop]
  omega

/-- Bytes are a span when there are enough of them and both slots are read. -/
theorem decode_cases (stored : Bytes) :
    (∃ span, decode stored = .ok span ∧ 16 ≤ stored.length ∧
        Slot.Reads .offset (stored.take 8) span.offset ∧
        Slot.Reads .length ((stored.drop 8).take 8) span.length) ∨
      ∃ why, decode stored = .error (.corruptValue why) ∧ Faulty stored why := by
  by_cases short : stored.length < 16
  · exact .inr ⟨_, if_pos short, .tooShort short⟩
  have long : 16 ≤ stored.length := Nat.le_of_not_lt short
  have enough : ¬stored.length < storedSize := short
  obtain ⟨first, second⟩ := slots_of_long long
  rcases Slot.decode_cases .offset first with ⟨offset, reads⟩ | ⟨why, failed, faulty⟩
  · rcases Slot.decode_cases .length second with ⟨length, reads'⟩ | ⟨why, failed, faulty⟩
    · refine .inl ⟨⟨offset, length⟩, ?_, long, reads, reads'⟩
      simp only [decode, if_neg enough, Slot.size, reads.decoded, reads'.decoded]
    · refine .inr ⟨why, ?_, .length long reads.ended reads.even faulty⟩
      simp only [decode, if_neg enough, Slot.size, reads.decoded, failed]
  · refine .inr ⟨why, ?_, .offset long faulty⟩
    simp only [decode, if_neg enough, Slot.size, failed]

/-- Any bytes are read as a span when there are sixteen of them and a varint that starts with an
even byte ends in each of the two slots; otherwise the first thing that is wrong is named. A span
that is read stays below the ceiling, so it has a stored form of its own, which is the one that was
read just when both slots are canonical. -/
theorem any_bytes_are_judged_in_order (stored : Bytes) :
    ((∃ span, decode stored = .ok span) ↔
      16 ≤ stored.length ∧ (Slot.Ended (stored.take 8) ∧ Slot.StartsEven (stored.take 8)) ∧
        Slot.Ended ((stored.drop 8).take 8) ∧ Slot.StartsEven ((stored.drop 8).take 8)) ∧
    (∀ error, decode stored = .error error →
      ∃ why, error = .corruptValue why ∧ Faulty stored why) ∧
    ∀ span, decode stored = .ok span →
      span.offset ≤ 2 ^ 55 - 1 ∧ span.length ≤ 2 ^ 55 - 1 ∧ span.stop < 2 ^ 64 ∧
      ∃ again, span.encode = .ok again ∧ decode again = .ok span ∧
        (again = stored.take 16 ↔
          Slot.Canonical (stored.take 8) ∧ Slot.Canonical ((stored.drop 8).take 8)) := by
  rcases decode_cases stored with ⟨span, read, long, offset, length⟩ | ⟨why, failed, faulty⟩
  · rw [read]
    refine ⟨⟨fun _ => ⟨long, ⟨offset.ended, offset.even⟩, length.ended, length.even⟩,
      fun _ => ⟨span, rfl⟩⟩, fun error same => (by cases same), ?_⟩
    rintro _ ⟨⟩
    have ceiling : Slot.maxValue = 2 ^ 55 - 1 := rfl
    have below := ceiling ▸ offset.below
    have below' := ceiling ▸ length.below
    obtain ⟨again, made⟩ := exists_encode offset.below length.below
    refine ⟨below, below', ?_, again, made, decode_of_encode made, ?_⟩
    · unfold stop
      omega
    · obtain ⟨first, second, one, two, rfl⟩ := encode_eq_ok_iff.mp made
      obtain ⟨full, full'⟩ := slots_of_long long
      have cut : stored.take 16 = stored.take 8 ++ (stored.drop 8).take 8 := by
        rw [← List.take_add]
      have size : first.length = (stored.take 8).length :=
        (Slot.length_of_encode one).trans full.symm
      rw [cut, ← Slot.encode_eq_iff_canonical full offset one,
        ← Slot.encode_eq_iff_canonical full' length two]
      exact ⟨fun same => List.append_inj same size, fun ⟨same, same'⟩ => by rw [same, same']⟩
  · rw [failed]
    refine ⟨⟨fun ⟨_, same⟩ => (by cases same), fun sound => absurd sound faulty.not_sound⟩, ?_,
      fun _ same => (by cases same)⟩
    rintro _ ⟨⟩
    exact ⟨why, rfl, faulty⟩

/-- A span is read from an offset whose varint is a byte longer than it needs to be and has another
byte behind it. Of an offset in which no varint ends and a negative length the first is named. -/
theorem any_bytes_are_judged_in_order_behind_a_longer_varint :
    let stored : Bytes := [152, 0, 7, 0, 0, 0, 0, 0, 216, 4, 0, 0, 0, 0, 0, 0, 9]
    let faulty : Bytes := List.replicate 8 255 ++ [1, 0, 0, 0, 0, 0, 0, 0]
    decode stored = .ok ⟨12, 300⟩ ∧
      (∃ again, (⟨12, 300⟩ : Span).encode = .ok again ∧ decode again = .ok ⟨12, 300⟩ ∧
        (again = stored.take 16 ↔
          Slot.Canonical (stored.take 8) ∧ Slot.Canonical ((stored.drop 8).take 8))) ∧
      decode faulty = .error (.corruptValue (.unterminated .offset)) ∧
      Faulty faulty (.unterminated .offset) := by
  intro stored faulty
  have read : decode stored = .ok ⟨12, 300⟩ := by cbv
  have failed : decode faulty = .error (.corruptValue (.unterminated .offset)) := by cbv
  obtain ⟨-, -, -, again⟩ := (any_bytes_are_judged_in_order stored).2.2 ⟨12, 300⟩ read
  obtain ⟨_, ⟨⟩, judged⟩ := (any_bytes_are_judged_in_order faulty).2.1 _ failed
  exact ⟨read, again, failed, judged⟩

end Span

end RecordStore
