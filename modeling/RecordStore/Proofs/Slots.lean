import RecordStore.Span.Slots
import Mathlib.Tactic.Ring

/-!
The stored form of a span is read back.

A natural that the last byte of a budget has room for is read from its groups whatever
stands behind them; so is the value of a slot, and with both slots the span.
-/

namespace RecordStore

namespace Varint

theorem toNat_toUInt8 {n : Nat} (small : n < 256) : n.toUInt8.toNat = n := by
  simp [Nat.mod_eq_of_lt small]

theorem groups_of_lt {n : Nat} (small : n < 128) : groups n = [n.toUInt8] := by
  rw [groups, if_pos small]

theorem groups_of_le {n : Nat} (large : 128 ≤ n) :
    groups n = (n % 128 + 128).toUInt8 :: groups (n / 128) := by
  rw [groups, if_neg (by omega)]

/-- Groups are read back within a budget; its last byte holds one bit. -/
theorem readGroups_append {budget n : Nat} (room : n < 2 * 128 ^ budget) (rest : Bytes) :
    readGroups (budget + 1) (groups n ++ rest) = some (n, (groups n).length) := by
  induction budget generalizing n with
  | zero =>
      have bit : n < 2 := by simpa using room
      have byte : n.toUInt8.toNat = n := toNat_toUInt8 (by omega)
      have low : ¬1 < n.toUInt8 := by rw [UInt8.lt_iff_toNat_lt, byte]; simp; omega
      have small : n.toUInt8 < 128 := by rw [UInt8.lt_iff_toNat_lt, byte]; simp; omega
      simp [groups_of_lt (show n < 128 by omega), readGroups, low, small, byte]
  | succ budget ih =>
      by_cases small : n < 128
      · have byte : n.toUInt8.toNat = n := toNat_toUInt8 (by omega)
        have low : n.toUInt8 < 128 := by rw [UInt8.lt_iff_toNat_lt, byte]; simpa using small
        simp [groups_of_lt small, readGroups, low, byte]
      · have large : 128 ≤ n := by omega
        have byte : (n % 128 + 128).toUInt8.toNat = n % 128 + 128 := toNat_toUInt8 (by omega)
        have high : ¬(n % 128 + 128).toUInt8 < 128 := by
          rw [UInt8.lt_iff_toNat_lt, byte]; simp
        have less : n / 128 < 2 * 128 ^ budget := by
          rw [Nat.div_lt_iff_lt_mul (by decide)]
          calc n < 2 * 128 ^ (budget + 1) := room
            _ = 2 * 128 ^ budget * 128 := by ring
        rw [groups_of_le large, List.cons_append, readGroups]
        simp only [Nat.add_one_ne_zero, false_and, if_false, high, ih less, Option.map_some, byte]
        simp
        omega

theorem length_groups_le {n bytes : Nat} (fits : n < 128 ^ (bytes + 1)) :
    (groups n).length ≤ bytes + 1 := by
  induction bytes generalizing n with
  | zero => simp [groups_of_lt (show n < 128 by simpa using fits)]
  | succ bytes ih =>
      by_cases small : n < 128
      · simp [groups_of_lt small]
      · have less : n / 128 < 128 ^ (bytes + 1) := by
          rw [Nat.div_lt_iff_lt_mul (by decide)]
          calc n < 128 ^ (bytes + 1 + 1) := fits
            _ = 128 ^ (bytes + 1) * 128 := by ring
        have shorter := ih less
        rw [groups_of_le (by omega), List.length_cons]
        omega

/-- An integer is read from the start of a byte string. -/
theorem decode?_append {value : Int} (room : fold value < 2 ^ 64) (rest : Bytes) :
    decode? (encode value ++ rest) = some (value, (encode value).length) := by
  have bound : fold value < 2 * 128 ^ 9 := by
    calc fold value < 2 ^ 64 := room
      _ = 2 * 128 ^ 9 := by norm_num
  simp [decode?, encode, maxLength, readGroups_append bound]

end Varint

namespace Slot

theorem maxValue_eq : maxValue = 36028797018963967 := rfl

theorem encode_eq_ok_iff {value : Nat} {slot : Bytes} :
    encode value = .ok slot ↔ value ≤ maxValue ∧
      slot = Varint.encode value ++ Bytes.zeros (size - (Varint.encode value).length) := by
  unfold encode
  split
  · rename_i large
    constructor
    · intro refused
      cases refused
    · rintro ⟨fits, -⟩
      omega
  · rename_i fits
    constructor
    · intro made
      cases made
      exact ⟨by omega, rfl⟩
    · rintro ⟨-, rfl⟩
      rfl

theorem fold_natCast (value : Nat) : Varint.fold (value : Int) = 2 * value := rfl

/-- A slot is full. -/
theorem length_of_encode {value : Nat} {slot : Bytes} (made : encode value = .ok slot) :
    slot.length = size := by
  obtain ⟨fits, rfl⟩ := encode_eq_ok_iff.mp made
  have short : (Varint.encode value).length ≤ 8 := by
    apply @Varint.length_groups_le _ 7
    rw [fold_natCast]
    rw [maxValue_eq] at fits
    omega
  simp only [Bytes.zeros, List.length_append, List.length_replicate, size]
  omega

/-- The value of a slot is read back. -/
theorem decode_of_encode {value : Nat} {slot : Bytes} (part : SpanPart)
    (made : encode value = .ok slot) : decode part slot = .ok value := by
  obtain ⟨fits, rfl⟩ := encode_eq_ok_iff.mp made
  have room : Varint.fold (value : Int) < 2 ^ 64 := by
    rw [fold_natCast]
    rw [maxValue_eq] at fits
    omega
  have positive : ¬(value : Int) < 0 := by omega
  simp [decode, Varint.decode?_append room, positive]

end Slot

namespace Span

/-- A span whose numbers fit has a stored form. -/
theorem exists_encode {span : Span} (offset : span.offset ≤ Slot.maxValue)
    (length : span.length ≤ Slot.maxValue) : ∃ stored, span.encode = .ok stored := by
  simp only [encode, Slot.encode_eq_ok_iff.mpr ⟨offset, rfl⟩,
    Slot.encode_eq_ok_iff.mpr ⟨length, rfl⟩]
  exact ⟨_, rfl⟩

/-- A span that has a stored form has numbers that fit. -/
theorem fits_of_encode {span : Span} {stored : Bytes} (made : span.encode = .ok stored) :
    span.offset ≤ Slot.maxValue ∧ span.length ≤ Slot.maxValue := by
  unfold encode at made
  split at made
  · cases made
  · rename_i offset first
    split at made
    · cases made
    · rename_i length second
      exact ⟨(Slot.encode_eq_ok_iff.mp first).1, (Slot.encode_eq_ok_iff.mp second).1⟩

/-- A span is read back from its stored form. -/
theorem decode_of_encode {span : Span} {stored : Bytes} (made : span.encode = .ok stored) :
    decode stored = .ok span := by
  unfold encode at made
  split at made
  · cases made
  · rename_i offset first
    split at made
    · cases made
    · rename_i length second
      cases made
      have firstSize := Slot.length_of_encode first
      have secondSize := Slot.length_of_encode second
      have front : (offset ++ length).take Slot.size = offset := by
        rw [← firstSize, List.take_left]
      have back : ((offset ++ length).drop Slot.size).take Slot.size = length := by
        rw [← firstSize, List.drop_left, firstSize, ← secondSize, List.take_length]
      have whole : ¬(offset ++ length).length < storedSize := by
        simp [storedSize, firstSize, secondSize]
        omega
      simp only [decode, if_neg whole, front, back, Slot.decode_of_encode .offset first,
        Slot.decode_of_encode .length second]

end Span

end RecordStore
