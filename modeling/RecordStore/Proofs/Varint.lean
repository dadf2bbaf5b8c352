import RecordStore.Proofs.Slots
import RecordStore.Varint.Word

/-!
Varints are the shortest forms of integers.

The bytes that are read as a natural spell it (`Spells`). Of all that spell one natural its
groups are the shortest, and no others are as short. Machine words are put and read in just
that way, so every word is read back whatever stands behind it.
-/

namespace RecordStore.Varint

/-! ### What is read -/

/-- Bytes that spell a natural: every byte but the last one continues. -/
inductive Spells : Bytes → Nat → Prop
  | last {byte : UInt8} (ends : byte < 128) : Spells [byte] byte.toNat
  | more {byte : UInt8} {rest : Bytes} {n : Nat} (goesOn : ¬byte < 128) (spells : Spells rest n) :
      Spells (byte :: rest) (byte.toNat % 128 + 128 * n)

namespace Spells

variable {part : Bytes} {n : Nat}

theorem length_pos (spells : Spells part n) : 0 < part.length := by
  cases spells <;> simp

theorem lt_pow (spells : Spells part n) : n < 128 ^ part.length := by
  induction spells with
  | last ends => simpa using UInt8.lt_iff_toNat_lt.mp ends
  | @more byte rest n _ _ ih =>
      have group : byte.toNat % 128 < 128 := Nat.mod_lt _ (by decide)
      rw [List.length_cons, Nat.pow_succ]
      omega

/-- The first byte says whether the natural is even. -/
theorem exists_first (spells : Spells part n) :
    ∃ first rest, part = first :: rest ∧ first.toNat % 2 = n % 2 := by
  cases spells with
  | @last byte _ => exact ⟨byte, [], rfl, rfl⟩
  | @more byte rest n _ _ => exact ⟨byte, rest, rfl, by omega⟩

/-- The groups of a natural are its shortest spelling, and the only one of their length. -/
theorem groups_shortest (spells : Spells part n) :
    (groups n).length ≤ part.length ∧ ((groups n).length = part.length ↔ groups n = part) := by
  induction spells with
  | @last byte ends =>
      have one : groups byte.toNat = [byte] := by
        rw [groups_of_lt (UInt8.lt_iff_toNat_lt.mp ends)]
        simp
      simp [one]
  | @more byte rest n goesOn spells ih =>
      have high : 128 ≤ byte.toNat := by simpa [UInt8.lt_iff_toNat_lt] using goesOn
      have whole := byte.toNat_lt
      -- The groups behind this one spell zero just when they can be left out.
      cases Nat.eq_zero_or_pos n with
      | inl zero =>
          subst zero
          have one : (groups (byte.toNat % 128 + 128 * 0)).length = 1 := by
            rw [groups_of_lt (by omega), List.length_singleton]
          have filled := spells.length_pos
          refine ⟨by rw [one, List.length_cons]; omega, fun same => ?_, congrArg List.length⟩
          rw [one, List.length_cons] at same
          omega
      | inr positive =>
          have first : ((byte.toNat % 128 + 128 * n) % 128 + 128).toUInt8 = byte := by
            apply UInt8.toNat_inj.mp
            rw [toNat_toUInt8 (by omega)]
            omega
          have others : (byte.toNat % 128 + 128 * n) / 128 = n := by omega
          rw [groups_of_le (by omega), first, others]
          simpa using ih

end Spells

/-- What is read is spelled by the bytes that are read, which stay within the budget. -/
theorem spells_of_readGroups {budget n length : Nat} {bytes : Bytes}
    (read : readGroups budget bytes = some (n, length)) :
    length ≤ budget ∧ length ≤ bytes.length ∧ Spells (bytes.take length) n := by
  induction budget generalizing bytes n length with
  | zero => simp [readGroups] at read
  | succ budget ih =>
      cases bytes with
      | nil => simp [readGroups] at read
      | cons byte rest =>
          rw [readGroups] at read
          split at read
          · cases read
          · split at read
            · rename_i ends
              cases read
              exact ⟨by omega, by simp, .last ends⟩
            · rename_i goesOn
              obtain ⟨⟨m, shorter⟩, found, same⟩ := Option.map_eq_some_iff.mp read
              cases same
              obtain ⟨within, inside, spells⟩ := ih found
              exact ⟨by omega, by simpa using inside, .more goesOn spells⟩

/-- Nothing is read when every byte within the budget continues, or when the last of them has no
room for what it holds. -/
theorem readGroups_eq_none_iff {budget : Nat} {bytes : Bytes} :
    readGroups (budget + 1) bytes = none ↔
      (∀ byte ∈ bytes.take (budget + 1), 128 ≤ byte) ∨
        (∀ byte ∈ bytes.take budget, 128 ≤ byte) ∧
          ∃ last, bytes[budget]? = some last ∧ 1 < last := by
  induction budget generalizing bytes with
  | zero =>
      cases bytes with
      | nil => simp [readGroups]
      | cons byte rest =>
          by_cases beyond : 1 < byte
          · simp [readGroups, beyond]
          · have low : ¬128 ≤ byte := fun high => beyond (UInt8.lt_of_lt_of_le (by decide) high)
            have ends : byte < 128 := UInt8.not_le.mp low
            simp [readGroups, beyond, low, ends]
  | succ budget ih =>
      cases bytes with
      | nil => simp [readGroups]
      | cons byte rest =>
          rw [readGroups, if_neg (by simp)]
          by_cases ends : byte < 128
          · simp [ends, UInt8.not_le.mpr ends]
          · simp [ends, UInt8.not_lt.mp ends, ih]

/-- The groups of a natural spell it. -/
theorem spells_groups (n : Nat) : Spells (groups n) n := by
  fun_induction groups n with
  | case1 n small =>
      have byte : n.toUInt8.toNat = n := toNat_toUInt8 (by omega)
      have ends : n.toUInt8 < 128 := by rw [UInt8.lt_iff_toNat_lt, byte]; exact small
      have spelled := Spells.last ends
      rwa [byte] at spelled
  | case2 n large ih =>
      have byte : (n % 128 + 128).toUInt8.toNat = n % 128 + 128 := toNat_toUInt8 (by omega)
      have goesOn : ¬(n % 128 + 128).toUInt8 < 128 := by
        rw [UInt8.lt_iff_toNat_lt, byte]
        simp
      have same : (n % 128 + 128).toUInt8.toNat % 128 + 128 * (n / 128) = n := by omega
      have spelled := Spells.more goesOn ih
      rwa [same] at spelled

/-- How many bytes a natural takes. -/
theorem length_groups_le_iff {n bytes : Nat} :
    (groups n).length ≤ bytes + 1 ↔ n < 128 ^ (bytes + 1) := by
  refine ⟨fun short => ?_, length_groups_le⟩
  calc n < 128 ^ (groups n).length := (spells_groups n).lt_pow
    _ ≤ 128 ^ (bytes + 1) := Nat.pow_le_pow_right (by decide) short

/-! ### Words -/

/-- The sign of a word, shifted over all its bits. -/
theorem sshiftRight_sign (bits : BitVec 64) :
    bits.sshiftRight 63 = if bits.msb then BitVec.allOnes 64 else 0#64 := by
  ext i inside
  rw [BitVec.getElem_sshiftRight]
  split
  · obtain rfl : i = 0 := by omega
    have last : bits[63 + 0] = bits.msb := (BitVec.msb_eq_getMsbD_zero bits).symm
    rw [last]
    cases bits.msb <;> simp
  · cases bits.msb <;> simp [-BitVec.reduceAllOnes]

/-- Folding flips the bits of a negative word. -/
theorem toBitVec_zigzag (value : Int64) :
    (zigzag value).toBitVec =
      if value.toBitVec.msb then ~~~(value.toBitVec <<< 1) else value.toBitVec <<< 1 := by
  have shifts : (zigzag value).toBitVec =
      (value.toBitVec <<< 1) ^^^ value.toBitVec.sshiftRight 63 := by
    simp [zigzag]
  rw [shifts, sshiftRight_sign]
  split
  · rw [BitVec.xor_allOnes]
  · rw [BitVec.xor_zero]

/-- A word is folded as the integer that it is. -/
theorem toNat_zigzag (value : Int64) : (zigzag value).toNat = fold value.toInt := by
  have whole := value.toBitVec.isLt
  have integer : value.toInt = value.toBitVec.toInt := rfl
  rw [← UInt64.toNat_toBitVec, toBitVec_zigzag, integer, BitVec.toInt_eq_msb_cond]
  cases msb : value.toBitVec.msb with
  | false =>
      have small := BitVec.msb_eq_false_iff_two_mul_lt.mp msb
      simp only [Bool.false_eq_true, if_false, BitVec.toNat_shiftLeft, Nat.shiftLeft_eq]
      show _ = 2 * value.toBitVec.toNat
      omega
  | true =>
      have large := BitVec.msb_eq_true_iff_two_mul_ge.mp msb
      obtain ⟨n, same⟩ : ∃ n, value.toBitVec.toNat + (n + 1) = 2 ^ 64 :=
        ⟨2 ^ 64 - value.toBitVec.toNat - 1, by omega⟩
      have negative : (value.toBitVec.toNat : Int) - (2 ^ 64 : Nat) = Int.negSucc n := by omega
      simp only [if_true, BitVec.toNat_not, BitVec.toNat_shiftLeft, Nat.shiftLeft_eq, negative,
        fold]
      omega

/-- A word is unfolded as a natural is. -/
theorem toInt_unzigzag (word : UInt64) : (unzigzag word).toInt = unfold word.toNat := by
  have whole := word.toNat_lt
  have half : (word >>> 1).toInt64.toInt = word.toNat / 2 := by
    have value : (word >>> 1).toInt64.toInt = (word >>> 1).toBitVec.toInt := rfl
    have number : (word >>> 1).toNat = word.toNat / 2 := by simp [Nat.shiftRight_eq_div_pow]
    rw [value, BitVec.toInt_eq_toNat_of_lt (by rw [UInt64.toNat_toBitVec, number]; omega),
      UInt64.toNat_toBitVec, number]
    simp
  have bit : (word &&& 1).toNat = word.toNat % 2 := by
    rw [UInt64.toNat_and]
    exact Nat.and_one_is_mod _
  unfold unzigzag unfold
  split
  · rename_i even
    have zero : word &&& 1 = 0 := UInt64.toNat_inj.mp (by rw [bit, even]; rfl)
    rw [zero]
    simp [half]
  · rename_i odd
    have one : word &&& 1 = 1 := UInt64.toNat_inj.mp (by rw [bit]; show _ = 1; omega)
    have ones : -(1 : UInt64).toInt64 = -1 := rfl
    have flipped : (word >>> 1).toInt64 ^^^ (-1 : Int64) = ~~~(word >>> 1).toInt64 := by
      apply Int64.toBitVec_inj.mp
      exact BitVec.xor_allOnes
    rw [one, ones, flipped, Int64.toInt_not, half, Int.negSucc_eq,
      Int.bmod_eq_of_le (by omega) (by omega)]
    omega

theorem or_continuation (byte : UInt8) : (byte ||| 128).toNat = byte.toNat % 128 + 128 := by
  have parts : byte.toNat ||| 128 = byte.toNat % 128 + 128 := by
    have all : ∀ n < 256, n ||| 128 = n % 128 + 128 := by decide +kernel
    exact all byte.toNat byte.toNat_lt
  exact (UInt8.toNat_or byte 128).trans parts

/-- Pushing adds the groups of a word behind what the buffer holds. -/
theorem push_eq (word : UInt64) (buffer : Bytes) :
    push word buffer = buffer ++ groups word.toNat := by
  fun_induction push word buffer with
  | case1 word buffer large ih =>
      have le : 128 ≤ word.toNat := by simpa [UInt64.le_iff_toNat_le] using large
      have rest : (word >>> 7).toNat = word.toNat / 128 := by simp [Nat.shiftRight_eq_div_pow]
      have byte : word.toUInt8 ||| 128 = (word.toNat % 128 + 128).toUInt8 := by
        apply UInt8.toNat_inj.mp
        rw [or_continuation, toNat_toUInt8 (by omega), UInt64.toNat_toUInt8]
        omega
      rw [ih, rest, byte, groups_of_le le]
      simp
  | case2 word buffer large =>
      have lt : word.toNat < 128 := by simpa [UInt64.le_iff_toNat_le] using large
      have byte : word.toUInt8 = word.toNat.toUInt8 := by simp
      rw [groups_of_lt lt, byte]

/-- A word is put as the integer that it is. -/
theorem put_eq (value : Int64) (buffer : Bytes) :
    put value buffer = (buffer ++ encode value.toInt, (encode value.toInt).length) := by
  simp [put, push_eq, toNat_zigzag, encode]

theorem toNat_bits (byte : UInt8) : (byte &&& 127).toNat = byte.toNat % 128 := by
  rw [UInt8.toNat_and]
  exact Nat.and_two_pow_sub_one_eq_mod byte.toNat 7

theorem continues_iff (byte : UInt8) : byte &&& 128 = 0 ↔ byte < 128 := by
  have all : ∀ n < 256, n &&& 128 = 0 ↔ n < 128 := by decide +kernel
  rw [← UInt8.toNat_inj, UInt8.lt_iff_toNat_lt, UInt8.toNat_and]
  exact all byte.toNat byte.toNat_lt

/-- A group has room behind the others of a word; the tenth one has it when it is a bit. -/
theorem group_lt {number : Nat} {byte : UInt8} (few : number < maxLength)
    (bit : number = maxLength - 1 → ¬1 < byte) : byte.toNat % 128 * 128 ^ number < 2 ^ 64 := by
  by_cases tenth : number = 9
  · subst tenth
    have small : ¬1 < byte.toNat := fun more => bit rfl (UInt8.lt_iff_toNat_lt.mpr more)
    omega
  · have power : 128 ^ number ≤ 128 ^ 8 :=
      Nat.pow_le_pow_right (by decide) (by simp only [maxLength] at few; omega)
    have group : byte.toNat % 128 ≤ 127 := by omega
    calc byte.toNat % 128 * 128 ^ number ≤ 127 * 128 ^ 8 := Nat.mul_le_mul group power
      _ < 2 ^ 64 := by decide

/-- A group that is or-ed in behind `number` others is added at its place. -/
theorem toNat_gathered {word : UInt64} {number : Nat} {byte : UInt8}
    (below : word.toNat < 128 ^ number) (few : number < maxLength)
    (bit : number = maxLength - 1 → ¬1 < byte) :
    (word ||| ((byte &&& 127).toUInt64 <<< (7 * number).toUInt64)).toNat =
      word.toNat + byte.toNat % 128 * 128 ^ number := by
  have power : 128 ^ number = 2 ^ (7 * number) := by rw [Nat.pow_mul]
  have shift : (7 * number).toUInt64.toNat % 64 = 7 * number := by
    simp only [maxLength] at few
    simp
    omega
  rw [UInt64.toNat_or, UInt64.toNat_shiftLeft, shift, UInt8.toNat_toUInt64, toNat_bits,
    Nat.shiftLeft_eq, ← power, Nat.mod_eq_of_lt (group_lt few bit), Nat.or_comm, Nat.mul_comm,
    power, ← Nat.two_pow_add_eq_or_of_lt (power ▸ below), Nat.add_comm]

/-- The groups that were gathered stay below the place of the next one. -/
theorem gathered_lt {n number : Nat} (below : n < 128 ^ number) (byte : UInt8) :
    n + byte.toNat % 128 * 128 ^ number < 128 ^ (number + 1) := by
  have group : byte.toNat % 128 ≤ 127 := by omega
  calc n + byte.toNat % 128 * 128 ^ number < 128 ^ number + 127 * 128 ^ number :=
        Nat.add_lt_add_of_lt_of_le below (Nat.mul_le_mul_right _ group)
    _ = 128 ^ (number + 1) := by ring

/-- Gathering adds the natural that is read to what the word has already. -/
theorem gather_eq {word : UInt64} {number : Nat} (below : word.toNat < 128 ^ number)
    (few : number ≤ maxLength) (bytes : Bytes) :
    (gather word number bytes).map (fun (value, length) => (value.toInt, length)) =
      (readGroups (maxLength - number) bytes).map fun (n, length) =>
        (unfold (word.toNat + 128 ^ number * n), number + length) := by
  -- The word stays below the place of its next group, so or-ing a group in is adding it.
  induction bytes generalizing word number with
  | nil => cases left : maxLength - number <;> simp [gather, readGroups]
  | cons byte rest ih =>
      by_cases full : number = maxLength
      · simp [gather, full, readGroups]
      obtain ⟨budget, left⟩ : ∃ budget, maxLength - number = budget + 1 :=
        ⟨maxLength - number - 1, by omega⟩
      have last : number = maxLength - 1 ↔ budget = 0 := by omega
      rw [gather, left, readGroups, if_neg full]
      simp only [last]
      by_cases beyond : budget = 0 ∧ 1 < byte
      · simp [beyond]
      have gathered := toNat_gathered below (by omega) fun tenth more => beyond ⟨last.mp tenth, more⟩
      rw [if_neg beyond, if_neg beyond]
      by_cases ends : byte < 128
      · have small : byte.toNat < 128 := UInt8.lt_iff_toNat_lt.mp ends
        simp only [(continues_iff byte).mpr ends, ends, if_true, Option.map_some, toInt_unzigzag,
          gathered, Nat.mod_eq_of_lt small]
        rw [Nat.mul_comm]
      · have goesOn : ¬byte &&& 128 = 0 := fun zero => ends ((continues_iff byte).mp zero)
        have budget' : maxLength - (number + 1) = budget := by omega
        rw [if_neg goesOn, if_neg ends, ih (gathered ▸ gathered_lt below byte) (by omega), budget',
          gathered]
        cases readGroups budget rest with
        | none => rfl
        | some found =>
            obtain ⟨n, length⟩ := found
            have sum : word.toNat + byte.toNat % 128 * 128 ^ number + 128 ^ (number + 1) * n =
                word.toNat + 128 ^ number * (byte.toNat % 128 + 128 * n) := by ring
            have more : number + 1 + length = number + (length + 1) := by omega
            simp only [Option.map_some, sum, more]

/-- A word is read as the integer that it is. -/
theorem read?_eq (bytes : Bytes) :
    (read? bytes).map (fun (value, length) => (value.toInt, length)) = decode? bytes := by
  have all := @gather_eq 0 0 (by decide) (by decide) bytes
  simpa [read?, decode?] using all

theorem read?_eq_some_iff {bytes : Bytes} {value : Int64} {length : Nat} :
    read? bytes = some (value, length) ↔ decode? bytes = some (value.toInt, length) := by
  rw [← read?_eq, Option.map_eq_some_iff]
  constructor
  · intro read
    exact ⟨(value, length), read, rfl⟩
  · rintro ⟨⟨other, length⟩, read, same⟩
    simp only [Prod.mk.injEq, Int64.toInt_inj] at same
    obtain ⟨rfl, rfl⟩ := same
    exact read

theorem read?_eq_none_iff {bytes : Bytes} :
    read? bytes = none ↔ readGroups maxLength bytes = none := by
  rw [← Option.map_eq_none_iff, read?_eq, decode?, Option.map_eq_none_iff]

/-! ### The shortest form of a word -/

theorem fold_lt_iff {value : Int} {bound : Nat} :
    fold value < 2 * bound ↔ -(bound : Int) ≤ value ∧ value < bound := by
  cases value with
  | ofNat n => simp only [fold, Int.ofNat_eq_natCast]; omega
  | negSucc n => simp only [fold, Int.negSucc_eq]; omega

theorem fold_toInt_lt (value : Int64) : fold value.toInt < 2 ^ 64 := by
  rw [← toNat_zigzag]
  exact (zigzag value).toNat_lt

/-- What is read of an integer is spelled by the groups of what it folds to. -/
theorem spells_of_decode {bytes : Bytes} {value : Int} {length : Nat}
    (read : decode? bytes = some (value, length)) :
    length ≤ bytes.length ∧ Spells (bytes.take length) (fold value) := by
  obtain ⟨⟨n, length⟩, found, same⟩ := Option.map_eq_some_iff.mp read
  cases same
  obtain ⟨-, inside, spells⟩ := spells_of_readGroups found
  exact ⟨inside, by rwa [fold_unfold]⟩

/-- No shorter bytes than those of an integer are read as it, and no others that are as short. -/
theorem encode_shortest {bytes : Bytes} {value : Int} {length : Nat}
    (read : decode? bytes = some (value, length)) :
    (encode value).length ≤ length ∧
      ((encode value).length = length ↔ encode value = bytes.take length) := by
  obtain ⟨inside, spells⟩ := spells_of_decode read
  have shortest := spells.groups_shortest
  rwa [List.length_take_of_le inside] at shortest

/-- A word is put behind what a buffer holds in one byte to ten, eight being enough just below `2 ^
55`, and is read back whatever follows; of all the bytes that are read as that word these are the
shortest, and no others are as short. A buffer is not read just when its first ten bytes all
continue, or when nine do and the tenth has more than the one bit that is left. -/
theorem words_take_their_shortest_form (value : Int64) (buffer rest bytes : Bytes) :
    (put value buffer = (buffer ++ encode value.toInt, (encode value.toInt).length) ∧
      1 ≤ (encode value.toInt).length ∧ (encode value.toInt).length ≤ 10 ∧
      ((encode value.toInt).length ≤ 8 ↔ -2 ^ 55 ≤ value.toInt ∧ value.toInt < 2 ^ 55) ∧
      read? (encode value.toInt ++ rest) = some (value, (encode value.toInt).length)) ∧
    (∀ length, read? bytes = some (value, length) →
      (encode value.toInt).length ≤ length ∧
        ((encode value.toInt).length = length ↔ encode value.toInt = bytes.take length)) ∧
    (read? bytes = none ↔
      (∀ byte ∈ bytes.take 10, 128 ≤ byte) ∨
        (∀ byte ∈ bytes.take 9, 128 ≤ byte) ∧ ∃ tenth, bytes[9]? = some tenth ∧ 1 < tenth) ∧
    decode? bytes = (read? bytes).map fun (value, length) => (value.toInt, length) := by
  have word := fold_toInt_lt value
  refine ⟨⟨put_eq value buffer, (spells_groups _).length_pos, ?_, ?_, ?_⟩, ?_, ?_, ?_⟩
  · exact length_groups_le (by omega : fold value.toInt < 128 ^ (9 + 1))
  · have eight : 128 ^ (7 + 1) = 2 * 2 ^ 55 := by decide
    rw [encode, length_groups_le_iff, eight, fold_lt_iff]
    norm_cast
  · exact read?_eq_some_iff.mpr (decode?_append word rest)
  · intro length read
    exact encode_shortest (read?_eq_some_iff.mp read)
  · rw [read?_eq_none_iff]
    exact readGroups_eq_none_iff
  · exact (read?_eq bytes).symm

/-- Three bytes are read as minus one, which takes one. -/
theorem words_take_their_shortest_form_behind_a_longer_one :
    read? [129, 128, 0, 9] = some (-1, 3) ∧
      (encode (-1)).length ≤ 3 ∧ ((encode (-1)).length = 3 ↔ encode (-1) = [129, 128, 0]) := by
  have read : read? [129, 128, 0, 9] = some (-1, 3) := by decide
  exact ⟨read, (words_take_their_shortest_form (-1) [] [] [129, 128, 0, 9]).2.1 3 read⟩

end RecordStore.Varint
