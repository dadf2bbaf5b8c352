import RecordStore.Varint

/-!
Varints of machine words.

A signed word of 64 bits is folded by shifts, its groups are pushed to a buffer one after
another, and reading ors the groups together again. This is `encode` and `decode?` where
an integer is a word (`put_eq` and `read?_eq`).
-/

namespace RecordStore.Varint

/-- Folds a word: its sign, shifted over all bits, flips the others. -/
def zigzag (value : Int64) : UInt64 :=
  ((value <<< 1) ^^^ (value >>> 63)).toUInt64

/-- The word that folds to a word. -/
def unzigzag (word : UInt64) : Int64 :=
  (word >>> 1).toInt64 ^^^ -(word &&& 1).toInt64

/-- Pushes the groups of a word to a buffer. -/
def push (word : UInt64) (buffer : Bytes) : Bytes :=
  if 128 ≤ word then push (word >>> 7) (buffer ++ [word.toUInt8 ||| 128])
  else buffer ++ [word.toUInt8]
termination_by word.toNat
decreasing_by
  have large : 128 ≤ word.toNat := by simpa [UInt64.le_iff_toNat_le] using ‹128 ≤ word›
  simp [Nat.shiftRight_eq_div_pow]
  omega

/-- Puts a word behind what a buffer holds; gives the buffer and the number of bytes put. -/
def put (value : Int64) (buffer : Bytes) : Bytes × Nat :=
  let filled := push (zigzag value) buffer
  (filled, filled.length - buffer.length)

/-- Gathers groups behind the `number` groups that a word has already. -/
def gather (word : UInt64) (number : Nat) : Bytes → Option (Int64 × Nat)
  | [] => none
  | byte :: rest =>
    if number = maxLength then none
    else if number = maxLength - 1 ∧ 1 < byte then none
    else
      let word := word ||| ((byte &&& 127).toUInt64 <<< (7 * number).toUInt64)
      if byte &&& 128 = 0 then some (unzigzag word, number + 1) else gather word (number + 1) rest

/-- Reads a word from the start of a buffer, with the number of its bytes. -/
def read? (buffer : Bytes) : Option (Int64 × Nat) :=
  gather 0 0 buffer

end RecordStore.Varint
