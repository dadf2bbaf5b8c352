import RecordStore.Bytes

/-!
Signed integers of variable length.

An integer is folded to a natural, small magnitudes first: zero, minus one, one, minus
two. The natural is written in groups of seven bits, the lowest first, and every byte
but the last has its highest bit set. A natural below `2 ^ 64` takes at most ten
bytes, of which the tenth holds one bit.
-/

namespace RecordStore.Varint

/-- Folds an integer to a natural, the sign last. -/
def fold (value : Int) : Nat :=
  match value with
  | .ofNat n => 2 * n
  | .negSucc n => 2 * n + 1

/-- The integer that folds to a natural. -/
def unfold (n : Nat) : Int :=
  if n % 2 = 0 then .ofNat (n / 2) else .negSucc (n / 2)

@[simp] theorem unfold_fold (value : Int) : unfold (fold value) = value := by
  cases value with
  | ofNat n => simp [fold, unfold]
  | negSucc n =>
    have half : (2 * n + 1) / 2 = n := by omega
    simp [fold, unfold, half]

@[simp] theorem fold_unfold (n : Nat) : fold (unfold n) = n := by
  unfold unfold
  split
  · simp only [fold]; omega
  · simp only [fold]; omega

/-- The groups of a natural as bytes. -/
def groups (n : Nat) : Bytes :=
  if n < 128 then [n.toUInt8] else (n % 128 + 128).toUInt8 :: groups (n / 128)
termination_by n
decreasing_by omega

/-- The bytes of an integer. -/
def encode (value : Int) : Bytes :=
  groups (fold value)

/-- The most bytes that are read. -/
def maxLength : Nat := 10

/-- Reads groups from at most `budget` bytes; gives the natural and the number of bytes.
The last byte of the budget holds one bit. -/
def readGroups : (budget : Nat) → Bytes → Option (Nat × Nat)
  | 0, _ => none
  | _, [] => none
  | budget + 1, b :: rest =>
    if budget = 0 ∧ 1 < b then none
    else if b < 128 then some (b.toNat, 1)
    else (readGroups budget rest).map fun (n, length) => (b.toNat % 128 + 128 * n, length + 1)

/-- Reads an integer from the start of a byte string, with the number of its bytes. -/
def decode? (bytes : Bytes) : Option (Int × Nat) :=
  (readGroups maxLength bytes).map fun (n, length) => (unfold n, length)

end RecordStore.Varint
