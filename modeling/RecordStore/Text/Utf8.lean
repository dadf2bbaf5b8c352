import RecordStore.Bytes

/-!
UTF-8 decoding of byte strings that need not be well formed.

A character is a lead byte and the bytes it owes, each in a range that the lead
byte fixes. Where a byte is out of range, the bytes read so far are one ill-formed
unit and reading goes on with the byte that did not fit. `decode?` refuses a text
with such a unit; `decodeLossy` puts the replacement character in its place.
-/

namespace RecordStore.Utf8

/-- The ranges of the bytes that a lead byte owes, with the bits it contributes. -/
def lead (a : UInt8) : Option (Nat × List (UInt8 × UInt8)) :=
  if a < 0x80 then some (a.toNat, [])
  else if a < 0xC2 then none
  else if a < 0xE0 then some (a.toNat - 0xC0, [(0x80, 0xBF)])
  else if a = 0xE0 then some (0, [(0xA0, 0xBF), (0x80, 0xBF)])
  else if a = 0xED then some (0xD, [(0x80, 0x9F), (0x80, 0xBF)])
  else if a < 0xF0 then some (a.toNat - 0xE0, [(0x80, 0xBF), (0x80, 0xBF)])
  else if a = 0xF0 then some (0, [(0x90, 0xBF), (0x80, 0xBF), (0x80, 0xBF)])
  else if a < 0xF4 then some (a.toNat - 0xF0, [(0x80, 0xBF), (0x80, 0xBF), (0x80, 0xBF)])
  else if a = 0xF4 then some (4, [(0x80, 0x8F), (0x80, 0xBF), (0x80, 0xBF)])
  else none

/-- Collects the owed bytes; it stops in front of the first one out of range. -/
def follow (code : Nat) : List (UInt8 × UInt8) → Bytes → Option Nat × Bytes
  | [], rest => (some code, rest)
  | _ :: _, [] => (none, [])
  | (low, high) :: owed, b :: rest =>
    if low ≤ b ∧ b ≤ high then follow (code * 64 + b.toNat % 64) owed rest
    else (none, b :: rest)

/-- The first unit of a text: its character unless it is ill formed, and what follows it. -/
def next (a : UInt8) (rest : Bytes) : Option Char × Bytes :=
  match lead a with
  | none => (none, rest)
  | some (code, owed) =>
    let (found, after) := follow code owed rest
    (found.map Char.ofNat, after)

theorem follow_length (code : Nat) (owed : List (UInt8 × UInt8)) (rest : Bytes) :
    (follow code owed rest).2.length ≤ rest.length := by
  induction owed generalizing code rest with
  | nil => simp [follow]
  | cons range owed ih =>
    cases rest with
    | nil => simp [follow]
    | cons b rest =>
      rw [follow]
      split
      · exact Nat.le_succ_of_le (ih _ rest)
      · simp

/-- A unit takes at least its lead byte. -/
theorem next_length (a : UInt8) (rest : Bytes) : (next a rest).2.length ≤ rest.length := by
  unfold next
  split
  · exact Nat.le_refl _
  · exact follow_length _ _ _

/-- The units of a text in order, `none` for each ill-formed one. -/
def units : Bytes → List (Option Char)
  | [] => []
  | a :: rest => (next a rest).1 :: units (next a rest).2
termination_by bytes => bytes.length
decreasing_by
  have := next_length a rest
  simp
  omega

/-- The bytes from the first ill-formed unit on. -/
def fromIllFormed : Bytes → Bytes
  | [] => []
  | a :: rest =>
    match (next a rest).1 with
    | some _ => fromIllFormed (next a rest).2
    | none => a :: rest
termination_by bytes => bytes.length
decreasing_by
  have := next_length a rest
  simp
  omega

/-- The characters of a well-formed text. -/
def decode? (bytes : Bytes) : Option (List Char) :=
  (units bytes).mapM id

/-- The character that stands for an ill-formed unit. -/
def replacement : Char := Char.ofNat 0xFFFD

/-- The characters of a text, with the replacement character for each ill-formed unit. -/
def decodeLossy (bytes : Bytes) : List Char :=
  (units bytes).map fun unit => unit.getD replacement

end RecordStore.Utf8
