import RecordStore.Error
import RecordStore.Span
import RecordStore.Varint

/-!
The stored form of a span: two slots of eight bytes.

A slot holds a varint from its start and zeros behind it, so a value below `2 ^ 55`
fits. Reading minds neither what stands behind a varint nor what stands behind the
second slot.
-/

namespace RecordStore

namespace Slot

/-- The bytes of a slot. -/
def size : Nat := 8

/-- The largest value that fits into a slot. -/
def maxValue : Nat := (1 <<< 55) - 1

/-- A value in a slot. -/
def encode (value : Nat) : Except Error Bytes :=
  if maxValue < value then .error (.valueOverflow value)
  else
    let bytes := Varint.encode value
    .ok (bytes ++ Bytes.zeros (size - bytes.length))

/-- The value in a slot. -/
def decode (part : SpanPart) (slot : Bytes) : Except Error Nat :=
  match Varint.decode? slot with
  | none => .error (.corruptValue (.unterminated part))
  | some (value, _) =>
    if value < 0 then .error (.corruptValue (.negative part value)) else .ok value.toNat

end Slot

namespace Span

/-- The bytes of a stored span. -/
def storedSize : Nat := 2 * Slot.size

/-- The stored form of a span. -/
def encode (span : Span) : Except Error Bytes :=
  match Slot.encode span.offset with
  | .error e => .error e
  | .ok offset =>
    match Slot.encode span.length with
    | .error e => .error e
    | .ok length => .ok (offset ++ length)

/-- The span of a stored form. -/
def decode (stored : Bytes) : Except Error Span :=
  if stored.length < storedSize then .error (.corruptValue (.tooShort stored.length))
  else
    match Slot.decode .offset (stored.take Slot.size) with
    | .error e => .error e
    | .ok offset =>
      match Slot.decode .length ((stored.drop Slot.size).take Slot.size) with
      | .error e => .error e
      | .ok length => .ok ⟨offset, length⟩

end Span

end RecordStore
