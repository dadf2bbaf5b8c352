/-!
Spans and entries.

A span says where a record lies in a file, an entry which key it is stored under.
Offsets and lengths are naturals; the bounds of a stored form belong to that form.
-/

namespace RecordStore

/-- A run of `length` bytes that starts at `offset`. -/
structure Span where
  offset : Nat
  length : Nat
  deriving DecidableEq, Repr, Inhabited

/-- The offset behind the last byte. -/
def Span.stop (span : Span) : Nat :=
  span.offset + span.length

/-- A key and the place of its record. -/
structure Entry where
  key : String
  offset : Nat
  length : Nat
  deriving DecidableEq, Repr, Inhabited

namespace Entry

/-- The place of an entry's record. -/
def span (entry : Entry) : Span :=
  ⟨entry.offset, entry.length⟩

end Entry

end RecordStore
