/-!
Byte strings.

Files, records and stored index values are lists of bytes. A record is a run of
bytes up to and including a newline, so the one cut this library makes is at the
first newline.
-/

namespace RecordStore

/-- A byte string. -/
abbrev Bytes := List UInt8

namespace Bytes

/-- The byte that ends a record. -/
def newline : UInt8 := 10

/-- The UTF-8 form of a text. -/
def ofText (text : String) : Bytes :=
  text.toList.flatMap String.utf8EncodeChar

/-- `n` zero bytes. -/
def zeros (n : Nat) : Bytes :=
  List.replicate n 0

/-- Cuts a byte string behind its first newline; `none` when it holds no newline. -/
def cutLine : Bytes → Option (Bytes × Bytes)
  | [] => none
  | b :: rest =>
    if b = newline then some ([b], rest)
    else (cutLine rest).map fun (line, after) => (b :: line, after)

/-- The `length` bytes that start at `offset`. -/
def slice (bytes : Bytes) (offset length : Nat) : Bytes :=
  (bytes.drop offset).take length

/-- The complete lines of a byte string; a tail without a newline is left out. -/
def lines (bytes : Bytes) : List Bytes :=
  go bytes.length bytes
where
  /-- Cuts at most `fuel` lines. -/
  go : Nat → Bytes → List Bytes
    | 0, _ => []
    | fuel + 1, bytes =>
      match cutLine bytes with
      | none => []
      | some (line, after) => line :: go fuel after

/-- What is cut off and what remains make up the whole. -/
theorem append_of_cutLine {bytes line after : Bytes} (cut : cutLine bytes = some (line, after)) :
    line ++ after = bytes := by
  induction bytes generalizing line after with
  | nil => simp [cutLine] at cut
  | cons b rest ih =>
    by_cases h : b = newline
    · simp [cutLine, h] at cut
      obtain ⟨rfl, rfl⟩ := cut
      simp [h]
    · simp only [cutLine, h, if_false, Option.map_eq_some_iff] at cut
      obtain ⟨⟨line', after'⟩, found, same⟩ := cut
      cases same
      simp [ih found]

/-- A cut takes at least one byte. -/
theorem length_lt_of_cutLine {bytes line after : Bytes}
    (cut : cutLine bytes = some (line, after)) : after.length < bytes.length := by
  induction bytes generalizing line after with
  | nil => simp [cutLine] at cut
  | cons b rest ih =>
    by_cases h : b = newline
    · simp [cutLine, h] at cut
      simp [cut.2]
    · simp only [cutLine, h, if_false, Option.map_eq_some_iff] at cut
      obtain ⟨⟨line', after'⟩, found, same⟩ := cut
      cases same
      have := ih found
      simp
      omega

end Bytes

end RecordStore
