import RecordStore.Text.Ranges

/-!
White space.

`isBlank` is the Unicode property White_Space, which holds of more characters than
the class that core gives to `Char`.
-/

namespace RecordStore.Text

/-- The code points with the property White_Space. -/
def blankRanges : List (Nat × Nat) := [
  (0x9, 0xD), (0x20, 0x20), (0x85, 0x85), (0xA0, 0xA0), (0x1680, 0x1680), (0x2000, 0x200A),
  (0x2028, 0x2029), (0x202F, 0x202F), (0x205F, 0x205F), (0x3000, 0x3000)]

/-- Whether a character is white space. -/
def isBlank (c : Char) : Bool :=
  inRanges blankRanges c.toNat

/-- A text without the white space at its end. -/
def trimEnd (text : List Char) : List Char :=
  (text.reverse.dropWhile isBlank).reverse

/-- The class of core lies inside the property. -/
theorem isBlank_of_isWhitespace {c : Char} (h : c.isWhitespace) : isBlank c := by
  simp only [Char.isWhitespace, Bool.or_eq_true, decide_eq_true_eq] at h
  rcases h with ((rfl | rfl) | rfl) | rfl <;> rfl

/-- Trimming leaves no white space at the end. -/
theorem not_isBlank_of_getLast? {text : List Char} {c : Char}
    (last : (trimEnd text).getLast? = some c) : isBlank c = false := by
  have h := List.head?_dropWhile_not isBlank text.reverse
  rw [trimEnd, List.getLast?_reverse] at last
  rw [last] at h
  simpa using h

end RecordStore.Text
