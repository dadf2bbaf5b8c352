import RecordStore.Text.Ranges

/-!
Sets of characters, as a pattern writes them.

A set is a list of ranges of code points. `canonical` sorts the ranges and joins
those that touch, after which the complement is read off the gaps. Letters have a
second case in ASCII only, and a range gains one case alone, so a range that runs from
capitals into small letters keeps its capitals as they are.
-/

namespace RecordStore.Pattern

/-- A set of characters as ranges of code points, ends included. -/
abbrev CharSet := List (Nat × Nat)

namespace CharSet

/-- The largest code point. -/
def last : Nat := 0x10FFFF

/-- Whether a character is in the set. -/
def holds (set : CharSet) (c : Char) : Bool :=
  inRanges set c.toNat

/-- The set of one character. -/
def ofChar (c : Char) : CharSet :=
  [(c.toNat, c.toNat)]

/-- Puts a range into sorted ranges. -/
def insert (range : Nat × Nat) : CharSet → CharSet
  | [] => [range]
  | head :: set =>
    if range.1 < head.1 ∨ (range.1 = head.1 ∧ range.2 ≤ head.2) then range :: head :: set
    else head :: insert range set

/-- Joins sorted ranges that overlap or touch, the first one given. -/
def join (range : Nat × Nat) : CharSet → CharSet
  | [] => [range]
  | head :: set =>
    if head.1 ≤ range.2 + 1 then join (range.1, max range.2 head.2) set
    else range :: join head set

/-- The same set with its ranges sorted and apart. -/
def canonical (set : CharSet) : CharSet :=
  match set.foldr insert [] with
  | [] => []
  | range :: sorted => join range sorted

/-- The gaps of sorted ranges, from a code point on. -/
def gaps (start : Nat) : CharSet → CharSet
  | [] => if start ≤ last then [(start, last)] else []
  | (low, high) :: set =>
    if start < low then (start, low - 1) :: gaps (high + 1) set else gaps (high + 1) set

/-- The characters that are not in the set. -/
def complement (set : CharSet) : CharSet :=
  gaps 0 set.canonical

/-- The part of a range inside another one, moved up by `up` and down by `down`. -/
def shifted (low high up down : Nat) (range : Nat × Nat) : CharSet :=
  let first := max range.1 low
  let final := min range.2 high
  if first ≤ final then [(first + up - down, final + up - down)] else []

/-- The other case of the letters in a range: of the small ones if it has any, else of the
capitals. -/
def otherCase (range : Nat × Nat) : CharSet :=
  match shifted 97 122 0 32 range with
  | [] => shifted 65 90 32 0 range
  | capitals => capitals

/-- The set with the other case of its letters, range by range. -/
def bothCases (set : CharSet) : CharSet :=
  canonical (set.canonical ++ set.canonical.flatMap otherCase)

/-! ### Named sets -/

/-- Decimal digits. -/
def digit : CharSet := [(48, 57)]

/-- Blanks and the controls that move. -/
def space : CharSet := [(9, 13), (32, 32)]

/-- Letters, digits and the low line. -/
def word : CharSet := [(48, 57), (65, 90), (95, 95), (97, 122)]

/-- All characters. -/
def any : CharSet := [(0, last)]

/-- All characters but the line feed. -/
def anyButNewline : CharSet := [(0, 9), (11, last)]

/-- All characters but the line feed and the carriage return. -/
def anyButNewlines : CharSet := [(0, 9), (11, 12), (14, last)]

/-- The sets that have a name between colons. -/
def named : List (String × CharSet) := [
  ("alnum", [(48, 57), (65, 90), (97, 122)]),
  ("alpha", [(65, 90), (97, 122)]),
  ("ascii", [(0, 127)]),
  ("blank", [(9, 9), (32, 32)]),
  ("cntrl", [(0, 31), (127, 127)]),
  ("digit", digit),
  ("graph", [(33, 126)]),
  ("lower", [(97, 122)]),
  ("print", [(32, 126)]),
  ("punct", [(33, 47), (58, 64), (91, 96), (123, 126)]),
  ("space", space),
  ("upper", [(65, 90)]),
  ("word", word),
  ("xdigit", [(48, 57), (65, 70), (97, 102)])]

end CharSet

end RecordStore.Pattern
