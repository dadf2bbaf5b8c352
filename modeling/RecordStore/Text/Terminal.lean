import RecordStore.Text.Quoted

/-!
Texts that are safe to show on a terminal.

A terminal takes some control characters as orders: the bell, backspace, the form feed,
escape, delete and the second block of controls. In a log such a character is written
by its code; all others, the ends of lines among them, stay as they are.
-/

namespace RecordStore.Text

/-- The controls that are written as `\x` and two digits. -/
def shortControls : List (Char × String) := [
  (Char.ofNat 0x07, "07"), (Char.ofNat 0x08, "08"), (Char.ofNat 0x0C, "0c"),
  (Char.ofNat 0x1B, "1b"), (Char.ofNat 0x7F, "7f")]

/-- A character as a terminal may show it. -/
def tamed (c : Char) : List Char :=
  match shortControls.lookup c with
  | some digits => ['\\', 'x'] ++ digits.toList
  | none => if 0x80 ≤ c.toNat ∧ c.toNat ≤ 0x9F then codePoint c else [c]

/-- A text without orders to a terminal. -/
def forTerminal (text : String) : String :=
  String.ofList (text.toList.flatMap tamed)

end RecordStore.Text
