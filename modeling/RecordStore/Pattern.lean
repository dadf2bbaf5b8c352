import RecordStore.Pattern.Match
import RecordStore.Pattern.Parser

/-!
Patterns.

A pattern is a text that parses, together with what it says. `find?` gives the
leftmost match in a text.
-/

namespace RecordStore

/-- A pattern that has been accepted. -/
structure Pattern where
  source : String
  task : Pattern.Task

namespace Pattern

/-- The pattern that a text writes. -/
def ofText (source : String) : Except Problem Pattern :=
  match parse source.toList with
  | .error problem => .error problem
  | .ok tree => .ok ⟨source, Task.ofTree tree⟩

/-- The leftmost match in a text. -/
def find? (pattern : Pattern) (text : List Char) : Option (List Char) :=
  findFrom pattern.task none text

end Pattern

end RecordStore
