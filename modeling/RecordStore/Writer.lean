import RecordStore.Error
import RecordStore.Span

/-!
Writers of entries, and what a run comes to.

A writer takes a batch of entries whole or refuses it, and may panic. Its state is a
value, so a run gives the state it leaves behind whatever its outcome.
-/

namespace RecordStore

/-- What an operation comes to. -/
inductive Outcome (α : Type)
  | done (value : α)
  | failed (error : Error)
  | panicked (message : String)

namespace Outcome

/-- The outcome with its value changed. -/
def map {α β : Type} (f : α → β) : Outcome α → Outcome β
  | .done value => .done (f value)
  | .failed error => .failed error
  | .panicked message => .panicked message

end Outcome

/-- What a writer makes of a batch. -/
inductive Verdict
  | accepted
  | refused (error : Error)
  | panicked (message : String)

/-- A writer: what it makes of a batch, and the state it is in afterwards. -/
abbrev Writer (σ : Type) := List Entry → σ → Verdict × σ

/-- What a run has done. -/
structure Summary where
  /-- Records that were read to their end. -/
  records : Nat
  /-- The bytes of those records. -/
  bytes : Nat
  /-- Packages that were handed to workers. -/
  packages : Nat
  /-- Entries that the writer accepted. -/
  written : Nat
  deriving DecidableEq, Repr, Inhabited

end RecordStore
