import RecordStore.Bytes
import RecordStore.Writer

/-!
A writer that prints.

Every entry is a line of its key, its offset and its length with tabs between them.
Where the printer is full, the line is cut and the batch refused.
-/

namespace RecordStore

/-- A printer: what it has printed, how much it takes, and whether flushing fails. -/
structure Printer where
  printed : Bytes
  limit : Option Nat
  failFlush : Bool
  deriving DecidableEq, Repr

/-- The line of an entry. -/
def Entry.line (entry : Entry) : Bytes :=
  Bytes.ofText
    (entry.key ++ "\t" ++ toString entry.offset ++ "\t" ++ toString entry.length ++ "\n")

namespace Printer

/-- A printer that takes everything. -/
def unlimited : Printer :=
  ⟨[], none, false⟩

/-- Prints bytes, as far as the printer takes them. -/
def print (bytes : Bytes) (printer : Printer) : Except Error Unit × Printer :=
  let taken :=
    match printer.limit with
    | none => bytes
    | some limit => bytes.take (limit - printer.printed.length)
  let printer := { printer with printed := printer.printed ++ taken }
  if taken.length = bytes.length then (.ok (), printer)
  else (.error (.io (.device "sink full")), printer)

/-- Flushes. -/
def flush (printer : Printer) : Except Error Unit :=
  if printer.failFlush then .error (.io (.device "flush failed")) else .ok ()

/-- Prints the lines of a batch and flushes behind the last. -/
def write : List Entry → Printer → Except Error Unit × Printer
  | [], printer => (printer.flush, printer)
  | entry :: entries, printer =>
    match printer.print entry.line with
    | (.error error, printer) => (.error error, printer)
    | (.ok (), printer) => write entries printer

end Printer

end RecordStore
