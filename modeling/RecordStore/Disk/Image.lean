import RecordStore.Disk
import RecordStore.Text.Utf8
import RecordStore.Varint

/-!
The stored form of a log or a table.

A heading tells which of the two it is. Then every row is its key and its value, each
behind the number of its bytes; the value of a table's row is its offset and its
length. Bytes that are not such a form are no log and no table.
-/

namespace RecordStore.Image

/-- A byte string behind its length. -/
def block (bytes : Bytes) : Bytes :=
  Varint.encode bytes.length ++ bytes

/-- Reads a byte string behind its length, and gives what follows it. -/
def block? (bytes : Bytes) : Option (Bytes × Bytes) :=
  match Varint.decode? bytes with
  | some (.ofNat size, length) =>
    let rest := bytes.drop length
    if rest.length < size then none else some (rest.take size, rest.drop size)
  | _ => none

/-- The bytes of pairs. -/
def pairs (rows : Assoc String Bytes) : Bytes :=
  rows.flatMap fun (key, value) => block (Bytes.ofText key) ++ block value

/-- Reads pairs up to the end. -/
def pairs? : (fuel : Nat) → Bytes → Option (Assoc String Bytes)
  | _, [] => some []
  | 0, _ => none
  | fuel + 1, bytes => do
    let (key, rest) ← block? bytes
    let (value, rest) ← block? rest
    let text ← Utf8.decode? key
    let rows ← pairs? fuel rest
    return (String.ofList text, value) :: rows

/-- The bytes after a heading. -/
def behind? (heading bytes : Bytes) : Option Bytes :=
  if bytes.take heading.length = heading then some (bytes.drop heading.length) else none

/-! ### Logs -/

/-- What the stored form of a log starts with. -/
def logHeading : Bytes := Bytes.ofText "record store log 1\n"

/-- The stored form of a log. -/
def ofLog (rows : Assoc String Bytes) : Bytes :=
  logHeading ++ pairs rows

/-- Reads the stored form of a log. -/
def log? (bytes : Bytes) : Option (Assoc String Bytes) := do
  let rest ← behind? logHeading bytes
  pairs? rest.length rest

/-! ### Tables -/

/-- What the stored form of a table starts with. -/
def tableHeading : Bytes := Bytes.ofText "record store table 1\n"

/-- The bytes of a row. -/
def row (value : Int × Int) : Bytes :=
  Varint.encode value.1 ++ Varint.encode value.2

/-- Reads a row. -/
def row? (bytes : Bytes) : Option (Int × Int) := do
  let (offset, size) ← Varint.decode? bytes
  let (length, _) ← Varint.decode? (bytes.drop size)
  return (offset, length)

/-- The stored form of a table. -/
def ofTable (rows : TableRows) : Bytes :=
  tableHeading ++ pairs (rows.map fun (key, value) => (key, row value))

/-- Reads the stored form of a table. -/
def table? (bytes : Bytes) : Option TableRows := do
  let rest ← behind? tableHeading bytes
  let rows ← pairs? rest.length rest
  rows.mapM fun (key, value) => (row? value).map fun numbers => (key, numbers)

/-! ### Files -/

/-- The stored form of a damaged table. -/
def damagedTable : Bytes := Bytes.ofText "record store damaged table\n"

/-- What a file of these bytes holds. -/
def body (bytes : Bytes) : Body :=
  match table? bytes with
  | some rows => .table rows
  | none => if bytes = damagedTable then .damaged else .bytes bytes

/-- The bytes of what a file holds. -/
def ofBody : Body → Bytes
  | .bytes content => content
  | .table rows => ofTable rows
  | .damaged => damagedTable

end RecordStore.Image
