import RecordStore.Source
import RecordStore.Writer

/-!
Packages of records.

The records of an input are cut into groups of a fixed number, the last group possibly
smaller. A package is a group with the offset of its first record, from which the
offsets of the others follow, so packages can be worked through in any order.
-/

namespace RecordStore

/-- How a record is turned into a key. -/
abbrev KeyOf := Bytes → Except Error String

/-- Some records in a row, and the offset of the first one. -/
structure Package where
  offset : Nat
  records : List Bytes
  deriving DecidableEq, Repr

namespace Package

/-- The bytes of a package. -/
def size (package : Package) : Nat :=
  package.records.flatten.length

/-- Cuts records into groups of `batch + 1`, the first one at `offset`. -/
def cut (batch offset : Nat) (records : List Bytes) : List Package :=
  match records with
  | [] => []
  | record :: rest =>
    let package : Package := ⟨offset, record :: rest.take batch⟩
    package :: cut batch (offset + package.size) (rest.drop batch)
termination_by records.length
decreasing_by
  simp only [List.length_cons, List.length_drop]
  omega

/-- The entries of records from an offset on, up to the first record without a key, and what is
wrong with that one. -/
def entriesFrom (keyOf : KeyOf) : (offset : Nat) → List Bytes → List Entry × Option Error
  | _, [] => ([], none)
  | offset, record :: records =>
    match keyOf record with
    | .error error => ([], some error)
    | .ok key =>
      let (entries, fault) := entriesFrom keyOf (offset + record.length) records
      (⟨key, offset, record.length⟩ :: entries, fault)

/-- The entries of a package, and what is wrong with its first record without a key. -/
def entries (keyOf : KeyOf) (package : Package) : List Entry × Option Error :=
  entriesFrom keyOf package.offset package.records

/-- The packages that are handed out: all of them when the input is read to its end, otherwise
those that were complete before. -/
def handedOut (batchSize start : Nat) (scan : Scan) : List Package :=
  let packages := cut (batchSize - 1) start scan.records
  match scan.ending with
  | .finished => packages
  | _ => packages.filter fun package => package.records.length == batchSize

end Package

end RecordStore
