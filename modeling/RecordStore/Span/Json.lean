import RecordStore.Json.Printer
import RecordStore.Json.Record
import RecordStore.Span

/-!
The JSON form of spans and entries.

An entry has members with names of one letter: its key, its offset and its length.
-/

namespace RecordStore

/-- Reads an offset or a length. -/
private def readSize : Json.Reader Nat :=
  Json.readNatural "u64"

/-- A span in JSON. -/
def Span.toJson (span : Span) : Json :=
  .object [("offset", .number (.natural span.offset)), ("length", .number (.natural span.length))]

/-- The members of a span. -/
def Span.record : Json.Record Span where
  expected := "struct Span"
  start := ⟨0, 0⟩
  fields := [
    ⟨"offset", readSize.map fun offset span => { span with offset }⟩,
    ⟨"length", readSize.map fun length span => { span with length }⟩]
  complete := true

/-- The span of a JSON text. -/
def Span.ofText (text : Bytes) : Except Json.Error Span :=
  Json.readAll (Span.record.read Json.depthLimit) text

/-- An entry in JSON. -/
def Entry.toJson (entry : Entry) : Json :=
  .object [
    ("k", .text entry.key),
    ("o", .number (.natural entry.offset)),
    ("l", .number (.natural entry.length))]

/-- The members of an entry. -/
def Entry.record : Json.Record Entry where
  expected := "struct Entry"
  start := ⟨"", 0, 0⟩
  fields := [
    ⟨"k", (Json.readString "a string").map fun key entry => { entry with key }⟩,
    ⟨"o", readSize.map fun offset entry => { entry with offset }⟩,
    ⟨"l", readSize.map fun length entry => { entry with length }⟩]
  complete := true

/-- The entry of a JSON text. -/
def Entry.ofText (text : Bytes) : Except Json.Error Entry :=
  Json.readAll (Entry.record.read Json.depthLimit) text

end RecordStore
