import RecordStore.Blob
import RecordStore.Proofs.Layout
import RecordStore.Proofs.Lines
import RecordStore.Proofs.Places

/-!
What a blob shows at a span.

An entry of the lines of a part of a file stands for its record in the whole file
(`slice_of_mem_entries`), and goes on doing so when the file grows. A file that is found at
a path is found there after every change that spares its place.
-/

namespace RecordStore

namespace Bytes

theorem slice_append (before middle after : Bytes) :
    slice (before ++ middle ++ after) before.length middle.length = middle := by
  simp [slice]

theorem slice_behind (before after : Bytes) :
    slice (before ++ after) before.length after.length = after := by
  simp [slice]

/-- What lies within a byte string lies there also when more follows. -/
theorem slice_append_of_le {content : Bytes} {offset length : Nat}
    (within : offset + length ≤ content.length) (more : Bytes) :
    slice (content ++ more) offset length = slice content offset length := by
  rw [slice, slice, List.drop_append_of_le_length (by omega),
    List.take_append_of_le_length (by rw [List.length_drop]; omega)]

end Bytes

/-- The span of an entry holds its record, wherever in a file the lines stand. -/
theorem slice_of_mem_entries {keyOf : KeyOf} {front tail : Bytes} {entry : Entry}
    (member : entry ∈ Layout.entries keyOf front.length (Bytes.lines tail)) :
    entry.offset + entry.length ≤ (front ++ tail).length ∧
      Bytes.slice (front ++ tail) entry.offset entry.length ∈ Bytes.lines tail ∧
      keyOf (Bytes.slice (front ++ tail) entry.offset entry.length) = .ok entry.key := by
  obtain ⟨before, record, after, split, found, offset, length⟩ := Layout.mem_entries_iff.mp member
  obtain ⟨rest, whole⟩ := Bytes.flatten_lines_prefix tail
  have parts : front ++ tail =
      (front ++ before.flatten) ++ record ++ (after.flatten ++ rest) := by
    rw [← whole, split]
    simp
  have same : Bytes.slice (front ++ tail) entry.offset entry.length = record := by
    rw [parts, offset, length, ← List.length_append]
    exact Bytes.slice_append _ _ _
  rw [same]
  refine ⟨?_, split ▸ List.mem_append_right _ List.mem_cons_self, found⟩
  rw [parts, offset, length]
  simp only [List.length_append]
  omega

/-- Whether a span of a file is a line that makes a key. -/
structure Shows (keyOf : KeyOf) (content : Bytes) (key : String) (span : Span) : Prop where
  within : span.offset + span.length ≤ content.length
  line : (Bytes.slice content span.offset span.length).IsLine
  made : keyOf (Bytes.slice content span.offset span.length) = .ok key

theorem Shows.append {keyOf : KeyOf} {content : Bytes} {key : String} {span : Span}
    (shown : Shows keyOf content key span) (more : Bytes) :
    Shows keyOf (content ++ more) key span := by
  obtain ⟨within, line, made⟩ := shown
  have same := Bytes.slice_append_of_le within more
  refine ⟨?_, same ▸ line, same ▸ made⟩
  rw [List.length_append]
  omega

theorem shows_of_mem_entries {keyOf : KeyOf} {front tail : Bytes} {entry : Entry}
    (member : entry ∈ Layout.entries keyOf front.length (Bytes.lines tail)) :
    Shows keyOf (front ++ tail) entry.key entry.span := by
  obtain ⟨within, line, made⟩ := slice_of_mem_entries member
  exact ⟨within, Bytes.isLine_of_mem_lines line, made⟩

/-! ### Finding the blob -/

namespace Disk

variable {path : String} {disk disk' : Disk} {id : Nat}

theorem find_eq_ok_iff {node : Node} :
    disk.find path = .ok node ↔
      disk.route path = .ok (placeOf path) ∧ disk.node? (placeOf path) = some node := by
  unfold find
  cases leads : disk.route path with
  | error fault => simp
  | ok route =>
      obtain rfl := eq_placeOf_of_route leads
      cases there : disk.node? (placeOf path) <;> simp [there]

/-- A change that spares the place of a file leaves the file there with what it holds. -/
theorem Spares.find (spares : Spares (placeOf path) disk disk')
    (found : disk.find path = .ok (.file id)) : disk'.find path = .ok (.file id) := by
  obtain ⟨leads, there⟩ := find_eq_ok_iff.mp found
  exact find_eq_ok_iff.mpr ⟨spares.route leads, spares.node id there⟩

theorem Spares.content_eq (spares : Spares (placeOf path) disk disk') (sound : disk.Sound)
    (found : disk.find path = .ok (.file id)) : disk'.content id = disk.content id := by
  simp only [content, spares.body sound id (find_eq_ok_iff.mp found).2]

end Disk

theorem Blob.atPath_of_find {path : String} {disk : Disk} {id : Nat}
    (found : disk.find path = .ok (.file id)) : Blob.atPath path disk = .ok ⟨path, .file id⟩ := by
  simp [Blob.atPath, found]

/-- A span within the file is read. -/
theorem Blob.readSpan_of_within {path : String} {disk : Disk} {id : Nat} {span : Span}
    (within : span.offset + span.length ≤ (disk.content id).length) :
    Blob.readSpan ⟨path, .file id⟩ span disk =
      .ok (Bytes.slice (disk.content id) span.offset span.length) := by
  have inside : ¬(disk.content id).length < span.offset + span.length := by omega
  simp [Blob.readSpan, Blob.read, Blob.size, inside]

end RecordStore
