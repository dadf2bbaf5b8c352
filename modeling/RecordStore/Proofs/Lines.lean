import RecordStore.Source
import Mathlib.Data.List.TakeWhile

/-!
Complete lines.

A line is a byte string that ends at its only newline. `flatten_lines` says that the
lines of a byte string are what stands before its last newline, and
`Source.records_eq` that reading a source through a buffer yields the lines of what it
hands over, wherever its pieces end.
-/

namespace RecordStore

namespace Bytes

/-- A byte string whose one newline is its last byte. -/
def IsLine (bytes : Bytes) : Prop :=
  ∃ body, bytes = body ++ [newline] ∧ newline ∉ body

/-- The bytes up to the last newline, that one included. -/
def throughLastNewline (bytes : Bytes) : Bytes :=
  (bytes.reverse.dropWhile (· ≠ newline)).reverse

/-! ### Cutting one line -/

theorem cutLine_eq_none_iff {bytes : Bytes} : cutLine bytes = none ↔ newline ∉ bytes := by
  induction bytes with
  | nil => simp [cutLine]
  | cons b rest ih =>
      by_cases h : b = newline
      · simp [cutLine, h]
      · simp [cutLine, h, ih, Ne.symm h]

theorem isLine_of_cutLine {bytes line after : Bytes} (cut : cutLine bytes = some (line, after)) :
    IsLine line := by
  induction bytes generalizing line with
  | nil => simp [cutLine] at cut
  | cons b rest ih =>
      by_cases h : b = newline
      · simp only [cutLine, h, if_true, Option.some.injEq, Prod.mk.injEq] at cut
        exact ⟨[], by simp [← cut.1], by simp⟩
      · simp only [cutLine, h, if_false, Option.map_eq_some_iff] at cut
        obtain ⟨⟨line', after'⟩, found, same⟩ := cut
        cases same
        obtain ⟨body, rfl, free⟩ := ih found
        exact ⟨b :: body, by simp, by simp [free, Ne.symm h]⟩

/-- A line in front is what is cut off. -/
theorem cutLine_append {line : Bytes} (complete : IsLine line) (after : Bytes) :
    cutLine (line ++ after) = some (line, after) := by
  obtain ⟨body, rfl, free⟩ := complete
  induction body with
  | nil => simp [cutLine]
  | cons b body ih =>
      obtain ⟨different, free⟩ := not_or.mp (List.mem_cons.not.mp free)
      simpa [cutLine, Ne.symm different] using ih free

theorem IsLine.ne_nil {line : Bytes} (complete : IsLine line) : line ≠ [] := by
  obtain ⟨body, rfl, -⟩ := complete
  simp

theorem IsLine.count_newline {line : Bytes} (complete : IsLine line) :
    line.count newline = 1 := by
  obtain ⟨body, rfl, free⟩ := complete
  simp [List.count_append, List.count_eq_zero_of_not_mem free]

/-! ### All lines -/

/-- More fuel than there are bytes changes nothing. -/
theorem lines_go_eq {fuel fuel' : Nat} {bytes : Bytes} (enough : bytes.length ≤ fuel)
    (enough' : bytes.length ≤ fuel') : lines.go fuel bytes = lines.go fuel' bytes := by
  induction fuel generalizing fuel' bytes with
  | zero =>
      have empty : bytes = [] := List.length_eq_zero_iff.mp (Nat.le_zero.mp enough)
      subst empty
      cases fuel' <;> simp [lines.go, cutLine]
  | succ fuel ih =>
      cases fuel' with
      | zero =>
          have empty : bytes = [] := List.length_eq_zero_iff.mp (Nat.le_zero.mp enough')
          subst empty
          simp [lines.go, cutLine]
      | succ fuel' =>
          cases cut : cutLine bytes with
          | none => simp [lines.go, cut]
          | some pair =>
              obtain ⟨line, after⟩ := pair
              have shorter := length_lt_of_cutLine cut
              have less : after.length ≤ fuel := by omega
              simp only [lines.go, cut, ih less (show after.length ≤ fuel' by omega)]

theorem lines_of_not_mem {bytes : Bytes} (free : newline ∉ bytes) : lines bytes = [] := by
  cases bytes with
  | nil => rfl
  | cons b rest => simp [lines, lines.go, cutLine_eq_none_iff.mpr free]

theorem lines_of_cutLine {bytes line after : Bytes} (cut : cutLine bytes = some (line, after)) :
    lines bytes = line :: lines after := by
  have shorter := length_lt_of_cutLine cut
  obtain ⟨fuel, length⟩ : ∃ fuel, bytes.length = fuel + 1 := ⟨bytes.length - 1, by omega⟩
  simp only [lines, length, lines.go, cut]
  rw [lines_go_eq (by omega) (Nat.le_refl after.length)]

theorem lines_append {line : Bytes} (complete : IsLine line) (after : Bytes) :
    lines (line ++ after) = line :: lines after :=
  lines_of_cutLine (cutLine_append complete after)

/-- A byte string is its lines and a rest without a newline. The recursion is that of the cut. -/
theorem exists_tail (bytes : Bytes) :
    ∃ tail, bytes = (lines bytes).flatten ++ tail ∧ newline ∉ tail ∧
      ∀ line ∈ lines bytes, IsLine line := by
  generalize size : bytes.length = n
  induction n using Nat.strongRecOn generalizing bytes with
  | ind n ih =>
      cases cut : cutLine bytes with
      | none =>
          have free := cutLine_eq_none_iff.mp cut
          exact ⟨bytes, by simp [lines_of_not_mem free], free, by simp [lines_of_not_mem free]⟩
      | some pair =>
          obtain ⟨line, after⟩ := pair
          have shorter := length_lt_of_cutLine cut
          obtain ⟨tail, whole, free, complete⟩ := ih after.length (by omega) after rfl
          have split := lines_of_cutLine cut
          refine ⟨tail, ?_, free, ?_⟩
          · rw [split, List.flatten_cons, List.append_assoc, ← whole, append_of_cutLine cut]
          · rw [split]
            intro other member
            rcases List.mem_cons.mp member with rfl | member
            · exact isLine_of_cutLine cut
            · exact complete other member

theorem isLine_of_mem_lines {bytes line : Bytes} (member : line ∈ lines bytes) : IsLine line :=
  (exists_tail bytes).choose_spec.2.2 line member

/-- The lines are a prefix of the byte string. -/
theorem flatten_lines_prefix (bytes : Bytes) : (lines bytes).flatten <+: bytes := by
  obtain ⟨tail, whole, -⟩ := exists_tail bytes
  exact ⟨tail, whole.symm⟩

/-- There are as many lines as newlines. -/
theorem length_lines (bytes : Bytes) : (lines bytes).length = bytes.count newline := by
  obtain ⟨tail, whole, free, complete⟩ := exists_tail bytes
  have ones : (lines bytes).map (List.count newline) = List.replicate (lines bytes).length 1 := by
    rw [← List.map_const']
    exact List.map_congr_left fun line member => (complete line member).count_newline
  calc (lines bytes).length
      = ((lines bytes).flatten).count newline := by simp [List.count_flatten, ones]
    _ = ((lines bytes).flatten ++ tail).count newline := by
        simp [List.count_append, List.count_eq_zero_of_not_mem free]
    _ = bytes.count newline := by rw [← whole]

/-- The lines take up everything through the last newline. -/
theorem flatten_lines (bytes : Bytes) : (lines bytes).flatten = throughLastNewline bytes := by
  obtain ⟨tail, whole, free, complete⟩ := exists_tail bytes
  have dropped : tail.reverse.dropWhile (· ≠ newline) = [] := by
    rw [List.dropWhile_eq_nil_iff]
    intro b member
    exact decide_eq_true fun same => free (same ▸ List.mem_reverse.mp member)
  have kept : (lines bytes).flatten.reverse.dropWhile (· ≠ newline) =
      (lines bytes).flatten.reverse := by
    rcases List.eq_nil_or_concat (lines bytes) with none | ⟨before, last, split⟩
    · simp [none]
    · obtain ⟨body, rfl, -⟩ := complete last (by simp [split])
      simp [split]
  unfold throughLastNewline
  conv => rhs; rw [whole]
  rw [List.reverse_append, List.dropWhile_append, dropped, List.isEmpty_nil, if_pos rfl, kept,
    List.reverse_reverse]

/-- Whether bytes end with a newline, if there are any. -/
def Closed (bytes : Bytes) : Prop :=
  bytes = [] ∨ ∃ body, bytes = body ++ [newline]

/-- Bytes without an open line are their lines. -/
theorem flatten_lines_of_closed {bytes : Bytes} (closed : bytes.Closed) :
    (lines bytes).flatten = bytes := by
  obtain ⟨tail, whole, free, -⟩ := exists_tail bytes
  have empty : tail = [] := by
    rcases List.eq_nil_or_concat tail with none | ⟨before, last, rfl⟩
    · exact none
    · rcases closed with rfl | ⟨body, rfl⟩
      · simp at whole
      · rw [List.concat_eq_append, ← List.append_assoc] at whole
        cases (List.append_inj' whole rfl).2
        simp at free
  rw [empty, List.append_nil] at whole
  exact whole.symm

theorem lines_flatten_append {front : List Bytes} (complete : ∀ line ∈ front, IsLine line)
    (after : Bytes) : lines (front.flatten ++ after) = front ++ lines after := by
  induction front with
  | nil => rfl
  | cons line front ih =>
      obtain ⟨first, rest⟩ := List.forall_mem_cons.mp complete
      rw [List.flatten_cons, List.append_assoc, lines_append first, ih rest, List.cons_append]

/-- Behind bytes without an open line, lines start anew. -/
theorem lines_append_of_closed {front : Bytes} (closed : front.Closed) (after : Bytes) :
    lines (front ++ after) = lines front ++ lines after := by
  have split := lines_flatten_append (fun _ => @isLine_of_mem_lines front _) after
  rwa [flatten_lines_of_closed closed] at split

/-- The lines of the first bytes are the first lines. -/
theorem lines_prefix {first whole : Bytes} (part : first <+: whole) : lines first <+: lines whole := by
  obtain ⟨more, rfl⟩ := part
  obtain ⟨tail, split, -⟩ := exists_tail first
  have goes := lines_flatten_append (fun _ => @isLine_of_mem_lines first _) (tail ++ more)
  rw [← List.append_assoc, ← split] at goes
  exact ⟨_, goes.symm⟩

end Bytes

/-! ### Reading a source -/

namespace Source

open Bytes

theorem scan_of_cutLine {capacity : Nat} {taken buffer line after : Bytes} {source : Source}
    (cut : cutLine buffer = some (line, after)) :
    scan capacity taken buffer source = (scan capacity [] after source).cons (taken ++ line) := by
  rw [scan.eq_def]
  split
  · rename_i again
    rw [cut] at again
    cases again
    rfl
  · rename_i missing
    rw [cut] at missing
    cases missing

theorem scan_of_not_mem {capacity : Nat} {taken buffer : Bytes} {source : Source}
    (free : newline ∉ buffer) :
    scan capacity taken buffer source =
      match source with
      | [] => ⟨[], .finished⟩
      | .data bytes :: source =>
        if bytes.length ≤ capacity then scan capacity (taken ++ buffer) bytes source
        else
          scan capacity (taken ++ buffer) (bytes.take (capacity + 1))
            (.data (bytes.drop (capacity + 1)) :: source)
      | .interrupted :: source => scan capacity (taken ++ buffer) [] source
      | .glance :: source => scan capacity (taken ++ buffer) [] source
      | .failed message :: _ => ⟨[], .failed message⟩
      | .panicked :: _ => ⟨[], .panicked⟩ := by
  rw [scan.eq_def]
  split
  · rename_i found
    rw [cutLine_eq_none_iff.mpr free] at found
    cases found
  · rfl

/-- Reading goes on from the start of a record and from what is left in the buffer as if both had
been handed over with the rest. -/
theorem scan_eq (capacity : Nat) (taken buffer : Bytes) (source : Source)
    (free : newline ∉ taken) :
    scan capacity taken buffer source =
      ⟨lines (taken ++ buffer ++ source.bytes), source.ending⟩ := by
  induction taken, buffer, source using scan.induct capacity with
  | case1 taken buffer source line after found ih =>
      obtain ⟨body, rfl, inner⟩ := isLine_of_cutLine found
      have complete : IsLine (taken ++ (body ++ [newline])) :=
        ⟨taken ++ body, by simp, by simp [free, inner]⟩
      have split : taken ++ buffer ++ source.bytes =
          taken ++ (body ++ [newline]) ++ (after ++ source.bytes) := by
        rw [← append_of_cutLine found]; simp
      rw [scan_of_cutLine found, split, lines_append complete, ih (by simp)]
      simp [Scan.cons]
  | case2 taken buffer found =>
      have inner := cutLine_eq_none_iff.mp found
      rw [scan_of_not_mem inner, lines_of_not_mem (by simp [free, inner, Source.bytes])]
      rfl
  | case3 taken buffer found bytes source small ih =>
      have inner := cutLine_eq_none_iff.mp found
      rw [scan_of_not_mem inner]
      simp only [small, if_true]
      rw [ih (by simp [free, inner])]
      simp [Source.bytes, Source.ending]
  | case4 taken buffer found bytes source large ih =>
      have inner := cutLine_eq_none_iff.mp found
      rw [scan_of_not_mem inner]
      simp only [large, if_false]
      rw [ih (by simp [free, inner])]
      have whole : bytes.take (capacity + 1) ++ (bytes.drop (capacity + 1) ++ Source.bytes source) =
          bytes ++ Source.bytes source := by
        rw [← List.append_assoc, List.take_append_drop]
      simp [Source.bytes, Source.ending, whole]
  | case5 taken buffer found source ih =>
      have inner := cutLine_eq_none_iff.mp found
      rw [scan_of_not_mem inner]
      dsimp only
      rw [ih (by simp [free, inner])]
      simp [Source.bytes, Source.ending]
  | case6 taken buffer found source ih =>
      have inner := cutLine_eq_none_iff.mp found
      rw [scan_of_not_mem inner]
      dsimp only
      rw [ih (by simp [free, inner])]
      simp [Source.bytes, Source.ending]
  | case7 taken buffer found message source =>
      have inner := cutLine_eq_none_iff.mp found
      rw [scan_of_not_mem inner, lines_of_not_mem (by simp [free, inner, Source.bytes])]
      rfl
  | case8 taken buffer found source =>
      have inner := cutLine_eq_none_iff.mp found
      rw [scan_of_not_mem inner, lines_of_not_mem (by simp [free, inner, Source.bytes])]
      rfl

/-- The records of a source are the lines of what it hands over, whatever the size of the buffer. -/
theorem records_eq (buffer : Nat) (source : Source) :
    records buffer source = ⟨lines source.bytes, source.ending⟩ := by
  simp [records, scan_eq _ [] [] source (by simp)]

/-- Through a buffer with room the lines of what a source hands over are seen, whatever its size. -/
theorem readThrough_eq {buffer : Nat} (room : 0 < buffer) (source : Source) :
    source.readThrough buffer = ⟨lines source.bytes, source.ending⟩ := by
  rw [readThrough, if_neg (Nat.pos_iff_ne_zero.mp room), records_eq]

@[simp] theorem bytes_ofBytes (content : Bytes) : (ofBytes content).bytes = content := by
  simp [ofBytes, Source.bytes]

end Source

end RecordStore
