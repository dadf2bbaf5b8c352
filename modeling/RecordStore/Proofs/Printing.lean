import RecordStore.Backend
import RecordStore.Proofs.Backend
import RecordStore.Proofs.Characters
import RecordStore.Proofs.Deliveries
import RecordStore.Proofs.Lines
import RecordStore.Proofs.Pipeline.Checked

/-!
What a printer holds of a run.

A printer that is full goes on being called, and must then add nothing. That what it holds is always
the start of the text of all calls so far (`Printer.Holds`) is kept by every call, refused or not;
and a run whose calls are not all accepted has been called with more text than the printer takes. So
what is held in the end is the start of the text of all entries, whatever the batches were
(`dry_run_shows_entries`).

A text can be read back: lines end at the newlines, which stand in no key and no number, and the
last two tabs of a line are those that set the numbers apart (`Entry.eq_of_texts_eq`).
-/

namespace RecordStore

/-! ### Lines -/

namespace Entry

/-- The characters of an entry's line. -/
theorem line_eq (entry : Entry) :
    entry.line = List.flatMap String.utf8EncodeChar
      ((entry.key.toList ++ '\t' :: Nat.toDigits 10 entry.offset) ++
        '\t' :: (Nat.toDigits 10 entry.length ++ ['\n'])) := by
  have digits (n : Nat) : (toString n).toList = Nat.toDigits 10 n := Nat.toList_repr
  simp only [line, Bytes.ofText, String.toList_append, digits, List.append_assoc,
    List.cons_append]
  rfl

theorem line_ne_nil (entry : Entry) : entry.line ≠ [] := by
  rw [line_eq]
  simp

theorem not_mem_toDigits {c : Char} (other : c.isDigit = false) (n : Nat) :
    c ∉ Nat.toDigits 10 n := by
  intro digit
  have isDigit := Nat.isDigit_of_mem_toDigits (by decide) (by decide) digit
  rw [other] at isDigit
  cases isDigit

theorem toDigits_injective : Function.Injective (Nat.toDigits 10) := by
  intro n m same
  rw [← Nat.toList_repr, ← Nat.toList_repr, String.toList_inj] at same
  exact Nat.repr_injective same

/-- What stands before and behind the last of some marks is told by the whole. -/
theorem append_cons_inj_of_last {α : Type} {mark : α} {left right left' right' : List α}
    (last : mark ∉ right) (last' : mark ∉ right')
    (same : left ++ mark :: right = left' ++ mark :: right') : left = left' ∧ right = right' := by
  rw [List.append_eq_append_iff] at same
  rcases same with ⟨more, rfl, parts⟩ | ⟨more, rfl, parts⟩
  · cases more with
    | nil => exact ⟨(List.append_nil _).symm, (List.cons.inj parts).2⟩
    | cons c more =>
        obtain ⟨rfl, rfl⟩ := List.cons.inj parts
        simp at last
  · cases more with
    | nil => exact ⟨List.append_nil _, (List.cons.inj parts).2.symm⟩
    | cons c more =>
        obtain ⟨rfl, rfl⟩ := List.cons.inj parts
        simp at last'

/-- The line of an entry tells the entry, whatever its key is. -/
theorem line_injective : Function.Injective line := by
  intro entry other same
  have tab (n : Nat) : '\t' ∉ Nat.toDigits 10 n := not_mem_toDigits (by decide) n
  have tabs (n : Nat) : '\t' ∉ Nat.toDigits 10 n ++ ['\n'] := by
    simp [tab n]
  rw [line_eq, line_eq] at same
  have chars := Utf8.flatMap_utf8EncodeChar_injective same
  obtain ⟨front, ended⟩ := append_cons_inj_of_last (tabs _) (tabs _) chars
  obtain ⟨keys, offsets⟩ := append_cons_inj_of_last (tab _) (tab _) front
  have lengths := List.append_cancel_right ended
  cases entry
  cases other
  rw [Entry.mk.injEq]
  exact ⟨String.toList_inj.mp keys, toDigits_injective offsets, toDigits_injective lengths⟩

theorem eq_newline_of_mem {c : Char} (there : Bytes.newline ∈ String.utf8EncodeChar c) :
    c = '\n' := by
  obtain ⟨a, more, form, begins, follow, ascii, high⟩ := Utf8.exists_utf8EncodeChar c
  rw [form] at there
  rcases List.mem_cons.mp there with first | later
  · by_cases low : c.toNat < 128
    · have code := (ascii low).1
      rw [← first] at code
      apply Char.toNat_inj.mp
      have value := congrArg UInt8.toNat code
      rw [UInt8.toNat_ofNat_of_lt' (Nat.lt_trans low (by decide))] at value
      exact value.symm
    · have beyond := high (Nat.le_of_not_lt low)
      rw [← first] at beyond
      exact absurd beyond (by decide)
  · exact absurd (follow _ later).1 (by decide)

/-- Without a newline in its key, the line of an entry is one line. -/
theorem isLine_line {entry : Entry} (free : '\n' ∉ entry.key.toList) : Bytes.IsLine entry.line := by
  have digits (n : Nat) : '\n' ∉ Nat.toDigits 10 n := not_mem_toDigits (by decide) n
  refine ⟨List.flatMap String.utf8EncodeChar
    ((entry.key.toList ++ '\t' :: Nat.toDigits 10 entry.offset) ++
      '\t' :: Nat.toDigits 10 entry.length), ?_, ?_⟩
  · rw [line_eq, ← List.cons_append, ← List.append_assoc, List.flatMap_append]
    rfl
  · intro there
    obtain ⟨c, member, inside⟩ := List.mem_flatMap.mp there
    rw [eq_newline_of_mem inside] at member
    simp [free, digits] at member

/-- The lines of entries, one after another. -/
def texts (entries : List Entry) : Bytes :=
  entries.flatMap line

theorem texts_append (entries others : List Entry) :
    texts (entries ++ others) = texts entries ++ texts others :=
  List.flatMap_append

theorem lines_texts {entries : List Entry} (free : ∀ entry ∈ entries, '\n' ∉ entry.key.toList) :
    Bytes.lines (texts entries) = entries.map line := by
  have complete : ∀ text ∈ entries.map line, Bytes.IsLine text := by
    intro text member
    obtain ⟨entry, inside, rfl⟩ := List.mem_map.mp member
    exact isLine_line (free entry inside)
  have cut := Bytes.lines_flatten_append complete []
  rwa [List.append_nil, Bytes.lines_of_not_mem List.not_mem_nil, List.append_nil,
    ← List.flatMap_def] at cut

/-- Entries without newlines in their keys are told by their text. -/
theorem eq_of_texts_eq {entries others : List Entry}
    (free : ∀ entry ∈ entries, '\n' ∉ entry.key.toList)
    (free' : ∀ entry ∈ others, '\n' ∉ entry.key.toList)
    (same : texts entries = texts others) : entries = others := by
  have cut := lines_texts free
  rw [same, lines_texts free'] at cut
  exact (List.map_injective_iff.mpr line_injective cut).symm

end Entry

/-! ### Printers -/

namespace Printer

/-- The part of a text that there is room for. -/
def held (limit : Option Nat) (text : Bytes) : Bytes :=
  match limit with
  | none => text
  | some room => text.take room

/-- There is room for the whole text. -/
def Takes (limit : Option Nat) (text : Bytes) : Prop :=
  ∀ room ∈ limit, text.length ≤ room

variable {limit : Option Nat} {text more : Bytes}

theorem Takes.of_append (takes : Takes limit (text ++ more)) : Takes limit text := by
  intro room here
  have whole := takes room here
  rw [List.length_append] at whole
  omega

/-- A text that is too long leaves no room for more. -/
theorem held_append (full : ¬Takes limit text) (more : Bytes) :
    held limit (text ++ more) = held limit text := by
  cases limit with
  | none => exact absurd (fun _ here => nomatch here) full
  | some room =>
      have long : room < text.length := by
        by_contra small
        refine full fun given here => ?_
        cases here
        exact Nat.le_of_not_lt small
      exact List.take_append_of_le_length (Nat.le_of_lt long)

/-- The printer holds the start of a text, as far as it takes it, and can be flushed. -/
structure Holds (limit : Option Nat) (text : Bytes) (printer : Printer) : Prop where
  printed : printer.printed = held limit text
  limit : printer.limit = limit
  flushes : printer.failFlush = false

/-- Bytes are printed as far as there is room, and refused when there is too little. -/
theorem Holds.print {printer : Printer} (holds : Holds limit text printer) (some : more ≠ []) :
    Holds limit (text ++ more) (printer.print more).2 ∧
      ((printer.print more).1 = .ok () ↔ Takes limit (text ++ more)) := by
  obtain ⟨bytes, capacity, failing⟩ := printer
  obtain ⟨printed, same, flushes⟩ := holds
  dsimp only at printed same flushes
  subst printed same flushes
  have filled := List.length_pos_of_ne_nil some
  cases capacity with
  | none =>
      simp only [print, if_pos]
      refine ⟨⟨rfl, rfl, rfl⟩, ?_⟩
      simp [Takes]
  | some room =>
      have left : room - (held (.some room) text).length = room - text.length := by
        show room - (List.take room text).length = room - text.length
        rw [List.length_take]
        omega
      have whole : held (.some room) text ++ List.take (room - text.length) more =
          held (.some room) (text ++ more) :=
        List.take_append.symm
      simp only [print, left, whole, List.length_take]
      split
      · rename_i taken
        refine ⟨⟨rfl, rfl, rfl⟩, ?_⟩
        simp [Takes]
        omega
      · rename_i taken
        refine ⟨⟨rfl, rfl, rfl⟩, ?_⟩
        simp [Takes]
        omega

/-- A batch is printed as far as there is room, and refused when there is too little. -/
theorem Holds.write {printer : Printer} (entries : List Entry) (holds : Holds limit text printer)
    (takes : Takes limit text ∨ entries ≠ []) :
    Holds limit (text ++ Entry.texts entries) (printer.write entries).2 ∧
      ((printer.write entries).1 = .ok () ↔ Takes limit (text ++ Entry.texts entries)) := by
  induction entries generalizing text printer with
  | nil =>
      have flushes : printer.flush = .ok () := by
        rw [flush, holds.flushes, if_neg Bool.false_ne_true]
      have same : text ++ Entry.texts [] = text := List.append_nil text
      rw [same, Printer.write]
      exact ⟨holds, by simp [flushes, takes.resolve_right (not_not_intro rfl)]⟩
  | cons entry entries ih =>
      obtain ⟨shown, taken⟩ := holds.print entry.line_ne_nil
      have parts : text ++ Entry.texts (entry :: entries) =
          (text ++ entry.line) ++ Entry.texts entries := by
        rw [Entry.texts, List.flatMap_cons, List.append_assoc]
        rfl
      rw [parts, Printer.write]
      cases printed : printer.print entry.line with
      | mk result printer' =>
          rw [printed] at shown taken
          cases result with
          | ok =>
              exact ih shown (.inl (taken.mp rfl))
          | error error =>
              have full : ¬Takes limit (text ++ entry.line) := by
                intro enough
                cases taken.mpr enough
              refine ⟨⟨?_, shown.limit, shown.flushes⟩, ?_⟩
              · rw [held_append full]
                exact shown.printed
              · constructor
                · intro accepted
                  cases accepted
                · intro enough
                  exact absurd enough.of_append full

end Printer

/-! ### Runs -/

open Printer (held Takes)

section Runs

variable {limit : Option Nat} {disk : Disk} {calls : List Call} {after : Backend × Disk}
  {keyOf : KeyOf} {settings : RunSettings} {start : Nat} {scan : Scan}
  {outcome : Outcome Summary}

/-- After any calls with entries, a printer holds the start of their text, and all of them were
accepted just when there was room for it. -/
theorem holds_of_leads
    (leads : Backend.writer.Leads (.debug ⟨[], limit, false⟩, disk) calls after)
    (filled : ∀ call ∈ calls, call.batch ≠ []) :
    (∃ printer, after = (.debug printer, disk) ∧
        Printer.Holds limit (Entry.texts (calls.flatMap Call.batch)) printer) ∧
      ((∀ call ∈ calls, call.verdict = .accepted) ↔
        Takes limit (Entry.texts (calls.flatMap Call.batch))) := by
  induction leads with
  | none =>
      refine ⟨⟨_, rfl, ?_, rfl, rfl⟩, ?_⟩
      · cases limit with
        | none => rfl
        | some room => exact List.take_nil.symm
      · simp [Takes, Entry.texts]
  | @call calls before after batch verdict leads wrote ih =>
      obtain ⟨earlier, last⟩ := List.forall_mem_append.mp filled
      obtain ⟨⟨printer, rfl, holds⟩, accepted⟩ := ih earlier
      obtain ⟨shown, taken⟩ := holds.write batch (.inr (last _ List.mem_cons_self))
      rw [List.flatMap_append, List.flatMap_singleton, Entry.texts_append,
        List.forall_mem_append, accepted, List.forall_mem_singleton]
      cases written : printer.write batch with
      | mk result printer' =>
          simp only [Backend.writer, Backend.write, written] at wrote
          rw [written] at shown taken
          cases result with
          | ok =>
              cases wrote
              have enough := taken.mp rfl
              exact ⟨⟨printer', rfl, shown⟩, fun _ => enough, fun _ => ⟨enough.of_append, rfl⟩⟩
          | error error =>
              cases wrote
              refine ⟨⟨printer', rfl, shown⟩, ?_, fun enough => ?_⟩
              · rintro ⟨-, refused⟩
                cases refused
              · cases taken.mpr enough

/-- With steady settings the calls hand over the first entries of an input in their order, and all
of them unless one is refused. -/
theorem Indexes.exists_rest {σ : Type} {write : Writer σ} {sink last : σ} (calm : write.Calm)
    (whole : scan.ending = .finished) (filled : 0 < settings.batchSize)
    (steady : settings.Steady) (keyed : scan.records.findSome? (Layout.fault? keyOf) = none)
    (run : Indexes keyOf write.recorded settings start scan (sink, []) outcome (last, calls)) :
    ∃ rest, Layout.entries keyOf start scan.records = calls.flatMap Call.batch ++ rest ∧
      ((∀ call ∈ calls, call.verdict = .accepted) → rest = []) := by
  cases mode : settings.mode with
  | sequential =>
      have same := run.eq_runSequential filled mode
      obtain ⟨made, outcome', after', goes, -, early, ends, -⟩ := Pipeline.follows_sequentialFrom
        keyOf write scan.ending start ⟨0, 0, 0, 0⟩ scan.records sink []
      rw [Pipeline.runSequential, goes, List.nil_append] at same
      cases same
      obtain ⟨others, parts⟩ := early
      refine ⟨others.flatten, ?_, fun accepted => ?_⟩
      · rw [← flatten_singles keyed, ← parts, List.flatten_append, List.flatMap_def]
      · rw [(ends accepted).1] at parts
        rw [List.append_cancel_left (parts.trans (List.append_nil _).symm), List.flatten_nil]
  | parallel =>
      obtain ⟨single, drains⟩ := steady.resolve_left (by simp [mode])
      obtain ⟨workers, final, admitted, reaches, finished, -, -, rfl⟩ :=
        run.exists_finished whole filled mode
      obtain rfl : workers = 1 := (admitted.2 (by omega)).trans single
      obtain ⟨batches, -⟩ :=
        reaches.inOrder_of_finished calm (reaches.running_of_drain drains) finished
      refine ⟨[], ?_, fun _ => rfl⟩
      rw [List.append_nil, flatMap_batch_eq batches, Package.map_batch_cut keyOf start _ filled,
        List.flatten_filter_ne_nil, Layout.flatten_batches keyOf filled keyed]

/-- A printer in the place of an index shows what would be stored, and nothing else. For an input
that has a key for every record and behind whose records the offset is a word, and for settings that
keep its order, what is printed is the text of its entries, whatever the mode and the size of the
batches are: all of it, or as much as there is room for. The run succeeds just when there is room
for all. And the text tells the entries, if there are no newlines in their keys. -/
theorem dry_run_shows_entries {start : UInt64} {source : Source} {buffer : Nat}
    (whole : source.ending = .finished) (filled : 0 < settings.batchSize)
    (steady : settings.Steady)
    (keyed : ∀ record ∈ Bytes.lines source.bytes, ∃ key, keyOf record = .ok key)
    (fits : start.toNat + (Bytes.throughLastNewline source.bytes).length < UInt64.size)
    (run : Checked.Indexes keyOf Backend.writer settings start (source.records buffer)
      (.debug ⟨[], limit, false⟩, disk) outcome after) :
    after = (.debug ⟨held limit (Entry.texts (Layout.entries keyOf start.toNat
        (Bytes.lines source.bytes))), limit, false⟩, disk) ∧
      ((∃ summary, outcome = .done summary) ↔
        Takes limit (Entry.texts (Layout.entries keyOf start.toNat (Bytes.lines source.bytes)))) ∧
      ∀ entries others : List Entry, (∀ entry ∈ entries, '\n' ∉ entry.key.toList) →
        (∀ entry ∈ others, '\n' ∉ entry.key.toList) →
        Entry.texts entries = Entry.texts others → entries = others := by
  have calm := Backend.calm_writer
  rw [← Bytes.flatten_lines] at fits
  rw [Source.records_eq, Checked.indexes_iff fits] at run
  rw [← Layout.findSome?_fault_eq_none_iff] at keyed
  obtain ⟨calls, recorded⟩ := run.recorded
  obtain ⟨rest, parts, complete⟩ := recorded.exists_rest calm whole filled steady keyed
  obtain ⟨⟨printer, rfl, printed, capacity, flushes⟩, accepted⟩ :=
    holds_of_leads recorded.leads_entries.1 recorded.batch_ne_nil
  have done := recorded.done_iff calm whole filled
  have same : held limit
          (Entry.texts (Layout.entries keyOf start.toNat (Bytes.lines source.bytes))) =
        held limit (Entry.texts (calls.flatMap Call.batch)) ∧
      (Takes limit (Entry.texts (Layout.entries keyOf start.toNat (Bytes.lines source.bytes))) ↔
        Takes limit (Entry.texts (calls.flatMap Call.batch))) := by
    rw [parts, Entry.texts_append]
    by_cases enough : Takes limit (Entry.texts (calls.flatMap Call.batch))
    · have none : Entry.texts rest = [] := by
        rw [complete (accepted.mpr enough)]
        rfl
      rw [none, List.append_nil]
      exact ⟨rfl, Iff.rfl⟩
    · exact ⟨Printer.held_append enough _, fun all => all.of_append, fun some => absurd some enough⟩
  refine ⟨?_, ?_, fun entries others free free' => Entry.eq_of_texts_eq free free'⟩
  · rw [same.1, ← printed, ← capacity, ← flushes]
  · rw [same.2, ← accepted, done]
    exact and_iff_right keyed

/-- Ten bytes are room for one line and two bytes of another one, whether the lines come one by one
or both at once, and neither run succeeds; the tab in the first key is not taken for another one. -/
theorem dry_run_shows_entries_when_full :
    let keyOf : KeyOf := fun record => .ok (if record.length = 2 then "a\t1" else "b")
    let source : Source := [.data [97, 10, 98], .interrupted, .data [98, 10]]
    let sink : Backend × Disk := (.debug ⟨[], some 10, false⟩, Disk.empty)
    let full : Backend × Disk :=
      (.debug ⟨Bytes.ofText "a\t1\t5\t2\nb\t", some 10, false⟩, Disk.empty)
    (∃ outcome, Checked.Indexes keyOf Backend.writer ⟨1, 1, .parallel, .drain⟩ 5 (source.records 1)
      sink outcome full ∧ ¬∃ summary, outcome = .done summary) ∧
    ∃ outcome, Checked.Indexes keyOf Backend.writer ⟨9, 4, .sequential, .abort⟩ 5 (source.records 7)
      sink outcome full ∧ ¬∃ summary, outcome = .done summary := by
  intro keyOf source sink full
  have lines : Bytes.lines source.bytes = [[97, 10], [98, 98, 10]] := by
    simp [source, Source.bytes, Bytes.lines, Bytes.lines.go, Bytes.cutLine, Bytes.newline]
  have text : Entry.texts (Layout.entries keyOf (5 : UInt64).toNat [[97, 10], [98, 98, 10]]) =
      Bytes.ofText "a\t1\t5\t2\nb\t7\t3\n" := by decide
  have short : ¬Takes (some 10) (Bytes.ofText "a\t1\t5\t2\nb\t7\t3\n") := by
    intro enough
    exact absurd (enough 10 rfl) (by decide)
  have keyed : ∀ record ∈ Bytes.lines source.bytes, ∃ key, keyOf record = .ok key :=
    fun record _ => ⟨_, rfl⟩
  have fits : (5 : UInt64).toNat + (Bytes.throughLastNewline source.bytes).length <
      UInt64.size := by
    decide
  obtain ⟨outcome, after, run⟩ : ∃ outcome after, Checked.Indexes keyOf Backend.writer
      ⟨1, 1, .parallel, .drain⟩ 5 (source.records 1) sink outcome after :=
    ⟨_, _, Checked.indexes_index _ _ _ _ _ _⟩
  obtain ⟨outcome', after', run'⟩ : ∃ outcome after, Checked.Indexes keyOf Backend.writer
      ⟨9, 4, .sequential, .abort⟩ 5 (source.records 7) sink outcome after :=
    ⟨_, _, Checked.indexes_index _ _ _ _ _ _⟩
  obtain ⟨rfl, done, -⟩ :=
    dry_run_shows_entries rfl (by decide) (.inr ⟨rfl, rfl⟩) keyed fits run
  obtain ⟨rfl, done', -⟩ := dry_run_shows_entries rfl (by decide) (.inl rfl) keyed fits run'
  rw [lines, text] at run run' done done'
  exact ⟨⟨outcome, run, fun succeeds => short (done.mp succeeds)⟩,
    outcome', run', fun succeeds => short (done'.mp succeeds)⟩

/-- When two records end where the words do, both lines are printed and yet the run panics, whatever
room there is. -/
theorem dry_run_panics_at_the_end_of_the_words :
    let keyOf : KeyOf := fun _ => .ok "k"
    let source : Source := [.data [97, 10, 98, 10]]
    let start : UInt64 := 18446744073709551612
    let sink : Backend × Disk := (.debug ⟨[], none, false⟩, Disk.empty)
    let text : Bytes := Entry.texts (Layout.entries keyOf start.toNat (Bytes.lines source.bytes))
    (∀ record ∈ Bytes.lines source.bytes, ∃ key, keyOf record = .ok key) ∧ Takes none text ∧
      ∃ outcome, Checked.Indexes keyOf Backend.writer ⟨1, 1, .sequential, .drain⟩ start
          (source.records 1) sink outcome (.debug ⟨text, none, false⟩, Disk.empty) ∧
        ¬∃ summary, outcome = .done summary := by
  intro keyOf source start sink text
  have lines : Bytes.lines source.bytes = [[97, 10], [98, 10]] := by
    simp [source, Source.bytes, Bytes.lines, Bytes.lines.go, Bytes.cutLine, Bytes.newline]
  have run := Checked.indexes_index keyOf Backend.writer ⟨1, 1, .sequential, .drain⟩ start
    (source.records 1) sink
  have panics : Checked.index keyOf Backend.writer ⟨1, 1, .sequential, .drain⟩ start
      (source.records 1) sink =
        (.panicked Checked.overflow, .debug ⟨text, none, false⟩, Disk.empty) := by
    rw [Source.records_eq]
    show Checked.runSequential _ _ _ _ _ = _
    simp [Checked.runSequential, Checked.sequentialFrom, text, lines, keyOf, start, sink,
      Backend.writer, Backend.write, Printer.write, Printer.print, Printer.flush, Entry.texts,
      Layout.entries, Layout.placed, Layout.entryOf, UInt64.size]
  rw [panics] at run
  refine ⟨fun _ _ => ⟨_, rfl⟩, ?_, _, run, ?_⟩
  · intro room none
    cases none
  · rintro ⟨summary, done⟩
    cases done

end Runs

end RecordStore
