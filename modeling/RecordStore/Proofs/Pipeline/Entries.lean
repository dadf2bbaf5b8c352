import RecordStore.Proofs.Pipeline.Drain
import RecordStore.Proofs.Pipeline.InOrder

/-!
The entries that any run hands over.

Whatever the settings, the schedule and the end of the input are, a run calls its writer with
entries of complete records, and these calls one after another lead to the writer that the
run leaves behind. A run that succeeds hands over the entries of all records, each once.
-/

namespace RecordStore

/-- Whether settings keep the order of the input. -/
def RunSettings.InOrder (settings : RunSettings) : Prop :=
  settings.mode = .sequential ∨ settings.workers = 1

/-- Taking a part of some lists takes a part of all that they hold. -/
theorem subperm_flatten {α : Type} {first second : List (List α)}
    (part : first.Subperm second) : first.flatten.Subperm second.flatten := by
  obtain ⟨same, perm, sub⟩ := part
  exact ⟨same.flatten, perm.flatten, sub.flatten⟩

/-- The single batches hold the entries up to the first record without a key. -/
theorem flatten_singles_eq (keyOf : KeyOf) (start : Nat) (records : List Bytes) :
    (Pipeline.singles keyOf start records).flatten =
      Layout.entriesUpTo keyOf (Layout.placed start records) := by
  rw [Pipeline.singles, ← List.flatMap_def, List.flatMap_singleton']

/-- All entries of an input that has a key for every record, as single batches. -/
theorem flatten_singles {keyOf : KeyOf} {start : Nat} {records : List Bytes}
    (keyed : records.findSome? (Layout.fault? keyOf) = none) :
    (Pipeline.singles keyOf start records).flatten = Layout.entries keyOf start records := by
  rw [flatten_singles_eq, Layout.entriesUpTo_placed keyed]

theorem ne_nil_of_mem_singles {keyOf : KeyOf} {start : Nat} {records : List Bytes}
    (batch : List Entry) (member : batch ∈ Pipeline.singles keyOf start records) :
    batch ≠ [] := by
  obtain ⟨entry, -, rfl⟩ := List.mem_map.mp member
  simp

theorem flatMap_batch_eq {calls : List Call} {batches : List (List Entry)}
    (same : calls.map Call.batch = batches) : calls.flatMap Call.batch = batches.flatten := by
  rw [List.flatMap_def, same]

section Indexes

variable {σ : Type} {keyOf : KeyOf} {write : Writer σ} {settings : RunSettings} {start : Nat}
  {scan : Scan} {sink after : σ} {calls : List Call} {outcome : Outcome Summary}

/-- The calls of a run lead to the writer that it leaves behind, and their entries are those of
records, of each record at most once. -/
theorem Indexes.leads_subperm
    (run : Indexes keyOf write.recorded settings start scan (sink, []) outcome (after, calls)) :
    write.Leads sink calls after ∧
      (calls.flatMap Call.batch).Subperm (Layout.entries keyOf start scan.records) := by
  rcases Nat.eq_zero_or_pos settings.batchSize with empty | filled
  · generalize same : (after, calls) = left at run
    cases run with
    | refused =>
        cases same
        exact ⟨.none, List.nil_subperm⟩
    | sequential valid | parallel valid =>
        have filled := RunSettings.validate_eq_ok_iff.mp valid
        omega
  · cases mode : settings.mode with
    | sequential =>
        have same := run.eq_runSequential filled mode
        obtain ⟨made, outcome', after', goes, leads, early, -⟩ := Pipeline.follows_sequentialFrom
          keyOf write scan.ending start ⟨0, 0, 0, 0⟩ scan.records sink []
        rw [Pipeline.runSequential, goes, List.nil_append] at same
        cases same
        refine ⟨leads .none, ?_⟩
        have some := early.sublist.flatten
        rw [flatten_singles_eq, ← List.flatMap_def] at some
        exact (some.trans (Layout.entriesUpTo_sublist keyOf _)).subperm
    | parallel =>
        obtain ⟨workers, final, admitted, run, -, -, last⟩ := run.exists_final filled mode
        have called : final.calls = calls := (congrArg Prod.snd last).symm
        have led : final.sink.1 = after := (congrArg Prod.fst last).symm
        let env : Pipeline.Environment σ := ⟨keyOf, write, settings.onError, scan.ending⟩
        have run : Pipeline.Reaches env.recorded (.initial
            (Package.handedOut settings.batchSize start scan) workers (sink, [])) final := run
        refine ⟨led ▸ called ▸ run.leads, ?_⟩
        have cut := (Package.handedOut_sublist settings.batchSize start scan).map
          (Package.batch keyOf)
        have some := subperm_flatten ((run.subperm_calls admitted.1).trans cut.subperm)
        rw [called, ← List.flatMap_def, Package.map_batch_cut keyOf start _ filled] at some
        exact some.trans (Layout.flatten_batches_sublist keyOf start scan.records filled).subperm

/-- The calls of a run lead to the writer that it leaves behind, and every entry of a call is that
of a record. -/
theorem Indexes.leads_entries
    (run : Indexes keyOf write.recorded settings start scan (sink, []) outcome (after, calls)) :
    write.Leads sink calls after ∧
      ∀ call ∈ calls, ∀ entry ∈ call.batch, entry ∈ Layout.entries keyOf start scan.records := by
  obtain ⟨leads, some⟩ := run.leads_subperm
  exact ⟨leads, fun call made entry inside =>
    some.subset (List.mem_flatMap.mpr ⟨call, made, inside⟩)⟩

theorem Indexes.filled_of_done {write : Writer σ} {sink after : σ} {summary : Summary}
    (run : Indexes keyOf write settings start scan sink (.done summary) after) :
    0 < settings.batchSize := by
  generalize ends : Outcome.done summary = outcome at run
  cases run with
  | refused => cases ends
  | sequential valid | parallel valid => exact RunSettings.validate_eq_ok_iff.mp valid

/-- Settings that are refused leave the writer alone. -/
theorem Indexes.of_invalid {error : Error} (invalid : settings.validate = .error error)
    (run : Indexes keyOf write settings start scan sink outcome after) :
    outcome = .failed error ∧ after = sink := by
  cases run with
  | refused same =>
      rw [invalid] at same
      cases same
      exact ⟨rfl, rfl⟩
  | sequential valid | parallel valid =>
      rw [invalid] at valid
      cases valid

/-- A run makes no call with an empty batch. -/
theorem Indexes.batch_ne_nil
    (run : Indexes keyOf write.recorded settings start scan (sink, []) outcome (after, calls)) :
    ∀ call ∈ calls, call.batch ≠ [] := by
  cases valid : settings.validate with
  | error error =>
      obtain ⟨-, same⟩ := run.of_invalid valid
      cases same
      simp
  | ok done =>
      have filled := RunSettings.validate_eq_ok_iff.mp valid
      cases mode : settings.mode with
      | sequential =>
          have same := run.eq_runSequential filled mode
          obtain ⟨made, outcome', after', goes, -, early, -⟩ := Pipeline.follows_sequentialFrom
            keyOf write scan.ending start ⟨0, 0, 0, 0⟩ scan.records sink []
          rw [Pipeline.runSequential, goes, List.nil_append] at same
          cases same
          intro call called
          exact ne_nil_of_mem_singles _ (early.subset (List.mem_map_of_mem called))
      | parallel =>
          obtain ⟨workers, final, -, reaches, -, -, last⟩ := run.exists_final filled mode
          have called : final.calls = calls := (congrArg Prod.snd last).symm
          let env : Pipeline.Environment σ := ⟨keyOf, write, settings.onError, scan.ending⟩
          have reaches : Pipeline.Reaches env.recorded (.initial
              (Package.handedOut settings.batchSize start scan) workers (sink, [])) final := reaches
          exact called ▸ reaches.batch_ne_nil.1

/-- A run that succeeds had a key for every record and every call accepted, and its calls hand over
the entries of all records in some order. -/
theorem Indexes.of_done (calm : write.Calm) (whole : scan.ending = .finished) {summary : Summary}
    (run : Indexes keyOf write.recorded settings start scan (sink, []) (.done summary)
      (after, calls)) :
    (∀ call ∈ calls, call.verdict = .accepted) ∧ (∀ call ∈ calls, call.batch ≠ []) ∧
      scan.records.findSome? (Layout.fault? keyOf) = none ∧
      (calls.flatMap Call.batch).Perm (Layout.entries keyOf start scan.records) := by
  have filled := run.filled_of_done
  cases mode : settings.mode with
  | sequential =>
      have same := run.eq_runSequential filled mode
      obtain ⟨made, outcome', after', goes, -, -, ends, succeeds⟩ := Pipeline.follows_sequentialFrom
        keyOf write scan.ending start ⟨0, 0, 0, 0⟩ scan.records sink []
      rw [Pipeline.runSequential, goes, List.nil_append] at same
      cases same
      obtain ⟨accepted, keyed⟩ := succeeds summary rfl
      obtain ⟨batches, -⟩ := ends accepted
      refine ⟨accepted, ?_, keyed, ?_⟩
      · intro call called
        exact ne_nil_of_mem_singles _ (batches ▸ List.mem_map_of_mem called)
      · rw [flatMap_batch_eq batches, flatten_singles keyed]
  | parallel =>
      rcases run.of_parallel calm whole filled mode with
        ⟨keyed, accepted, handed, -⟩ | ⟨-, error, failed⟩
      · refine ⟨accepted, ?_, keyed, ?_⟩
        · intro call made
          have member := handed.subset (List.mem_map_of_mem made)
          exact of_decide_eq_true (List.mem_filter.mp member).2
        · have whole := handed.flatten
          rwa [List.flatten_filter_ne_nil, Layout.flatten_batches keyOf filled keyed,
            ← List.flatMap_def] at whole
      · cases failed

/-- How a run without workers ends when every call is accepted. -/
theorem Indexes.of_sequential (filled : 0 < settings.batchSize)
    (sequential : settings.mode = .sequential)
    (run : Indexes keyOf write.recorded settings start scan (sink, []) outcome (after, calls))
    (accepted : ∀ call ∈ calls, call.verdict = .accepted) :
    write.Leads sink calls after ∧
      calls.map Call.batch = Pipeline.singles keyOf start scan.records ∧
      (∀ error, scan.records.findSome? (Layout.fault? keyOf) = some error →
        outcome = .failed error) ∧
      (scan.records.findSome? (Layout.fault? keyOf) = none →
        outcome = Pipeline.atEnd ⟨scan.records.length, scan.records.flatten.length, 0,
          scan.records.length⟩ scan.ending) := by
  have same := run.eq_runSequential filled sequential
  obtain ⟨made, outcome', after', goes, leads, -, ends, -⟩ := Pipeline.follows_sequentialFrom
    keyOf write scan.ending start ⟨0, 0, 0, 0⟩ scan.records sink []
  rw [Pipeline.runSequential, goes, List.nil_append] at same
  cases same
  obtain ⟨batches, come⟩ := ends accepted
  refine ⟨leads .none, batches, ?_, ?_⟩
  · intro error first
    rw [come, first]
  · intro keyed
    rw [come, keyed, Pipeline.addRecords_eq]
    simp

/-- A run over an input that was read to its end succeeds just when every record has a key and every
call is accepted. -/
theorem Indexes.done_iff (calm : write.Calm) (whole : scan.ending = .finished)
    (filled : 0 < settings.batchSize)
    (run : Indexes keyOf write.recorded settings start scan (sink, []) outcome (after, calls)) :
    (∃ summary, outcome = .done summary) ↔
      scan.records.findSome? (Layout.fault? keyOf) = none ∧
        ∀ call ∈ calls, call.verdict = .accepted := by
  constructor
  · rintro ⟨summary, rfl⟩
    obtain ⟨accepted, -, keyed, -⟩ := run.of_done calm whole
    exact ⟨keyed, accepted⟩
  · rintro ⟨keyed, accepted⟩
    cases mode : settings.mode with
    | sequential =>
        obtain ⟨-, -, -, ends⟩ := run.of_sequential filled mode accepted
        exact ⟨_, (ends keyed).trans (by rw [whole]; rfl)⟩
    | parallel =>
        rcases run.of_parallel calm whole filled mode with ⟨-, -, -, done⟩ | ⟨faulty, -⟩
        · exact ⟨_, done⟩
        · exact absurd ⟨keyed, accepted⟩ faulty

/-- A run that succeeds and has at most one worker hands over the entries in the order of the input.
-/
theorem Indexes.in_order_of_done (calm : write.Calm) (whole : scan.ending = .finished)
    {summary : Summary}
    (run : Indexes keyOf write.recorded settings start scan (sink, []) (.done summary)
      (after, calls)) (inOrder : settings.InOrder) :
    calls.flatMap Call.batch = Layout.entries keyOf start scan.records := by
  have filled := run.filled_of_done
  obtain ⟨accepted, -, keyed, -⟩ := run.of_done calm whole
  cases mode : settings.mode with
  | sequential =>
      obtain ⟨-, batches, -⟩ := run.of_sequential filled mode accepted
      rw [flatMap_batch_eq batches, flatten_singles keyed]
  | parallel =>
      have single : settings.workers = 1 := inOrder.resolve_left (by simp [mode])
      obtain ⟨workers, final, admitted, reaches, finished, done, -, rfl⟩ :=
        run.exists_finished whole filled mode
      obtain rfl : workers = 1 := (admitted.2 (by omega)).trans single
      have running := reaches.running_of_no_error (Pipeline.of_done done.symm).1
      obtain ⟨batches, -⟩ := reaches.inOrder_of_finished calm running finished
      rw [flatMap_batch_eq batches, Package.map_batch_cut keyOf start _ filled,
        List.flatten_filter_ne_nil, Layout.flatten_batches keyOf filled keyed]

/-- A run that succeeds counts the records of its input and their bytes. -/
theorem Indexes.counts_of_done (calm : write.Calm) (whole : scan.ending = .finished)
    {summary : Summary}
    (run : Indexes keyOf write.recorded settings start scan (sink, []) (.done summary)
      (after, calls)) :
    summary.records = scan.records.length ∧ summary.bytes = scan.size := by
  have filled := run.filled_of_done
  obtain ⟨accepted, -, keyed, -⟩ := run.of_done calm whole
  cases mode : settings.mode with
  | sequential =>
      obtain ⟨-, -, -, ends⟩ := run.of_sequential filled mode accepted
      have counted := ends keyed
      rw [whole] at counted
      cases counted
      exact ⟨rfl, rfl⟩
  | parallel =>
      rcases run.of_parallel calm whole filled mode with ⟨-, -, -, done⟩ | ⟨-, error, failed⟩
      · cases done
        exact ⟨rfl, rfl⟩
      · cases failed

end Indexes

end RecordStore
