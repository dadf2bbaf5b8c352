import RecordStore.Proofs.Pipeline.Entries
import RecordStore.Proofs.Pipeline.Report

/-!
Sources that break off.

A group that was not read to its end is never handed out, so behind a failed read the packages
are the first ones, as many as were full (`handedOut_of_unfinished`). Without cancelling, the
producer goes on to the end of the source, whatever that is, so the failed read is what a run
with workers reports; a run without workers gets there only if every record has a key.
-/

namespace RecordStore

/-! ### Full groups -/

namespace Layout

/-- A group is full when it ends within the things. -/
theorem length_group_eq_iff {α : Type} {size : Nat} (positive : 0 < size) (number : Nat)
    (things : List α) :
    (group size number things).length = size ↔ number < things.length / size := by
  rw [Nat.lt_iff_add_one_le, Nat.le_div_iff_mul_le positive, Nat.succ_mul]
  simp only [group, List.length_take, List.length_drop]
  omega

/-- There are at least as many groups as full ones. -/
theorem full_le_groupCount {size : Nat} (positive : 0 < size) (length : Nat) :
    length / size ≤ groupCount size length :=
  Nat.div_le_div_right (by omega)

theorem groupCount_mul {size : Nat} (positive : 0 < size) (number : Nat) :
    groupCount size (number * size) = number := by
  unfold groupCount
  rw [Nat.add_sub_assoc positive, Nat.mul_comm, Nat.mul_add_div positive,
    Nat.div_eq_of_lt (by omega), Nat.add_zero]

/-- A group among the first ones is cut from their things. -/
theorem group_take {α : Type} {size number count : Nat} (early : number < count)
    (things : List α) : group size number (things.take (count * size)) = group size number things := by
  have room : number * size + size ≤ count * size := by
    rw [← Nat.succ_mul]
    exact Nat.mul_le_mul_right size early
  rw [group, group, List.drop_take, List.take_take, Nat.min_eq_left (by omega)]

/-- The first full groups are those of the records in them. -/
theorem take_batches (keyOf : KeyOf) {size start count : Nat} {records : List Bytes}
    (positive : 0 < size) (full : count ≤ records.length / size) :
    (batches keyOf size start records).take count =
      batches keyOf size start (records.take (count * size)) := by
  have within : count * size ≤ records.length := (Nat.le_div_iff_mul_le positive).mp full
  have enough := Nat.le_trans full (full_le_groupCount positive records.length)
  rw [batches, batches, ← List.map_take, List.take_range, Nat.min_eq_left enough,
    List.length_take_of_le within, groupCount_mul positive]
  apply List.map_congr_left
  intro number early
  rw [← take_placed, group_take (List.mem_range.mp early)]

end Layout

/-- The numbers below a bound are the first ones. -/
theorem filter_range_lt {bound length : Nat} (within : bound ≤ length) :
    (List.range length).filter (· < bound) = List.range bound := by
  obtain ⟨more, rfl⟩ := Nat.exists_eq_add_of_le within
  rw [List.range_add, List.filter_append, List.filter_eq_self.mpr, List.filter_eq_nil_iff.mpr,
    List.append_nil]
  · intro number behind
    obtain ⟨step, -, rfl⟩ := List.mem_map.mp behind
    simp
  · intro number early
    exact decide_eq_true (List.mem_range.mp early)

/-- Of an input that was not read to its end the full packages are handed out. -/
theorem Package.handedOut_of_unfinished {size start : Nat} {scan : Scan} (positive : 0 < size)
    (unfinished : scan.ending ≠ .finished) :
    handedOut size start scan =
      (cut (size - 1) start scan.records).take (scan.records.length / size) := by
  have full (number : Nat) :
      ((Layout.group size number scan.records).length == size) =
        decide (number < scan.records.length / size) := by
    rw [Bool.eq_iff_iff, beq_iff_eq, decide_eq_true_iff]
    exact Layout.length_group_eq_iff positive number scan.records
  have enough := Layout.full_le_groupCount positive scan.records.length
  unfold handedOut
  split
  · rename_i finished
    exact absurd finished unfinished
  · dsimp only
    rw [Layout.cut_eq scan.records positive, List.filter_map, ← List.map_take, List.take_range,
      Nat.min_eq_left enough]
    congr 1
    rw [← filter_range_lt enough]
    exact List.filter_congr fun number _ => full number

/-! ### To the end of the source -/

namespace Pipeline

variable {σ : Type} {env : Environment σ} {packages : List Package} {workers : Nat} {sink : σ}
  {final : State (σ × List Call)}

/-- The producer of a run that drains goes on to the end of the source. -/
theorem Reaches.ended_of_drain
    (run : Reaches env.recorded (.initial packages workers (sink, [])) final)
    (staffed : 0 < workers) (calm : env.write.Calm) (finished : final.finished = true)
    (drains : env.policy = .drain) : final.producer = .ended (.ofEnding env.ending) := by
  obtain ⟨how, ended⟩ := exists_how_of_finished finished
  rcases run.end_of_producer staffed (run.not_panicked calm) ended with same | ⟨-, aborts, -⟩
  · rw [ended, same]
  · rw [drains] at aborts
    cases aborts

end Pipeline

section Broken

variable {σ : Type} {keyOf : KeyOf} {write : Writer σ} {settings : RunSettings}
  {start buffer : Nat} {source : Source} {sink after : σ} {calls : List Call} {scan : Scan}
  {outcome : Outcome Summary} {message : String}

/-- A run that drains reports a failed read, and its calls are the batches of the full groups. -/
theorem Indexes.of_failed_read (calm : write.Calm) (broken : scan.ending = .failed message)
    (filled : 0 < settings.batchSize) (parallel : settings.mode = .parallel)
    (drains : settings.onError = .drain)
    (run : Indexes keyOf write.recorded settings start scan (sink, []) outcome (after, calls)) :
    outcome = .failed (.io (.device message)) ∧
      (calls.map Call.batch).Perm
        (((Layout.batches keyOf settings.batchSize start scan.records).take
          (scan.records.length / settings.batchSize)).filter (· ≠ [])) := by
  obtain ⟨workers, final, admitted, reaches, finished, rfl, last⟩ :=
    run.exists_final filled parallel
  have called : final.calls = calls := (congrArg Prod.snd last).symm
  let env : Pipeline.Environment σ := ⟨keyOf, write, settings.onError, scan.ending⟩
  have reaches : Pipeline.Reaches env.recorded (.initial
      (Package.handedOut settings.batchSize start scan) workers (sink, [])) final := reaches
  have ended := reaches.ended_of_drain admitted.1 calm finished drains
  have failed : final.producer = .ended (.readFailed message) := by
    rw [ended]
    exact congrArg (fun ending => Pipeline.Producer.ended (.ofEnding ending)) broken
  refine ⟨Pipeline.outcome_of_readFailed failed (reaches.not_panicked calm), ?_⟩
  have handed :=
    reaches.perm_calls admitted.1 calm finished (reaches.running_of_drain drains)
  have unfinished : scan.ending ≠ .finished := by simp [broken]
  rwa [called, Package.handedOut_of_unfinished filled unfinished, List.map_take,
    Package.map_batch_cut keyOf start _ filled] at handed

/-- The single batches in front of the first record without a key. -/
theorem Pipeline.singles_of_first_fault {before rest : List Bytes} {record : Bytes} {error : Error}
    (keyed : ∀ earlier ∈ before, ∃ key, keyOf earlier = .ok key)
    (missing : keyOf record = .error error) :
    singles keyOf start (before ++ record :: rest) =
      (Layout.entries keyOf start before).map ([·]) := by
  induction before generalizing start with
  | nil => exact singles_cons_of_error missing
  | cons earlier before ih =>
      obtain ⟨⟨key, found⟩, others⟩ := List.forall_mem_cons.mp keyed
      rw [List.cons_append, singles_cons_of_ok found, ih others]
      simp [Layout.entries, Layout.placed, Layout.entryOf, found]

/-- The first record without a key decides what goes wrong. -/
theorem Layout.findSome?_of_first_fault {before rest : List Bytes} {record : Bytes} {error : Error}
    (keyed : ∀ earlier ∈ before, ∃ key, keyOf earlier = .ok key)
    (missing : keyOf record = .error error) :
    (before ++ record :: rest).findSome? (fault? keyOf) = some error := by
  have fault : fault? keyOf record = some error := by simp [fault?, missing]
  rw [List.findSome?_append, findSome?_fault_eq_none_iff.mpr keyed, List.findSome?_cons, fault]
  rfl

/-- Settings without a batch size are refused before anything is read. -/
theorem RunSettings.validate_of_empty (empty : settings.batchSize = 0) :
    settings.validate = .error (.invalidSettings .emptyBatch) :=
  if_pos empty

/-- Behind a failed read, a run that drains has written the groups that were complete, each up to
its first record without a key, and nothing of the group that was not; it reports the failed read
whatever else went wrong. A run without workers has written the entries of all records, one by
one, and reports the failed read, or those in front of the first record without a key, and then it
reports what is wrong with that one. -/
theorem failed_read_keeps_complete_groups (calm : write.Calm)
    (broken : source.ending = .failed message)
    (run : Indexes keyOf write.recorded settings start (source.records buffer) (sink, []) outcome
      (after, calls))
    (accepted : ∀ call ∈ calls, call.verdict = .accepted) :
    (settings.batchSize = 0 →
      outcome = .failed (.invalidSettings .emptyBatch) ∧ after = sink ∧ calls = []) ∧
    (0 < settings.batchSize → settings.mode = .parallel → settings.onError = .drain →
      outcome = .failed (.io (.device message)) ∧
      (calls.map Call.batch).Perm
        (((Layout.batches keyOf settings.batchSize start (Bytes.lines source.bytes)).take
          (source.bytes.count Bytes.newline / settings.batchSize)).filter (· ≠ [])) ∧
      ∀ call ∈ calls, ∀ entry ∈ call.batch,
        entry ∈ Layout.entries keyOf start ((Bytes.lines source.bytes).take
          (source.bytes.count Bytes.newline / settings.batchSize * settings.batchSize))) ∧
    (0 < settings.batchSize → settings.mode = .sequential →
      ((∀ record ∈ Bytes.lines source.bytes, ∃ key, keyOf record = .ok key) →
        outcome = .failed (.io (.device message)) ∧
        calls.length = source.bytes.count Bytes.newline ∧
        calls.map Call.batch =
          (Layout.entries keyOf start (Bytes.lines source.bytes)).map ([·])) ∧
      ∀ before record rest error, Bytes.lines source.bytes = before ++ record :: rest →
        (∀ earlier ∈ before, ∃ key, keyOf earlier = .ok key) → keyOf record = .error error →
        outcome = .failed error ∧
        calls.map Call.batch = (Layout.entries keyOf start before).map ([·])) := by
  rw [Source.records_eq] at run
  refine ⟨?_, ?_, ?_⟩
  · intro empty
    obtain ⟨failed, same⟩ := run.of_invalid (RunSettings.validate_of_empty empty)
    cases same
    exact ⟨failed, rfl, rfl⟩
  · intro filled parallel drains
    obtain ⟨failed, handed⟩ := run.of_failed_read calm broken filled parallel drains
    rw [← Bytes.length_lines]
    refine ⟨failed, handed, ?_⟩
    intro call made entry inside
    have member := (List.mem_filter.mp (handed.subset (List.mem_map_of_mem made))).1
    rw [Layout.take_batches keyOf filled (Nat.le_refl _)] at member
    exact Layout.mem_entries_of_mem_batches filled member inside
  · intro filled sequential
    obtain ⟨-, batches, fails, ends⟩ := run.of_sequential filled sequential accepted
    constructor
    · intro keyed
      have clean := Layout.findSome?_fault_eq_none_iff.mpr keyed
      have same : calls.map Call.batch =
          (Layout.entries keyOf start (Bytes.lines source.bytes)).map ([·]) := by
        rw [batches, Pipeline.singles, Layout.entriesUpTo_placed clean]
      have length := congrArg List.length same
      rw [List.length_map, List.length_map, Layout.length_entries clean, Bytes.length_lines]
        at length
      refine ⟨?_, length, same⟩
      rw [ends clean, broken]
      rfl
    · intro before record rest error split keyed missing
      dsimp only at batches fails
      rw [split] at batches fails
      exact ⟨fails error (Layout.findSome?_of_first_fault keyed missing),
        batches.trans (Pipeline.singles_of_first_fault keyed missing)⟩

/-- The source fails inside the sixth record, and the second record has no key. With workers the two
full groups are written, the first one up to that record, and the failed read is reported. Without
workers the first record is written, and the missing key is reported. -/
theorem failed_read_keeps_complete_groups_behind_a_fault :
    let keyOf : KeyOf := fun record =>
      if record = [120, 10] then .error (.keyNotFound "id" "x") else .ok "k"
    let write : Writer Nat := fun batch count => (.accepted, count + batch.length)
    let source : Source :=
      [.data [49, 10, 120], .interrupted, .data [10, 51, 10, 52, 10, 53, 10, 54], .failed "gone"]
    (∃ after calls, Indexes keyOf write.recorded ⟨2, 3, .parallel, .drain⟩ 5 (source.records 1)
        (0, []) (.failed (.io (.device "gone"))) (after, calls) ∧
      (calls.map Call.batch).Perm [[⟨"k", 5, 2⟩], [⟨"k", 9, 2⟩, ⟨"k", 11, 2⟩]]) ∧
    ∃ after calls, Indexes keyOf write.recorded ⟨2, 3, .sequential, .drain⟩ 5 (source.records 1)
        (0, []) (.failed (.keyNotFound "id" "x")) (after, calls) ∧
      calls.map Call.batch = [[⟨"k", 5, 2⟩]] := by
  intro keyOf write source
  have calm : write.Calm := fun batch count message panicked => by cases panicked
  have accepted {settings : RunSettings} {outcome : Outcome Summary} {after : Nat}
      {calls : List Call} (run : Indexes keyOf write.recorded settings 5 (source.records 1) (0, [])
        outcome (after, calls)) : ∀ call ∈ calls, call.verdict = .accepted := by
    have leads := run.leads_entries.1
    clear run
    induction leads with
    | none => simp
    | call _ wrote ih =>
        cases wrote
        intro call made
        rcases List.mem_append.mp made with earlier | last
        · exact ih call earlier
        · rw [List.mem_singleton.mp last]
  have lines : Bytes.lines source.bytes = [[49, 10], [120, 10], [51, 10], [52, 10], [53, 10]] := by
    simp [source, Source.bytes, Bytes.lines, Bytes.lines.go, Bytes.cutLine, Bytes.newline]
  have groups : ((Layout.batches keyOf 2 5 (Bytes.lines source.bytes)).take
      (source.bytes.count Bytes.newline / 2)).filter (· ≠ []) =
      [[⟨"k", 5, 2⟩], [⟨"k", 9, 2⟩, ⟨"k", 11, 2⟩]] := by
    rw [← Bytes.length_lines, lines]
    simp [keyOf, Layout.batches, Layout.groupCount, Layout.group, Layout.placed,
      Layout.entriesUpTo, Layout.entryOf, List.range_succ]
  obtain ⟨outcome, after, calls, run⟩ : ∃ outcome after calls, Indexes keyOf write.recorded
      ⟨2, 3, .parallel, .drain⟩ 5 (source.records 1) (0, []) outcome (after, calls) :=
    ⟨_, _, _, indexes_index _ _ _ _ _ _⟩
  obtain ⟨outcome', after', calls', run'⟩ : ∃ outcome after calls, Indexes keyOf write.recorded
      ⟨2, 3, .sequential, .drain⟩ 5 (source.records 1) (0, []) outcome (after, calls) :=
    ⟨_, _, _, indexes_index _ _ _ _ _ _⟩
  obtain ⟨-, drained, -⟩ := failed_read_keeps_complete_groups calm rfl run (accepted run)
  obtain ⟨-, -, single⟩ := failed_read_keeps_complete_groups calm rfl run' (accepted run')
  obtain ⟨rfl, handed, -⟩ := drained (by decide) rfl rfl
  obtain ⟨rfl, first⟩ := (single (by decide) rfl).2 [[49, 10]] [120, 10] _ _ lines
    (fun earlier member => ⟨"k", by rw [List.mem_singleton.mp member]; rfl⟩) rfl
  exact ⟨⟨after, calls, run, groups ▸ handed⟩, after', calls', run', first⟩

end Broken

end RecordStore
