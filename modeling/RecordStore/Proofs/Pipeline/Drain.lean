import RecordStore.Proofs.Lines
import RecordStore.Proofs.Pipeline.Checked

/-!
A run that drains.

Under the policy `drain` nothing is ever cancelled. Every group of an input reaches the
writer once, unless it has no entry, and the run succeeds just when no record lacks a
key and no batch is refused. That takes an offset behind the last record that is a word; where it is
none (`drain_loses_a_group_at_the_end_of_the_words`) a group may be lost.
-/

namespace RecordStore

namespace Pipeline

variable {σ : Type}

/-! ### What a finished run comes to -/

/-- The verdict of a call is the writer's, which does not panic. -/
theorem not_panicked_of_leads {write : Writer σ} {origin sink : σ} {calls : List Call}
    (calm : write.Calm) (leads : write.Leads origin calls sink) {call : Call}
    (made : call ∈ calls) (message : String) : call.verdict ≠ .panicked message := by
  induction leads with
  | none => cases made
  | @call calls before after batch verdict _ wrote ih =>
      rcases List.mem_append.mp made with earlier | last
      · exact ih earlier
      · rw [List.mem_singleton.mp last]
        intro panicked
        apply calm batch before message
        rw [wrote]
        exact panicked

/-- Without a panic and a failed read, the recorded error decides. -/
theorem outcome_of_ended {scan : Scan} {state : State σ} {how : ProducerEnd}
    (ended : state.producer = .ended how) (orderly : how = .exhausted ∨ how = .cancelled)
    (calm : state.collector ≠ .panicked) :
    outcome scan state =
      match state.firstError with
      | some error => .failed error
      | none => .done ⟨scan.records.length, scan.size, state.sent, state.written⟩ := by
  unfold outcome
  split
  · rename_i panicked
    rcases orderly with rfl | rfl <;> simp [ended] at panicked
  · exact absurd ‹_› calm
  · rename_i failed _
    rcases orderly with rfl | rfl <;> simp [ended] at failed
  · rename_i stranded _
    rcases orderly with rfl | rfl <;> simp [ended] at stranded
  · rfl

section Drain

variable {env : Environment σ} {packages : List Package} {workers : Nat} {sink : σ}
  {final : State (σ × List Call)}

/-- With everybody at their end, nothing was lost of a run that was not cancelled. -/
theorem Reaches.perm_calls
    (run : Reaches env.recorded (.initial packages workers (sink, [])) final)
    (some : 0 < workers) (calm : env.write.Calm) (finished : final.finished = true)
    (running : final.cancelled = false) :
    (final.calls.map Call.batch).Perm
      ((packages.map (Package.batch env.keyOf)).filter (· ≠ [])) := by
  obtain ⟨lost, whole, excused⟩ := run.balanced_of_finished some finished
  have empty : lost.filter (· ≠ []) = 0 := by
    apply Multiset.filter_eq_nil.mpr
    intro batch member filled
    rcases excused batch member with empty | cancelled | panicked
    · exact filled empty
    · rw [running] at cancelled
      cases cancelled
    · exact run.not_panicked calm panicked
  have filled : (final.calls.map Call.batch).filter (· ≠ []) = final.calls.map Call.batch := by
    apply List.filter_eq_self.mpr
    intro batch member
    obtain ⟨call, made, rfl⟩ := List.mem_map.mp member
    exact decide_eq_true (run.batch_ne_nil.1 call made)
  have same := congrArg (Multiset.filter (· ≠ [])) whole
  rw [Multiset.filter_add, empty, add_zero, Multiset.map_coe, Multiset.filter_coe,
    Multiset.filter_coe, filled] at same
  exact (Multiset.coe_eq_coe.mp same).symm

/-- While no error is recorded, every call was accepted. -/
theorem Reaches.accepted_of_no_error
    (run : Reaches env.recorded (.initial packages workers (sink, [])) final)
    (some : 0 < workers) (calm : env.write.Calm) (clean : final.firstError = none) :
    ∀ call ∈ final.calls, call.verdict = .accepted := by
  intro call made
  cases given : call.verdict with
  | accepted => rfl
  | refused error => exact absurd given ((run.of_no_error some clean).1 call made error)
  | panicked message => exact absurd given (not_panicked_of_leads calm run.leads made message)

/-- No error is recorded just when every package is without a fault and every call was accepted. -/
theorem Reaches.firstError_eq_none_iff
    (run : Reaches env.recorded (.initial packages workers (sink, [])) final)
    (some : 0 < workers) (calm : env.write.Calm) (finished : final.finished = true) :
    final.firstError = none ↔ (∀ package ∈ packages, package.fault? env.keyOf = none) ∧
      ∀ call ∈ final.calls, call.verdict = .accepted := by
  constructor
  · intro clean
    refine ⟨?_, run.accepted_of_no_error some calm clean⟩
    intro package member
    by_contra faulty
    have waits := (run.of_no_error some clean).2 (run.not_panicked calm) package member faulty
    simp [pending_of_finished finished] at waits
  · rintro ⟨clean, accepted⟩
    cases recorded : final.firstError with
    | none => rfl
    | some error =>
        rcases run.of_firstError recorded with ⟨package, member, faulty⟩ | ⟨call, made, refused⟩
        · rw [clean package member] at faulty
          cases faulty
        · rw [accepted call made] at refused
          cases refused

/-- The producer of an input that was read to its end handed out everything or was cancelled. -/
theorem Reaches.exists_orderly_end
    (run : Reaches env.recorded (.initial packages workers (sink, [])) final)
    (some : 0 < workers) (calm : env.write.Calm) (finished : final.finished = true)
    (whole : env.ending = .finished) :
    ∃ how, final.producer = .ended how ∧
      (how = .exhausted ∨ (how = .cancelled ∧ final.cancelled = true)) := by
  obtain ⟨how, ended⟩ := exists_how_of_finished finished
  refine ⟨how, ended, ?_⟩
  rcases run.how_ended some ended with rfl | cancelled | ⟨-, panicked⟩
  · rw [Environment.recorded_ending, whole]
    exact .inl rfl
  · exact .inr cancelled
  · exact absurd panicked (run.not_panicked calm)

/-- An uncancelled producer hands out everything of an input that was read to its end. -/
theorem Reaches.exhausted
    (run : Reaches env.recorded (.initial packages workers (sink, [])) final)
    (some : 0 < workers) (calm : env.write.Calm) (finished : final.finished = true)
    (whole : env.ending = .finished) (running : final.cancelled = false) :
    final.producer = .ended .exhausted := by
  obtain ⟨how, ended, rfl | ⟨-, cancelled⟩⟩ := run.exists_orderly_end some calm finished whole
  · exact ended
  · rw [running] at cancelled
    cases cancelled

/-- Nothing is cancelled while no error is recorded. -/
theorem Reaches.running_of_no_error {τ : Type} {env : Environment τ} {origin : τ} {state : State τ}
    (run : Reaches env (.initial packages workers origin) state) (clean : state.firstError = none) :
    state.cancelled = false := by
  by_contra cancelled
  exact (run.orderly.cancelled (eq_true_of_ne_false cancelled)).1 clean

/-- Nothing is cancelled under the policy `drain`. -/
theorem Reaches.running_of_drain {τ : Type} {env : Environment τ} {origin : τ} {state : State τ}
    (run : Reaches env (.initial packages workers origin) state) (drains : env.policy = .drain) :
    state.cancelled = false := by
  by_contra cancelled
  have aborts := (run.orderly.cancelled (eq_true_of_ne_false cancelled)).2
  rw [drains] at aborts
  cases aborts

/-- What a run over an input that was read to its end comes to: the first error that was recorded,
or else everything was handed out and counts. -/
theorem Reaches.outcome_eq
    (run : Reaches env.recorded (.initial packages workers (sink, [])) final)
    (staffed : 0 < workers) (calm : env.write.Calm) (finished : final.finished = true)
    (whole : env.ending = .finished) (scan : Scan) :
    outcome scan final =
      match final.firstError with
      | some error => .failed error
      | none => .done ⟨scan.records.length, scan.size, packages.length,
          (final.calls.flatMap Call.accepted).length⟩ := by
  obtain ⟨how, ended, orderly⟩ := run.exists_orderly_end staffed calm finished whole
  rw [outcome_of_ended ended (orderly.imp_right And.left) (run.not_panicked calm), run.written_eq]
  cases recorded : final.firstError with
  | some error => rfl
  | none =>
      have exhausted := run.exhausted staffed calm finished whole (run.running_of_no_error recorded)
      have sent := run.sent_add_pending fun how ended => by
        rw [exhausted] at ended
        cases ended
        exact ⟨by decide, by decide⟩
      rw [exhausted] at sent
      rw [← sent]
      rfl

end Drain

end Pipeline

/-- The packages of an input that was read to its end are all that are cut off. -/
theorem Package.handedOut_of_finished {size start : Nat} {scan : Scan}
    (whole : scan.ending = .finished) :
    Package.handedOut size start scan = Package.cut (size - 1) start scan.records := by
  simp [Package.handedOut, whole]

/-- Where every call is accepted, all their entries are. -/
theorem flatMap_accepted {calls : List Call}
    (accepted : ∀ call ∈ calls, call.verdict = .accepted) :
    calls.flatMap Call.accepted = calls.flatMap Call.batch := by
  refine List.flatMap_congr ?_
  intro call made
  simp [Call.accepted, accepted call made]

/-- Where every call is accepted, each entry counts once. -/
theorem length_accepted {calls : List Call} (accepted : ∀ call ∈ calls, call.verdict = .accepted) :
    (calls.flatMap Call.accepted).length = (calls.map Call.batch).flatten.length := by
  rw [flatMap_accepted accepted, List.flatMap_def]

section Exactly

variable {σ : Type} {keyOf : KeyOf} {write : Writer σ} {settings : RunSettings}
  {start buffer : Nat} {source : Source} {sink after : σ} {calls : List Call}
  {scan : Scan} {outcome : Outcome Summary}

/-- With workers, indexing an input that was read to its end is a run over all its packages. -/
theorem Indexes.exists_finished (whole : scan.ending = .finished)
    (filled : 0 < settings.batchSize) (parallel : settings.mode = .parallel)
    (run : Indexes keyOf write.recorded settings start scan (sink, []) outcome (after, calls)) :
    ∃ workers, ∃ final : Pipeline.State (σ × List Call), settings.Admits workers ∧
      Pipeline.Reaches
        (Pipeline.Environment.recorded ⟨keyOf, write, settings.onError, scan.ending⟩)
        (.initial (Package.cut (settings.batchSize - 1) start scan.records) workers (sink, []))
        final ∧
      final.finished = true ∧ outcome = Pipeline.outcome scan final ∧ after = final.sink.1 ∧
      calls = final.calls := by
  obtain ⟨workers, final, admitted, reaches, finished, ends, last⟩ :=
    run.exists_final filled parallel
  rw [Package.handedOut_of_finished whole] at reaches
  exact ⟨workers, final, admitted, reaches, finished, ends, congrArg Prod.fst last,
    congrArg Prod.snd last⟩

/-- The packages of an input are without a fault just when its records are. -/
theorem Package.forall_fault?_cut_iff {size : Nat} (keyOf : KeyOf) (start : Nat)
    (records : List Bytes) (filled : 0 < size) :
    (∀ package ∈ Package.cut (size - 1) start records, package.fault? keyOf = none) ↔
      records.findSome? (Layout.fault? keyOf) = none := by
  rw [← Layout.findSome?_cut keyOf records filled, List.findSome?_eq_none_iff]
  rfl

/-- How a run with workers ends: it succeeds just when no record lacks a key and no call is refused,
and then its calls are the batches of the groups. -/
theorem Indexes.of_parallel (calm : write.Calm) (whole : scan.ending = .finished)
    (filled : 0 < settings.batchSize) (parallel : settings.mode = .parallel)
    (run : Indexes keyOf write.recorded settings start scan (sink, []) outcome (after, calls)) :
    scan.records.findSome? (Layout.fault? keyOf) = none ∧
        (∀ call ∈ calls, call.verdict = .accepted) ∧
        (calls.map Call.batch).Perm
          ((Layout.batches keyOf settings.batchSize start scan.records).filter (· ≠ [])) ∧
        outcome = .done ⟨scan.records.length, scan.size,
          Layout.groupCount settings.batchSize scan.records.length,
          (calls.flatMap Call.accepted).length⟩ ∨
      ¬(scan.records.findSome? (Layout.fault? keyOf) = none ∧
        ∀ call ∈ calls, call.verdict = .accepted) ∧ ∃ error, outcome = .failed error := by
  obtain ⟨workers, final, admitted, reaches, finished, rfl, -, rfl⟩ :=
    run.exists_finished whole filled parallel
  have ends := reaches.outcome_eq admitted.1 calm finished whole scan
  have clean := reaches.firstError_eq_none_iff admitted.1 calm finished
  rw [Package.forall_fault?_cut_iff keyOf start scan.records filled] at clean
  cases recorded : final.firstError with
  | none =>
      obtain ⟨unfailing, accepted⟩ := clean.mp recorded
      have handed :=
        reaches.perm_calls admitted.1 calm finished (reaches.running_of_no_error recorded)
      refine .inl ⟨unfailing, accepted, ?_, ?_⟩
      · rwa [Package.map_batch_cut keyOf start _ filled] at handed
      · rw [ends, recorded, Layout.length_cut scan.records filled]
  | some error =>
      refine .inr ⟨?_, error, by rw [ends, recorded]⟩
      intro all
      rw [clean.mpr all] at recorded
      cases recorded

/-- How a run that drains ends: its calls are the batches of the groups, and it succeeds just when
nothing went wrong. -/
theorem Indexes.of_drain (calm : write.Calm) (whole : scan.ending = .finished)
    (filled : 0 < settings.batchSize) (parallel : settings.mode = .parallel)
    (drains : settings.onError = .drain)
    (run : Indexes keyOf write.recorded settings start scan (sink, []) outcome (after, calls)) :
    (calls.map Call.batch).Perm
        ((Layout.batches keyOf settings.batchSize start scan.records).filter (· ≠ [])) ∧
      (scan.records.findSome? (Layout.fault? keyOf) = none ∧
          (∀ call ∈ calls, call.verdict = .accepted) ∧
          outcome = .done ⟨scan.records.length, scan.size,
            Layout.groupCount settings.batchSize scan.records.length,
            (calls.flatMap Call.accepted).length⟩ ∨
        ¬(scan.records.findSome? (Layout.fault? keyOf) = none ∧
          ∀ call ∈ calls, call.verdict = .accepted) ∧ ∃ error, outcome = .failed error) := by
  have ends := run.of_parallel calm whole filled parallel
  obtain ⟨workers, final, admitted, reaches, finished, rfl, -, rfl⟩ :=
    run.exists_finished whole filled parallel
  refine ⟨?_, ends.imp_left fun ⟨keyed, accepted, _, done⟩ => ⟨keyed, accepted, done⟩⟩
  rw [← Package.map_batch_cut keyOf start _ filled]
  exact reaches.perm_calls admitted.1 calm finished (reaches.running_of_drain drains)

/-- A run that drains an input behind whose records the offset is a word calls its writer once with
every group of records: with the entries in front of the group's first record without a key, unless
there are none. It succeeds just when every record has a key and every call was accepted, and then
it counts what there is. -/
theorem drain_writes_each_group_once {start : UInt64} (calm : write.Calm)
    (whole : source.ending = .finished) (filled : 0 < settings.batchSize)
    (parallel : settings.mode = .parallel) (drains : settings.onError = .drain)
    (fits : start.toNat + (Bytes.throughLastNewline source.bytes).length < UInt64.size)
    (run : Checked.Indexes keyOf write.recorded settings start (source.records buffer) (sink, [])
      outcome (after, calls)) :
    (calls.map Call.batch).Perm
        ((Layout.batches keyOf settings.batchSize start.toNat (Bytes.lines source.bytes)).filter
          (· ≠ [])) ∧
      (∀ call ∈ calls, ∀ entry ∈ call.batch, ∃ before record rest,
        Bytes.lines source.bytes = before ++ record :: rest ∧ keyOf record = .ok entry.key ∧
          entry.offset = start.toNat + before.flatten.length ∧ entry.length = record.length) ∧
      ((∃ summary, outcome = .done summary) ↔
        (∀ record ∈ Bytes.lines source.bytes, ∃ key, keyOf record = .ok key) ∧
          ∀ call ∈ calls, call.verdict = .accepted) ∧
      ∀ summary, outcome = .done summary →
        summary.records = source.bytes.count Bytes.newline ∧
        summary.written = source.bytes.count Bytes.newline ∧
        summary.bytes = (Bytes.throughLastNewline source.bytes).length ∧
        summary.packages =
          Layout.groupCount settings.batchSize (source.bytes.count Bytes.newline) := by
  rw [← Bytes.flatten_lines] at fits
  rw [Source.records_eq, Checked.indexes_iff fits] at run
  obtain ⟨handed, ends⟩ := run.of_drain calm whole filled parallel drains
  refine ⟨handed, ?_, ?_, ?_⟩
  · intro call made entry inside
    have batch : call.batch ∈ _ := handed.subset (List.mem_map_of_mem made)
    exact Layout.mem_entries_iff.mp
      (Layout.mem_entries_of_mem_batches filled (List.mem_filter.mp batch).1 inside)
  · rw [← Layout.findSome?_fault_eq_none_iff]
    rcases ends with ⟨keyed, accepted, done⟩ | ⟨faulty, error, failed⟩
    · exact ⟨fun _ => ⟨keyed, accepted⟩, fun _ => ⟨_, done⟩⟩
    · refine ⟨?_, fun all => absurd all faulty⟩
      rintro ⟨summary, done⟩
      rw [failed] at done
      cases done
  · intro summary done
    rcases ends with ⟨keyed, accepted, same⟩ | ⟨-, error, failed⟩
    · rw [same] at done
      cases done
      have entries : ((calls.map Call.batch).flatten).length =
          (Bytes.lines source.bytes).length := by
        rw [handed.flatten.length_eq, List.flatten_filter_ne_nil,
          Layout.flatten_batches keyOf filled keyed, Layout.length_entries keyed]
      refine ⟨Bytes.length_lines _, ?_, ?_, ?_⟩
      · rw [length_accepted accepted, entries, Bytes.length_lines]
      · rw [← Bytes.flatten_lines]
        rfl
      · rw [Bytes.length_lines]
    · rw [failed] at done
      cases done

/-- With two records in a group and none that makes a key of the second record, the other two are
handed over in two batches, and the run fails. -/
theorem drain_writes_each_group_once_around_a_fault :
    let keyOf : KeyOf := fun record =>
      if record = [120, 10] then .error (.keyNotFound "id" "x") else .ok "k"
    let write : Writer Nat := fun batch count => (.accepted, count + batch.length)
    let source : Source := [.data [49, 10, 120], .interrupted, .data [10, 51, 10, 52]]
    ∃ outcome after calls,
      Checked.Indexes keyOf write.recorded ⟨2, 3, .parallel, .drain⟩ 5 (source.records 1) (0, [])
        outcome (after, calls) ∧
      (calls.map Call.batch).Perm [[⟨"k", 5, 2⟩], [⟨"k", 9, 2⟩]] ∧
      ¬∃ summary, outcome = .done summary := by
  intro keyOf write source
  have run := Checked.indexes_index keyOf write.recorded ⟨2, 3, .parallel, .drain⟩ 5
    (source.records 1) (0, [])
  have calm : write.Calm := fun batch count message panicked => by cases panicked
  obtain ⟨handed, -, ends, -⟩ :=
    drain_writes_each_group_once calm rfl (by decide) rfl rfl (by decide) run
  have groups : (Layout.batches keyOf 2 5 (Bytes.lines source.bytes)).filter (· ≠ []) =
      [[⟨"k", 5, 2⟩], [⟨"k", 9, 2⟩]] := by
    simp [source, keyOf, Source.bytes, Bytes.lines, Bytes.lines.go, Bytes.cutLine, Bytes.newline,
      Layout.batches, Layout.groupCount, Layout.group, Layout.placed, Layout.entriesUpTo,
      Layout.entryOf, List.range_succ]
  refine ⟨_, _, _, run, groups ▸ handed, ?_⟩
  intro done
  obtain ⟨key, found⟩ := (ends.mp done).1 [120, 10] (by decide)
  cases found

/-- When two records end where the words do, the producer panics behind the package of the second
one and the worker at the record itself: its group is lost, though its offset is a word and it has a
key. -/
theorem drain_loses_a_group_at_the_end_of_the_words :
    let keyOf : KeyOf := fun _ => .ok "k"
    let write : Writer Nat := fun batch count => (.accepted, count + batch.length)
    let source : Source := [.data [97, 10, 98, 10]]
    let start : UInt64 := 18446744073709551612
    ∃ outcome after calls,
      Checked.Indexes keyOf write.recorded ⟨1, 1, .parallel, .drain⟩ start (source.records 1)
        (0, []) outcome (after, calls) ∧
      ¬(calls.map Call.batch).Perm
        ((Layout.batches keyOf 1 start.toNat (Bytes.lines source.bytes)).filter (· ≠ [])) ∧
      ¬((∃ summary, outcome = .done summary) ↔
        (∀ record ∈ Bytes.lines source.bytes, ∃ key, keyOf record = .ok key) ∧
          ∀ call ∈ calls, call.verdict = .accepted) := by
  intro keyOf write source start
  have lines : Bytes.lines source.bytes = [[97, 10], [98, 10]] := by
    simp [source, Source.bytes, Bytes.lines, Bytes.lines.go, Bytes.cutLine, Bytes.newline]
  have packages : Package.handedOut 1 start.toNat (source.records 1) =
      [⟨18446744073709551612, [[97, 10]]⟩, ⟨18446744073709551614, [[98, 10]]⟩] := by
    rw [Source.records_eq, lines]
    simp [source, start, Source.ending, Package.handedOut, Package.cut, Package.size]
  have breaks : Checked.index keyOf write.recorded ⟨1, 1, .parallel, .drain⟩ start
      (source.records 1) (0, []) =
        (.panicked Checked.overflow, 1, [⟨[⟨"k", 18446744073709551612, 2⟩], .accepted⟩]) := by
    show Checked.runParallel _ _ _ _ _ _ = _
    simp only [Checked.runParallel, packages]
    rfl
  have run := Checked.indexes_index keyOf write.recorded ⟨1, 1, .parallel, .drain⟩ start
    (source.records 1) (0, [])
  rw [breaks] at run
  refine ⟨_, _, _, run, ?_, ?_⟩
  · rw [lines]
    intro handed
    have same := handed.length_eq
    simp [start, keyOf, Layout.batches, Layout.groupCount, Layout.group, Layout.placed,
      Layout.entriesUpTo, Layout.entryOf, List.range_succ] at same
  · intro succeeds
    obtain ⟨summary, done⟩ := succeeds.mpr ⟨fun _ _ => ⟨_, rfl⟩, by simp⟩
    cases done

end Exactly

end RecordStore
