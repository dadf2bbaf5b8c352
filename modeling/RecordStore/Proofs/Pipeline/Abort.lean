import RecordStore.Proofs.Pipeline.Entries

/-!
A run that aborts.

Under the policy `abort` whoever records an error cancels the run before it goes on. So as long
as a run is not cancelled every batch that is handed in holds a whole package
(`Reaches.whole_of_running`), and afterwards the writer gets at most the batch that it is being
called with (`Reaches.calls_of_cancelled`). Whether such a run succeeds does not depend on its
schedule, nor on the policy.
-/

namespace RecordStore

/-- A writer that takes or refuses a batch for what it holds, whatever it was handed before. -/
def Writer.Judges {σ : Type} (write : Writer σ) (refusal? : List Entry → Option Error) : Prop :=
  ∀ batch sink, (write batch sink).1 =
    match refusal? batch with
    | none => .accepted
    | some error => .refused error

section Judges

variable {σ : Type} {write : Writer σ} {refusal? : List Entry → Option Error}

theorem Writer.Judges.calm (judges : write.Judges refusal?) : write.Calm := by
  intro batch sink message panicked
  rw [judges batch sink] at panicked
  split at panicked <;> cases panicked

/-- A call is accepted for what its batch holds. -/
theorem Writer.Judges.accepted_iff (judges : write.Judges refusal?) {origin sink : σ}
    {calls : List Call} (leads : write.Leads origin calls sink) {call : Call}
    (made : call ∈ calls) : call.verdict = .accepted ↔ refusal? call.batch = none := by
  induction leads with
  | none => cases made
  | @call calls before after batch verdict _ wrote ih =>
      rcases List.mem_append.mp made with earlier | last
      · exact ih earlier
      · rw [List.mem_singleton.mp last]
        have same : verdict = (write batch before).1 := by rw [wrote]
        rw [same, judges batch before]
        cases refusal? batch <;> simp

end Judges

/-- A group of an input as a package. -/
def Package.ofGroup (size start : Nat) (records : List Bytes) (number : Nat) : Package :=
  ⟨start + (records.take (number * size)).flatten.length, Layout.group size number records⟩

namespace Package

variable {keyOf : KeyOf} {size start number : Nat} {records : List Bytes}

theorem cut_eq_map_ofGroup (start : Nat) (records : List Bytes) (positive : 0 < size) :
    cut (size - 1) start records =
      (List.range (Layout.groupCount size records.length)).map (ofGroup size start records) :=
  Layout.cut_eq records positive

theorem fault?_ofGroup :
    (ofGroup size start records number).fault? keyOf =
      (Layout.group size number records).findSome? (Layout.fault? keyOf) := by
  rw [fault?, entries, Layout.entriesFrom_eq]
  rfl

/-- A group without a fault is handed over whole. -/
theorem batch_ofGroup (clean : (ofGroup size start records number).fault? keyOf = none) :
    (ofGroup size start records number).batch keyOf =
      Layout.groupEntries keyOf size start records number := by
  rw [batch, entries, ofGroup, Layout.entriesFrom_eq, ← Layout.group_placed]
  exact Layout.entriesUpTo_group (fault?_ofGroup.symm.trans clean)

theorem records_ne_nil_of_mem_cut (positive : 0 < size) {package : Package}
    (member : package ∈ cut (size - 1) start records) : package.records ≠ [] := by
  rw [cut_eq_map_ofGroup start records positive] at member
  obtain ⟨number, inside, rfl⟩ := List.mem_map.mp member
  exact Layout.group_ne_nil (List.mem_range.mp inside)

/-- A package without a fault has an entry for every record. -/
theorem batch_ne_nil {package : Package} (clean : package.fault? keyOf = none)
    (filled : package.records ≠ []) : package.batch keyOf ≠ [] := by
  rw [fault?, entries, Layout.entriesFrom_eq] at clean
  rw [batch, entries, Layout.entriesFrom_eq, Layout.entriesUpTo_placed clean,
    ← List.length_pos_iff, Layout.length_entries clean]
  exact List.length_pos_iff.mpr filled

end Package

/-- Lists that are not empty and have nothing in common are all different. -/
theorem nodup_of_flatten {α : Type} {lists : List (List α)} (distinct : lists.flatten.Nodup)
    (filled : ∀ list ∈ lists, list ≠ []) : lists.Nodup := by
  refine (List.nodup_flatten.mp distinct).2.imp_of_mem ?_
  intro list other member _ apart same
  obtain ⟨thing, inside⟩ := List.exists_mem_of_ne_nil list (filled list member)
  exact apart inside (same ▸ inside)

namespace Pipeline

/-- Whether a batch holds all entries of one of the packages, none of whose records lacks a key. -/
def Whole (keyOf : KeyOf) (packages : List Package) (batch : List Entry) : Prop :=
  ∃ package ∈ packages, package.fault? keyOf = none ∧ package.batch keyOf = batch

/-- The batch that the writer is being called with. -/
def Collector.underway : Collector → List (List Entry)
  | .writing batch => [batch]
  | _ => []

theorem underway_of_finished {σ : Type} {state : State σ} (finished : state.finished = true) :
    state.collector.underway = [] := by
  cases collector : state.collector with
  | writing batch => simp [State.finished, State.collectorLeft, collector] at finished
  | _ => rfl

section Abort

variable {σ : Type} {env : Environment σ} {packages : List Package} {workers : Nat} {sink : σ}

/-! ### Recording and cancelling -/

/-- The first error that is recorded stays. -/
theorem Reaches.firstError_eq {middle last : State σ} (run : Reaches env middle last)
    {error : Error} (recorded : middle.firstError = some error) : last.firstError = some error := by
  refine run.invariant (P := fun state => state.firstError = some error) recorded ?_
  intro before after _ kept transition
  cases transition with
  | falter | refuse => simp [State.record, kept]
  | _ => exact kept

/-- A cancelled run calls its writer at most with the batch that it was being called with. -/
theorem Reaches.calls_of_cancelled {middle last : State (σ × List Call)}
    (run : Reaches env.recorded middle last) (cancelled : middle.cancelled = true) :
    last.cancelled = true ∧
      (last.calls = middle.calls ∧
          (∀ batch, last.collector = .writing batch → middle.collector = .writing batch) ∨
        ∃ batch verdict, middle.collector = .writing batch ∧
          last.calls = middle.calls ++ [⟨batch, verdict⟩] ∧
          ∀ other, last.collector ≠ .writing other) := by
  refine run.invariant (P := fun last => last.cancelled = true ∧
      (last.calls = middle.calls ∧
          (∀ batch, last.collector = .writing batch → middle.collector = .writing batch) ∨
        ∃ batch verdict, middle.collector = .writing batch ∧
          last.calls = middle.calls ++ [⟨batch, verdict⟩] ∧
          ∀ other, last.collector ≠ .writing other))
    ⟨cancelled, .inl ⟨rfl, fun _ writing => writing⟩⟩ ?_
  intro before after _ kept transition
  obtain ⟨stopped, calls⟩ := kept
  refine ⟨(lasting_of_transition transition).1 stopped, ?_⟩
  -- No call is made and none is begun, unless the step is the end of a call.
  have idle (same : after.calls = before.calls)
      (still : ∀ batch, after.collector = .writing batch → before.collector = .writing batch) :
      after.calls = middle.calls ∧
          (∀ batch, after.collector = .writing batch → middle.collector = .writing batch) ∨
        ∃ batch verdict, middle.collector = .writing batch ∧
          after.calls = middle.calls ++ [⟨batch, verdict⟩] ∧
          ∀ other, after.collector ≠ .writing other := by
    rw [same]
    rcases calls with ⟨none, begun⟩ | ⟨batch, verdict, begun, made, finished⟩
    · exact .inl ⟨none, fun batch writing => begun batch (still batch writing)⟩
    · exact .inr ⟨batch, verdict, begun, made,
        fun other writing => finished other (still other writing)⟩
  have ended {batch : List Entry} {verdict : Verdict} (writing : before.collector = .writing batch)
      (called : after.calls = before.calls ++ [⟨batch, verdict⟩])
      (free : ∀ other, after.collector ≠ .writing other) :
      after.calls = middle.calls ∧
          (∀ batch, after.collector = .writing batch → middle.collector = .writing batch) ∨
        ∃ batch verdict, middle.collector = .writing batch ∧
          after.calls = middle.calls ++ [⟨batch, verdict⟩] ∧
          ∀ other, after.collector ≠ .writing other := by
    rcases calls with ⟨none, begun⟩ | ⟨-, -, -, -, finished⟩
    · exact .inr ⟨batch, verdict, begun batch writing, none ▸ called, free⟩
    · exact absurd writing (finished batch)
  cases transition with
  | handIn | close | pass | resume => exact idle rfl fun _ writing => by cases writing
  | begin _ _ running =>
      rw [stopped] at running
      cases running
  | accept writing wrote | refuse writing wrote | panic writing wrote =>
      exact ended writing (Writer.recorded_eq_iff.mp wrote).2 fun _ other => by cases other
  | _ => exact idle rfl fun _ writing => writing

/-- How a recorded error stops a run that aborts, from a state of it on to a later one. Between
recording and cancelling others may take their steps, and what the collector looks at then it still
passes on. -/
structure Stops (env : Environment (σ × List Call)) (scan : Scan)
    (middle last : State (σ × List Call)) : Prop where
  /-- Nothing is cancelled but for an error. -/
  recorded : middle.cancelled = true → middle.firstError ≠ none
  /-- A recorded error has cancelled the run, or somebody has yet to cancel for it. -/
  cancelled : middle.firstError ≠ none → middle.cancelled = true ∨ middle.Reporting
  /-- A worker who recorded an error cancels with its next step. -/
  worker : ∀ i batch next, middle.workers[i]? = some (.reporting batch) →
    step? env middle (.work i) = some next → next.cancelled = true
  /-- The collector that recorded an error cancels with its next step. -/
  collector : ∀ next, middle.collector = .reporting →
    step? env middle .collect = some next → next.cancelled = true
  /-- In a cancelled run the writer gets at most the batch that it is being called with. -/
  calls : middle.cancelled = true → last.calls = middle.calls ∨
    ∃ batch verdict, middle.collector = .writing batch ∧
      last.calls = middle.calls ++ [⟨batch, verdict⟩]
  /-- A run fails with the error that is recorded. -/
  fails : ∀ error, middle.firstError = some error → last.finished = true →
    outcome scan last = .failed error

theorem Reaches.stops {middle last : State (σ × List Call)}
    (earlier : Reaches env.recorded (.initial packages workers (sink, [])) middle)
    (later : Reaches env.recorded middle last) (aborts : env.policy = .abort)
    (staffed : 0 < workers) (calm : env.write.Calm) (whole : env.ending = .finished) (scan : Scan) :
    Stops env.recorded scan middle last where
  recorded cancelled := (earlier.orderly.cancelled cancelled).1
  cancelled := earlier.cancelled_of_recorded aborts
  worker i batch next there step := by
    simp only [step?, work?, there, Option.some.injEq] at step
    simp [← step, State.setWorker, State.cancel, aborts]
  collector next there step := by
    simp only [step?, collect?, there, Option.some.injEq] at step
    simp [← step, State.cancel, aborts]
  calls cancelled := (later.calls_of_cancelled cancelled).2.imp And.left
    fun ⟨batch, verdict, writing, called, _⟩ => ⟨batch, verdict, writing, called⟩
  fails error recorded finished := by
    rw [(earlier.trans later).outcome_eq staffed calm finished whole, later.firstError_eq recorded]

/-! ### Whole packages -/

variable {state : State (σ × List Call)}

/-- As long as a run that aborts is not cancelled, every batch that is handed in or was handed in is
whole. A batch that is not has a worker who cancels before it hands it in. -/
theorem Reaches.whole_of_running {state : State σ}
    (run : Reaches env (.initial packages workers sink) state) (aborts : env.policy = .abort)
    (running : state.cancelled = false) {batch : List Entry}
    (carried : .sending batch ∈ state.workers ∨ batch ∈ state.collector.batches) :
    Whole env.keyOf packages batch := by
  refine run.invariant (P := fun state => state.cancelled = false → ∀ batch,
    .sending batch ∈ state.workers ∨ batch ∈ state.collector.batches →
      Whole env.keyOf packages batch) ?_ ?_ running batch carried
  · rintro _ batch (sending | judging)
    · cases List.eq_of_mem_replicate sending
    · cases judging
  · intro before after earlier kept transition running batch carried
    have old (still : before.cancelled = false)
        (there : .sending batch ∈ before.workers ∨ batch ∈ before.collector.batches) :
        Whole env.keyOf packages batch := kept still batch there
    cases transition with
    | report | resume => simp [State.cancel, aborts] at running
    | @extract package left right parts clean =>
        have waits : package ∈ before.pending := by
          simp [State.pending, parts, Worker.pending]
        by_cases own : batch = package.batch env.keyOf
        · exact ⟨package, earlier.mem_of_mem_pending waits, clean, own.symm⟩
        · have made : batch ≠ (package.entries env.keyOf).1 := own
          exact old running (by simpa [parts, made] using carried)
    | handOut _ parts | retire parts | discard parts | start parts | falter parts =>
        exact old running (by simpa [State.record, parts] using carried)
    | abandon parts =>
        refine old running ?_
        simp only [parts, List.mem_append, List.mem_cons, reduceCtorEq, false_or] at carried ⊢
        tauto
    | handIn waiting parts =>
        refine old running ?_
        simp [waiting, parts, Collector.batches] at carried ⊢
        tauto
    | close | pass | accept | panic | refuse =>
        exact old running (.inl (by simpa [State.record, Collector.batches] using carried))
    | begin judging => exact old running (by simpa [judging, Collector.batches] using carried)
    | _ => exact old running carried

/-- A run that aborts calls its writer with whole batches only. -/
theorem Reaches.whole_of_call
    (run : Reaches env.recorded (.initial packages workers (sink, [])) state)
    (aborts : env.policy = .abort) :
    (∀ call ∈ state.calls, Whole env.keyOf packages call.batch) ∧
      ∀ batch ∈ state.collector.underway, Whole env.keyOf packages batch := by
  refine run.invariant (P := fun state =>
    (∀ call ∈ state.calls, Whole env.keyOf packages call.batch) ∧
      ∀ batch ∈ state.collector.underway, Whole env.keyOf packages batch)
    ⟨by simp [State.calls, State.initial], by simp [State.initial, Collector.underway]⟩ ?_
  rintro before after earlier ⟨called, begun⟩ transition
  constructor
  · intro call made
    rcases calls_of_transition transition with same | ⟨batch, verdict, writing, -, more⟩
    · exact called call (by rwa [State.calls, ← same])
    · rw [more, List.mem_append, List.mem_singleton] at made
      rcases made with old | rfl
      · exact called call old
      · exact begun batch (by simp [writing, Collector.underway])
  · intro batch member
    cases transition with
    | @begin own judging filled running =>
        obtain rfl : batch = own := by simpa [Collector.underway] using member
        exact earlier.whole_of_running aborts running (.inr (by simp [judging, Collector.batches]))
    | handIn | close | pass | accept | refuse | panic | resume => cases member
    | _ => exact begun batch member

/-! ### A single worker -/

/-- The batch for which a worker has yet to cancel. -/
def Worker.reported : Worker → List (List Entry)
  | .reporting batch => [batch]
  | _ => []

/-- As long as a run that aborts is not cancelled, no package that its single worker is through with
has a fault, apart from one for which the worker has yet to cancel. -/
theorem Reaches.clean_of_single
    (run : Reaches env.recorded (.initial packages 1 (sink, [])) state)
    (calm : env.write.Calm) (aborts : env.policy = .abort) (running : state.cancelled = false) :
    ∃ done reported, packages = done ++ reported ++ state.workers.flatMap Worker.pending ++
        state.producer.pending ∧
      (∀ package ∈ done, package.fault? env.keyOf = none) ∧
      reported.map (Package.batch env.keyOf) = state.workers.flatMap Worker.reported := by
  refine run.invariant (P := fun state => state.cancelled = false → ∃ done reported,
      packages = done ++ reported ++ state.workers.flatMap Worker.pending ++
        state.producer.pending ∧
      (∀ package ∈ done, package.fault? env.keyOf = none) ∧
      reported.map (Package.batch env.keyOf) = state.workers.flatMap Worker.reported) ?_ ?_ running
  · intro _
    exact ⟨[], [], by simp [State.initial, Producer.pending, Worker.pending], by simp,
      by simp [State.initial, Worker.reported]⟩
  · intro before after earlier kept transition lasting
    have running : before.cancelled ≠ true := by
      intro cancelled
      rw [(lasting_of_transition transition).1 cancelled] at lasting
      cases lasting
    obtain ⟨done, reported, whole, clean, same⟩ := kept (eq_false_of_ne_true running)
    have single : before.workers.length = 1 := by
      simpa [State.initial] using earlier.length_workers
    cases transition with
    | exhaust ready | offer ready =>
        exact ⟨done, reported, by simpa [ready, Producer.pending] using whole, clean, same⟩
    | withdraw _ cancelled | discard _ cancelled => exact absurd cancelled running
    | report | resume => simp [State.cancel, aborts] at lasting
    | strand offering gone =>
        have ready : before.producerEnded = false := by simp [State.producerEnded, offering]
        exact absurd (earlier.panicked_of_allGone Nat.one_pos gone ready)
          (earlier.not_panicked calm)
    | handOut offering parts =>
        obtain ⟨rfl, rfl⟩ := eq_nil_of_single single parts
        refine ⟨done, reported, ?_, clean, ?_⟩
        · simpa [offering, parts, Producer.pending, Worker.pending] using whole
        · simpa [parts, Worker.reported] using same
    | retire parts | start parts | abandon parts | handIn _ parts =>
        obtain ⟨rfl, rfl⟩ := eq_nil_of_single single parts
        refine ⟨done, reported, ?_, clean, ?_⟩
        · simpa [parts, Worker.pending] using whole
        · simpa [parts, Worker.reported] using same
    | @extract package _ _ parts unfailing =>
        obtain ⟨rfl, rfl⟩ := eq_nil_of_single single parts
        obtain rfl : reported = [] := by simpa [parts, Worker.reported] using same
        refine ⟨done ++ [package], [], ?_, ?_, rfl⟩
        · simpa [parts, Worker.pending] using whole
        · rw [List.forall_mem_append, List.forall_mem_singleton]
          exact ⟨clean, unfailing⟩
    | @falter package _ _ _ parts =>
        obtain ⟨rfl, rfl⟩ := eq_nil_of_single single parts
        obtain rfl : reported = [] := by simpa [parts, Worker.reported] using same
        exact ⟨done, [package], by simpa [State.record, parts, Worker.pending] using whole, clean,
          rfl⟩
    | _ => exact ⟨done, reported, whole, clean, same⟩

/-- What a worker has in its hands comes before what it has yet to cancel for. -/
theorem exists_carried_of_single {state : State σ} (single : state.workers.length = 1) :
    ∃ carried, state.workers.flatMap Worker.batches =
      carried ++ state.workers.flatMap Worker.reported := by
  obtain ⟨worker, alone⟩ := List.length_eq_one_iff.mp single
  refine ⟨if worker.reported = [] then worker.batches else [], ?_⟩
  cases worker <;> simp [alone, Worker.batches, Worker.reported]

/-- A single worker that aborts has called the writer with the batches of the first packages, in
their order. -/
theorem Reaches.prefix_of_single
    (run : Reaches env.recorded (.initial packages 1 (sink, [])) state)
    (calm : env.write.Calm) (aborts : env.policy = .abort)
    (filled : ∀ package ∈ packages, package.records ≠ []) :
    ∃ done, done <+: packages ∧ (∀ package ∈ done, package.fault? env.keyOf = none) ∧
      done.map (Package.batch env.keyOf) =
        state.calls.map Call.batch ++ state.collector.underway := by
  refine run.invariant (P := fun state => ∃ done, done <+: packages ∧
    (∀ package ∈ done, package.fault? env.keyOf = none) ∧
      done.map (Package.batch env.keyOf) =
        state.calls.map Call.batch ++ state.collector.underway)
    ⟨[], List.nil_prefix, by simp, rfl⟩ ?_
  rintro before after earlier ⟨done, early, clean, made⟩ transition
  cases transition with
  | @begin batch judging some running =>
      -- Nothing is cancelled, so what is judged comes behind the batches of the calls.
      obtain ⟨all, whole, batches, -⟩ := earlier.inOrder calm running
      obtain ⟨clear, reported, whole', unfailing, faulted⟩ :=
        earlier.clean_of_single calm aborts running
      obtain rfl : all = clear ++ reported :=
        List.append_cancel_right (List.append_cancel_right (whole.symm.trans whole'))
      obtain ⟨carried, hands⟩ := exists_carried_of_single
        (show before.workers.length = 1 by simpa [State.initial] using earlier.length_workers)
      have inside : clear <+: packages := ⟨_, by rw [whole, List.append_assoc, List.append_assoc]⟩
      have kept : (clear.map (Package.batch env.keyOf)).filter (· ≠ []) =
          clear.map (Package.batch env.keyOf) := by
        apply List.filter_eq_self.mpr
        intro batch member
        obtain ⟨package, there, rfl⟩ := List.mem_map.mp member
        exact decide_eq_true (Package.batch_ne_nil (unfailing package there)
          (filled package (inside.subset there)))
      refine ⟨clear.take (before.calls.length + 1), (List.take_prefix _ _).trans inside,
        fun package member => unfailing package (List.mem_of_mem_take member), ?_⟩
      have front : clear.map (Package.batch env.keyOf) =
          before.calls.map Call.batch ++ [batch] ++ carried.filter (· ≠ []) := by
        rw [hands, ← faulted, judging, List.map_append, List.filter_append, kept] at batches
        have joined : clear.map (Package.batch env.keyOf) ++
            (reported.map (Package.batch env.keyOf)).filter (· ≠ []) =
              before.calls.map Call.batch ++ [batch] ++ carried.filter (· ≠ []) ++
                (reported.map (Package.batch env.keyOf)).filter (· ≠ []) := by
          simpa [Collector.batches, some] using batches
        exact List.append_cancel_right joined
      rw [List.map_take, front, List.take_left' (by simp)]
      rfl
  | handIn waiting | close waiting =>
      exact ⟨done, early, clean, by simpa [State.calls, waiting, Collector.underway] using made⟩
  | pass judging =>
      exact ⟨done, early, clean, by simpa [State.calls, judging, Collector.underway] using made⟩
  | resume reporting =>
      exact ⟨done, early, clean,
        by simpa [State.calls, State.cancel, reporting, Collector.underway] using made⟩
  | accept writing wrote | refuse writing wrote | panic writing wrote =>
      have called := (Writer.recorded_eq_iff.mp wrote).2
      refine ⟨done, early, clean, ?_⟩
      simpa [State.calls, State.record, called, writing, Collector.underway] using made
  | _ => exact ⟨done, early, clean, made⟩

end Abort

/-! ### Whole groups -/

section Groups

variable {keyOf : KeyOf} {size start : Nat} {records : List Bytes}

theorem Whole.exists_number (positive : 0 < size) {batch : List Entry}
    (whole : Whole keyOf (Package.cut (size - 1) start records) batch) :
    ∃ number < Layout.groupCount size records.length,
      (Layout.group size number records).findSome? (Layout.fault? keyOf) = none ∧
        Layout.groupEntries keyOf size start records number = batch := by
  obtain ⟨package, member, clean, rfl⟩ := whole
  rw [Package.cut_eq_map_ofGroup start records positive] at member
  obtain ⟨number, inside, rfl⟩ := List.mem_map.mp member
  exact ⟨number, List.mem_range.mp inside, Package.fault?_ofGroup.symm.trans clean,
    (Package.batch_ofGroup clean).symm⟩

/-- Whole batches that are all different are those of groups that are all different. -/
theorem exists_numbers (positive : 0 < size) {written : List (List Entry)}
    (whole : ∀ batch ∈ written, Whole keyOf (Package.cut (size - 1) start records) batch)
    (distinct : written.Nodup) :
    ∃ numbers : List Nat, numbers.Nodup ∧
      (∀ number ∈ numbers, number < Layout.groupCount size records.length ∧
        (Layout.group size number records).findSome? (Layout.fault? keyOf) = none) ∧
      written = numbers.map (Layout.groupEntries keyOf size start records) := by
  suffices numbered : ∃ numbers : List Nat,
      (∀ number ∈ numbers, number < Layout.groupCount size records.length ∧
        (Layout.group size number records).findSome? (Layout.fault? keyOf) = none) ∧
      written = numbers.map (Layout.groupEntries keyOf size start records) by
    obtain ⟨numbers, inside, rfl⟩ := numbered
    exact ⟨numbers, .of_map _ distinct, inside, rfl⟩
  clear distinct
  induction written with
  | nil => exact ⟨[], by simp, rfl⟩
  | cons batch written ih =>
      obtain ⟨first, rest⟩ := List.forall_mem_cons.mp whole
      obtain ⟨number, inside, clean, rfl⟩ := first.exists_number positive
      obtain ⟨numbers, others, rfl⟩ := ih rest
      exact ⟨number :: numbers, List.forall_mem_cons.mpr ⟨⟨inside, clean⟩, others⟩, rfl⟩

/-- The first packages are the first groups. -/
theorem map_batch_of_prefix (positive : 0 < size) {done : List Package}
    (early : done <+: Package.cut (size - 1) start records)
    (clean : ∀ package ∈ done, package.fault? keyOf = none) :
    (∀ number < done.length, number < Layout.groupCount size records.length ∧
        (Layout.group size number records).findSome? (Layout.fault? keyOf) = none) ∧
      done.map (Package.batch keyOf) =
        (List.range done.length).map (Layout.groupEntries keyOf size start records) := by
  have few := early.length_le
  rw [Layout.length_cut records positive] at few
  have first : done = (List.range done.length).map (Package.ofGroup size start records) := by
    conv_lhs => rw [List.prefix_iff_eq_take.mp early]
    rw [Package.cut_eq_map_ofGroup start records positive, ← List.map_take, List.take_range,
      Nat.min_eq_left few]
  have unfailing (number : Nat) (inside : number < done.length) :
      (Package.ofGroup size start records number).fault? keyOf = none := by
    apply clean
    rw [first]
    exact List.mem_map_of_mem (List.mem_range.mpr inside)
  refine ⟨fun number inside => ⟨by omega, Package.fault?_ofGroup.symm.trans
    (unfailing number inside)⟩, ?_⟩
  conv_lhs => rw [first]
  rw [List.map_map]
  apply List.map_congr_left
  intro number inside
  exact Package.batch_ofGroup (unfailing number (List.mem_range.mp inside))

end Groups

end Pipeline

section Outcomes

variable {σ : Type} {keyOf : KeyOf} {write : Writer σ} {settings : RunSettings}
  {start buffer : Nat} {source : Source} {scan : Scan} {sink after : σ} {calls : List Call}
  {outcome : Outcome Summary} {refusal? : List Entry → Option Error}

/-- The batches that a run with workers calls its writer with are those of groups. -/
theorem Indexes.subperm_batches (whole : scan.ending = .finished)
    (filled : 0 < settings.batchSize) (parallel : settings.mode = .parallel)
    (run : Indexes keyOf write.recorded settings start scan (sink, []) outcome (after, calls)) :
    (calls.map Call.batch).Subperm
      (Layout.batches keyOf settings.batchSize start scan.records) := by
  obtain ⟨workers, final, admitted, reaches, -, -, -, rfl⟩ :=
    run.exists_finished whole filled parallel
  rw [← Package.map_batch_cut keyOf start _ filled]
  exact reaches.subperm_calls admitted.1

/-- With a writer that goes by what a batch holds, a run with workers comes to the same whatever its
schedule and its policy: it succeeds just when every record has a key and every group is taken, and
then all groups were handed over, each once. -/
theorem Indexes.of_judges (judges : write.Judges refusal?) (whole : scan.ending = .finished)
    (filled : 0 < settings.batchSize) (parallel : settings.mode = .parallel)
    (run : Indexes keyOf write.recorded settings start scan (sink, []) outcome (after, calls)) :
    ((∃ summary, outcome = .done summary) ↔
        scan.records.findSome? (Layout.fault? keyOf) = none ∧
          ∀ number < Layout.groupCount settings.batchSize scan.records.length,
            refusal? (Layout.groupEntries keyOf settings.batchSize start scan.records number) =
              none) ∧
      ∀ summary, outcome = .done summary →
        summary = ⟨scan.records.length, scan.size,
          Layout.groupCount settings.batchSize scan.records.length, scan.records.length⟩ ∧
        calls.Perm (((List.range (Layout.groupCount settings.batchSize scan.records.length)).map
          (Layout.groupEntries keyOf settings.batchSize start scan.records)).map
            (⟨·, .accepted⟩)) := by
  have verdicts (call : Call) (made : call ∈ calls) :
      call.verdict = .accepted ↔ refusal? call.batch = none :=
    judges.accepted_iff run.leads_subperm.1 made
  have some := run.subperm_batches whole filled parallel
  rcases run.of_parallel judges.calm whole filled parallel with
    ⟨keyed, accepted, handed, rfl⟩ | ⟨faulty, error, rfl⟩
  · rw [Layout.filter_batches keyed] at handed
    have entries : (calls.flatMap Call.accepted).length = scan.records.length := by
      rw [length_accepted accepted, handed.flatten.length_eq,
        Layout.flatten_batches keyOf filled keyed, Layout.length_entries keyed]
    rw [Layout.batches_eq_map_groupEntries keyed] at handed
    refine ⟨⟨fun _ => ⟨keyed, ?_⟩, fun _ => ⟨_, rfl⟩⟩, ?_⟩
    · intro number inside
      have member := handed.symm.subset (List.mem_map_of_mem (List.mem_range.mpr inside))
      obtain ⟨call, made, same⟩ := List.mem_map.mp member
      rw [← same]
      exact (verdicts call made).mp (accepted call made)
    · intro summary done
      cases done
      have same : (calls.map Call.batch).map (⟨·, .accepted⟩) = calls := by
        rw [List.map_map]
        refine (List.map_congr_left fun call made => ?_).trans (List.map_id calls)
        rw [Function.comp_apply, ← accepted call made]
        rfl
      refine ⟨by rw [entries], ?_⟩
      rw [← same]
      exact handed.map _
  · refine ⟨⟨?_, ?_⟩, ?_⟩
    · rintro ⟨summary, done⟩
      cases done
    · rintro ⟨keyed, taken⟩
      refine absurd ⟨keyed, fun call made => (verdicts call made).mpr ?_⟩ faulty
      have member := some.subset (List.mem_map_of_mem made)
      rw [Layout.batches_eq_map_groupEntries keyed] at member
      obtain ⟨number, inside, same⟩ := List.mem_map.mp member
      rw [← same]
      exact taken number (List.mem_range.mp inside)
    · intro summary done
      cases done

/-- A run that aborts calls its writer with the entries of whole groups, none of which has a record
without a key, and with each group at most once; a single worker takes the first groups in their
order. -/
theorem Indexes.exists_numbers_of_abort (calm : write.Calm) (whole : scan.ending = .finished)
    (lines : ∀ record ∈ scan.records, record ≠ []) (filled : 0 < settings.batchSize)
    (parallel : settings.mode = .parallel) (aborts : settings.onError = .abort)
    (run : Indexes keyOf write.recorded settings start scan (sink, []) outcome (after, calls)) :
    ∃ numbers : List Nat, numbers.Nodup ∧
      (∀ number ∈ numbers,
        number < Layout.groupCount settings.batchSize scan.records.length ∧
        (Layout.group settings.batchSize number scan.records).findSome? (Layout.fault? keyOf) =
          none) ∧
      calls.map Call.batch =
        numbers.map (Layout.groupEntries keyOf settings.batchSize start scan.records) ∧
      (settings.workers = 1 → numbers = List.range numbers.length) := by
  have distinct := @Layout.nodup_entries keyOf start _ lines
  obtain ⟨same, perm, sub⟩ := run.leads_subperm.2
  obtain ⟨workers, final, admitted, reaches, finished, rfl, -, rfl⟩ :=
    run.exists_finished whole filled parallel
  by_cases single : settings.workers = 1
  · obtain rfl : workers = 1 := (admitted.2 (by omega)).trans single
    obtain ⟨done, early, clean, made⟩ := reaches.prefix_of_single calm aborts fun _ member =>
      Package.records_ne_nil_of_mem_cut filled member
    obtain ⟨inside, same⟩ := Pipeline.map_batch_of_prefix filled early clean
    rw [Pipeline.underway_of_finished finished, List.append_nil] at made
    refine ⟨List.range done.length, List.nodup_range, ?_, made.symm.trans same, ?_⟩
    · intro number member
      exact inside number (List.mem_range.mp member)
    · intro _
      rw [List.length_range]
  · have different : (final.calls.map Call.batch).Nodup := by
      refine nodup_of_flatten ?_ ?_
      · rw [← List.flatMap_def]
        exact perm.nodup_iff.mp (distinct.sublist sub)
      · intro batch member
        obtain ⟨call, made, rfl⟩ := List.mem_map.mp member
        exact reaches.batch_ne_nil.1 call made
    obtain ⟨numbers, apart, inside, same⟩ := Pipeline.exists_numbers filled
      (fun batch member => by
        obtain ⟨call, made, rfl⟩ := List.mem_map.mp member
        exact (reaches.whole_of_call aborts).1 call made) different
    exact ⟨numbers, apart, inside, same, fun one => absurd one single⟩

/-- However a run that aborts is scheduled, it succeeds just when every record has a key and the
writer takes every group, which is when a run that drains does, and then both come to the same.
The writer is called with whole groups that lack no key, with each at most once, and by a single
worker with the first ones in their order. An error that is recorded makes the run fail, and once it
has cancelled the run the writer gets at most the batch that it was being called with. -/
theorem abort_stops_between_groups (judges : write.Judges refusal?)
    (whole : source.ending = .finished) (filled : 0 < settings.batchSize)
    (parallel : settings.mode = .parallel) (aborts : settings.onError = .abort)
    (run : Indexes keyOf write.recorded settings start (source.records buffer) (sink, [])
      outcome (after, calls)) :
    ((∃ summary, outcome = .done summary) ↔
      (∀ record ∈ Bytes.lines source.bytes, ∃ key, keyOf record = .ok key) ∧
        ∀ number < Layout.groupCount settings.batchSize (Bytes.lines source.bytes).length,
          refusal? (Layout.groupEntries keyOf settings.batchSize start
            (Bytes.lines source.bytes) number) = none) ∧
    (∀ (drained : RunSettings) (buffer' : Nat) (sink' after' : σ) (outcome' : Outcome Summary)
        (calls' : List Call),
      drained.batchSize = settings.batchSize → drained.mode = .parallel →
      drained.onError = .drain →
      Indexes keyOf write.recorded drained start (source.records buffer') (sink', [])
        outcome' (after', calls') →
      ((∃ summary, outcome = .done summary) ↔ ∃ summary, outcome' = .done summary) ∧
        ∀ summary, outcome = .done summary → outcome' = .done summary ∧ calls.Perm calls') ∧
    (∃ numbers : List Nat, numbers.Nodup ∧
      (∀ number ∈ numbers,
        number < Layout.groupCount settings.batchSize (Bytes.lines source.bytes).length ∧
        ∀ record ∈ Layout.group settings.batchSize number (Bytes.lines source.bytes),
          ∃ key, keyOf record = .ok key) ∧
      calls.map Call.batch = numbers.map
        (Layout.groupEntries keyOf settings.batchSize start (Bytes.lines source.bytes)) ∧
      (settings.workers = 1 → numbers = List.range numbers.length)) ∧
    ∀ (workers : Nat) (middle last : Pipeline.State (σ × List Call)), settings.Admits workers →
      Pipeline.Reaches ⟨keyOf, write.recorded, settings.onError, .finished⟩
        (.initial (Package.handedOut settings.batchSize start (source.records buffer)) workers
          (sink, [])) middle →
      Pipeline.Reaches ⟨keyOf, write.recorded, settings.onError, .finished⟩ middle last →
      Pipeline.Stops ⟨keyOf, write.recorded, settings.onError, .finished⟩ (source.records buffer)
        middle last := by
  have packages : Package.handedOut settings.batchSize start (source.records buffer) =
      Package.cut (settings.batchSize - 1) start (Bytes.lines source.bytes) := by
    rw [Source.records_eq]
    exact Package.handedOut_of_finished whole
  rw [packages]
  rw [Source.records_eq] at run
  have comes := run.of_judges judges whole filled parallel
  rw [Layout.findSome?_fault_eq_none_iff] at comes
  refine ⟨comes.1, ?_, ?_, ?_⟩
  · intro drained buffer' sink' after' outcome' calls' size mode drains run'
    rw [Source.records_eq] at run'
    have comes' := run'.of_judges judges whole (size ▸ filled) mode
    rw [Layout.findSome?_fault_eq_none_iff, size] at comes'
    refine ⟨comes.1.trans comes'.1.symm, ?_⟩
    intro summary done
    obtain ⟨summary', done'⟩ := comes'.1.mpr (comes.1.mp ⟨summary, done⟩)
    obtain ⟨counts, handed⟩ := comes.2 summary done
    obtain ⟨counts', handed'⟩ := comes'.2 summary' done'
    exact ⟨by rw [done', counts, counts'], handed.trans handed'.symm⟩
  · obtain ⟨numbers, distinct, inside, same, first⟩ := run.exists_numbers_of_abort judges.calm
      whole (fun record member => (Bytes.isLine_of_mem_lines member).ne_nil) filled parallel aborts
    refine ⟨numbers, distinct, ?_, same, first⟩
    intro number member
    exact (inside number member).imp_right Layout.findSome?_fault_eq_none_iff.mp
  · intro workers middle last admitted earlier later
    let env : Pipeline.Environment σ := ⟨keyOf, write, settings.onError, .finished⟩
    have earlier : Pipeline.Reaches env.recorded (.initial (Package.cut (settings.batchSize - 1)
      start (Bytes.lines source.bytes)) workers (sink, [])) middle := earlier
    have later : Pipeline.Reaches env.recorded middle last := later
    exact earlier.stops later aborts admitted.1 judges.calm rfl _

/-- Where the second of three groups has a record without a key, a single worker fails and hands
over nothing but the first group. -/
theorem abort_stops_between_groups_before_a_fault :
    let keyOf : KeyOf := fun record =>
      if record = [120, 10] then .error (.keyNotFound "id" "x") else .ok "k"
    let write : Writer Nat := fun batch count => (.accepted, count + batch.length)
    let source : Source := [.data [49, 10, 120], .interrupted, .data [10, 51, 10, 52]]
    ∃ outcome after calls,
      Indexes keyOf write.recorded ⟨1, 1, .parallel, .abort⟩ 5 (source.records 1) (0, []) outcome
        (after, calls) ∧
      (¬∃ summary, outcome = .done summary) ∧
      ∀ call ∈ calls, call.batch = [⟨"k", 5, 2⟩] := by
  intro keyOf write source
  have run := indexes_index keyOf write.recorded ⟨1, 1, .parallel, .abort⟩ 5 (source.records 1)
    (0, [])
  have judges : write.Judges fun _ => none := fun _ _ => rfl
  obtain ⟨succeeds, -, ⟨numbers, -, inside, same, first⟩, -⟩ :=
    abort_stops_between_groups judges rfl (by decide) rfl rfl run
  have lines : Bytes.lines source.bytes = [[49, 10], [120, 10], [51, 10]] := by
    simp [source, Source.bytes, Bytes.lines, Bytes.lines.go, Bytes.cutLine, Bytes.newline]
  rw [lines] at succeeds inside same
  refine ⟨_, _, _, run, ?_, ?_⟩
  · intro done
    obtain ⟨key, found⟩ := (succeeds.mp done).1 [120, 10] (by simp)
    cases found
  · have short : numbers.length ≤ 1 := by
      by_contra long
      have member : 1 ∈ numbers := by
        rw [first rfl]
        exact List.mem_range.mpr (by omega)
      obtain ⟨key, found⟩ := (inside 1 member).2 [120, 10] (by decide)
      cases found
    intro call made
    have member := List.mem_map_of_mem (f := Call.batch) made
    rw [same] at member
    obtain ⟨number, there, batch⟩ := List.mem_map.mp member
    rw [first rfl, List.mem_range] at there
    obtain rfl : number = 0 := by omega
    exact batch.symm

end Outcomes

end RecordStore
