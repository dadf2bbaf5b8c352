import RecordStore.Proofs.Pipeline.Account

/-!
Runs that keep the order of their input.

A run without workers makes one batch of every record. A single worker takes the packages
one after another, so as long as nothing is cancelled the calls of its run are the batches
of the packages in their order (`State.InOrder`), and the error that is kept is that of the
first record without a key.
-/

namespace RecordStore.Pipeline

variable {σ : Type}

/-! ### A single worker -/

/-- What was made of the packages so far, in the order of the input: `done` are those that nothing
is left to make of. -/
structure State.InOrder (keyOf : KeyOf) (packages done : List Package)
    (state : State (σ × List Call)) : Prop where
  whole : packages =
    done ++ state.workers.flatMap Worker.pending ++ state.producer.pending
  batches : (done.map (Package.batch keyOf)).filter (· ≠ []) =
    state.calls.map Call.batch ++
      (state.collector.batches ++ state.workers.flatMap Worker.batches).filter (· ≠ [])
  error : (∀ call ∈ state.calls, call.verdict = .accepted) →
    state.firstError = done.findSome? (Package.fault? keyOf)

/-- Beside a single worker there is nobody. -/
theorem eq_nil_of_single {left right workers : List Worker} {worker : Worker}
    (single : workers.length = 1) (parts : workers = left ++ worker :: right) :
    left = [] ∧ right = [] := by
  rw [parts, List.length_append, List.length_cons] at single
  exact ⟨List.length_eq_zero_iff.mp (by omega), List.length_eq_zero_iff.mp (by omega)⟩

/-- A package that is made entries of stands behind those before it. -/
theorem State.InOrder.batches_of_extracting {keyOf : KeyOf} {packages done : List Package}
    {state : State (σ × List Call)} (inOrder : state.InOrder keyOf packages done)
    {package : Package} (alone : state.workers = [.extracting package]) :
    ((done ++ [package]).map (Package.batch keyOf)).filter (· ≠ []) =
      state.calls.map Call.batch ++
        (state.collector.batches ++ [package.batch keyOf]).filter (· ≠ []) := by
  have batches := inOrder.batches
  simp only [alone, List.flatMap_cons, List.flatMap_nil, Worker.batches,
    List.append_nil] at batches
  rw [List.map_append, List.filter_append, batches, List.filter_append, List.append_assoc,
    List.map_singleton]

section Single

variable {env : Environment σ} {packages : List Package} {sink : σ}
  {state : State (σ × List Call)}

/-- As long as nothing is cancelled, a single worker keeps the order of the packages. -/
theorem Reaches.inOrder
    (run : Reaches env.recorded (.initial packages 1 (sink, [])) state)
    (calm : env.write.Calm) (running : state.cancelled = false) :
    ∃ done, state.InOrder env.keyOf packages done := by
  refine run.invariant (P := fun state => state.cancelled = false →
    ∃ done, state.InOrder env.keyOf packages done) ?_ ?_ running
  · intro _
    exact ⟨[], by simp [State.initial, Producer.pending, Worker.pending],
      by simp [State.initial, State.calls, Collector.batches, Worker.batches],
      fun _ => rfl⟩
  · intro before after earlier kept transition lasting
    have running : before.cancelled ≠ true := by
      intro cancelled
      rw [(lasting_of_transition transition).1 cancelled] at lasting
      cases lasting
    obtain ⟨done, whole, batches, error⟩ := kept (eq_false_of_ne_true running)
    have single : before.workers.length = 1 := by
      simpa [State.initial] using earlier.length_workers
    cases transition with
    | exhaust ready => exact ⟨done, by simpa [ready, Producer.pending] using whole, batches, error⟩
    | withdraw _ cancelled | discard _ cancelled => exact absurd cancelled running
    | offer ready => exact ⟨done, by simpa [ready, Producer.pending] using whole, batches, error⟩
    | strand offering gone =>
        have ready : before.producerEnded = false := by simp [State.producerEnded, offering]
        exact absurd (earlier.panicked_of_allGone Nat.one_pos gone ready)
          (earlier.not_panicked calm)
    | handOut offering parts =>
        obtain ⟨rfl, rfl⟩ := eq_nil_of_single single parts
        refine ⟨done, ?_, ?_, error⟩
        · simpa [offering, parts, Producer.pending, Worker.pending] using whole
        · simpa [State.calls, parts, Worker.batches] using batches
    | retire parts | start parts =>
        obtain ⟨rfl, rfl⟩ := eq_nil_of_single single parts
        refine ⟨done, ?_, ?_, error⟩
        · simpa [parts, Worker.pending] using whole
        · simpa [State.calls, parts, Worker.batches] using batches
    | @extract package _ _ parts clean =>
        obtain ⟨rfl, rfl⟩ := eq_nil_of_single single parts
        refine ⟨done ++ [package], ?_, ?_, ?_⟩
        · simpa [parts, Worker.pending] using whole
        · exact State.InOrder.batches_of_extracting ⟨whole, batches, error⟩ parts
        · intro accepted
          have same : package.fault? env.keyOf = none := clean
          simp [error accepted, List.findSome?_append, same]
    | @falter package fault _ _ parts faulty =>
        obtain ⟨rfl, rfl⟩ := eq_nil_of_single single parts
        refine ⟨done ++ [package], ?_, ?_, ?_⟩
        · simpa [parts, Worker.pending, State.record] using whole
        · exact State.InOrder.batches_of_extracting ⟨whole, batches, error⟩ parts
        · intro accepted
          have same : package.fault? env.keyOf = some fault := faulty
          have first := error accepted
          simp only [State.record, List.findSome?_append, first]
          cases done.findSome? (Package.fault? env.keyOf) <;> simp [same]
    | report parts =>
        obtain ⟨rfl, rfl⟩ := eq_nil_of_single single parts
        refine ⟨done, ?_, ?_, error⟩
        · simpa [State.cancel, parts, Worker.pending] using whole
        · simpa [State.calls, State.cancel, parts, Worker.batches] using batches
    | abandon parts departed =>
        unfold State.collectorLeft at departed
        split at departed
        · rename_i gone
          have none := (earlier.allGone_of_gone gone).2
          simp [State.allGone, parts] at none
        · exact absurd ‹_› (earlier.not_panicked calm)
        · cases departed
    | handIn waiting parts =>
        obtain ⟨rfl, rfl⟩ := eq_nil_of_single single parts
        refine ⟨done, ?_, ?_, error⟩
        · simpa [parts, Worker.pending] using whole
        · simpa [State.calls, parts, waiting, Worker.batches, Collector.batches] using batches
    | close waiting =>
        exact ⟨done, whole, by simpa [State.calls, waiting, Collector.batches] using batches, error⟩
    | pass judging needless =>
        rcases needless with rfl | cancelled
        · refine ⟨done, whole, ?_, error⟩
          simpa [State.calls, judging, Collector.batches] using batches
        · exact absurd cancelled running
    | resume reporting =>
        refine ⟨done, whole, ?_, error⟩
        simpa [State.calls, State.cancel, reporting, Collector.batches] using batches
    | begin judging =>
        exact ⟨done, whole, by simpa [State.calls, judging, Collector.batches] using batches, error⟩
    | @accept batch _ writing wrote =>
        have called := (Writer.recorded_eq_iff.mp wrote).2
        have filled := earlier.batch_ne_nil.2 batch writing
        refine ⟨done, whole, ?_, fun accepted => error fun call made => accepted call ?_⟩
        · simpa [State.calls, called, writing, filled, Collector.batches] using batches
        · simpa [State.calls, called] using .inl made
    | @refuse batch fault _ writing wrote =>
        have called := (Writer.recorded_eq_iff.mp wrote).2
        have filled := earlier.batch_ne_nil.2 batch writing
        refine ⟨done, whole, ?_, ?_⟩
        · simpa [State.calls, State.record, called, writing, filled, Collector.batches] using batches
        · intro accepted
          have last := accepted ⟨batch, .refused fault⟩ (by simp [State.calls, State.record, called])
          cases last
    | panic _ wrote =>
        have same := (Writer.recorded_eq_iff.mp wrote).1
        exact absurd (congrArg Prod.fst same) (calm _ before.sink.1 _)

/-- At the end, a single worker that was not cancelled has handed in the batches of all packages in
their order. -/
theorem Reaches.inOrder_of_finished
    (run : Reaches env.recorded (.initial packages 1 (sink, [])) state)
    (calm : env.write.Calm) (running : state.cancelled = false) (finished : state.finished = true) :
    state.calls.map Call.batch = (packages.map (Package.batch env.keyOf)).filter (· ≠ []) ∧
      ((∀ call ∈ state.calls, call.verdict = .accepted) →
        state.firstError = packages.findSome? (Package.fault? env.keyOf)) := by
  obtain ⟨done, whole, batches, error⟩ := run.inOrder calm running
  have waiting := pending_of_finished finished
  have carried := carried_of_finished finished
  simp only [State.pending, State.carried, Multiset.coe_add, Multiset.coe_eq_zero,
    List.append_eq_nil_iff] at waiting carried
  rw [waiting.1, waiting.2, List.append_nil, List.append_nil] at whole
  rw [carried.1, carried.2] at batches
  subst whole
  exact ⟨by simpa using batches.symm, error⟩

end Single

/-! ### No workers -/

section Sequential

variable {keyOf : KeyOf} {write : Writer σ}

/-- The batches of a run without workers: one for each entry up to the first record without a
key. -/
def singles (keyOf : KeyOf) (start : Nat) (records : List Bytes) : List (List Entry) :=
  (Layout.entriesUpTo keyOf (Layout.placed start records)).map ([·])

theorem singles_cons_of_ok {start : Nat} {record : Bytes} {records : List Bytes} {key : String}
    (found : keyOf record = .ok key) :
    singles keyOf start (record :: records) =
      [⟨key, start, record.length⟩] :: singles keyOf (start + record.length) records := by
  simp [singles, Layout.placed, Layout.entriesUpTo, Layout.entryOf, found]

theorem singles_cons_of_error {start : Nat} {record : Bytes} {records : List Bytes}
    {error : Error} (missing : keyOf record = .error error) :
    singles keyOf start (record :: records) = [] := by
  simp [singles, Layout.placed, Layout.entriesUpTo, Layout.entryOf, missing]

/-- The summary with all these records added. -/
def addRecords (summary : Summary) (records : List Bytes) : Summary :=
  records.foldl (fun summary record => addRecord summary record.length) summary

theorem addRecords_eq (summary : Summary) (records : List Bytes) :
    addRecords summary records =
      ⟨summary.records + records.length, summary.bytes + records.flatten.length,
        summary.packages, summary.written + records.length⟩ := by
  unfold addRecords
  induction records generalizing summary with
  | nil => rfl
  | cons record records ih =>
      rw [List.foldl_cons, ih]
      simp [addRecord, Nat.add_assoc, Nat.add_comm, Nat.add_left_comm]

/-- What a run without workers comes to, and what it calls the writer with: its calls lead from
writer to writer, they are the first of the single batches, and as long as they are accepted the
run goes on to the end or to a record without a key. -/
structure Follows (keyOf : KeyOf) (write : Writer σ) (ending : Ending) (start : Nat)
    (summary : Summary) (records : List Bytes) (sink : σ) (made : List Call)
    (outcome : Outcome Summary) (after : σ) : Prop where
  leads : ∀ {origin calls}, write.Leads origin calls sink →
    write.Leads origin (calls ++ made) after
  early : made.map Call.batch <+: singles keyOf start records
  accepted : (∀ call ∈ made, call.verdict = .accepted) →
    made.map Call.batch = singles keyOf start records ∧
      outcome = match records.findSome? (Layout.fault? keyOf) with
        | some error => .failed error
        | none => atEnd (addRecords summary records) ending
  succeeds : ∀ value, outcome = .done value →
    (∀ call ∈ made, call.verdict = .accepted) ∧
      records.findSome? (Layout.fault? keyOf) = none

theorem follows_sequentialFrom (keyOf : KeyOf) (write : Writer σ) (ending : Ending)
    (start : Nat) (summary : Summary) (records : List Bytes) (sink : σ) (calls : List Call) :
    ∃ made outcome after,
      sequentialFrom keyOf write.recorded ending start summary records (sink, calls) =
        (outcome, (after, calls ++ made)) ∧
      Follows keyOf write ending start summary records sink made outcome after := by
  induction records generalizing start summary sink calls with
  | nil =>
      refine ⟨[], atEnd summary ending, sink, by simp [sequentialFrom], ?_⟩
      exact ⟨fun leads => by simpa using leads, List.nil_prefix, fun _ => ⟨rfl, rfl⟩,
        fun _ _ => ⟨by simp, rfl⟩⟩
  | cons record records ih =>
      cases found : keyOf record with
      | error error =>
          have fault : Layout.fault? keyOf record = some error := by simp [Layout.fault?, found]
          refine ⟨[], .failed error, sink, by simp [sequentialFrom, found], ?_⟩
          refine ⟨fun leads => by simpa using leads, List.nil_prefix, fun _ => ⟨?_, ?_⟩, ?_⟩
          · rw [singles_cons_of_error found, List.map_nil]
          · rw [List.findSome?_cons, fault]
          · intro _ done
            cases done
      | ok key =>
          have fault : Layout.fault? keyOf record = none := by simp [Layout.fault?, found]
          cases wrote : write [⟨key, start, record.length⟩] sink with
          | mk verdict after =>
              have same : write.recorded [⟨key, start, record.length⟩] (sink, calls) =
                  (verdict, after, calls ++ [⟨[⟨key, start, record.length⟩], verdict⟩]) :=
                Writer.recorded_eq_iff.mpr ⟨wrote, rfl⟩
              cases verdict with
              | accepted =>
                  obtain ⟨made, outcome, last, run, leads, early, accepted, succeeds⟩ :=
                    ih (start + record.length) (addRecord summary record.length) after
                      (calls ++ [⟨[⟨key, start, record.length⟩], .accepted⟩])
                  refine ⟨⟨[⟨key, start, record.length⟩], .accepted⟩ :: made, outcome, last,
                    ?_, ?_, ?_, ?_, ?_⟩
                  · simpa [sequentialFrom, found, same] using run
                  · intro origin earlier led
                    simpa using leads (led.call wrote)
                  · rw [singles_cons_of_ok found, List.map_cons]
                    exact List.cons_prefix_cons.mpr ⟨rfl, early⟩
                  · intro all
                    obtain ⟨batches, ends⟩ :=
                      accepted fun call member => all call (List.mem_cons_of_mem _ member)
                    rw [singles_cons_of_ok found, List.map_cons, batches,
                      List.findSome?_cons, fault]
                    exact ⟨rfl, ends⟩
                  · intro value done
                    obtain ⟨all, keyed⟩ := succeeds value done
                    rw [List.findSome?_cons, fault]
                    exact ⟨List.forall_mem_cons.mpr ⟨rfl, all⟩, keyed⟩
              | refused error =>
                  refine ⟨[⟨[⟨key, start, record.length⟩], .refused error⟩], .failed error, after,
                    by simp [sequentialFrom, found, same], ?_, ?_, ?_, ?_⟩
                  · exact fun led => led.call wrote
                  · rw [singles_cons_of_ok found]
                    exact List.cons_prefix_cons.mpr ⟨rfl, List.nil_prefix⟩
                  · intro all
                    cases all _ (List.mem_singleton.mpr rfl)
                  · intro _ done
                    cases done
              | panicked message =>
                  refine ⟨[⟨[⟨key, start, record.length⟩], .panicked message⟩],
                    .panicked message, after,
                    by simp [sequentialFrom, found, same], ?_, ?_, ?_, ?_⟩
                  · exact fun led => led.call wrote
                  · rw [singles_cons_of_ok found]
                    exact List.cons_prefix_cons.mpr ⟨rfl, List.nil_prefix⟩
                  · intro all
                    cases all _ (List.mem_singleton.mpr rfl)
                  · intro _ done
                    cases done

end Sequential

end RecordStore.Pipeline
