import RecordStore.Proofs.Pipeline.Calls
import Mathlib.Algebra.Order.Group.Multiset
import Mathlib.Tactic.Abel

/-!
Where the packages of a run are.

A package waits at the producer or lies with a worker; what was made of it lies with a
worker or the collector, or the writer was called with it. `Reaches.balanced` says that
nothing is counted twice, and that a batch is lost only where it is empty, the run is
cancelled or the collector panicked. The other invariants say what a recorded error, a
count and an end tell of the calls.
-/

namespace RecordStore

/-- The entries of a package up to its first record without a key. -/
def Package.batch (keyOf : KeyOf) (package : Package) : List Entry :=
  (package.entries keyOf).1

/-- What is wrong with the first record of a package that has no key. -/
def Package.fault? (keyOf : KeyOf) (package : Package) : Option Error :=
  (package.entries keyOf).2

/-- The batches of the packages of an input are those of its groups. -/
theorem Package.map_batch_cut (keyOf : KeyOf) (start : Nat) (records : List Bytes) {size : Nat}
    (positive : 0 < size) :
    (Package.cut (size - 1) start records).map (Package.batch keyOf) =
      Layout.batches keyOf size start records :=
  Layout.map_cut keyOf records positive

/-- The entries of a call that was accepted. -/
def Call.accepted (call : Call) : List Entry :=
  match call.verdict with
  | .accepted => call.batch
  | _ => []

namespace Pipeline

/-! ### Places in a state -/

/-- The packages that a producer has not handed over. -/
def Producer.pending : Producer → List Package
  | .ready rest => rest
  | .offering package rest => package :: rest
  | .ended _ => []

/-- The package that a worker has made nothing of. -/
def Worker.pending : Worker → List Package
  | .holding package => [package]
  | .extracting package => [package]
  | _ => []

/-- The batch that a worker made and has not handed in. -/
def Worker.batches : Worker → List (List Entry)
  | .reporting batch => [batch]
  | .sending batch => [batch]
  | _ => []

/-- The batch that a collector was handed. -/
def Collector.batches : Collector → List (List Entry)
  | .judging batch => [batch]
  | .writing batch => [batch]
  | _ => []

variable {σ : Type}

/-- The packages that nothing was made of. -/
def State.pending (state : State σ) : Multiset Package :=
  ↑state.producer.pending + ↑(state.workers.flatMap Worker.pending)

/-- The batches on their way to the writer. -/
def State.carried (state : State σ) : Multiset (List Entry) :=
  ↑(state.workers.flatMap Worker.batches) + ↑state.collector.batches

/-- Whether somebody recorded an error and has not cancelled for it yet. -/
def State.Reporting (state : State σ) : Prop :=
  (∃ batch, .reporting batch ∈ state.workers) ∨ state.collector = .reporting

/-- The calls that a recorded writer has seen. -/
def State.calls (state : State (σ × List Call)) : List Call :=
  state.sink.2

/-! ### The places at the end -/

theorem eq_gone_of_finished {state : State σ} (finished : state.finished = true) {worker : Worker}
    (member : worker ∈ state.workers) : worker = .gone := by
  have gone : state.allGone = true := by
    simp only [State.finished, Bool.and_eq_true] at finished
    exact finished.1.2
  exact eq_of_beq (List.all_eq_true.mp gone worker member)

theorem exists_how_of_producerEnded {state : State σ} (ended : state.producerEnded = true) :
    ∃ how, state.producer = .ended how := by
  unfold State.producerEnded at ended
  split at ended
  · rename_i how same
    exact ⟨how, same⟩
  · cases ended

theorem exists_how_of_finished {state : State σ} (finished : state.finished = true) :
    ∃ how, state.producer = .ended how := by
  simp only [State.finished, Bool.and_eq_true] at finished
  exact exists_how_of_producerEnded finished.1.1

/-- Nothing waits when everybody is at their end. -/
theorem pending_of_finished {state : State σ} (finished : state.finished = true) :
    state.pending = 0 := by
  obtain ⟨how, ended⟩ := exists_how_of_finished finished
  have none : state.workers.flatMap Worker.pending = [] := by
    apply List.flatMap_eq_nil_iff.mpr
    intro worker member
    rw [eq_gone_of_finished finished member]
    rfl
  simp [State.pending, ended, none, Producer.pending]

/-- Nothing is on its way when everybody is at their end. -/
theorem carried_of_finished {state : State σ} (finished : state.finished = true) :
    state.carried = 0 := by
  have none : state.workers.flatMap Worker.batches = [] := by
    apply List.flatMap_eq_nil_iff.mpr
    intro worker member
    rw [eq_gone_of_finished finished member]
    rfl
  have left : state.collectorLeft = true := by
    simp only [State.finished, Bool.and_eq_true] at finished
    exact finished.2
  have empty : state.collector.batches = [] := by
    unfold State.collectorLeft at left
    split at left
    · rename_i gone
      simp [gone, Collector.batches]
    · rename_i panicked
      simp [panicked, Collector.batches]
    · cases left
  simp [State.carried, none, empty]

/-! ### Calls -/

/-- A step that is no call of the writer leaves the calls alone. -/
theorem calls_of_transition {env : Environment σ} {before after : State (σ × List Call)}
    (transition : Transition env.recorded before after) :
    after.sink = before.sink ∨ ∃ batch verdict, before.collector = .writing batch ∧
      env.write batch before.sink.1 = (verdict, after.sink.1) ∧
      after.calls = before.calls ++ [⟨batch, verdict⟩] := by
  cases transition with
  | accept writing wrote | refuse writing wrote | panic writing wrote =>
      obtain ⟨same, called⟩ := Writer.recorded_eq_iff.mp wrote
      exact .inr ⟨_, _, writing, same, called⟩
  | _ => exact .inl rfl

/-- A call that was made stays made. -/
theorem Transition.mem_calls {env : Environment σ} {before after : State (σ × List Call)}
    (transition : Transition env.recorded before after) {call : Call}
    (made : call ∈ before.calls) : call ∈ after.calls := by
  rcases calls_of_transition transition with same | ⟨batch, verdict, -, -, called⟩
  · rwa [State.calls, same]
  · rw [called]
    exact List.mem_append_left _ made

/-! ### Who leaves when -/

section Ends

variable {env : Environment σ} {packages : List Package} {workers : Nat} {sink : σ}
  {state : State σ}

theorem Reaches.allGone_of_gone (run : Reaches env (.initial packages workers sink) state)
    (left : state.collector = .gone) : state.producerEnded = true ∧ state.allGone = true := by
  refine run.invariant (P := fun state => state.collector = .gone →
    state.producerEnded = true ∧ state.allGone = true) (fun left => by cases left) ?_ left
  intro before after _ kept transition left
  cases transition with
  | exhaust ready | withdraw ready | offer ready =>
      have ended := (kept left).1
      simp [State.producerEnded, ready] at ended
  | strand offering gone => exact ⟨rfl, gone⟩
  | handOut offering =>
      have ended := (kept left).1
      simp [State.producerEnded, offering] at ended
  | retire parts | discard parts | start parts | extract parts | falter parts | report parts
  | abandon parts =>
      have gone := (kept left).2
      simp [State.allGone, parts] at gone
  | close _ ended gone => exact ⟨ended, gone⟩
  | _ => cases left

/-- No worker leaves before the producer does unless the collector panicked. -/
theorem Reaches.ended_of_gone (run : Reaches env (.initial packages workers sink) state)
    (left : .gone ∈ state.workers) :
    state.producerEnded = true ∨ state.collector = .panicked := by
  refine run.invariant (P := fun state => .gone ∈ state.workers →
    state.producerEnded = true ∨ state.collector = .panicked) ?_ ?_ left
  · intro left
    cases List.eq_of_mem_replicate left
  · intro before after earlier kept transition left
    cases transition with
    | exhaust | withdraw | strand => exact .inl rfl
    | offer ready =>
        rcases kept left with ended | panicked
        · simp [State.producerEnded, ready] at ended
        · exact .inr panicked
    | handOut offering parts =>
        rcases kept (by simpa [parts] using left) with ended | panicked
        · simp [State.producerEnded, offering] at ended
        · exact .inr panicked
    | retire _ ended => exact .inl ended
    | discard parts | start parts | extract parts | falter parts | report parts =>
        exact kept (by simpa [parts] using left)
    | abandon _ departed =>
        unfold State.collectorLeft at departed
        split at departed
        · rename_i gone
          exact .inl (earlier.allGone_of_gone gone).1
        · rename_i panicked
          exact .inr panicked
        · cases departed
    | handIn waiting parts =>
        rcases kept (by simpa [parts] using left) with ended | panicked
        · exact .inl ended
        · simp [waiting] at panicked
    | pass judging | begin judging =>
        rcases kept left with ended | panicked
        · exact .inl ended
        · simp [judging] at panicked
    | accept writing | refuse writing =>
        rcases kept left with ended | panicked
        · exact .inl ended
        · simp [writing] at panicked
    | resume reporting =>
        rcases kept left with ended | panicked
        · exact .inl ended
        · simp [reporting] at panicked
    | close _ ended => exact .inl ended
    | panic => exact .inr rfl

/-- A producer that finds nobody left finds that the collector panicked. -/
theorem Reaches.panicked_of_allGone (run : Reaches env (.initial packages workers sink) state)
    (some : 0 < workers) (gone : state.allGone = true) (running : state.producerEnded = false) :
    state.collector = .panicked := by
  have length : state.workers.length = workers := by
    simpa [State.initial] using run.length_workers
  obtain ⟨worker, member⟩ := List.exists_mem_of_length_pos (show 0 < state.workers.length by omega)
  have left := List.all_eq_true.mp gone worker member
  rcases run.ended_of_gone (eq_of_beq left ▸ member) with ended | panicked
  · rw [running] at ended
    cases ended
  · exact panicked

theorem State.reporting_of_parts {batch : List Entry} {left right : List Worker}
    (parts : state.workers = left ++ .reporting batch :: right) : state.Reporting :=
  .inl ⟨batch, by simp [parts]⟩

/-- A step records an error, cancels for one that was recorded, or does nothing of the kind. -/
theorem reporting_of_transition {env : Environment σ} {before after : State σ}
    (transition : Transition env before after) :
    (after.Reporting ∧ after.firstError ≠ none ∧ after.cancelled = before.cancelled) ∨
      (before.Reporting ∧ after.firstError = before.firstError ∧
        after.cancelled = (before.cancelled || env.policy == .abort)) ∨
      ((after.Reporting ↔ before.Reporting) ∧ after.firstError = before.firstError ∧
        after.cancelled = before.cancelled) := by
  cases transition with
  | falter => exact .inl ⟨State.reporting_of_parts rfl, by simp [State.record], rfl⟩
  | refuse => exact .inl ⟨.inr rfl, by simp [State.record], rfl⟩
  | report parts => exact .inr (.inl ⟨State.reporting_of_parts parts, rfl, rfl⟩)
  | resume reporting => exact .inr (.inl ⟨.inr reporting, rfl, rfl⟩)
  | handOut _ parts | retire parts | discard parts | start parts | extract parts
  | abandon parts => exact .inr (.inr ⟨by simp [State.Reporting, parts], rfl, rfl⟩)
  | handIn waiting parts =>
      exact .inr (.inr ⟨by simp [State.Reporting, waiting, parts], rfl, rfl⟩)
  | close collector | pass collector | begin collector | accept collector | panic collector =>
      exact .inr (.inr ⟨by simp [State.Reporting, collector], rfl, rfl⟩)
  | _ => exact .inr (.inr ⟨.rfl, rfl, rfl⟩)

/-- Cancelling and a panic last. -/
theorem lasting_of_transition {before after : State σ} {env : Environment σ}
    (transition : Transition env before after) :
    (before.cancelled = true → after.cancelled = true) ∧
      (before.collector = .panicked → after.collector = .panicked) := by
  cases transition with
  | report => exact ⟨fun cancelled => by simp [State.cancel, cancelled], id⟩
  | handIn waiting | close waiting =>
      exact ⟨id, fun panicked => by simp [waiting] at panicked⟩
  | pass judging | begin judging =>
      exact ⟨id, fun panicked => by simp [judging] at panicked⟩
  | accept writing | refuse writing => exact ⟨id, fun panicked => by simp [writing] at panicked⟩
  | resume reporting =>
      exact ⟨fun cancelled => by simp [State.cancel, cancelled],
        fun panicked => by simp [reporting] at panicked⟩
  | panic => exact ⟨id, fun _ => rfl⟩
  | _ => exact ⟨id, id⟩

/-- Nobody cancels, or has yet to, before an error is recorded, and only under `abort`; a producer that
was neither cancelled nor left alone ends as the input does. -/
structure Orderly (env : Environment σ) (state : State σ) : Prop where
  reporting : state.Reporting → state.firstError ≠ none
  cancelled : state.cancelled = true → state.firstError ≠ none ∧ env.policy = .abort
  ended : ∀ how, state.producer = .ended how →
    how = .ofEnding env.ending ∨ how = .stranded ∨ (how = .cancelled ∧ state.cancelled = true)

theorem orderly_initial (env : Environment σ) (packages : List Package) (workers : Nat)
    (sink : σ) : Orderly env (.initial packages workers sink) where
  reporting := by
    rintro (⟨batch, member⟩ | reporting)
    · cases List.eq_of_mem_replicate member
    · cases reporting
  cancelled cancelled := by cases cancelled
  ended how ended := by cases ended

theorem Orderly.transition {before after : State σ} (kept : Orderly env before)
    (transition : Transition env before after) : Orderly env after where
  reporting reporting := by
    rcases reporting_of_transition transition with
      ⟨-, recorded, -⟩ | ⟨earlier, same, -⟩ | ⟨still, same, -⟩
    · exact recorded
    · exact same ▸ kept.reporting earlier
    · exact same ▸ kept.reporting (still.mp reporting)
  cancelled cancelled := by
    rcases reporting_of_transition transition with
      ⟨-, recorded, still⟩ | ⟨earlier, same, now⟩ | ⟨-, same, still⟩
    · exact ⟨recorded, (kept.cancelled (still ▸ cancelled)).2⟩
    · rw [now, Bool.or_eq_true] at cancelled
      rw [same]
      rcases cancelled with old | aborts
      · exact kept.cancelled old
      · exact ⟨kept.reporting earlier, eq_of_beq aborts⟩
    · exact same ▸ kept.cancelled (still ▸ cancelled)
  ended how ended := by
    have lasts := (lasting_of_transition transition).1
    have later (same : before.producer = .ended how) :=
      (kept.ended how same).imp_right (Or.imp_right (And.imp_right lasts))
    cases transition with
    | exhaust =>
        cases ended
        exact .inl rfl
    | withdraw _ stopped =>
        cases ended
        exact .inr (.inr ⟨rfl, stopped⟩)
    | strand =>
        cases ended
        exact .inr (.inl rfl)
    | offer | handOut => cases ended
    | _ => exact later ended

theorem Reaches.orderly (run : Reaches env (.initial packages workers sink) state) :
    Orderly env state :=
  run.invariant (orderly_initial env packages workers sink)
    fun _ _ _ kept transition => kept.transition transition

/-- Under `abort` a recorded error has cancelled the run, or somebody has yet to cancel for it. -/
theorem Reaches.cancelled_of_recorded (run : Reaches env (.initial packages workers sink) state)
    (aborts : env.policy = .abort) (recorded : state.firstError ≠ none) :
    state.cancelled = true ∨ state.Reporting := by
  refine run.invariant (P := fun state => state.firstError ≠ none →
    state.cancelled = true ∨ state.Reporting) (fun recorded => absurd rfl recorded) ?_ recorded
  intro before after _ kept transition recorded
  rcases reporting_of_transition transition with
    ⟨reporting, -, -⟩ | ⟨-, -, now⟩ | ⟨still, same, lasts⟩
  · exact .inr reporting
  · exact .inl (by simp [now, aborts])
  · exact (kept (same ▸ recorded)).imp lasts.trans still.mpr

/-- Nobody leaves a producer alone unless the collector panicked. -/
theorem Reaches.panicked_of_stranded (run : Reaches env (.initial packages workers sink) state)
    (some : 0 < workers) (stranded : state.producer = .ended .stranded) :
    state.collector = .panicked := by
  refine run.invariant (P := fun state =>
    state.producer = .ended .stranded → state.collector = .panicked)
    (fun stranded => by cases stranded) ?_ stranded
  intro before after earlier kept transition stranded
  have lasts := (lasting_of_transition transition).2
  cases transition with
  | exhaust =>
      cases ends : env.ending <;> simp [ends, ProducerEnd.ofEnding] at stranded
  | strand offering gone =>
      have running : before.producerEnded = false := by simp [State.producerEnded, offering]
      exact earlier.panicked_of_allGone some gone running
  | withdraw | offer | handOut => cases stranded
  | _ => exact lasts (kept stranded)

/-- How the producer can have ended. -/
theorem Reaches.how_ended (run : Reaches env (.initial packages workers sink) state)
    (some : 0 < workers) {how : ProducerEnd} (ended : state.producer = .ended how) :
    how = .ofEnding env.ending ∨ (how = .cancelled ∧ state.cancelled = true) ∨
      (how = .stranded ∧ state.collector = .panicked) := by
  rcases run.orderly.ended how ended with whole | rfl | cancelled
  · exact .inl whole
  · exact .inr (.inr ⟨rfl, run.panicked_of_stranded some ended⟩)
  · exact .inr (.inl cancelled)

end Ends

/-! ### Nothing is lost, nothing is counted twice -/

section Balance

variable {env : Environment σ} {packages : List Package} {workers : Nat} {sink : σ}
  {state : State (σ × List Call)}

/-- The batches that are still to be made of what a producer has. -/
def Producer.account (keyOf : KeyOf) (producer : Producer) : Multiset (List Entry) :=
  ↑(producer.pending.map (Package.batch keyOf))

/-- The batch that is made, or to be made, of what a worker has. -/
def Worker.account (keyOf : KeyOf) (worker : Worker) : Multiset (List Entry) :=
  ↑(worker.pending.map (Package.batch keyOf)) + ↑worker.batches

/-- The batch that a collector has. -/
def Collector.account (collector : Collector) : Multiset (List Entry) :=
  ↑collector.batches

/-- The batches of the packages that nothing was made of, those on their way and those of the calls.
-/
def State.account (keyOf : KeyOf) (state : State (σ × List Call)) : Multiset (List Entry) :=
  state.producer.account keyOf + (state.workers.map (Worker.account keyOf)).sum +
    state.collector.account + ↑(state.sink.2.map Call.batch)

section Values

variable (keyOf : KeyOf) (package : Package) (batch : List Entry)

@[simp] theorem Producer.account_ended (how : ProducerEnd) :
    Producer.account keyOf (.ended how) = 0 := rfl

@[simp] theorem Producer.account_exhausted : Producer.account keyOf (.ready []) = 0 := rfl

theorem Producer.account_offering (rest : List Package) :
    Producer.account keyOf (.offering package rest) =
      {package.batch keyOf} + Producer.account keyOf (.ready rest) := rfl

theorem Producer.account_ready (rest : List Package) :
    Producer.account keyOf (.ready (package :: rest)) =
      Producer.account keyOf (.offering package rest) := rfl

@[simp] theorem Worker.account_idle : Worker.account keyOf .idle = 0 := rfl

@[simp] theorem Worker.account_gone : Worker.account keyOf .gone = 0 := rfl

@[simp] theorem Worker.account_holding :
    Worker.account keyOf (.holding package) = {package.batch keyOf} := rfl

@[simp] theorem Worker.account_extracting :
    Worker.account keyOf (.extracting package) = {package.batch keyOf} := rfl

@[simp] theorem Worker.account_reporting :
    Worker.account keyOf (.reporting batch) = {batch} := rfl

@[simp] theorem Worker.account_sending : Worker.account keyOf (.sending batch) = {batch} := rfl

@[simp] theorem Collector.account_waiting : Collector.account .waiting = 0 := rfl

@[simp] theorem Collector.account_judging : Collector.account (.judging batch) = {batch} := rfl

@[simp] theorem Collector.account_writing : Collector.account (.writing batch) = {batch} := rfl

@[simp] theorem Collector.account_reporting : Collector.account .reporting = 0 := rfl

@[simp] theorem Collector.account_gone : Collector.account .gone = 0 := rfl

@[simp] theorem Collector.account_panicked : Collector.account .panicked = 0 := rfl

/-- The part of the workers, that of one of them put in front. -/
theorem sum_account_parts (left right : List Worker) (worker : Worker) :
    ((left ++ worker :: right).map (Worker.account keyOf)).sum =
      worker.account keyOf + ((left ++ right).map (Worker.account keyOf)).sum := by
  rw [List.map_append, List.map_append, List.map_cons, List.sum_append, List.sum_append,
    List.sum_cons, add_left_comm]

theorem coe_map_batch_append (calls : List Call) (call : Call) :
    (((calls ++ [call]).map Call.batch : List (List Entry)) : Multiset (List Entry)) =
      ↑(calls.map Call.batch) + {call.batch} := by
  rw [List.map_append, ← Multiset.coe_add]
  rfl

theorem sum_account (workers : List Worker) :
    (workers.map (Worker.account keyOf)).sum =
      ↑((workers.flatMap Worker.pending).map (Package.batch keyOf)) +
        ↑(workers.flatMap Worker.batches) := by
  induction workers with
  | nil => rfl
  | cons worker workers ih =>
      rw [List.map_cons, List.sum_cons, ih, List.flatMap_cons, List.flatMap_cons, List.map_append,
        ← Multiset.coe_add, ← Multiset.coe_add, Worker.account]
      abel

end Values

theorem account_eq (keyOf : KeyOf) (state : State (σ × List Call)) :
    state.account keyOf = state.pending.map (Package.batch keyOf) + state.carried +
      ↑(state.calls.map Call.batch) := by
  rw [State.account, sum_account, State.pending, State.carried, Multiset.map_add,
    Multiset.map_coe, Multiset.map_coe, State.calls, Producer.account, Collector.account]
  abel

theorem account_initial (keyOf : KeyOf) (packages : List Package) (workers : Nat) (sink : σ) :
    (State.initial packages workers (sink, ([] : List Call))).account keyOf =
      ↑(packages.map (Package.batch keyOf)) := by
  simp [account_eq, State.pending, State.carried, State.calls, State.initial, Producer.pending,
    Collector.batches, List.flatMap_replicate, Worker.pending, Worker.batches]

/-- Why a step may lose a batch: it is empty, the run is cancelled, or nobody is left who takes it.
-/
def Excused (state : State σ) (batch : List Entry) : Prop :=
  batch = [] ∨ state.cancelled = true ∨ (state.allGone = true ∧ state.producerEnded = false) ∨
    (state.collectorLeft = true ∧ state.allGone = false)

/-- A step moves batches from one place to another, and loses one only for a reason. -/
theorem account_of_transition {before after : State (σ × List Call)}
    (transition : Transition env.recorded before after) :
    ∃ lost, before.account env.keyOf = after.account env.keyOf + lost ∧
      ∀ batch ∈ lost, Excused before batch := by
  have kept (same : before.account env.keyOf = after.account env.keyOf) :
      ∃ lost, before.account env.keyOf = after.account env.keyOf + lost ∧
        ∀ batch ∈ lost, Excused before batch :=
    ⟨0, by rw [same, add_zero], by simp⟩
  have one (batch : List Entry) (excused : Excused before batch)
      (same : before.account env.keyOf = after.account env.keyOf + {batch}) :
      ∃ lost, before.account env.keyOf = after.account env.keyOf + lost ∧
        ∀ batch ∈ lost, Excused before batch :=
    ⟨{batch}, same, fun other member => by rwa [Multiset.mem_singleton.mp member]⟩
  cases transition with
  | exhaust ready =>
      apply kept
      simp only [State.account, ready, Producer.account_exhausted, Producer.account_ended]
  | offer ready =>
      apply kept
      simp only [State.account, ready, Producer.account_ready]
  | withdraw ready cancelled =>
      refine ⟨before.producer.account env.keyOf, ?_, fun _ _ => .inr (.inl cancelled)⟩
      simp only [State.account, Producer.account_ended]
      abel
  | strand offering gone =>
      have running : before.producerEnded = false := by simp [State.producerEnded, offering]
      refine ⟨before.producer.account env.keyOf, ?_,
        fun _ _ => .inr (.inr (.inl ⟨gone, running⟩))⟩
      simp only [State.account, Producer.account_ended]
      abel
  | handOut offering parts =>
      apply kept
      simp only [State.account, offering, parts, Producer.account_offering, sum_account_parts,
        Worker.account_idle, Worker.account_holding]
      abel
  | retire parts =>
      apply kept
      simp only [State.account, parts, sum_account_parts, Worker.account_idle, Worker.account_gone]
  | start parts =>
      apply kept
      simp only [State.account, parts, sum_account_parts, Worker.account_holding,
        Worker.account_extracting]
  | @discard package _ _ parts cancelled =>
      apply one (package.batch env.keyOf) (.inr (.inl cancelled))
      simp only [State.account, parts, sum_account_parts, Worker.account_holding,
        Worker.account_idle]
      abel
  | extract parts | falter parts =>
      apply kept
      simp only [State.account, State.record, parts, sum_account_parts, Worker.account_extracting,
        Worker.account_reporting, Worker.account_sending]
      rfl
  | report parts =>
      apply kept
      simp only [State.account, State.cancel, parts, sum_account_parts, Worker.account_reporting,
        Worker.account_sending]
  | @abandon batch _ _ parts departed =>
      have working : before.allGone = false := by simp [State.allGone, parts]
      apply one batch (.inr (.inr (.inr ⟨departed, working⟩)))
      simp only [State.account, parts, sum_account_parts, Worker.account_sending,
        Worker.account_gone]
      abel
  | handIn waiting parts =>
      apply kept
      simp only [State.account, waiting, parts, sum_account_parts, Worker.account_sending,
        Worker.account_idle, Collector.account_waiting, Collector.account_judging]
      abel
  | close waiting =>
      apply kept
      simp only [State.account, waiting, Collector.account_waiting, Collector.account_gone]
  | @pass batch judging needless =>
      apply one batch (needless.imp_right .inl)
      simp only [State.account, judging, Collector.account_judging, Collector.account_waiting]
      abel
  | begin judging =>
      apply kept
      simp only [State.account, judging, Collector.account_judging, Collector.account_writing]
  | accept writing wrote | refuse writing wrote | panic writing wrote =>
      have called := (Writer.recorded_eq_iff.mp wrote).2
      apply kept
      simp only [State.account, State.record, writing, called, coe_map_batch_append,
        Collector.account_writing, Collector.account_waiting, Collector.account_reporting,
        Collector.account_panicked]
      abel
  | resume reporting =>
      apply kept
      simp only [State.account, State.cancel, reporting, Collector.account_reporting,
        Collector.account_waiting]

/-- The batches that are accounted for are the batches of all packages, up to batches that are lost
because they are empty, the run is cancelled or the collector panicked. -/
theorem Reaches.balanced
    (run : Reaches env.recorded (.initial packages workers (sink, [])) state)
    (some : 0 < workers) :
    ∃ lost : Multiset (List Entry),
      (packages : Multiset Package).map (Package.batch env.keyOf) =
        state.account env.keyOf + lost ∧
      ∀ batch ∈ lost, batch = [] ∨ state.cancelled = true ∨ state.collector = .panicked := by
  refine run.invariant (P := fun state => ∃ lost : Multiset (List Entry),
      (packages : Multiset Package).map (Package.batch env.keyOf) =
        state.account env.keyOf + lost ∧
      ∀ batch ∈ lost, batch = [] ∨ state.cancelled = true ∨ state.collector = .panicked) ?_ ?_
  · exact ⟨0, by rw [account_initial, add_zero, Multiset.map_coe], by simp⟩
  · rintro before after earlier ⟨lost, whole, excused⟩ transition
    obtain ⟨more, moved, reasons⟩ := account_of_transition transition
    obtain ⟨cancelled, panicked⟩ := lasting_of_transition transition
    refine ⟨more + lost, ?_, ?_⟩
    · rw [whole, moved, add_assoc]
    · intro batch member
      have reason : batch = [] ∨ before.cancelled = true ∨ before.collector = .panicked := by
        rcases Multiset.mem_add.mp member with now | old
        · rcases reasons batch now with empty | stopped | ⟨gone, running⟩ |
              ⟨departed, working⟩
          · exact .inl empty
          · exact .inr (.inl stopped)
          · exact .inr (.inr (earlier.panicked_of_allGone some gone running))
          · refine .inr (.inr ?_)
            unfold State.collectorLeft at departed
            split at departed
            · rename_i left
              rw [(earlier.allGone_of_gone left).2] at working
              cases working
            · assumption
            · cases departed
        · exact excused batch old
      exact reason.imp_right (Or.imp cancelled panicked)

/-- With everybody at their end, a batch was written or is lost for a reason. -/
theorem Reaches.balanced_of_finished
    (run : Reaches env.recorded (.initial packages workers (sink, [])) state)
    (some : 0 < workers) (finished : state.finished = true) :
    ∃ lost : Multiset (List Entry),
      (packages : Multiset Package).map (Package.batch env.keyOf) =
        ↑(state.calls.map Call.batch) + lost ∧
      ∀ batch ∈ lost, batch = [] ∨ state.cancelled = true ∨ state.collector = .panicked := by
  obtain ⟨lost, whole, excused⟩ := run.balanced some
  refine ⟨lost, ?_, excused⟩
  simp [whole, account_eq, pending_of_finished finished, carried_of_finished finished]

/-- The batches of the calls are those of packages, of each package at most once. -/
theorem Reaches.subperm_calls
    (run : Reaches env.recorded (.initial packages workers (sink, [])) state)
    (some : 0 < workers) :
    (state.calls.map Call.batch).Subperm (packages.map (Package.batch env.keyOf)) := by
  obtain ⟨lost, whole, -⟩ := run.balanced some
  rw [← Multiset.coe_le, ← Multiset.map_coe (Package.batch env.keyOf), whole, account_eq]
  exact (Multiset.le_add_left _ _).trans (Multiset.le_add_right _ _)

end Balance

/-! ### What a recorded error tells -/

section Errors

variable {env : Environment σ} {packages : List Package} {workers : Nat} {sink : σ}

/-- Nothing waits that was not there at the start. -/
theorem Reaches.mem_of_mem_pending {state : State σ}
    (run : Reaches env (.initial packages workers sink) state) {package : Package}
    (waits : package ∈ state.pending) : package ∈ packages := by
  refine run.invariant (P := fun state => ∀ package ∈ state.pending, package ∈ packages)
    ?_ ?_ package waits
  · intro package waits
    simpa [State.pending, State.initial, Producer.pending, List.flatMap_replicate,
      Worker.pending] using waits
  · intro before after _ kept transition package waits
    refine (fun (sub : package ∈ before.pending) => kept package sub) ?_
    cases transition with
    | exhaust ready | withdraw ready | offer ready =>
        simp_all [State.pending, Producer.pending]
    | strand offering => simp_all [State.pending, Producer.pending]
    | handOut offering parts =>
        simp [State.pending, Producer.pending, Worker.pending, offering, parts,
          -List.mem_flatMap] at waits ⊢
        tauto
    | retire parts | discard parts | start parts | extract parts | falter parts | report parts
    | abandon parts | handIn _ parts =>
        simp [State.pending, State.record, State.cancel, Worker.pending, parts,
          -List.mem_flatMap] at waits ⊢
        tauto
    | _ => exact waits

/-- A run that succeeds recorded no error, and its producer neither panicked nor was left alone. -/
theorem of_done {scan : Scan} {state : State σ} {summary : Summary}
    (done : outcome scan state = .done summary) :
    state.firstError = none ∧
      ∀ how, state.producer = .ended how → how ≠ .panicked ∧ how ≠ .stranded := by
  unfold outcome at done
  split at done
  · cases done
  · cases done
  · cases done
  · cases done
  · rename_i panicked _ stranded _
    split at done
    · cases done
    · rename_i clean
      refine ⟨clean, ?_⟩
      rintro how ended
      exact ⟨fun same => panicked (same ▸ ended), fun same => stranded (same ▸ ended)⟩

/-- The recorded error is that of a record without a key or that of a refusal. -/
theorem Reaches.of_firstError {state : State (σ × List Call)}
    (run : Reaches env.recorded (.initial packages workers (sink, [])) state) {error : Error}
    (recorded : state.firstError = some error) :
    (∃ package ∈ packages, package.fault? env.keyOf = some error) ∨
      ∃ call ∈ state.calls, call.verdict = .refused error := by
  refine run.invariant (P := fun state => ∀ error, state.firstError = some error →
    (∃ package ∈ packages, package.fault? env.keyOf = some error) ∨
      ∃ call ∈ state.calls, call.verdict = .refused error) ?_ ?_ error recorded
  · intro error recorded
    cases recorded
  · intro before after earlier kept transition error recorded
    have stays : ∀ call ∈ before.calls, call ∈ after.calls := fun _ => transition.mem_calls
    cases transition with
    | @falter package fault _ _ parts faulty =>
        cases first : before.firstError with
        | some old => exact kept error (by simpa [State.record, first] using recorded)
        | none =>
            have waits : package ∈ before.pending := by
              simp [State.pending, parts, Worker.pending]
            have same : fault = error := by simpa [State.record, first] using recorded
            exact .inl ⟨package, earlier.mem_of_mem_pending waits, same ▸ faulty⟩
    | @refuse batch fault _ _ wrote =>
        have called := (Writer.recorded_eq_iff.mp wrote).2
        cases first : before.firstError with
        | some old =>
            refine (kept error (by simpa [State.record, first] using recorded)).imp_right ?_
            rintro ⟨call, made, refused⟩
            exact ⟨call, stays call made, refused⟩
        | none =>
            have same : fault = error := by simpa [State.record, first] using recorded
            exact .inr ⟨⟨batch, .refused fault⟩, by simp [State.calls, State.record, called],
              congrArg Verdict.refused same⟩
    | _ =>
        refine (kept error recorded).imp_right ?_
        rintro ⟨call, made, refused⟩
        exact ⟨call, stays call made, refused⟩

/-- While no error is recorded, no call was refused and, unless the collector panicked, whatever has
a record without a key still waits. -/
theorem Reaches.of_no_error {state : State (σ × List Call)}
    (run : Reaches env.recorded (.initial packages workers (sink, [])) state)
    (some : 0 < workers) (clean : state.firstError = none) :
    (∀ call ∈ state.calls, ∀ error, call.verdict ≠ .refused error) ∧
      (state.collector ≠ .panicked →
        ∀ package ∈ packages, package.fault? env.keyOf ≠ none → package ∈ state.pending) := by
  refine run.invariant (P := fun state => state.firstError = none →
    (∀ call ∈ state.calls, ∀ error, call.verdict ≠ .refused error) ∧
      (state.collector ≠ .panicked →
        ∀ package ∈ packages, package.fault? env.keyOf ≠ none → package ∈ state.pending))
    ?_ ?_ clean
  · intro _
    refine ⟨by simp [State.calls, State.initial], ?_⟩
    intro _ package member _
    simp [State.pending, State.initial, Producer.pending, member]
  · intro before after earlier kept transition clean
    cases transition with
    | falter | refuse => cases clean
    | withdraw _ cancelled | discard _ cancelled =>
        exact absurd clean (earlier.orderly.cancelled cancelled).1
    | strand offering gone =>
        refine ⟨(kept clean).1, ?_⟩
        intro calm
        have running : before.producerEnded = false := by simp [State.producerEnded, offering]
        exact absurd (earlier.panicked_of_allGone some gone running) calm
    | exhaust ready | offer ready =>
        refine ⟨(kept clean).1, ?_⟩
        intro calm package member faulty
        have waits := (kept clean).2 calm package member faulty
        simpa [State.pending, Producer.pending, ready] using waits
    | handOut offering parts =>
        refine ⟨(kept clean).1, ?_⟩
        intro calm package member faulty
        have waits := (kept clean).2 calm package member faulty
        simp [State.pending, Producer.pending, Worker.pending, offering, parts,
          -List.mem_flatMap] at waits ⊢
        tauto
    | extract parts unfailing =>
        refine ⟨(kept clean).1, ?_⟩
        intro calm package member faulty
        have waits := (kept clean).2 calm package member faulty
        simp [State.pending, Worker.pending, parts, -List.mem_flatMap] at waits ⊢
        rcases waits with waits | waits | rfl | waits
        · exact .inl waits
        · exact .inr (.inl waits)
        · exact absurd unfailing faulty
        · exact .inr (.inr waits)
    | retire parts | start parts | report parts | abandon parts =>
        refine ⟨(kept clean).1, ?_⟩
        intro calm package member faulty
        have waits := (kept clean).2 calm package member faulty
        simpa [State.pending, State.cancel, Worker.pending, parts, -List.mem_flatMap] using waits
    | handIn waiting parts =>
        refine ⟨(kept clean).1, ?_⟩
        intro _ package member faulty
        have waits := (kept clean).2 (by simp [waiting]) package member faulty
        simpa [State.pending, Worker.pending, parts, -List.mem_flatMap] using waits
    | close collector | resume collector =>
        exact ⟨(kept clean).1, fun _ => (kept clean).2 (by simp [collector])⟩
    | pass judging | begin judging =>
        exact ⟨(kept clean).1, fun _ => (kept clean).2 (by simp [judging])⟩
    | accept writing wrote =>
        have called := (Writer.recorded_eq_iff.mp wrote).2
        refine ⟨?_, fun _ => (kept clean).2 (by simp [writing])⟩
        intro call made
        simp only [State.calls, called, List.mem_append, List.mem_singleton] at made
        rcases made with earlier | rfl
        · exact (kept clean).1 call earlier
        · simp
    | panic writing wrote =>
        have called := (Writer.recorded_eq_iff.mp wrote).2
        refine ⟨?_, fun calm => absurd rfl calm⟩
        intro call made
        simp only [State.calls, called, List.mem_append, List.mem_singleton] at made
        rcases made with earlier | rfl
        · exact (kept clean).1 call earlier
        · simp

end Errors

/-! ### What calls and counts tell -/

section Counts

variable {env : Environment σ} {packages : List Package} {workers : Nat} {sink : σ}
  {state : State (σ × List Call)}

/-- The writer is not called with an empty batch. -/
theorem Reaches.batch_ne_nil
    (run : Reaches env.recorded (.initial packages workers (sink, [])) state) :
    (∀ call ∈ state.calls, call.batch ≠ []) ∧
      ∀ batch, state.collector = .writing batch → batch ≠ [] := by
  refine run.invariant (P := fun state => (∀ call ∈ state.calls, call.batch ≠ []) ∧
      ∀ batch, state.collector = .writing batch → batch ≠ []) ?_ ?_
  · exact ⟨by simp [State.calls, State.initial], fun _ writing => by cases writing⟩
  · intro before after _ kept transition
    constructor
    · intro call made
      rcases calls_of_transition transition with same | ⟨batch, verdict, writing, -, called⟩
      · exact kept.1 call (by rwa [State.calls, ← same])
      · rw [called, List.mem_append, List.mem_singleton] at made
        rcases made with earlier | rfl
        · exact kept.1 call earlier
        · exact kept.2 batch writing
    · intro batch writing
      cases transition with
      | begin _ filled =>
          cases writing
          exact filled
      | handIn | close | pass | accept | refuse | panic | resume => cases writing
      | _ => exact kept.2 batch writing

/-- The collector does not panic when the writer never does. -/
theorem Reaches.not_panicked
    (run : Reaches env.recorded (.initial packages workers (sink, [])) state)
    (calm : env.write.Calm) : state.collector ≠ .panicked := by
  refine run.invariant (P := fun state => state.collector ≠ .panicked) (by simp [State.initial])
    ?_
  intro before after _ kept transition panicked
  cases transition with
  | panic writing wrote =>
      have same := (Writer.recorded_eq_iff.mp wrote).1
      exact calm _ before.sink.1 _ (congrArg Prod.fst same)
  | handIn | close | pass | begin | accept | refuse | resume => cases panicked
  | _ => exact kept panicked

/-- Every package that the producer does not hold was handed to a worker, unless the producer
stopped early. -/
theorem Reaches.sent_add_pending {τ : Type} {env : Environment τ} {sink : τ} {state : State τ}
    (run : Reaches env (.initial packages workers sink) state)
    (whole : ∀ how, state.producer = .ended how → how ≠ .cancelled ∧ how ≠ .stranded) :
    state.sent + state.producer.pending.length = packages.length := by
  refine run.invariant (P := fun state =>
    (∀ how, state.producer = .ended how → how ≠ .cancelled ∧ how ≠ .stranded) →
      state.sent + state.producer.pending.length = packages.length) ?_ ?_ whole
  · intro _
    simp [State.initial, Producer.pending]
  · intro before after _ kept transition whole
    cases transition with
    | exhaust ready | offer ready =>
        have earlier := kept fun how ended => by simp [ready] at ended
        simpa [Producer.pending, ready] using earlier
    | withdraw => exact absurd rfl (whole .cancelled rfl).1
    | strand => exact absurd rfl (whole .stranded rfl).2
    | handOut offering =>
        have earlier := kept fun how ended => by simp [offering] at ended
        simp only [Producer.pending, offering, List.length_cons] at earlier ⊢
        omega
    | _ => exact kept whole

/-- The entries that count as written are those of the calls that were accepted. -/
theorem Reaches.written_eq
    (run : Reaches env.recorded (.initial packages workers (sink, [])) state) :
    state.written = (state.calls.flatMap Call.accepted).length := by
  refine run.invariant (P := fun state =>
    state.written = (state.calls.flatMap Call.accepted).length) rfl ?_
  intro before after _ kept transition
  cases transition with
  | accept _ wrote =>
      have called := (Writer.recorded_eq_iff.mp wrote).2
      simp [State.calls, called, Call.accepted, kept]
  | refuse _ wrote | panic _ wrote =>
      have called := (Writer.recorded_eq_iff.mp wrote).2
      simpa [State.calls, State.record, called, Call.accepted] using kept
  | _ => exact kept

/-- The calls lead to where the writer is. -/
theorem Reaches.leads
    (run : Reaches env.recorded (.initial packages workers (sink, [])) state) :
    env.write.Leads sink state.calls state.sink.1 := by
  refine run.invariant (P := fun state => env.write.Leads sink state.calls state.sink.1)
    .none ?_
  intro before after _ kept transition
  rcases calls_of_transition transition with same | ⟨batch, verdict, -, wrote, called⟩
  · rwa [State.calls, same]
  · rw [called]
    exact .call kept wrote

end Counts

end Pipeline

end RecordStore
