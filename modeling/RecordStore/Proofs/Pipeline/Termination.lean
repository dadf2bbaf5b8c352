import RecordStore.Proofs.Pipeline.Interleavings

/-!
A run cannot hang.

The processes of a run are joined by two channels that store nothing. `Rendezvous` says what a
process at a channel can do, by who holds the ends of it. Whatever the interleaving, some
process can act until all are at their end, every action takes from the measure of a state,
and so the run comes to an end and its caller returns.
-/

namespace RecordStore

namespace Pipeline

variable {σ : Type} {env : Environment σ}

/-! ### Who holds the ends of the channels -/

/-- The ends from which packages come: that of the producer, until its end. -/
def State.packageSenders (state : State σ) : Nat :=
  if state.producerEnded then 0 else 1

/-- The ends at which packages are taken: those of the workers that have not left. -/
def State.packageReceivers (state : State σ) : Nat :=
  state.workers.countP (· != .gone)

/-- The ends from which batches come: those of the workers that have not left and that of the
caller, who lets go of it when the producer and all workers are at their end. -/
def State.batchSenders (state : State σ) : Nat :=
  state.workers.countP (· != .gone) + if state.producerEnded && state.allGone then 0 else 1

/-- The ends at which batches are taken: that of the collector, until it leaves. -/
def State.batchReceivers (state : State σ) : Nat :=
  if state.collectorLeft then 0 else 1

/-- What can be done at the channels. Handing over takes both sides. A sender gives up when nobody
is left to receive, and a receiver leaves when nobody is left to send. -/
structure Rendezvous (env : Environment σ) (state : State σ) : Prop where
  handOut (i : Nat) :
    (∃ next, step? env state (.handOut i) = some next) ↔
      (∃ package rest, state.producer = .offering package rest) ∧ state.workers[i]? = some .idle
  handIn (i : Nat) :
    (∃ next, step? env state (.handIn i) = some next) ↔
      state.collector = .waiting ∧ ∃ batch, state.workers[i]? = some (.sending batch)
  producer {package : Package} {rest : List Package}
    (offering : state.producer = .offering package rest) :
    (∃ next, step? env state .produce = some next) ↔ state.packageReceivers = 0
  idle {i : Nat} (idle : state.workers[i]? = some .idle) :
    (∃ next, step? env state (.work i) = some next) ↔ state.packageSenders = 0
  sending {i : Nat} {batch : List Entry} (sending : state.workers[i]? = some (.sending batch)) :
    (∃ next, step? env state (.work i) = some next) ↔ state.batchReceivers = 0
  collector (waiting : state.collector = .waiting) :
    (∃ next, step? env state .collect = some next) ↔ state.batchSenders = 0

theorem countP_gone_eq_zero_iff {state : State σ} :
    state.workers.countP (· != .gone) = 0 ↔ state.allGone = true := by
  simp [State.allGone, List.countP_eq_zero]

theorem rendezvous (env : Environment σ) (state : State σ) : Rendezvous env state where
  handOut i := by
    constructor
    · rintro ⟨next, step⟩
      simp only [step?, handOut?] at step
      split at step
      · rename_i package rest offering idle
        exact ⟨⟨package, rest, offering⟩, idle⟩
      · cases step
    · rintro ⟨⟨package, rest, offering⟩, idle⟩
      simp [step?, handOut?, offering, idle]
  handIn i := by
    constructor
    · rintro ⟨next, step⟩
      simp only [step?, handIn?] at step
      split at step
      · rename_i batch waiting sending
        exact ⟨waiting, batch, sending⟩
      · cases step
    · rintro ⟨waiting, batch, sending⟩
      simp [step?, handIn?, waiting, sending]
  producer offering := by
    rw [State.packageReceivers, countP_gone_eq_zero_iff]
    simp [step?, produce?, offering]
  idle idle := by
    simp [step?, work?, idle, State.packageSenders]
  sending sending := by
    simp [step?, work?, sending, State.batchReceivers]
  collector waiting := by
    rw [State.batchSenders, Nat.add_eq_zero_iff, countP_gone_eq_zero_iff]
    cases gone : state.allGone <;> simp [step?, collect?, waiting, gone]

/-! ### How long a run can get -/

/-- As long as some process is not at its end, some action can be taken. -/
theorem exists_step?_of_not_finished {state : State σ} (unfinished : state.finished = false) :
    ∃ action next, step? env state action = some next := by
  obtain ⟨next, transition⟩ : ∃ next, Transition env state next :=
    exists_transition_of_not_finished unfinished
  obtain ⟨action, step⟩ := step_of_transition transition
  exact ⟨action, next, step⟩

theorem measure_lt_of_step? {state next : State σ} {action : Action}
    (step : step? env state action = some next) : next.measure < state.measure :=
  measure_lt_of_transition (transition_of_step ⟨action, step⟩)

/-- Every action of an interleaving takes from the measure of its first state. -/
theorem length_add_measure_le {state last : State σ} {actions : List Action}
    (replayed : steps? env state actions = some last) :
    actions.length + last.measure ≤ state.measure := by
  induction actions generalizing state with
  | nil =>
      cases replayed
      simp
  | cons action actions ih =>
      obtain ⟨next, step, rest⟩ := steps?_cons_eq_some_iff.mp replayed
      have less := measure_lt_of_step? step
      have bound := ih rest
      simp only [List.length_cons]
      omega

theorem measure_initial (packages : List Package) (workers : Nat) (sink : σ) :
    (State.initial packages workers sink).measure = 9 * packages.length + workers + 2 := by
  simp only [State.measure, State.initial, Producer.measure, Collector.measure,
    List.map_replicate, Worker.measure]
  have sum : (List.replicate workers 1).foldr (· + ·) 0 = workers := by
    induction workers with
    | zero => rfl
    | succ workers ih =>
        rw [List.replicate_succ, List.foldr_cons, ih]
        omega
  omega

/-- A run can be brought to its end from wherever it is. -/
theorem exists_finish (env : Environment σ) (state : State σ) :
    ∃ actions final, steps? env state actions = some final ∧ final.finished = true := by
  obtain ⟨actions, replayed⟩ := reaches_iff_steps?.mp (reaches_finalState env state)
  exact ⟨actions, _, replayed, finished_finalState env state⟩

/-- No run goes on for ever. -/
theorem exists_not_step (env : Environment σ) (states : Nat → State σ) :
    ∃ n, ¬Step env (states n) (states (n + 1)) := by
  by_contra endless
  push Not at endless
  have less (n : Nat) : (states (n + 1)).measure < (states n).measure :=
    measure_lt_of_transition (transition_of_step (endless n))
  have bound (n : Nat) : n + (states n).measure ≤ (states 0).measure := by
    induction n with
    | zero => simp
    | succ n ih =>
        have := less n
        omega
  have := bound ((states 0).measure + 1)
  omega

/-- Where no action is left, every process is at its end. -/
theorem finished_of_stuck {state : State σ} (stuck : ∀ action, step? env state action = none) :
    state.finished = true := by
  by_contra unfinished
  obtain ⟨action, next, step⟩ : ∃ action next, step? env state action = some next :=
    exists_step?_of_not_finished (Bool.eq_false_iff.mpr unfinished)
  rw [stuck action] at step
  cases step

/-- At the end all workers have left and so has the collector, or it panicked. -/
theorem Reaches.exited {packages : List Package} {workers : Nat} {sink : σ} {state : State σ}
    (run : Reaches env (.initial packages workers sink) state) (finished : state.finished = true) :
    state.producerEnded = true ∧ state.workers = List.replicate workers .gone ∧
      (state.collector = .gone ∨ state.collector = .panicked) := by
  have left : state.collectorLeft = true := by
    simp only [State.finished, Bool.and_eq_true] at finished
    exact finished.2
  obtain ⟨how, ended⟩ := exists_how_of_finished finished
  refine ⟨by simp [State.producerEnded, ended], ?_, ?_⟩
  · refine List.eq_replicate_iff.mpr ⟨?_, fun _ member => eq_gone_of_finished finished member⟩
    simpa [State.initial] using run.length_workers
  · unfold State.collectorLeft at left
    split at left
    · exact .inl ‹_›
    · exact .inr ‹_›
    · cases left

end Pipeline

section Termination

variable {σ : Type} {keyOf : KeyOf} {write : Writer σ} {settings : RunSettings}
  {start workers : Nat} {scan : Scan} {sink : σ} {actions : List Pipeline.Action}
  {state : Pipeline.State σ}

/-- Whatever was done of a run with workers, and whatever the source, the records and the writer
did in it: what the processes can do at the channels goes by who holds the ends; while a process is
not at its end, some action can be taken; every action makes the measure less, so only so many can
follow each other, and none follow each other for ever; the run can be brought to its end; and where
no action is left, the producer, all workers and the collector are at their end, and the outcome is
one that indexing comes to. -/
theorem run_cannot_hang (filled : 0 < settings.batchSize) (parallel : settings.mode = .parallel)
    (admitted : settings.Admits workers)
    (replayed : Pipeline.steps? (settings.environment keyOf write scan)
      (settings.firstState start scan workers sink) actions = some state) :
    Pipeline.Rendezvous (settings.environment keyOf write scan) state ∧
    (state.finished = false →
      ∃ action next, Pipeline.step? (settings.environment keyOf write scan) state action =
        some next) ∧
    (∀ action next, Pipeline.step? (settings.environment keyOf write scan) state action =
      some next → next.measure < state.measure) ∧
    actions.length + state.measure ≤
      9 * (Package.handedOut settings.batchSize start scan).length + workers + 2 ∧
    (∀ states : Nat → Pipeline.State σ, states 0 = state →
      ∃ n, ¬Pipeline.Step (settings.environment keyOf write scan) (states n) (states (n + 1))) ∧
    (∃ more final, Pipeline.steps? (settings.environment keyOf write scan) state more =
      some final ∧ final.finished = true) ∧
    ((∀ action, Pipeline.step? (settings.environment keyOf write scan) state action = none) →
      state.producerEnded = true ∧ state.workers = List.replicate workers .gone ∧
        (state.collector = .gone ∨ state.collector = .panicked) ∧
        Indexes keyOf write settings start scan sink (Pipeline.outcome scan state) state.sink) := by
  have run := Pipeline.reaches_of_steps? replayed
  refine ⟨Pipeline.rendezvous _ _, Pipeline.exists_step?_of_not_finished,
    fun _ _ step => Pipeline.measure_lt_of_step? step, ?_,
    fun states _ => Pipeline.exists_not_step _ states, Pipeline.exists_finish _ _, ?_⟩
  · have bound := Pipeline.length_add_measure_le replayed
    rwa [RunSettings.firstState, Pipeline.measure_initial] at bound
  · intro stuck
    have finished := Pipeline.finished_of_stuck stuck
    obtain ⟨ended, gone, left⟩ := Pipeline.Reaches.exited run finished
    exact ⟨ended, gone, left, .parallel (RunSettings.validate_eq_ok_iff.mpr filled) parallel
      admitted run finished⟩

/-- The writer panics at the first of three batches, so the only worker leaves with the second one,
and the producer, from whom nobody takes the third package, ends before it meets the failure of the
source. -/
theorem run_cannot_hang_behind_a_panic :
    let write : Writer Unit := fun _ sink => (.panicked "full", sink)
    let settings : RunSettings := ⟨1, 1, .parallel, .drain⟩
    let scan : Scan := ⟨[[49, 10], [50, 10], [51, 10]], .failed "gone"⟩
    ∃ actions final,
      Pipeline.steps? (settings.environment (fun _ => .ok "k") write scan)
        (settings.firstState 0 scan 1 ()) actions = some final ∧
      final.producer = .ended .stranded ∧ final.workers = [.gone] ∧
      final.collector = .panicked ∧
      Indexes (fun _ => .ok "k") write settings 0 scan () (.failed (.workerPanicked "writer"))
        () := by
  intro write settings scan
  have packages : Package.handedOut 1 0 scan =
      [⟨0, [[49, 10]]⟩, ⟨2, [[50, 10]]⟩, ⟨4, [[51, 10]]⟩] := by
    simp [Package.handedOut, Package.cut, Package.size, scan]
  have replayed : Pipeline.steps? (settings.environment (fun _ => .ok "k") write scan)
      (settings.firstState 0 scan 1 ())
      [.produce, .handOut 0, .work 0, .work 0, .handIn 0, .collect, .collect, .produce,
        .handOut 0, .work 0, .work 0, .produce, .work 0, .produce] =
      some ⟨.ended .stranded, [.gone], .panicked, none, false, (), 2, 0⟩ := by
    rw [RunSettings.firstState, packages]
    rfl
  obtain ⟨-, -, less, -, -, -, ends⟩ :=
    run_cannot_hang (by decide) rfl settings.admits_workerCount replayed
  obtain ⟨-, gone, -, comes⟩ := ends fun action => by
    by_contra taken
    obtain ⟨next, step⟩ := Option.ne_none_iff_exists'.mp taken
    exact absurd (less action next step) (by simp [Pipeline.State.measure,
      Pipeline.Producer.measure, Pipeline.Worker.measure, Pipeline.Collector.measure])
  exact ⟨_, _, replayed, rfl, gone, rfl, comes⟩

end Termination

end RecordStore
