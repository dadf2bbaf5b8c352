import RecordStore.Pipeline
import RecordStore.Proofs.Pipeline.Transition

/-!
Everything that indexing an input can come to.

A run with workers has as many outcomes as there are orders of its steps and, where
their number is left open, numbers of workers. `Indexes` holds of all of them;
`indexes_index` says that the scheduled run is one.
-/

namespace RecordStore

namespace Pipeline

variable {σ : Type}

/-! ### The scheduled run -/

section Scheduled

variable {next? : State σ → Action → Option (State σ)} {order : List Action} {fuel : Nat}
  {state : State σ}

/-- What holds at the start and is kept by every action holds at the end. -/
theorem runActions_invariant {P : State σ → Prop} (first : P state)
    (kept : ∀ before action after, P before → next? before action = some after → P after) :
    P (runActions next? order fuel state) := by
  induction fuel generalizing state with
  | zero => exact first
  | succ fuel ih =>
      unfold runActions
      split
      · exact first
      · rename_i next taken
        obtain ⟨action, -, step⟩ := List.exists_of_findSome?_eq_some taken
        exact ih (kept _ _ _ first step)

/-- With as much fuel as the measure of a state, no action of the order is left. -/
theorem findSome?_runActions
    (shrinks : ∀ before action after,
      next? before action = some after → after.measure < before.measure)
    (enough : state.measure ≤ fuel) :
    order.findSome? (next? (runActions next? order fuel state)) = none := by
  induction fuel generalizing state with
  | zero =>
      unfold runActions
      rw [List.findSome?_eq_none_iff]
      intro action _
      by_contra taken
      obtain ⟨next, step⟩ := Option.ne_none_iff_exists'.mp taken
      have less := shrinks _ _ _ step
      omega
  | succ fuel ih =>
      unfold runActions
      split
      · assumption
      · rename_i next taken
        obtain ⟨action, -, step⟩ := List.exists_of_findSome?_eq_some taken
        have less := shrinks _ _ _ step
        exact ih (by omega)

/-- A scheduled run goes on to the end when all that its workers can do is in the order and somebody
can always act before. -/
theorem finished_finalState_of
    (shrinks : ∀ before action after,
      next? before action = some after → after.measure < before.measure)
    (workers : ∀ before action after,
      next? before action = some after → after.workers.length = before.workers.length)
    (progress : ∀ state : State σ, state.finished = false →
      ∃ action ∈ actions state.workers.length, (next? state action).isSome) (state : State σ) :
    (finalState next? state).finished = true := by
  by_contra unfinished
  obtain ⟨action, member, taken⟩ := progress _ (Bool.eq_false_iff.mpr unfinished)
  have same : (finalState next? state).workers.length = state.workers.length :=
    runActions_invariant (P := fun final => final.workers.length = state.workers.length) rfl
      fun before action after kept step => (workers before action after step).trans kept
  have none : (actions state.workers.length).findSome? (next? (finalState next? state)) = none :=
    findSome?_runActions shrinks (Nat.le_refl state.measure)
  rw [same] at member
  have stuck := List.findSome?_eq_none_iff.mp none action member
  rw [stuck] at taken
  cases taken

end Scheduled

theorem length_workers_of_transition {env : Environment σ} {before after : State σ}
    (transition : Transition env before after) :
    after.workers.length = before.workers.length := by
  cases transition with
  | handOut _ parts | retire parts | discard parts | start parts | extract parts | falter parts
  | report parts | abandon parts | handIn _ parts => simp [parts]
  | _ => rfl

theorem Reaches.length_workers {env : Environment σ} {start state : State σ}
    (run : Reaches env start state) : state.workers.length = start.workers.length :=
  run.invariant (P := fun state => state.workers.length = start.workers.length) rfl
    fun _ _ _ same transition => (length_workers_of_transition transition).trans same

/-- The actions of a number of workers are all that so many workers can take part in. -/
theorem mem_actions_of_step? {env : Environment σ} {state after : State σ} {action : Action}
    (step : step? env state action = some after) : action ∈ actions state.workers.length := by
  have bound {i : Nat} {worker : Worker} (there : state.workers[i]? = some worker) :
      i < state.workers.length := (List.getElem?_eq_some_iff.mp there).1
  cases action with
  | produce => simp [actions]
  | collect => simp [actions]
  | handOut i =>
      simp only [step?, handOut?] at step
      split at step
      · rename_i there
        simp [actions, bound there]
      · cases step
  | work i =>
      simp only [step?, work?] at step
      cases there : state.workers[i]? with
      | none => simp [there] at step
      | some worker => simp [actions, bound there]
  | handIn i =>
      simp only [step?, handIn?] at step
      split at step
      · rename_i there
        simp [actions, bound there]
      · cases step

/-- As long as some process is not at its end, one of the actions of the workers can be taken. -/
theorem exists_action_of_not_finished {env : Environment σ} {state : State σ}
    (unfinished : state.finished = false) :
    ∃ action ∈ actions state.workers.length, (step? env state action).isSome := by
  obtain ⟨after, transition⟩ : ∃ after, Transition env state after :=
    exists_transition_of_not_finished unfinished
  obtain ⟨action, step⟩ := step_of_transition transition
  exact ⟨action, mem_actions_of_step? step, by simp [step]⟩

/-- The scheduled run goes on to the end. -/
theorem finished_finalState (env : Environment σ) (state : State σ) :
    (finalState (step? env) state).finished = true :=
  finished_finalState_of
    (fun _ action _ step => measure_lt_of_transition (transition_of_step ⟨action, step⟩))
    (fun _ action _ step => length_workers_of_transition (transition_of_step ⟨action, step⟩))
    (fun _ unfinished => exists_action_of_not_finished unfinished) state

theorem reaches_finalState (env : Environment σ) (state : State σ) :
    Reaches env state (finalState (step? env) state) :=
  runActions_invariant (P := Reaches env state) .refl
    fun _ action _ run step => run.tail ⟨action, step⟩

end Pipeline

/-- A number of workers that a run may have: any but none where the settings leave it open. -/
def RunSettings.Admits (settings : RunSettings) (workers : Nat) : Prop :=
  0 < workers ∧ (0 < settings.workers → workers = settings.workers)

theorem RunSettings.admits_workerCount (settings : RunSettings) :
    settings.Admits settings.workerCount := by
  refine ⟨settings.workerCount_pos, ?_⟩
  intro given
  simp [workerCount, given]

theorem RunSettings.validate_eq_ok_iff {settings : RunSettings} :
    settings.validate = .ok () ↔ 0 < settings.batchSize := by
  unfold validate
  split
  · rename_i empty
    simp [empty]
  · rename_i filled
    simp [Nat.pos_of_ne_zero filled]

section Indexes

variable {σ : Type}

/-- What indexing an input can come to, and the writer that it leaves behind. -/
inductive Indexes (keyOf : KeyOf) (write : Writer σ) (settings : RunSettings) (start : Nat)
    (scan : Scan) (sink : σ) : Outcome Summary → σ → Prop where
  | refused {error : Error} (invalid : settings.validate = .error error) :
      Indexes keyOf write settings start scan sink (.failed error) sink
  | sequential (valid : settings.validate = .ok ()) (mode : settings.mode = .sequential) :
      Indexes keyOf write settings start scan sink
        (Pipeline.runSequential keyOf write start scan sink).1
        (Pipeline.runSequential keyOf write start scan sink).2
  | parallel {workers : Nat} {final : Pipeline.State σ} (valid : settings.validate = .ok ())
      (mode : settings.mode = .parallel) (admitted : settings.Admits workers)
      (run : Pipeline.Reaches ⟨keyOf, write, settings.onError, scan.ending⟩
        (.initial (Package.handedOut settings.batchSize start scan) workers sink) final)
      (finished : final.finished = true) :
      Indexes keyOf write settings start scan sink (Pipeline.outcome scan final) final.sink

/-- What `index` gives is one of the things that indexing can come to. -/
theorem indexes_index (keyOf : KeyOf) (write : Writer σ) (settings : RunSettings) (start : Nat)
    (scan : Scan) (sink : σ) :
    Indexes keyOf write settings start scan sink
      (index keyOf write settings start scan sink).1
      (index keyOf write settings start scan sink).2 := by
  unfold index
  split
  · exact .refused ‹_›
  · split
    · exact .sequential ‹_› ‹_›
    · exact .parallel ‹_› ‹_› settings.admits_workerCount
        (Pipeline.reaches_finalState _ _) (Pipeline.finished_finalState _ _)

variable {keyOf : KeyOf} {write : Writer σ} {settings : RunSettings} {start : Nat} {scan : Scan}
  {sink after : σ} {outcome : Outcome Summary}

/-- With workers, indexing is a run to its end. -/
theorem Indexes.exists_final (run : Indexes keyOf write settings start scan sink outcome after)
    (filled : 0 < settings.batchSize) (parallel : settings.mode = .parallel) :
    ∃ workers final, settings.Admits workers ∧
      Pipeline.Reaches ⟨keyOf, write, settings.onError, scan.ending⟩
        (.initial (Package.handedOut settings.batchSize start scan) workers sink) final ∧
      final.finished = true ∧ outcome = Pipeline.outcome scan final ∧ after = final.sink := by
  cases run with
  | refused invalid =>
      rw [RunSettings.validate_eq_ok_iff.mpr filled] at invalid
      cases invalid
  | sequential _ mode =>
      rw [parallel] at mode
      cases mode
  | parallel _ _ admitted run finished => exact ⟨_, _, admitted, run, finished, rfl, rfl⟩

/-- Without workers, indexing goes one way. -/
theorem Indexes.eq_runSequential
    (run : Indexes keyOf write settings start scan sink outcome after)
    (filled : 0 < settings.batchSize) (sequential : settings.mode = .sequential) :
    (outcome, after) = Pipeline.runSequential keyOf write start scan sink := by
  cases run with
  | refused invalid =>
      rw [RunSettings.validate_eq_ok_iff.mpr filled] at invalid
      cases invalid
  | sequential => rfl
  | parallel _ mode =>
      rw [sequential] at mode
      cases mode

end Indexes

end RecordStore
