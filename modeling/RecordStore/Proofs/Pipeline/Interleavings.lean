import RecordStore.Proofs.Pipeline.Account

/-!
Interleavings.

An interleaving is a run as the list of its actions, so that it can be asked in which order
things happened. `steps?` replays one; the states that are reached are those of all
interleavings (`reaches_iff_steps?`). `errors` lists what was recorded on the way, of which a
state keeps the first (`firstError_of_steps?`).
-/

namespace RecordStore

/-- The state of a run before its first step. -/
def RunSettings.firstState {σ : Type} (settings : RunSettings) (start : Nat) (scan : Scan)
    (workers : Nat) (sink : σ) : Pipeline.State σ :=
  .initial (Package.handedOut settings.batchSize start scan) workers sink

/-- What stays the same throughout a run over an input. -/
def RunSettings.environment {σ : Type} (settings : RunSettings) (keyOf : KeyOf)
    (write : Writer σ) (scan : Scan) : Pipeline.Environment σ :=
  ⟨keyOf, write, settings.onError, scan.ending⟩

/-- What is wrong with a package is wrong with its first record that has no key. -/
theorem Package.exists_record_of_fault? {keyOf : KeyOf} {package : Package} {error : Error}
    (faulty : package.fault? keyOf = some error) :
    ∃ before record after, package.records = before ++ record :: after ∧
      (∀ earlier ∈ before, ∃ key, keyOf earlier = .ok key) ∧ keyOf record = .error error := by
  rw [fault?, entries, Layout.entriesFrom_eq] at faulty
  obtain ⟨before, record, after, parts, failed, keyed⟩ :=
    List.findSome?_eq_some_iff.mp faulty
  refine ⟨before, record, after, parts, ?_, ?_⟩
  · intro earlier member
    exact Layout.fault?_eq_none_iff.mp (keyed earlier member)
  · unfold Layout.fault? at failed
    split at failed
    · cases failed
    · rename_i found
      cases failed
      exact found

namespace Pipeline

variable {σ : Type} {env : Environment σ}

/-! ### Replaying actions -/

/-- The state after some actions, if each of them can be taken. -/
def steps? (env : Environment σ) (state : State σ) (actions : List Action) : Option (State σ) :=
  actions.foldlM (step? env) state

theorem steps?_cons (state : State σ) (action : Action) (actions : List Action) :
    steps? env state (action :: actions) =
      (step? env state action).bind fun next => steps? env next actions := rfl

theorem steps?_append (state : State σ) (first rest : List Action) :
    steps? env state (first ++ rest) =
      (steps? env state first).bind fun next => steps? env next rest :=
  List.foldlM_append

theorem steps?_cons_eq_some_iff {state last : State σ} {action : Action} {actions : List Action} :
    steps? env state (action :: actions) = some last ↔
      ∃ next, step? env state action = some next ∧ steps? env next actions = some last := by
  rw [steps?_cons, Option.bind_eq_some_iff]

theorem reaches_of_steps? {state last : State σ} {actions : List Action}
    (replayed : steps? env state actions = some last) : Reaches env state last := by
  induction actions generalizing state with
  | nil =>
      cases replayed
      exact .refl
  | cons action actions ih =>
      obtain ⟨next, step, rest⟩ := steps?_cons_eq_some_iff.mp replayed
      exact (Reaches.refl.tail ⟨action, step⟩).trans (ih rest)

theorem exists_steps?_of_reaches {state last : State σ} (run : Reaches env state last) :
    ∃ actions, steps? env state actions = some last := by
  induction run with
  | refl => exact ⟨[], rfl⟩
  | tail _ step ih =>
      obtain ⟨actions, replayed⟩ := ih
      obtain ⟨action, step⟩ := step
      refine ⟨actions ++ [action], ?_⟩
      rw [steps?_append, replayed, Option.bind_some, steps?_cons, step]
      rfl

/-- What is reached is what some interleaving leads to. -/
theorem reaches_iff_steps? {state last : State σ} :
    Reaches env state last ↔ ∃ actions, steps? env state actions = some last :=
  ⟨exists_steps?_of_reaches, fun ⟨_, replayed⟩ => reaches_of_steps? replayed⟩

/-! ### What is recorded on the way -/

/-- The error that an action records: that of the record at which a worker stops, or that of the
batch that the writer refuses. -/
def recorded? (env : Environment σ) (state : State σ) : Action → Option Error
  | .work i =>
    match state.workers[i]? with
    | some (.extracting package) => package.fault? env.keyOf
    | _ => none
  | .collect =>
    match state.collector with
    | .writing batch =>
      match env.write batch state.sink with
      | (.refused error, _) => some error
      | _ => none
    | _ => none
  | _ => none

/-- The errors that some actions record, the first one in front. -/
def errors (env : Environment σ) : State σ → List Action → List Error
  | _, [] => []
  | state, action :: actions =>
    match step? env state action with
    | none => []
    | some next => (recorded? env state action).toList ++ errors env next actions

theorem errors_cons {state next : State σ} {action : Action}
    (step : step? env state action = some next) (actions : List Action) :
    errors env state (action :: actions) =
      (recorded? env state action).toList ++ errors env next actions := by
  rw [errors, step]

section Recording

variable {before after : State σ}

theorem firstError_of_work? {i : Nat} (step : work? env before i = some after) :
    after.firstError = before.firstError.or (recorded? env before (.work i)) := by
  unfold work? at step
  split at step
  · rename_i there
    split at step
    · cases step
      simp [recorded?, there, State.setWorker]
    · cases step
  · rename_i package there
    cases step
    simp [recorded?, there, State.setWorker]
  · rename_i package there
    simp only [recorded?, there, Package.fault?]
    split at step
    · rename_i made
      cases step
      simp [made, State.setWorker]
    · rename_i made
      cases step
      cases first : before.firstError <;> simp [made, State.setWorker, State.record, first]
  · rename_i batch there
    cases step
    simp [recorded?, there, State.setWorker, State.cancel]
  · rename_i batch there
    split at step
    · cases step
      simp [recorded?, there, State.setWorker]
    · cases step
  · cases step
  · cases step

theorem firstError_of_collect? (step : collect? env before = some after) :
    after.firstError = before.firstError.or (recorded? env before .collect) := by
  unfold collect? at step
  split at step
  · rename_i waiting
    split at step
    · cases step
      simp [recorded?, waiting]
    · cases step
  · rename_i batch judging
    split at step <;> cases step <;> simp [recorded?, judging]
  · rename_i batch writing
    split at step
    · rename_i wrote
      cases step
      simp [recorded?, writing, wrote]
    · rename_i wrote
      cases step
      cases before.firstError <;> simp [recorded?, writing, wrote, State.record]
    · rename_i wrote
      cases step
      simp [recorded?, writing, wrote]
  · rename_i reporting
    cases step
    simp [recorded?, reporting, State.cancel]
  · cases step
  · cases step

/-- An action adds the error that it records, unless there is one already. -/
theorem firstError_of_step? {action : Action} (step : step? env before action = some after) :
    after.firstError = before.firstError.or (recorded? env before action) := by
  cases action with
  | produce =>
      simp only [step?, produce?] at step
      split at step
      · cases step
        simp [recorded?]
      · split at step <;> cases step <;> simp [recorded?]
      · split at step <;> cases step
        simp [recorded?]
      · cases step
  | handOut i =>
      simp only [step?, handOut?] at step
      split at step <;> cases step
      simp [recorded?]
  | work i => exact firstError_of_work? step
  | handIn i =>
      simp only [step?, handIn?] at step
      split at step <;> cases step
      simp [recorded?]
  | collect => exact firstError_of_collect? step

/-- A state keeps the first of the errors that were recorded on the way to it. -/
theorem firstError_of_steps? {state last : State σ} {actions : List Action}
    (replayed : steps? env state actions = some last) :
    last.firstError = state.firstError.or (errors env state actions).head? := by
  induction actions generalizing state with
  | nil =>
      cases replayed
      simp [errors]
  | cons action actions ih =>
      obtain ⟨next, step, rest⟩ := steps?_cons_eq_some_iff.mp replayed
      rw [ih rest, firstError_of_step? step, errors_cons step, Option.or_assoc]
      cases recorded? env state action <;> simp

end Recording

/-! ### Where an error comes from -/

section Origin

variable {packages : List Package} {workers : Nat} {sink : σ} {before after : State (σ × List Call)}

/-- An error that is recorded is that of a package which waited, or that of a call which is made. -/
theorem origin_of_recorded? {action : Action}
    (step : step? env.recorded before action = some after) {error : Error}
    (recorded : recorded? env.recorded before action = some error) :
    (∃ package ∈ before.pending, package.fault? env.keyOf = some error) ∨
      ∃ call ∈ after.calls, call.verdict = .refused error := by
  cases action with
  | produce | handOut | handIn => cases recorded
  | work i =>
      simp only [recorded?] at recorded
      split at recorded
      · rename_i package there
        refine .inl ⟨package, ?_, recorded⟩
        obtain ⟨left, right, parts, -⟩ := exists_parts there
        simp [State.pending, parts, Worker.pending]
      · cases recorded
  | collect =>
      simp only [recorded?] at recorded
      split at recorded
      · rename_i batch writing
        split at recorded
        · rename_i sink wrote
          cases recorded
          simp only [step?, collect?, writing, wrote] at step
          cases step
          have called := (Writer.recorded_eq_iff.mp wrote).2
          exact .inr ⟨⟨batch, .refused error⟩, by simp [State.calls, State.record, called], rfl⟩
        · cases recorded
      · cases recorded

theorem Reaches.mem_calls {middle last : State (σ × List Call)}
    (run : Reaches env.recorded middle last) {call : Call} (made : call ∈ middle.calls) :
    call ∈ last.calls :=
  run.invariant (P := fun last => call ∈ last.calls) made
    fun _ _ _ kept transition => transition.mem_calls kept

/-- Every error of an interleaving is that of a package or that of a call. -/
theorem Reaches.origin_of_errors {middle last : State (σ × List Call)}
    (run : Reaches env.recorded (.initial packages workers (sink, [])) middle)
    {actions : List Action} (replayed : steps? env.recorded middle actions = some last)
    {error : Error} (recorded : error ∈ errors env.recorded middle actions) :
    (∃ package ∈ packages, package.fault? env.keyOf = some error) ∨
      ∃ call ∈ last.calls, call.verdict = .refused error := by
  induction actions generalizing middle with
  | nil => cases recorded
  | cons action actions ih =>
      obtain ⟨next, step, rest⟩ := steps?_cons_eq_some_iff.mp replayed
      rw [errors_cons step] at recorded
      rcases List.mem_append.mp recorded with now | later
      · rcases origin_of_recorded? step (Option.mem_toList.mp now) with
          ⟨package, waits, faulty⟩ | ⟨call, made, refused⟩
        · exact .inl ⟨package, run.mem_of_mem_pending waits, faulty⟩
        · exact .inr ⟨call, (reaches_of_steps? rest).mem_calls made, refused⟩
      · exact ih (run.tail ⟨action, step⟩) rest later

end Origin

end Pipeline

end RecordStore
