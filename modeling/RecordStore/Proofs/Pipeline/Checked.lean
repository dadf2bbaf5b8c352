import RecordStore.Pipeline.Checked
import RecordStore.Proofs.Pipeline.Account
import Mathlib.Logic.Relation

/-!
Runs whose offsets are words, beside runs whose offsets are numbers.

`Checked.Indexes` holds of everything that a run with checked sums can come to. When the offset
behind the last record is a word it is `Indexes` (`Checked.indexes_iff`), and when it is none
no run succeeds (`Checked.Indexes.fits_of_done`).
-/

namespace RecordStore

/-! ### Packages -/

namespace Package

/-- No sum is at fault in front of an offset that is a word. -/
theorem breaksFrom_eq_false {keyOf : KeyOf} {offset : Nat} {records : List Bytes}
    (fits : offset + records.flatten.length < UInt64.size) :
    breaksFrom keyOf offset records = false := by
  induction records generalizing offset with
  | nil => rfl
  | cons record records ih =>
      rw [List.flatten_cons, List.length_append] at fits
      have word : ¬UInt64.size ≤ offset + record.length := by omega
      unfold breaksFrom
      split
      · rfl
      · rw [ih (by omega), Bool.or_false, decide_eq_false word]

theorem breaks_eq_false {keyOf : KeyOf} {package : Package} (fits : package.fits = true) :
    package.breaks keyOf = false :=
  breaksFrom_eq_false (of_decide_eq_true fits)

/-- What is handed out is cut off the input, in its order. -/
theorem handedOut_sublist (size start : Nat) (scan : Scan) :
    (handedOut size start scan).Sublist (cut (size - 1) start scan.records) := by
  unfold handedOut
  split
  · exact .refl _
  · exact List.filter_sublist

/-- The offsets behind packages that are cut off one after another are words just when the last one
is. -/
theorem all_fits_cut_iff (batch : Nat) {start : Nat} {records : List Bytes}
    (word : start < UInt64.size) :
    (cut batch start records).all fits = true ↔
      start + records.flatten.length < UInt64.size := by
  induction start, records using cut.induct batch with
  | case1 start =>
      rw [cut]
      exact iff_of_true rfl word
  | case2 start record rest package ih =>
      have parts : (record :: rest).flatten.length =
          package.size + (rest.drop batch).flatten.length := by
        rw [size, ← List.length_append, ← List.flatten_append, List.cons_append,
          List.take_append_drop]
      rw [cut, List.all_cons, Bool.and_eq_true, parts, ← Nat.add_assoc]
      by_cases first : start + package.size < UInt64.size
      · rw [ih first]
        exact and_iff_right (decide_eq_true first)
      · refine iff_of_false (fun fits => first (of_decide_eq_true fits.1)) ?_
        omega

theorem all_fits_handedOut (size : Nat) {start : Nat} {scan : Scan}
    (fits : start + scan.size < UInt64.size) :
    (handedOut size start scan).all Package.fits = true := by
  have word : start < UInt64.size := by omega
  have whole := List.all_eq_true.mp ((all_fits_cut_iff (size - 1) word).mpr fits)
  exact List.all_eq_true.mpr fun package member =>
    whole package ((handedOut_sublist size start scan).subset member)

/-- Where all offsets are words, the producer comes to all packages. -/
theorem reached_of_all_fits {packages : List Package} (fits : packages.all Package.fits = true) :
    reached packages = packages := by
  have all := List.all_eq_true.mp fits
  have none : (packages.find? fun package => !package.fits) = none :=
    List.find?_eq_none.mpr fun package member => by simp [all package member]
  rw [reached, List.takeWhile_eq_self_iff.mpr all, none, Option.toList_none, List.append_nil]

end Package

namespace Checked

open Pipeline

variable {σ : Type}

/-! ### Steps -/

/-- One step of a run. -/
def Step (env : Environment σ) (before after : State σ) : Prop :=
  ∃ action, step? env before action = some after

/-- The states that a run can come to. -/
def Reaches (env : Environment σ) : State σ → State σ → Prop :=
  Relation.ReflTransGen (Step env)

section Steps

variable {env : Environment σ} {before after state : State σ}

/-- Besides what it does elsewhere, a step makes a worker leave whose sum is no word. -/
theorem transition_or_break (step : Step env before after) :
    Transition env before after ∨ ∃ package left right,
      before.workers = left ++ .extracting package :: right ∧ package.breaks env.keyOf = true ∧
        after = { before with workers := left ++ .gone :: right } := by
  obtain ⟨action, step⟩ := step
  unfold step? at step
  split at step
  · rename_i i
    split at step
    · rename_i breaking
      unfold breaksAt at breaking
      split at breaking
      · rename_i package there
        obtain ⟨left, right, parts, -, set⟩ := exists_parts there
        cases step
        exact .inr ⟨package, left, right, parts, breaking, by rw [State.setWorker, set]⟩
      · cases breaking
    · exact .inl (transition_of_step ⟨.work i, step⟩)
  · exact .inl (transition_of_step ⟨_, step⟩)

theorem measure_lt_of_step (step : Step env before after) : after.measure < before.measure := by
  rcases transition_or_break step with transition | ⟨package, left, right, parts, -, rfl⟩
  · exact measure_lt_of_transition transition
  · simp only [State.measure, Worker.measure, parts, foldr_measure_parts]
    omega

theorem length_workers_of_step (step : Step env before after) :
    after.workers.length = before.workers.length := by
  rcases transition_or_break step with transition | ⟨package, left, right, parts, -, rfl⟩
  · exact length_workers_of_transition transition
  · simp [parts]

/-- Whoever could act without a check can act with it. -/
theorem isSome_step? {action : Action} (taken : (Pipeline.step? env state action).isSome) :
    (step? env state action).isSome := by
  unfold step?
  split
  · split
    · rfl
    · exact taken
  · exact taken

theorem finished_finalState (env : Environment σ) (state : State σ) :
    (finalState (step? env) state).finished = true := by
  refine finished_finalState_of (fun _ action _ step => measure_lt_of_step ⟨action, step⟩)
    (fun _ action _ step => length_workers_of_step ⟨action, step⟩) ?_ state
  intro state unfinished
  obtain ⟨action, member, taken⟩ : ∃ action ∈ actions state.workers.length,
      (Pipeline.step? env state action).isSome :=
    exists_action_of_not_finished unfinished
  exact ⟨action, member, isSome_step? taken⟩

theorem reaches_finalState (env : Environment σ) (state : State σ) :
    Reaches env state (finalState (step? env) state) :=
  runActions_invariant (P := Reaches env state) .refl
    fun _ action _ run step => run.tail ⟨action, step⟩

/-- While no package is at fault that nothing was made of, the check makes no difference. -/
theorem step?_eq (sound : ∀ package ∈ state.pending, package.breaks env.keyOf = false)
    (action : Action) : step? env state action = Pipeline.step? env state action := by
  unfold step?
  split
  · rename_i i
    have calm : breaksAt env state i = false := by
      unfold breaksAt
      split
      · rename_i package there
        obtain ⟨left, right, parts, -⟩ := exists_parts there
        exact sound package (by simp [State.pending, parts, Worker.pending])
      · rfl
    rw [calm]
    rfl
  · rfl

end Steps

section Runs

variable {env : Environment σ} {packages : List Package} {workers : Nat} {sink : σ}
  {state : State σ}

/-- Runs over packages none of which is at fault are runs without a check. -/
theorem reaches_iff (sound : ∀ package ∈ packages, package.breaks env.keyOf = false) :
    Reaches env (.initial packages workers sink) state ↔
      Pipeline.Reaches env (.initial packages workers sink) state := by
  have same {state : State σ} (run : Pipeline.Reaches env (.initial packages workers sink) state)
      (action : Action) : step? env state action = Pipeline.step? env state action :=
    step?_eq (fun package waits => sound package (run.mem_of_mem_pending waits)) action
  constructor
  · intro run
    induction run with
    | refl => exact .refl
    | tail _ step ih =>
        obtain ⟨action, step⟩ := step
        exact ih.tail ⟨action, same ih action ▸ step⟩
  · intro run
    induction run with
    | refl => exact .refl
    | tail earlier step ih =>
        obtain ⟨action, step⟩ := step
        exact ih.tail ⟨action, (same earlier action).trans step⟩

theorem Reaches.orderly (run : Reaches env (.initial packages workers sink) state) :
    Orderly env state := by
  induction run with
  | refl => exact orderly_initial env packages workers sink
  | tail _ step ih =>
      rcases transition_or_break step with transition | ⟨package, left, right, parts, -, rfl⟩
      · exact ih.transition transition
      · exact ⟨fun reporting => ih.reporting (by simpa [State.Reporting, parts] using reporting),
          ih.cancelled, ih.ended⟩

end Runs

/-! ### Runs to their end -/

/-- What indexing an input can come to, and the writer that it leaves behind. -/
inductive Indexes (keyOf : KeyOf) (write : Writer σ) (settings : RunSettings) (start : UInt64)
    (scan : Scan) (sink : σ) : Outcome Summary → σ → Prop where
  | refused {error : Error} (invalid : settings.validate = .error error) :
      Indexes keyOf write settings start scan sink (.failed error) sink
  | sequential (valid : settings.validate = .ok ()) (mode : settings.mode = .sequential) :
      Indexes keyOf write settings start scan sink
        (runSequential keyOf write start scan sink).1
        (runSequential keyOf write start scan sink).2
  | parallel {packages : List Package} {workers : Nat} {final : State σ}
      (valid : settings.validate = .ok ()) (mode : settings.mode = .parallel)
      (admitted : settings.Admits workers)
      (handed : packages = Package.handedOut settings.batchSize start.toNat scan)
      (run : Reaches ⟨keyOf, write, settings.onError, ending packages scan⟩
        (.initial (Package.reached packages) workers sink) final)
      (finished : final.finished = true) :
      Indexes keyOf write settings start scan sink (outcome packages scan final) final.sink

/-- What `index` gives is one of the things that indexing can come to. -/
theorem indexes_index (keyOf : KeyOf) (write : Writer σ) (settings : RunSettings)
    (start : UInt64) (scan : Scan) (sink : σ) :
    Indexes keyOf write settings start scan sink
      (index keyOf write settings start scan sink).1
      (index keyOf write settings start scan sink).2 := by
  unfold index
  split
  · exact .refused ‹_›
  · split
    · exact .sequential ‹_› ‹_›
    · exact .parallel ‹_› ‹_› settings.admits_workerCount rfl
        (reaches_finalState _ _) (finished_finalState _ _)

theorem sequentialFrom_eq {keyOf : KeyOf} {write : Writer σ} {ending : Ending} {offset : Nat}
    {summary : Summary} {records : List Bytes} {sink : σ}
    (fits : offset + records.flatten.length < UInt64.size) :
    sequentialFrom keyOf write ending offset summary records sink =
      Pipeline.sequentialFrom keyOf write ending offset summary records sink := by
  induction records generalizing offset summary sink with
  | nil => rfl
  | cons record records ih =>
      rw [List.flatten_cons, List.length_append] at fits
      have word : offset + record.length < UInt64.size := by omega
      have rest (summary : Summary) (sink : σ) :=
        @ih (offset + record.length) summary sink (by omega)
      cases found : keyOf record with
      | error error => simp only [sequentialFrom, Pipeline.sequentialFrom, found]
      | ok key =>
          cases wrote : write [⟨key, offset, record.length⟩] sink with
          | mk verdict sink =>
              cases verdict <;>
                simp only [sequentialFrom, Pipeline.sequentialFrom, found, wrote, if_pos word, rest]

/-- A run that succeeds has come to no sum that is no word. -/
theorem fits_of_sequentialFrom {keyOf : KeyOf} {write : Writer σ} {ending : Ending} {offset : Nat}
    {summary last : Summary} {records : List Bytes} {sink : σ} (word : offset < UInt64.size)
    (done : (sequentialFrom keyOf write ending offset summary records sink).1 = .done last) :
    offset + records.flatten.length < UInt64.size := by
  induction records generalizing offset summary sink with
  | nil => exact word
  | cons record records ih =>
      unfold sequentialFrom at done
      split at done
      · cases done
      · split at done
        · cases done
        · cases done
        · split at done
          · rename_i inside
            have rest := ih inside done
            rw [List.flatten_cons, List.length_append]
            omega
          · cases done

section Indexes

variable {keyOf : KeyOf} {write : Writer σ} {settings : RunSettings} {start : UInt64}
  {scan : Scan} {sink after : σ}

/-- While the offset behind the last record is a word, the check makes no difference. -/
theorem indexes_iff {result : Outcome Summary} (fits : start.toNat + scan.size < UInt64.size) :
    Indexes keyOf write settings start scan sink result after ↔
      RecordStore.Indexes keyOf write settings start.toNat scan sink result after := by
  have all := Package.all_fits_handedOut settings.batchSize fits
  have reached := Package.reached_of_all_fits all
  have sound (package : Package)
      (member : package ∈ Package.handedOut settings.batchSize start.toNat scan) :
      package.breaks keyOf = false :=
    Package.breaks_eq_false (List.all_eq_true.mp all package member)
  have same : runSequential keyOf write start scan sink =
      Pipeline.runSequential keyOf write start.toNat scan sink :=
    sequentialFrom_eq fits
  have ends : ending (Package.handedOut settings.batchSize start.toNat scan) scan = scan.ending :=
    if_pos all
  have comes (final : State σ) :
      outcome (Package.handedOut settings.batchSize start.toNat scan) scan final =
        Pipeline.outcome scan final := by
    simp [outcome, all]
  constructor
  · intro run
    cases run with
    | refused invalid => exact .refused invalid
    | sequential valid mode =>
        rw [same]
        exact .sequential valid mode
    | parallel valid mode admitted handed run finished =>
        subst handed
        rw [ends, reached, reaches_iff sound] at run
        rw [comes]
        exact .parallel valid mode admitted run finished
  · intro run
    cases run with
    | refused invalid => exact .refused invalid
    | sequential valid mode =>
        rw [← same]
        exact .sequential valid mode
    | parallel valid mode admitted run finished =>
        rw [← comes]
        refine .parallel valid mode admitted rfl ?_ finished
        rw [ends, reached, reaches_iff sound]
        exact run

/-- No run succeeds over an input behind which the offset is no word. -/
theorem Indexes.fits_of_done {summary : Summary} (whole : scan.ending = .finished)
    (run : Indexes keyOf write settings start scan sink (.done summary) after) :
    start.toNat + scan.size < UInt64.size := by
  generalize same : (.done summary : Outcome Summary) = result at run
  cases run with
  | refused => cases same
  | sequential => exact fits_of_sequentialFrom start.toNat_lt same.symm
  | @parallel packages workers final _ _ _ handed run finished =>
      by_contra outside
      have broken : packages.all Package.fits = false := by
        rw [handed, Package.handedOut, whole, Bool.eq_false_iff]
        exact fun all => outside ((Package.all_fits_cut_iff _ start.toNat_lt).mp all)
      have orderly := run.orderly
      obtain ⟨how, ended⟩ := exists_how_of_finished finished
      unfold outcome at same
      split at same
      · cases same
      · obtain ⟨clean, ends⟩ := of_done same.symm
        rcases orderly.ended how ended with rfl | rfl | ⟨-, cancelled⟩
        · simp [ending, broken, ended, ProducerEnd.ofEnding] at ends
        · exact (ends _ ended).2 rfl
        · exact (orderly.cancelled cancelled).1 clean

end Indexes

end Checked

end RecordStore
