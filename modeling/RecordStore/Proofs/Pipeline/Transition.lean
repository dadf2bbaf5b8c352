import RecordStore.Pipeline.Network
import Mathlib.Data.List.Basic

/-!
What one step of a run can do.

`Transition` lists everything a process can do, with the state before and after; every
step is one, so an invariant of a run is one argument for each of its constructors.
No state is stuck before all processes are at their end, and every step takes something
from the measure of a state.
-/

namespace RecordStore.Pipeline

variable {σ : Type}

/-- One step of a run, by what is done. A worker that acts stands between the workers to its left
and to its right. -/
inductive Transition (env : Environment σ) (state : State σ) : State σ → Prop where
  /-- The producer has handed out everything. -/
  | exhaust (ready : state.producer = .ready []) :
      Transition env state { state with producer := .ended (.ofEnding env.ending) }
  /-- The producer stops at a recorded error. -/
  | withdraw {package : Package} {rest : List Package}
      (ready : state.producer = .ready (package :: rest)) (cancelled : state.cancelled = true) :
      Transition env state { state with producer := .ended .cancelled }
  | offer {package : Package} {rest : List Package}
      (ready : state.producer = .ready (package :: rest)) (running : state.cancelled = false) :
      Transition env state { state with producer := .offering package rest }
  /-- Nobody is left to take the package. -/
  | strand {package : Package} {rest : List Package}
      (offering : state.producer = .offering package rest) (gone : state.allGone = true) :
      Transition env state { state with producer := .ended .stranded }
  | handOut {package : Package} {rest : List Package} {left right : List Worker}
      (offering : state.producer = .offering package rest)
      (idle : state.workers = left ++ .idle :: right) :
      Transition env state { state with
        producer := .ready rest
        workers := left ++ .holding package :: right
        sent := state.sent + 1 }
  | retire {left right : List Worker} (idle : state.workers = left ++ .idle :: right)
      (ended : state.producerEnded = true) :
      Transition env state { state with workers := left ++ .gone :: right }
  /-- A worker drops a package that was cancelled. -/
  | discard {package : Package} {left right : List Worker}
      (holding : state.workers = left ++ .holding package :: right)
      (cancelled : state.cancelled = true) :
      Transition env state { state with workers := left ++ .idle :: right }
  | start {package : Package} {left right : List Worker}
      (holding : state.workers = left ++ .holding package :: right)
      (running : state.cancelled = false) :
      Transition env state { state with workers := left ++ .extracting package :: right }
  | extract {package : Package} {left right : List Worker}
      (extracting : state.workers = left ++ .extracting package :: right)
      (clean : (package.entries env.keyOf).2 = none) :
      Transition env state { state with
        workers := left ++ .sending (package.entries env.keyOf).1 :: right }
  /-- A record without a key is met. -/
  | falter {package : Package} {error : Error} {left right : List Worker}
      (extracting : state.workers = left ++ .extracting package :: right)
      (faulty : (package.entries env.keyOf).2 = some error) :
      Transition env state { state.record error with
        workers := left ++ .reporting (package.entries env.keyOf).1 :: right }
  /-- A worker cancels the rest, if that is to be done, for the error that it recorded. -/
  | report {batch : List Entry} {left right : List Worker}
      (reporting : state.workers = left ++ .reporting batch :: right) :
      Transition env state { state.cancel env.policy with
        workers := left ++ .sending batch :: right }
  /-- Nobody is left to take the batch. -/
  | abandon {batch : List Entry} {left right : List Worker}
      (sending : state.workers = left ++ .sending batch :: right)
      (departed : state.collectorLeft = true) :
      Transition env state { state with workers := left ++ .gone :: right }
  | handIn {batch : List Entry} {left right : List Worker}
      (waiting : state.collector = .waiting)
      (sending : state.workers = left ++ .sending batch :: right) :
      Transition env state { state with
        collector := .judging batch
        workers := left ++ .idle :: right }
  /-- The collector leaves behind everybody else. -/
  | close (waiting : state.collector = .waiting) (ended : state.producerEnded = true)
      (gone : state.allGone = true) :
      Transition env state { state with collector := .gone }
  /-- The collector passes over a batch. -/
  | pass {batch : List Entry} (judging : state.collector = .judging batch)
      (needless : batch = [] ∨ state.cancelled = true) :
      Transition env state { state with collector := .waiting }
  | begin {batch : List Entry} (judging : state.collector = .judging batch)
      (filled : batch ≠ []) (running : state.cancelled = false) :
      Transition env state { state with collector := .writing batch }
  | accept {batch : List Entry} {sink : σ} (writing : state.collector = .writing batch)
      (wrote : env.write batch state.sink = (.accepted, sink)) :
      Transition env state { state with
        collector := .waiting
        sink := sink
        written := state.written + batch.length }
  | refuse {batch : List Entry} {error : Error} {sink : σ}
      (writing : state.collector = .writing batch)
      (wrote : env.write batch state.sink = (.refused error, sink)) :
      Transition env state
        ({ state with collector := .reporting, sink := sink }.record error)
  /-- The collector cancels the rest, if that is to be done, for the error that it recorded. -/
  | resume (reporting : state.collector = .reporting) :
      Transition env state ({ state with collector := .waiting }.cancel env.policy)
  | panic {batch : List Entry} {message : String} {sink : σ}
      (writing : state.collector = .writing batch)
      (wrote : env.write batch state.sink = (.panicked message, sink)) :
      Transition env state { state with collector := .panicked, sink := sink }

/-! ### Steps are transitions -/

/-- A place in a list parts it, and setting what stands there leaves the rest alone. -/
theorem exists_parts {α : Type} {things : List α} {i : Nat} {thing : α}
    (there : things[i]? = some thing) :
    ∃ left right, things = left ++ thing :: right ∧ left.length = i ∧
      ∀ other, things.set i other = left ++ other :: right := by
  obtain ⟨bound, same⟩ := List.getElem?_eq_some_iff.mp there
  refine ⟨things.take i, things.drop (i + 1), ?_, by simp; omega, ?_⟩
  · rw [← same, List.getElem_cons_drop, List.take_append_drop]
  · intro other
    exact List.set_eq_take_append_cons_drop.trans (if_pos bound)

section Steps

variable {env : Environment σ} {before after : State σ}

theorem transition_of_produce? (step : produce? env before = some after) :
    Transition env before after := by
  unfold produce? at step
  split at step
  · rename_i ready
    cases step
    exact .exhaust ready
  · rename_i package rest ready
    split at step
    · cases step
      exact .withdraw ready ‹_›
    · cases step
      exact .offer ready (Bool.eq_false_iff.mpr ‹_›)
  · rename_i package rest offering
    split at step
    · cases step
      exact .strand offering ‹_›
    · cases step
  · cases step

theorem transition_of_handOut? {i : Nat} (step : handOut? before i = some after) :
    Transition env before after := by
  unfold handOut? at step
  split at step
  · rename_i package rest offering there
    obtain ⟨left, right, parts, -, set⟩ := exists_parts there
    cases step
    rw [set]
    exact .handOut offering parts
  · cases step

theorem transition_of_work? {i : Nat} (step : work? env before i = some after) :
    Transition env before after := by
  unfold work? at step
  split at step
  · rename_i there
    obtain ⟨left, right, parts, -, set⟩ := exists_parts there
    split at step
    · cases step
      rw [State.setWorker, set]
      exact .retire parts ‹_›
    · cases step
  · rename_i package there
    obtain ⟨left, right, parts, -, set⟩ := exists_parts there
    cases step
    rw [State.setWorker, set]
    split
    · exact .discard parts ‹_›
    · exact .start parts (Bool.eq_false_iff.mpr ‹_›)
  · rename_i package there
    obtain ⟨left, right, parts, -, set⟩ := exists_parts there
    split at step
    · rename_i batch made
      cases step
      have same : batch = (package.entries env.keyOf).1 := by rw [made]
      rw [State.setWorker, set, same]
      exact .extract parts (by rw [made])
    · rename_i batch error made
      cases step
      have same : batch = (package.entries env.keyOf).1 := by rw [made]
      simp only [State.setWorker, State.record, set, same]
      exact .falter parts (by rw [made])
  · rename_i batch there
    obtain ⟨left, right, parts, -, set⟩ := exists_parts there
    cases step
    simp only [State.setWorker, State.cancel, set]
    exact .report parts
  · rename_i batch there
    obtain ⟨left, right, parts, -, set⟩ := exists_parts there
    split at step
    · cases step
      rw [State.setWorker, set]
      exact .abandon parts ‹_›
    · cases step
  · cases step
  · cases step

theorem transition_of_handIn? {i : Nat} (step : handIn? before i = some after) :
    Transition env before after := by
  unfold handIn? at step
  split at step
  · rename_i batch waiting there
    obtain ⟨left, right, parts, -, set⟩ := exists_parts there
    cases step
    rw [set]
    exact .handIn waiting parts
  · cases step

theorem transition_of_collect? (step : collect? env before = some after) :
    Transition env before after := by
  unfold collect? at step
  split at step
  · rename_i waiting
    split at step
    · rename_i left
      cases step
      obtain ⟨ended, gone⟩ := Bool.and_eq_true_iff.mp left
      exact .close waiting ended gone
    · cases step
  · rename_i batch judging
    split at step
    · rename_i needless
      cases step
      exact .pass judging (by simpa using needless)
    · rename_i needed
      cases step
      simp only [Bool.or_eq_true, List.isEmpty_iff, not_or] at needed
      exact .begin judging needed.1 (Bool.eq_false_iff.mpr needed.2)
  · rename_i batch writing
    split at step
    · cases step
      exact .accept writing ‹_›
    · cases step
      exact .refuse writing ‹_›
    · cases step
      exact .panic writing ‹_›
  · rename_i reporting
    cases step
    exact .resume reporting
  · cases step
  · cases step

theorem transition_of_step (step : Step env before after) : Transition env before after := by
  obtain ⟨action, step⟩ := step
  cases action with
  | produce => exact transition_of_produce? step
  | handOut i => exact transition_of_handOut? step
  | work i => exact transition_of_work? step
  | handIn i => exact transition_of_handIn? step
  | collect => exact transition_of_collect? step

theorem getElem?_parts {left right : List Worker} {worker : Worker} {workers : List Worker}
    (parts : workers = left ++ worker :: right) : workers[left.length]? = some worker := by
  simp [parts]

theorem set_parts {left right : List Worker} {worker : Worker} {workers : List Worker}
    (parts : workers = left ++ worker :: right) (other : Worker) :
    workers.set left.length other = left ++ other :: right := by
  simp [parts]

theorem step_of_transition (transition : Transition env before after) : Step env before after := by
  cases transition with
  | exhaust ready => exact ⟨.produce, by simp [step?, produce?, ready]⟩
  | withdraw ready cancelled => exact ⟨.produce, by simp [step?, produce?, ready, cancelled]⟩
  | offer ready running => exact ⟨.produce, by simp [step?, produce?, ready, running]⟩
  | strand offering gone => exact ⟨.produce, by simp [step?, produce?, offering, gone]⟩
  | @handOut _ _ left _ offering parts =>
      exact ⟨.handOut left.length, by
        simp [step?, handOut?, offering, getElem?_parts parts, set_parts parts]⟩
  | @retire left _ parts ended =>
      exact ⟨.work left.length, by
        simp [step?, work?, State.setWorker, ended, getElem?_parts parts, set_parts parts]⟩
  | @discard _ left _ parts cancelled =>
      exact ⟨.work left.length, by
        simp [step?, work?, State.setWorker, cancelled, getElem?_parts parts, set_parts parts]⟩
  | @start _ left _ parts running =>
      exact ⟨.work left.length, by
        simp [step?, work?, State.setWorker, running, getElem?_parts parts, set_parts parts]⟩
  | @extract package left _ parts clean =>
      have made : package.entries env.keyOf = ((package.entries env.keyOf).1, none) := by
        rw [← clean]
      refine ⟨.work left.length, ?_⟩
      simp only [step?, work?, getElem?_parts parts, State.setWorker, set_parts parts]
      rw [made]
  | @falter package error left _ parts faulty =>
      have made : package.entries env.keyOf = ((package.entries env.keyOf).1, some error) := by
        rw [← faulty]
      refine ⟨.work left.length, ?_⟩
      simp only [step?, work?, getElem?_parts parts, State.setWorker, State.record,
        set_parts parts]
      rw [made]
  | @report _ left _ parts =>
      exact ⟨.work left.length, by
        simp [step?, work?, State.setWorker, State.cancel, getElem?_parts parts, set_parts parts]⟩
  | @abandon _ left _ parts departed =>
      exact ⟨.work left.length, by
        simp [step?, work?, State.setWorker, departed, getElem?_parts parts, set_parts parts]⟩
  | @handIn _ left _ waiting parts =>
      exact ⟨.handIn left.length, by
        simp [step?, handIn?, waiting, getElem?_parts parts, set_parts parts]⟩
  | close waiting ended gone => exact ⟨.collect, by simp [step?, collect?, waiting, ended, gone]⟩
  | pass judging needless => exact ⟨.collect, by simp [step?, collect?, judging, needless]⟩
  | begin judging filled running =>
      exact ⟨.collect, by simp [step?, collect?, judging, filled, running]⟩
  | accept writing wrote => exact ⟨.collect, by simp [step?, collect?, writing, wrote]⟩
  | refuse writing wrote => exact ⟨.collect, by simp [step?, collect?, writing, wrote]⟩
  | panic writing wrote => exact ⟨.collect, by simp [step?, collect?, writing, wrote]⟩
  | resume reporting => exact ⟨.collect, by simp [step?, collect?, reporting]⟩

end Steps

theorem Reaches.trans {env : Environment σ} {start middle last : State σ}
    (first : Reaches env start middle) (rest : Reaches env middle last) :
    Reaches env start last := by
  induction rest with
  | refl => exact first
  | tail _ step ih => exact ih.tail step

/-- What holds at the start and through every transition of a run holds of every state of it. -/
theorem Reaches.invariant {env : Environment σ} {start state : State σ} {P : State σ → Prop}
    (run : Reaches env start state) (first : P start)
    (kept : ∀ before after, Reaches env start before → P before →
      Transition env before after → P after) :
    P state := by
  induction run with
  | refl => exact first
  | tail earlier step ih => exact kept _ _ earlier ih (transition_of_step step)

/-! ### No state is stuck -/

section Progress

variable {env : Environment σ} {state : State σ}

theorem exists_transition_of_ready {rest : List Package} (ready : state.producer = .ready rest) :
    ∃ after, Transition env state after := by
  cases rest with
  | nil => exact ⟨_, .exhaust ready⟩
  | cons package rest =>
      cases cancelled : state.cancelled with
      | true => exact ⟨_, .withdraw ready cancelled⟩
      | false => exact ⟨_, .offer ready cancelled⟩

theorem exists_transition_of_judging {batch : List Entry}
    (judging : state.collector = .judging batch) : ∃ after, Transition env state after := by
  by_cases needless : batch = [] ∨ state.cancelled = true
  · exact ⟨_, .pass judging needless⟩
  · obtain ⟨filled, running⟩ := not_or.mp needless
    exact ⟨_, .begin judging filled (Bool.eq_false_iff.mpr running)⟩

theorem exists_transition_of_writing {batch : List Entry}
    (writing : state.collector = .writing batch) : ∃ after, Transition env state after := by
  cases wrote : env.write batch state.sink with
  | mk verdict sink =>
      cases verdict with
      | accepted => exact ⟨_, .accept writing wrote⟩
      | refused error => exact ⟨_, .refuse writing wrote⟩
      | panicked message => exact ⟨_, .panic writing wrote⟩

theorem exists_transition_of_sending {batch : List Entry} {left right : List Worker}
    (sending : state.workers = left ++ .sending batch :: right) :
    ∃ after, Transition env state after := by
  cases collector : state.collector with
  | waiting => exact ⟨_, .handIn collector sending⟩
  | judging other => exact exists_transition_of_judging collector
  | writing other => exact exists_transition_of_writing collector
  | reporting => exact ⟨_, .resume collector⟩
  | gone => exact ⟨_, .abandon sending (by simp [State.collectorLeft, collector])⟩
  | panicked => exact ⟨_, .abandon sending (by simp [State.collectorLeft, collector])⟩

/-- Where a worker has not left, it can act, or else whoever it waits for can. -/
theorem exists_transition_of_not_allGone (busy : state.allGone = false) :
    ∃ after, Transition env state after := by
  simp only [State.allGone, List.all_eq_false, beq_iff_eq] at busy
  obtain ⟨worker, member, active⟩ := busy
  obtain ⟨left, right, parts⟩ := List.append_of_mem member
  cases worker with
  | idle =>
      cases producer : state.producer with
      | ready rest => exact exists_transition_of_ready producer
      | offering package rest => exact ⟨_, .handOut producer parts⟩
      | ended how => exact ⟨_, .retire parts (by simp [State.producerEnded, producer])⟩
  | holding package =>
      cases cancelled : state.cancelled with
      | true => exact ⟨_, .discard parts cancelled⟩
      | false => exact ⟨_, .start parts cancelled⟩
  | extracting package =>
      cases fault : (package.entries env.keyOf).2 with
      | none => exact ⟨_, .extract parts fault⟩
      | some error => exact ⟨_, .falter parts fault⟩
  | reporting batch => exact ⟨_, .report parts⟩
  | sending batch => exact exists_transition_of_sending parts
  | gone => exact absurd rfl active

/-- As long as some process is not at its end, some step can be taken. -/
theorem exists_transition_of_not_finished (unfinished : state.finished = false) :
    ∃ after, Transition env state after := by
  cases gone : state.allGone with
  | false => exact exists_transition_of_not_allGone gone
  | true =>
      cases producer : state.producer with
      | ready rest => exact exists_transition_of_ready producer
      | offering package rest => exact ⟨_, .strand producer gone⟩
      | ended how =>
          have ended : state.producerEnded = true := by simp [State.producerEnded, producer]
          cases collector : state.collector with
          | waiting => exact ⟨_, .close collector ended gone⟩
          | judging batch => exact exists_transition_of_judging collector
          | writing batch => exact exists_transition_of_writing collector
          | reporting => exact ⟨_, .resume collector⟩
          | gone => simp [State.finished, ended, gone, State.collectorLeft, collector] at unfinished
          | panicked =>
              simp [State.finished, ended, gone, State.collectorLeft, collector] at unfinished

end Progress

/-! ### Every step brings the end nearer -/

/-- The steps that workers may still cause, those of one of them put in front. -/
theorem foldr_measure_parts (left right : List Worker) (worker : Worker) :
    ((left ++ worker :: right).map Worker.measure).foldr (· + ·) 0 =
      worker.measure + ((left ++ right).map Worker.measure).foldr (· + ·) 0 := by
  induction left with
  | nil => rfl
  | cons first left ih =>
      simp only [List.cons_append, List.map_cons, List.foldr_cons, ih]
      omega

theorem measure_lt_of_transition {env : Environment σ} {before after : State σ}
    (transition : Transition env before after) : after.measure < before.measure := by
  cases transition with
  | exhaust ready => simp [State.measure, Producer.measure, ready]
  | withdraw ready => simp [State.measure, Producer.measure, ready]
  | offer ready => simp [State.measure, Producer.measure, ready]; omega
  | strand offering => simp [State.measure, Producer.measure, offering]
  | handOut offering parts =>
      simp only [State.measure, Producer.measure, Worker.measure, offering, parts,
        foldr_measure_parts]
      omega
  | retire parts | discard parts | start parts | extract parts | falter parts | report parts
  | abandon parts =>
      simp only [State.measure, State.record, State.cancel, Worker.measure, parts,
        foldr_measure_parts]
      omega
  | handIn waiting parts =>
      simp only [State.measure, Worker.measure, Collector.measure, waiting, parts,
        foldr_measure_parts]
      omega
  | close waiting => simp [State.measure, Collector.measure, waiting]
  | pass judging => simp [State.measure, Collector.measure, judging]
  | begin judging => simp [State.measure, Collector.measure, judging]
  | accept writing => simp [State.measure, Collector.measure, writing]
  | refuse writing => simp [State.measure, Collector.measure, State.record, writing]
  | panic writing => simp [State.measure, Collector.measure, writing]
  | resume reporting => simp [State.measure, Collector.measure, State.cancel, reporting]

end RecordStore.Pipeline
