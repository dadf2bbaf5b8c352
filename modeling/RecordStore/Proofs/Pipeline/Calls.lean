import RecordStore.Proofs.Layout
import RecordStore.Proofs.Pipeline.Runs

/-!
The calls that a writer gets.

A recorded writer does what the writer does and keeps its calls, with what came of
them. Recording changes no run (`Indexes.recorded`), so what is shown of the calls of
recorded runs holds of all.
-/

namespace RecordStore

/-- A batch that a writer was handed, and what it made of it. -/
structure Call where
  batch : List Entry
  verdict : Verdict

namespace Writer

variable {σ : Type}

/-- A writer that keeps its calls, the last one at the end. -/
def recorded (write : Writer σ) : Writer (σ × List Call) := fun batch sink =>
  let (verdict, after) := write batch sink.1
  (verdict, (after, sink.2 ++ [⟨batch, verdict⟩]))

/-- Calls one after another, and the state that they lead to. -/
inductive Leads (write : Writer σ) (origin : σ) : List Call → σ → Prop where
  | none : Leads write origin [] origin
  | call {calls : List Call} {before after : σ} {batch : List Entry} {verdict : Verdict} :
      Leads write origin calls before → write batch before = (verdict, after) →
      Leads write origin (calls ++ [⟨batch, verdict⟩]) after

/-- A writer that never panics. -/
def Calm (write : Writer σ) : Prop :=
  ∀ batch sink message, (write batch sink).1 ≠ .panicked message

/-- What a recorded writer gives is what the writer gives and the call behind the others. -/
theorem recorded_eq_iff {write : Writer σ} {batch : List Entry} {sink : σ × List Call}
    {verdict : Verdict} {after : σ × List Call} :
    write.recorded batch sink = (verdict, after) ↔
      write batch sink.1 = (verdict, after.1) ∧ after.2 = sink.2 ++ [⟨batch, verdict⟩] := by
  obtain ⟨state, calls⟩ := after
  cases wrote : write batch sink.1 with
  | mk verdict' after' =>
      simp only [recorded, wrote, Prod.mk.injEq]
      constructor
      · rintro ⟨rfl, rfl, rfl⟩
        exact ⟨⟨rfl, rfl⟩, rfl⟩
      · rintro ⟨⟨rfl, rfl⟩, rfl⟩
        exact ⟨rfl, rfl, rfl⟩

/-- What every accepted or refused batch keeps, calls keep. -/
theorem Leads.invariant {write : Writer σ} {origin sink : σ} {calls : List Call} {P : σ → Prop}
    (leads : Leads write origin calls sink) (first : P origin)
    (kept : ∀ call ∈ calls, ∀ before, P before → P (write call.batch before).2) : P sink := by
  induction leads with
  | none => exact first
  | @call calls before after batch verdict _ wrote ih =>
      have earlier := ih fun call member => kept call (List.mem_append_left _ member)
      have last := kept ⟨batch, verdict⟩ (by simp) before earlier
      rwa [wrote] at last

end Writer

namespace Pipeline

variable {σ τ : Type}

/-- The environment of a run whose writer is recorded. -/
def Environment.recorded (env : Environment σ) : Environment (σ × List Call) :=
  { env with write := env.write.recorded }

@[simp] theorem Environment.recorded_keyOf (env : Environment σ) :
    env.recorded.keyOf = env.keyOf := rfl

@[simp] theorem Environment.recorded_policy (env : Environment σ) :
    env.recorded.policy = env.policy := rfl

@[simp] theorem Environment.recorded_ending (env : Environment σ) :
    env.recorded.ending = env.ending := rfl

/-- A state with another writer in the place of its own. -/
def State.withSink (state : State σ) (sink : τ) : State τ :=
  { state with sink := sink }

/-- Recording follows every transition. -/
theorem Transition.recorded {env : Environment σ} {before after : State σ}
    (transition : Transition env before after) (calls : List Call) :
    ∃ calls', Transition env.recorded (before.withSink (before.sink, calls))
      (after.withSink (after.sink, calls')) := by
  cases transition with
  | exhaust ready => exact ⟨calls, .exhaust ready⟩
  | withdraw ready cancelled => exact ⟨calls, .withdraw ready cancelled⟩
  | offer ready running => exact ⟨calls, .offer ready running⟩
  | strand offering gone => exact ⟨calls, .strand offering gone⟩
  | handOut offering idle => exact ⟨calls, .handOut offering idle⟩
  | retire idle ended => exact ⟨calls, .retire idle ended⟩
  | discard holding cancelled => exact ⟨calls, .discard holding cancelled⟩
  | start holding running => exact ⟨calls, .start holding running⟩
  | extract extracting clean => exact ⟨calls, .extract extracting clean⟩
  | falter extracting faulty => exact ⟨calls, .falter extracting faulty⟩
  | report reporting => exact ⟨calls, .report reporting⟩
  | abandon sending departed => exact ⟨calls, .abandon sending departed⟩
  | handIn waiting sending => exact ⟨calls, .handIn waiting sending⟩
  | close waiting ended gone => exact ⟨calls, .close waiting ended gone⟩
  | pass judging needless => exact ⟨calls, .pass judging needless⟩
  | begin judging filled running => exact ⟨calls, .begin judging filled running⟩
  | accept writing wrote =>
      exact ⟨_, .accept writing (Writer.recorded_eq_iff.mpr ⟨wrote, rfl⟩)⟩
  | refuse writing wrote =>
      exact ⟨_, .refuse writing (Writer.recorded_eq_iff.mpr ⟨wrote, rfl⟩)⟩
  | panic writing wrote =>
      exact ⟨_, .panic writing (Writer.recorded_eq_iff.mpr ⟨wrote, rfl⟩)⟩
  | resume reporting => exact ⟨calls, .resume reporting⟩

theorem Reaches.recorded {env : Environment σ} {start state : State σ}
    (run : Reaches env start state) (calls : List Call) :
    ∃ calls', Reaches env.recorded (start.withSink (start.sink, calls))
      (state.withSink (state.sink, calls')) := by
  induction run with
  | refl => exact ⟨calls, .refl⟩
  | tail _ step ih =>
      obtain ⟨calls', run⟩ := ih
      obtain ⟨calls'', transition⟩ := (transition_of_step step).recorded calls'
      exact ⟨calls'', run.tail (step_of_transition transition)⟩

/-- Recording follows a run without workers. -/
theorem sequentialFrom_recorded (keyOf : KeyOf) (write : Writer σ) (ending : Ending)
    (offset : Nat) (summary : Summary) (records : List Bytes) (sink : σ) (calls : List Call) :
    ∃ calls', sequentialFrom keyOf write.recorded ending offset summary records (sink, calls) =
      ((sequentialFrom keyOf write ending offset summary records sink).1,
        (sequentialFrom keyOf write ending offset summary records sink).2, calls') := by
  induction records generalizing offset summary sink calls with
  | nil => exact ⟨calls, rfl⟩
  | cons record records ih =>
      cases found : keyOf record with
      | error error => exact ⟨calls, by simp [sequentialFrom, found]⟩
      | ok key =>
          cases wrote : write [⟨key, offset, record.length⟩] sink with
          | mk verdict after =>
              have same : write.recorded [⟨key, offset, record.length⟩] (sink, calls) =
                  (verdict, after, calls ++ [⟨[⟨key, offset, record.length⟩], verdict⟩]) :=
                Writer.recorded_eq_iff.mpr ⟨wrote, rfl⟩
              cases verdict with
              | accepted =>
                  simp only [sequentialFrom, found, wrote, same]
                  exact ih _ _ _ _
              | refused error =>
                  exact ⟨calls ++ [⟨[⟨key, offset, record.length⟩], .refused error⟩], by
                    simp [sequentialFrom, found, wrote, same]⟩
              | panicked message =>
                  exact ⟨calls ++ [⟨[⟨key, offset, record.length⟩], .panicked message⟩], by
                    simp [sequentialFrom, found, wrote, same]⟩

end Pipeline

/-- Whatever indexing comes to, it comes to the same when the writer is recorded. -/
theorem Indexes.recorded {σ : Type} {keyOf : KeyOf} {write : Writer σ} {settings : RunSettings}
    {start : Nat} {scan : Scan} {sink after : σ} {outcome : Outcome Summary}
    (run : Indexes keyOf write settings start scan sink outcome after) :
    ∃ calls, Indexes keyOf write.recorded settings start scan (sink, []) outcome
      (after, calls) := by
  cases run with
  | refused invalid => exact ⟨[], .refused invalid⟩
  | sequential valid mode =>
      obtain ⟨calls, same⟩ := Pipeline.sequentialFrom_recorded keyOf write scan.ending start
        ⟨0, 0, 0, 0⟩ scan.records sink []
      refine ⟨calls, ?_⟩
      have recorded : Indexes keyOf write.recorded settings start scan (sink, []) _ _ :=
        .sequential valid mode
      rwa [Pipeline.runSequential, same] at recorded
  | parallel valid mode admitted run finished =>
      obtain ⟨calls, run⟩ := run.recorded []
      exact ⟨calls, .parallel valid mode admitted run finished⟩

end RecordStore
