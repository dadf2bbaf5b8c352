import RecordStore.Proofs.Pipeline.Drain
import RecordStore.Proofs.Pipeline.Interleavings
import Mathlib

/-!
What a run reports.

Several things can go wrong in one run and in any order, and it reports one of them. A panic of
the writer comes before a failed read and a failed read before whatever was recorded, of which
the first counts. A producer from whom nobody takes a package fails as well, but only behind a
panic of the writer, so its failure is never what is reported.
-/

namespace RecordStore

/-- Whether the writer panicked at a call. -/
def Call.Panicked (call : Call) : Prop :=
  ∃ message, call.verdict = .panicked message

/-- What is wrong with a record without a key is an extraction error. -/
theorem Extractor.isExtraction_of_key {extractor : Extractor} {record : Bytes} {error : Error}
    (failed : extractor.key record = .error error) : error.isExtraction = true := by
  cases extractor with
  | pattern pattern => cases failed
  | field name =>
      simp only [key, fieldKey] at failed
      split at failed
      · cases failed
        rfl
      · split at failed
        · rename_i value _
          cases value with
          | text => cases failed
          | number number => cases number <;> cases failed
          | bool | null | array | object =>
              cases failed
              rfl
        · cases failed
          rfl

namespace Pipeline

variable {σ : Type} {env : Environment σ} {packages : List Package} {workers : Nat} {sink : σ}

/-! ### The call that panics -/

/-- The calls of a run none of which panicked, unless it was the last one and the collector did. -/
theorem Reaches.panicked_last {state : State (σ × List Call)}
    (run : Reaches env.recorded (.initial packages workers (sink, [])) state) :
    (state.collector ≠ .panicked → ∀ call ∈ state.calls, ¬call.Panicked) ∧
      (state.collector = .panicked → ∃ earlier last, state.calls = earlier ++ [last] ∧
        last.Panicked ∧ ∀ call ∈ earlier, ¬call.Panicked) := by
  refine run.invariant (P := fun state =>
    (state.collector ≠ .panicked → ∀ call ∈ state.calls, ¬call.Panicked) ∧
      (state.collector = .panicked → ∃ earlier last, state.calls = earlier ++ [last] ∧
        last.Panicked ∧ ∀ call ∈ earlier, ¬call.Panicked)) ?_ ?_
  · exact ⟨by simp [State.calls, State.initial], fun panicked => by cases panicked⟩
  · intro before after _ kept transition
    -- A call that comes back leaves the collector waiting behind one call more.
    have returned {batch : List Entry} {verdict : Verdict}
        (writing : before.collector = .writing batch)
        (called : after.calls = before.calls ++ [⟨batch, verdict⟩])
        (calm : ∀ message, verdict ≠ .panicked message) :
        ∀ call ∈ after.calls, ¬call.Panicked := by
      intro call made
      rw [called, List.mem_append, List.mem_singleton] at made
      rcases made with earlier | rfl
      · exact kept.1 (by simp [writing]) call earlier
      · rintro ⟨message, panicked⟩
        exact calm message panicked
    cases transition with
    | handIn waiting | close waiting =>
        exact ⟨fun _ => kept.1 (by simp [waiting]), fun panicked => by cases panicked⟩
    | pass judging | begin judging =>
        exact ⟨fun _ => kept.1 (by simp [judging]), fun panicked => by cases panicked⟩
    | accept writing wrote | refuse writing wrote =>
        have called := (Writer.recorded_eq_iff.mp wrote).2
        exact ⟨fun _ => returned writing called (by simp), fun panicked => by cases panicked⟩
    | resume reporting =>
        exact ⟨fun _ => kept.1 (by simp [reporting]), fun panicked => by cases panicked⟩
    | panic writing wrote =>
        have called := (Writer.recorded_eq_iff.mp wrote).2
        refine ⟨fun calm => absurd rfl calm, fun _ => ⟨_, _, called, ⟨_, rfl⟩, ?_⟩⟩
        exact kept.1 (by simp [writing])
    | _ => exact kept

/-- The collector panicked just when a call did. -/
theorem Reaches.panicked_iff {state : State (σ × List Call)}
    (run : Reaches env.recorded (.initial packages workers (sink, [])) state) :
    state.collector = .panicked ↔ ∃ call ∈ state.calls, call.Panicked := by
  constructor
  · intro panicked
    obtain ⟨earlier, last, made, died, -⟩ := run.panicked_last.2 panicked
    exact ⟨last, by simp [made], died⟩
  · rintro ⟨call, made, died⟩
    by_contra calm
    exact run.panicked_last.1 calm call made died

/-- No call is made behind one that panicked. -/
theorem Reaches.eq_nil_of_panicked {state : State (σ × List Call)}
    (run : Reaches env.recorded (.initial packages workers (sink, [])) state)
    {earlier later : List Call} {call : Call} (made : state.calls = earlier ++ call :: later)
    (died : call.Panicked) : later = [] := by
  have panicked := run.panicked_iff.mpr ⟨call, by simp [made], died⟩
  obtain ⟨first, last, parts, -, calm⟩ := run.panicked_last.2 panicked
  rcases List.eq_nil_or_concat later with none | ⟨middle, other, rfl⟩
  · exact none
  · rw [made, List.concat_eq_append, ← List.cons_append, ← List.append_assoc] at parts
    have same := (List.append_inj_left' parts rfl).symm
    exact absurd died (calm call (by simp [same]))

/-! ### What comes of it -/

theorem outcome_of_panicked {scan : Scan} {state : State σ} (sound : state.producer ≠ .ended .panicked)
    (panicked : state.collector = .panicked) :
    outcome scan state = .failed (.workerPanicked "writer") := by
  unfold outcome
  split
  · exact absurd ‹_› sound
  · rfl
  all_goals exact absurd panicked ‹_›

theorem outcome_of_readFailed {scan : Scan} {state : State σ} {message : String}
    (failed : state.producer = .ended (.readFailed message)) (calm : state.collector ≠ .panicked) :
    outcome scan state = .failed (.io (.device message)) := by
  unfold outcome
  rw [failed]
  split
  all_goals simp_all

/-- Without a panic, the producer read to the end of the source, or it stopped at a recorded error
under `abort`. -/
theorem Reaches.end_of_producer {state : State (σ × List Call)}
    (run : Reaches env.recorded (.initial packages workers (sink, [])) state)
    (staffed : 0 < workers) (calm : state.collector ≠ .panicked) {how : ProducerEnd}
    (ended : state.producer = .ended how) :
    how = .ofEnding env.ending ∨
      how = .cancelled ∧ env.policy = .abort ∧ state.firstError ≠ none := by
  rcases run.how_ended staffed ended with whole | ⟨stopped, cancelled⟩ | ⟨-, panicked⟩
  · exact .inl whole
  · obtain ⟨recorded, aborts⟩ := run.orderly.cancelled cancelled
    exact .inr ⟨stopped, aborts, recorded⟩
  · exact absurd panicked calm

theorem Reaches.not_source_panicked {state : State (σ × List Call)}
    (run : Reaches env.recorded (.initial packages workers (sink, [])) state)
    (staffed : 0 < workers) (sound : env.ending ≠ .panicked) :
    state.producer ≠ .ended .panicked := by
  intro ended
  rcases run.how_ended staffed ended with same | ⟨same, -⟩ | ⟨same, -⟩
  · cases ending : env.ending <;> simp_all [ProducerEnd.ofEnding]
  · cases same
  · cases same

/-- What a finished run comes to, by rank. -/
theorem Reaches.outcome_cases {final : State (σ × List Call)}
    (run : Reaches env.recorded (.initial packages workers (sink, [])) final)
    (staffed : 0 < workers) (sound : env.ending ≠ .panicked) (finished : final.finished = true)
    (scan : Scan) :
    final.collector = .panicked ∧ outcome scan final = .failed (.workerPanicked "writer") ∨
      final.collector ≠ .panicked ∧
        ((∃ message, final.producer = .ended (.readFailed message) ∧
            outcome scan final = .failed (.io (.device message))) ∨
          (final.producer = .ended .exhausted ∨ final.producer = .ended .cancelled) ∧
            outcome scan final = match final.firstError with
              | some error => .failed error
              | none => .done ⟨scan.records.length, scan.size, final.sent, final.written⟩) := by
  have awake := run.not_source_panicked staffed sound
  by_cases panicked : final.collector = .panicked
  · exact .inl ⟨panicked, outcome_of_panicked awake panicked⟩
  · refine .inr ⟨panicked, ?_⟩
    obtain ⟨how, ended⟩ := exists_how_of_finished finished
    have calm {orderly : ProducerEnd} (same : final.producer = .ended orderly)
        (mild : orderly = .exhausted ∨ orderly = .cancelled) : outcome scan final =
          match final.firstError with
          | some error => .failed error
          | none => .done ⟨scan.records.length, scan.size, final.sent, final.written⟩ :=
      outcome_of_ended same mild panicked
    cases how with
    | exhausted => exact .inr ⟨.inl ended, calm ended (.inl rfl)⟩
    | cancelled => exact .inr ⟨.inr ended, calm ended (.inr rfl)⟩
    | readFailed message => exact .inl ⟨message, ended, outcome_of_readFailed ended panicked⟩
    | panicked => exact absurd ended awake
    | stranded =>
        rcases run.end_of_producer staffed panicked ended with same | ⟨same, -⟩
        · cases ending : env.ending <;> simp [ending, ProducerEnd.ofEnding] at same
        · cases same

/-- Without a panic, reading failed just when the source does and the producer did not stop before.
-/
theorem Reaches.readFailed_iff {final : State (σ × List Call)}
    (run : Reaches env.recorded (.initial packages workers (sink, [])) final)
    (staffed : 0 < workers) (finished : final.finished = true)
    (calm : final.collector ≠ .panicked) (message : String) :
    final.producer = .ended (.readFailed message) ↔
      env.ending = .failed message ∧ final.producer ≠ .ended .cancelled := by
  obtain ⟨how, ended⟩ := exists_how_of_finished finished
  rcases run.end_of_producer staffed calm ended with same | ⟨same, -⟩
  · cases ending : env.ending <;> simp_all [ProducerEnd.ofEnding]
  · simp [ended, same]

end Pipeline

section Report

variable {σ : Type} {extractor : Extractor} {write : Writer σ} {settings : RunSettings}
  {start workers : Nat} {scan : Scan} {sink : σ} {actions : List Pipeline.Action}
  {final : Pipeline.State (σ × List Call)} {errors : List Error}

/-- However a run with workers went, it reports what comes first of this: a panic of the writer,
behind which no batch is handed over; a failed read, whatever was recorded; the first error that was
recorded; success. Reading fails where the source does, unless the producer stopped before at a
recorded error under `abort`. A recorded error is that of the first record of a package that has no
key, or one with which the writer refused a batch. So the run does not report that a worker panicked
unless these were the words in which the writer refused a batch. -/
theorem outcome_by_rank (sound : scan.ending ≠ .panicked) (staffed : 0 < workers)
    (replayed : Pipeline.steps? (settings.environment extractor.key write.recorded scan)
      (settings.firstState start scan workers (sink, [])) actions = some final)
    (finished : final.finished = true)
    (recorded : Pipeline.errors (settings.environment extractor.key write.recorded scan)
      (settings.firstState start scan workers (sink, [])) actions = errors) :
    (∀ earlier call later, final.calls = earlier ++ call :: later → call.Panicked →
      later = [] ∧ Pipeline.outcome scan final = .failed (.workerPanicked "writer")) ∧
    ((∀ call ∈ final.calls, ¬call.Panicked) →
      (∀ message, final.producer = .ended (.readFailed message) →
        Pipeline.outcome scan final = .failed (.io (.device message))) ∧
      ((∀ message, final.producer ≠ .ended (.readFailed message)) →
        (∀ error later, errors = error :: later → Pipeline.outcome scan final = .failed error) ∧
        (errors = [] → ∃ summary, Pipeline.outcome scan final = .done summary)) ∧
      (∀ message, final.producer = .ended (.readFailed message) ↔
        scan.ending = .failed message ∧ final.producer ≠ .ended .cancelled) ∧
      (final.producer = .ended .cancelled → settings.onError = .abort ∧ errors ≠ [])) ∧
    (∀ error ∈ errors,
      (∃ package ∈ Package.handedOut settings.batchSize start scan,
        ∃ before record after, package.records = before ++ record :: after ∧
          (∀ earlier ∈ before, ∃ key, extractor.key earlier = .ok key) ∧
          extractor.key record = .error error) ∨
      ∃ call ∈ final.calls, call.verdict = .refused error) ∧
    (Pipeline.outcome scan final = .failed (.workerPanicked "worker") →
      ∃ call ∈ final.calls, call.verdict = .refused (.workerPanicked "worker")) := by
  let env : Pipeline.Environment σ := ⟨extractor.key, write, settings.onError, scan.ending⟩
  have run : Pipeline.Reaches env.recorded (.initial
      (Package.handedOut settings.batchSize start scan) workers (sink, [])) final :=
    Pipeline.reaches_of_steps? replayed
  have first : final.firstError = errors.head? := by
    rw [Pipeline.firstError_of_steps? replayed, recorded]
    rfl
  have origin (error : Error) (member : error ∈ errors) :
      (∃ package ∈ Package.handedOut settings.batchSize start scan,
        package.fault? extractor.key = some error) ∨
      ∃ call ∈ final.calls, call.verdict = .refused error := by
    rw [← recorded] at member
    have replayed : Pipeline.steps? env.recorded _ _ = _ := replayed
    exact Pipeline.Reaches.origin_of_errors .refl replayed member
  have ranked := run.outcome_cases staffed sound finished scan
  refine ⟨?_, ?_, ?_, ?_⟩
  · intro earlier call later made died
    have panicked := run.panicked_iff.mpr ⟨call, by simp [made], died⟩
    rcases ranked with ⟨-, comes⟩ | ⟨calm, -⟩
    · exact ⟨run.eq_nil_of_panicked made died, comes⟩
    · exact absurd panicked calm
  · intro none
    have calm : final.collector ≠ .panicked := by
      intro panicked
      obtain ⟨call, made, died⟩ := run.panicked_iff.mp panicked
      exact none call made died
    refine ⟨fun message failed => Pipeline.outcome_of_readFailed failed calm, ?_,
      run.readFailed_iff staffed finished calm, ?_⟩
    · intro read
      rcases ranked with ⟨panicked, -⟩ | ⟨-, ⟨message, failed, -⟩ | ⟨-, comes⟩⟩
      · exact absurd panicked calm
      · exact absurd failed (read message)
      · rw [comes, first]
        constructor
        · rintro error later rfl
          rfl
        · rintro rfl
          exact ⟨_, rfl⟩
    · intro stopped
      rcases run.end_of_producer staffed calm stopped with same | ⟨-, aborts, some⟩
      · cases ending : env.ending <;> simp_all [Pipeline.ProducerEnd.ofEnding]
      · exact ⟨aborts, by rintro rfl; exact some first⟩
  · intro error member
    refine (origin error member).imp_left ?_
    rintro ⟨package, there, faulty⟩
    exact ⟨package, there, Package.exists_record_of_fault? faulty⟩
  · intro worker
    rcases ranked with ⟨-, comes⟩ | ⟨-, ⟨message, -, comes⟩ | ⟨-, comes⟩⟩
    · rw [comes] at worker
      simp at worker
    · rw [comes] at worker
      cases worker
    · rw [comes, first] at worker
      cases errors with
      | nil => cases worker
      | cons error later =>
          cases worker
          rcases origin _ List.mem_cons_self with ⟨package, -, faulty⟩ | refused
          · obtain ⟨-, record, -, -, -, failed⟩ := Package.exists_record_of_fault? faulty
            cases Extractor.isExtraction_of_key failed
          · exact refused

/-- The record of the only package has no key that is a text, and then the source fails: the failed
read is what is reported, and not the error that was recorded before. -/
theorem outcome_by_rank_of_two_failures :
    let write : Writer Unit := fun _ sink => (.accepted, sink)
    let settings : RunSettings := ⟨1, 1, .parallel, .drain⟩
    let scan : Scan :=
      ⟨[[123, 34, 105, 100, 34, 58, 110, 117, 108, 108, 125, 10]], .failed "gone"⟩
    ∃ actions final,
      Pipeline.steps? (settings.environment (Extractor.field "id").key write.recorded scan)
        (settings.firstState 0 scan 1 ((), [])) actions = some final ∧
      Pipeline.errors (settings.environment (Extractor.field "id").key write.recorded scan)
        (settings.firstState 0 scan 1 ((), [])) actions = [.unsupportedValue "id" .null] ∧
      Pipeline.outcome scan final = .failed (.io (.device "gone")) := by
  intro write settings scan
  let actions : List Pipeline.Action :=
    [.produce, .handOut 0, .work 0, .work 0, .work 0, .handIn 0, .collect, .produce, .work 0,
      .collect]
  have packages : Package.handedOut 1 0 scan = [⟨0, scan.records⟩] := by
    simp [Package.handedOut, Package.cut, scan]
  have replayed : Pipeline.steps?
      (settings.environment (Extractor.field "id").key write.recorded scan)
      (settings.firstState 0 scan 1 ((), [])) actions =
      some ⟨.ended (.readFailed "gone"), [.gone], .gone, some (.unsupportedValue "id" .null),
        false, ((), []), 1, 0⟩ := by
    rw [RunSettings.firstState, packages]
    cbv
  have recorded : Pipeline.errors
      (settings.environment (Extractor.field "id").key write.recorded scan)
      (settings.firstState 0 scan 1 ((), [])) actions = [.unsupportedValue "id" .null] := by
    rw [RunSettings.firstState, packages]
    cbv
  obtain ⟨-, calm, -⟩ := outcome_by_rank (by simp [scan]) Nat.one_pos replayed rfl recorded
  exact ⟨actions, _, replayed, recorded, (calm fun call made => by cases made).1 "gone" rfl⟩

end Report

end RecordStore
