import RecordStore.Proofs.Pipeline.Interleavings

/-!
Keeping a package back.

Nothing is stored between the processes of a run, but a worker that took a package may hold it
for as long as it likes. So with two workers one of them can keep any package while the other one
works through all the rest, and the batch of this package is written last. `Rests` describes
the points of such a run at which only the workers have something in their hands.
-/

namespace RecordStore.Pipeline

section Delay

variable {σ : Type} {env : Environment σ} {start state : State σ} {packages rest : List Package}
  {package : Package} {right others : List Worker} {batches : List (List Entry)}

/-- A batch that the collector has begun is one that the writer is called with. -/
theorem Reaches.exists_called {batch : List Entry} (run : Reaches env start state)
    (writing : state.collector = .writing batch) :
    ∃ next, Reaches env start next ∧ next.sink = (env.write batch state.sink).2 := by
  rcases wrote : env.write batch state.sink with ⟨verdict, sink⟩
  cases verdict with
  | accepted => exact ⟨_, run.tail (step_of_transition (.accept writing wrote)), rfl⟩
  | refused error => exact ⟨_, run.tail (step_of_transition (.refuse writing wrote)), rfl⟩
  | panicked message => exact ⟨_, run.tail (step_of_transition (.panic writing wrote)), rfl⟩

/-- Nothing goes wrong in a run: every package comes to a batch without a fault, and the writer
accepts what it is called with. -/
structure Smooth (env : Environment σ) (start : State σ) (packages : List Package) : Prop where
  clean : ∀ package ∈ packages, package.fault? env.keyOf = none
  filled : ∀ package ∈ packages, package.batch env.keyOf ≠ []
  accepts : ∀ state batch, Reaches env start state → state.collector = .writing batch →
    ∃ sink, env.write batch state.sink = (.accepted, sink)

/-- Calls with these batches that were all accepted. -/
def acceptedCalls (batches : List (List Entry)) : List Call :=
  batches.map fun batch => ⟨batch, .accepted⟩

theorem acceptedCalls_concat (batches : List (List Entry)) (batch : List Entry) :
    acceptedCalls (batches ++ [batch]) = acceptedCalls batches ++ [⟨batch, .accepted⟩] :=
  List.map_append

theorem flatMap_acceptedCalls (batches : List (List Entry)) :
    (acceptedCalls batches).flatMap Call.batch = batches.flatten := by
  rw [acceptedCalls, List.flatMap_map, List.flatMap_def, List.map_id']

theorem accepted_of_mem_acceptedCalls (batches : List (List Entry)) :
    ∀ call ∈ acceptedCalls batches, call.verdict = .accepted := by
  intro call made
  obtain ⟨batch, -, rfl⟩ := List.mem_map.mp made
  rfl

/-- A point of a run at which the producer is between packages and the collector waits: what is left
of the packages, what the workers do, and the batches that were written. -/
structure Rests (env : Environment σ) (start : State σ) (rest : List Package)
    (doing : List Worker) (batches : List (List Entry)) (state : State σ) : Prop where
  run : Reaches env start state
  ready : state.producer = .ready rest
  workers : state.workers = doing
  waiting : state.collector = .waiting
  running : state.cancelled = false
  written : env.write.Leads start.sink (acceptedCalls batches) state.sink

theorem rests_initial (env : Environment σ) (packages : List Package) (workers : Nat) (sink : σ) :
    Rests env (.initial packages workers sink) packages (List.replicate workers .idle) []
      (.initial packages workers sink) :=
  ⟨.refl, rfl, rfl, rfl, rfl, .none⟩

/-- An idle worker takes the next package and holds it. -/
theorem Rests.take (left : List Worker)
    (rests : Rests env start (package :: rest) (left ++ .idle :: right) batches state) :
    ∃ next, Rests env start rest (left ++ .holding package :: right) batches next := by
  have offered := rests.run.tail (step_of_transition (.offer rests.ready rests.running))
  have taken := offered.tail (step_of_transition (.handOut rfl rests.workers))
  exact ⟨_, taken, rfl, rfl, rests.waiting, rests.running, rests.written⟩

/-- A worker that holds a package makes its batch and hands it in, and the batch is written. -/
theorem Rests.deliver (left : List Worker) (smooth : Smooth env start packages)
    (member : package ∈ packages)
    (rests : Rests env start rest (left ++ .holding package :: right) batches state) :
    ∃ next, Rests env start rest (left ++ .idle :: right)
      (batches ++ [package.batch env.keyOf]) next := by
  have started := rests.run.tail (step_of_transition (.start rests.workers rests.running))
  have made := started.tail (step_of_transition (.extract rfl (smooth.clean package member)))
  have handed := made.tail (step_of_transition (.handIn rests.waiting rfl))
  have begun := handed.tail
    (step_of_transition (.begin rfl (smooth.filled package member) rests.running))
  obtain ⟨sink, wrote⟩ := smooth.accepts _ _ begun rfl
  have accepted := begun.tail (step_of_transition (.accept rfl wrote))
  refine ⟨_, accepted, rests.ready, rfl, rfl, rests.running, ?_⟩
  rw [acceptedCalls_concat]
  exact .call rests.written wrote

/-- One worker works through packages, whatever the others do. -/
theorem Rests.workThrough (smooth : Smooth env start packages) {some : List Package}
    (sub : ∀ package ∈ some, package ∈ packages)
    (rests : Rests env start (some ++ rest) (.idle :: others) batches state) :
    ∃ next, Rests env start rest (.idle :: others)
      (batches ++ some.map (Package.batch env.keyOf)) next := by
  induction some generalizing batches state with
  | nil => exact ⟨state, by simpa using rests⟩
  | cons package some ih =>
      obtain ⟨member, sub⟩ := List.forall_mem_cons.mp sub
      obtain ⟨taken, holds⟩ := Rests.take [] rests
      obtain ⟨next, delivered⟩ := holds.deliver [] smooth member
      obtain ⟨last, done⟩ := ih sub delivered
      exact ⟨last, by simpa using done⟩

/-- Behind the producer idle workers leave. -/
theorem exists_retired {idle : Nat} (gone : Nat) (run : Reaches env start state)
    (ended : state.producerEnded = true)
    (workers : state.workers = List.replicate gone .gone ++ List.replicate idle .idle) :
    Reaches env start { state with workers := List.replicate (gone + idle) .gone } := by
  induction idle generalizing gone state with
  | zero =>
      rw [List.replicate_zero, List.append_nil] at workers
      rw [Nat.add_zero, ← workers]
      exact run
  | succ idle ih =>
      rw [List.replicate_succ] at workers
      have left := run.tail (step_of_transition (.retire workers ended))
      have rest := ih (gone + 1) left ended (by simp [List.replicate_succ'])
      rwa [show gone + (idle + 1) = gone + 1 + idle by omega]

/-- Where nothing is left and nobody has anything in hand, all processes leave. -/
theorem Rests.finish {workers : Nat}
    (rests : Rests env start [] (List.replicate workers .idle) batches state) :
    ∃ final, Reaches env start final ∧ final.finished = true ∧
      env.write.Leads start.sink (acceptedCalls batches) final.sink := by
  have ended := rests.run.tail (step_of_transition (.exhaust rests.ready))
  have retired := exists_retired 0 ended rfl rests.workers
  have closed := retired.tail
    (step_of_transition (.close rests.waiting rfl (by simp [State.allGone])))
  exact ⟨_, closed, by simp [State.finished, State.producerEnded, State.allGone,
    State.collectorLeft], rests.written⟩

/-- With two workers or more, any package can be the last one whose batch is written. -/
theorem exists_kept_back {workers : Nat} {sink : σ} {before after : List Package}
    (several : 2 ≤ workers) (parts : packages = before ++ package :: after)
    (smooth : Smooth env (.initial packages workers sink) packages) :
    ∃ final, Reaches env (.initial packages workers sink) final ∧ final.finished = true ∧
      env.write.Leads sink (acceptedCalls
        ((before ++ after).map (Package.batch env.keyOf) ++ [package.batch env.keyOf]))
        final.sink := by
  obtain ⟨workers, rfl⟩ := Nat.exists_eq_add_of_le' several
  have member {other : Package} (inside : other ∈ before ∨ other = package ∨ other ∈ after) :
      other ∈ packages := by
    rw [parts, List.mem_append, List.mem_cons]
    exact inside
  have first := rests_initial env packages (workers + 2) sink
  obtain ⟨_, reached⟩ := @Rests.workThrough _ _ _ _ packages (package :: after)
    (.idle :: List.replicate workers .idle) _ smooth before (fun _ inside => member (.inl inside))
    (by rw [← parts]; exact first)
  obtain ⟨_, held⟩ := Rests.take [.idle] reached
  obtain ⟨_, others⟩ := @Rests.workThrough _ _ _ _ packages [] _ _ smooth after
    (fun _ inside => member (.inr (.inr inside))) (by rw [List.append_nil]; exact held)
  obtain ⟨_, last⟩ := Rests.deliver [.idle] smooth (member (.inr (.inl rfl))) others
  obtain ⟨final, run, finished, written⟩ := @Rests.finish _ _ _ _ _ (workers + 2) last
  refine ⟨final, run, finished, ?_⟩
  rw [List.map_append]
  exact written

end Delay

end RecordStore.Pipeline
