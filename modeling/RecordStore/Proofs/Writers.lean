import RecordStore.Proofs.Threads

/-!
Threads that append to a store.

An append that goes on step by step, whatever others do between its steps, comes to one of the
things that it can come to when it is done at once (`Progress.step`). So wherever nobody has
the lock for writing, the store is where whole operations, one after another, have led it
(`kept_of_run?`).
-/

namespace RecordStore

/-! ### Appending -/

/-- Bytes that are added one after the other are added together. -/
theorem Disk.appendTo_appendTo (disk : Disk) (id : Nat) (first second : Bytes) :
    (disk.appendTo id first).appendTo id second = disk.appendTo id (first ++ second) := by
  unfold appendTo
  rw [body_setBody_self, setBody_setBody]
  congr 1
  cases disk.body id <;> simp [Body.append]

/-- What whole operations, one after another, come to: appends of anything, which may end in every
way, and lookups. -/
inductive Series (origin : Store × Disk) : Store × Disk → Prop
  | none : Series origin origin
  | append {store : Store} {disk disk' : Disk} {job : Job} {outcome : Outcome Growth}
      {backend : Backend} (earlier : Series origin (store, disk))
      (appends : Appends store.blob job.source job.extractor.key Backend.writer job.settings
        (store.backend, disk) outcome (backend, disk')) :
      Series origin (store.appended outcome backend, disk')
  | lookup {store : Store} {disk : Disk} (key : String) (earlier : Series origin (store, disk)) :
      Series origin (store.lookup key disk).2

/-- A new part that is in the file. What indexing comes to from here is what the append comes to. -/
structure Copied (blob : String) (base : Backend × Disk) (job : Job) (tail : Tail)
    (sink : Backend × Disk) : Prop where
  valid : job.settings.validate = .ok ()
  appends : ∀ {outcome after},
    Indexes job.extractor.key Backend.writer job.settings tail.start tail.scan sink outcome after →
      Appends blob job.source job.extractor.key Backend.writer job.settings base
        (tail.growth outcome) after

/-- How far an append is that started at `base`, and what it has made of the index and the disk. -/
inductive Progress (blob : String) (base : Backend × Disk) (job : Job) :
    Phase → Backend × Disk → Prop
  | starting : Progress blob base job (.starting job) base
  | copying {id : Nat} {disk disk' : Disk} {done : Bytes} {rest : Source}
      (valid : job.settings.validate = .ok ())
      (opened : base.2.openFile blob = .ok (id, disk))
      (bytes : job.source.bytes = done ++ rest.bytes) (ending : job.source.ending = rest.ending)
      (grown : ∀ more, disk'.appendTo id more = disk.appendTo id (done ++ more)) :
      Progress blob base job (.copying job id (disk.content id).length done.length rest)
        (base.1, disk')
  | singly {tail : Tail} {offset : Nat} {summary : Summary} {records : List Bytes}
      {first sink : Backend × Disk} (copied : Copied blob base job tail first)
      (mode : job.settings.mode = .sequential)
      (run : Pipeline.sequentialFrom job.extractor.key Backend.writer tail.scan.ending offset
          summary records sink =
        Pipeline.runSequential job.extractor.key Backend.writer tail.start tail.scan first) :
      Progress blob base job (.singly job tail offset summary records) sink
  | recruiting {tail : Tail} {sink : Backend × Disk} (copied : Copied blob base job tail sink)
      (mode : job.settings.mode = .parallel) : Progress blob base job (.recruiting job tail) sink
  | jointly {tail : Tail} {workers : Nat} {run : Pipeline.State Unit} {first sink : Backend × Disk}
      (copied : Copied blob base job tail first) (mode : job.settings.mode = .parallel)
      (admitted : job.settings.Admits workers)
      (reached : Pipeline.Reaches
        (job.settings.environment job.extractor.key Backend.writer tail.scan)
        (job.settings.firstState tail.start tail.scan workers first) (run.withSink sink)) :
      Progress blob base job (.jointly job tail run) sink
  | appended {outcome : Outcome Growth} {sink : Backend × Disk}
      (appends : Appends blob job.source job.extractor.key Backend.writer job.settings base outcome
        sink) :
      Progress blob base job (.appended outcome) sink

namespace Progress

variable {blob : String} {base sink : Backend × Disk} {job : Job} {phase : Phase}
  {made : Phase × (Backend × Disk)} {choice : Choice}

theorem step_starting (step : (Phase.starting job).write? blob choice base = some made) :
    Progress blob base job made.1 made.2 := by
  simp only [Phase.write?] at step
  split at step
  · rename_i error invalid
    cases step
    exact .appended (.refused invalid)
  · rename_i valid
    split at step
    · rename_i fault missing
      cases step
      exact .appended (.unopened valid missing)
    · rename_i id disk opened
      cases step
      exact @Progress.copying _ _ _ id disk disk [] _ valid opened rfl rfl fun _ => rfl

/-- When the source has been read to its end, its bytes are at the end of the file. -/
theorem step_indexing {id : Nat} {disk : Disk} (valid : job.settings.validate = .ok ())
    (opened : base.2.openFile blob = .ok (id, disk)) (ending : job.source.ending = .finished) :
    let grown := disk.appendTo id job.source.bytes
    let start := (disk.content id).length
    let tail := Bytes.slice (grown.content id) start job.source.bytes.length
    Progress blob base job (job.indexing
      ⟨start, job.source.bytes.length, Source.records Source.usualBuffer (.ofBytes tail)⟩)
      (base.1, grown) := by
  intro grown start tail
  have copied : Copied blob base job
      ⟨start, job.source.bytes.length, Source.records Source.usualBuffer (.ofBytes tail)⟩
      (base.1, grown) :=
    ⟨valid, fun run => .indexed valid opened ending run⟩
  unfold Job.indexing
  split
  · rename_i mode
    exact .singly copied mode rfl
  · rename_i mode
    exact .recruiting copied mode

theorem step_copying {id : Nat} {disk disk' : Disk} {done : Bytes} {rest : Source}
    (valid : job.settings.validate = .ok ()) (opened : base.2.openFile blob = .ok (id, disk))
    (bytes : job.source.bytes = done ++ rest.bytes) (ending : job.source.ending = rest.ending)
    (grown : ∀ more, disk'.appendTo id more = disk.appendTo id (done ++ more))
    (step : (Phase.copying job id (disk.content id).length done.length rest).write? blob choice
      (base.1, disk') = some made) :
    Progress blob base job made.1 made.2 := by
  have next : disk'.appendTo id rest.next = disk.appendTo id (done ++ rest.next) := grown _
  simp only [Phase.write?, next] at step
  split at step
  · cases step
    simp only [Source.next, Source.bytes, List.append_nil] at bytes ⊢
    rw [← bytes]
    exact step_indexing valid opened ending
  · rename_i message rest
    cases step
    have all : job.source.bytes = done ++ [] := bytes
    simp only [Source.next]
    rw [← all]
    exact .appended (.broken valid opened ending)
  · cases step
    have all : job.source.bytes = done ++ [] := bytes
    simp only [Source.next]
    rw [← all]
    exact .appended (.panicked valid opened ending)
  · rename_i delivery rest unfailed calm
    cases step
    obtain ⟨size, first, last⟩ := Source.next_cons unfailed calm rest
    rw [← size, ← List.length_append]
    refine .copying valid opened ?_ (ending.trans last) ?_
    · rw [bytes, first, List.append_assoc]
    · intro more
      rw [Disk.appendTo_appendTo, List.append_assoc]

theorem step_singly {tail : Tail} {offset : Nat} {summary : Summary} {records : List Bytes}
    {first : Backend × Disk} (copied : Copied blob base job tail first)
    (mode : job.settings.mode = .sequential)
    (run : Pipeline.sequentialFrom job.extractor.key Backend.writer tail.scan.ending offset
        summary records sink =
      Pipeline.runSequential job.extractor.key Backend.writer tail.start tail.scan first) :
    Progress blob base job (Phase.single job tail offset summary sink records).1
      (Phase.single job tail offset summary sink records).2 := by
  have ends {outcome : Outcome Summary} {after : Backend × Disk}
      (last : Pipeline.sequentialFrom job.extractor.key Backend.writer tail.scan.ending offset
        summary records sink = (outcome, after)) :
      Progress blob base job (.appended (tail.growth outcome)) after := by
    have indexes : Indexes job.extractor.key Backend.writer job.settings tail.start tail.scan first
        _ _ := .sequential copied.valid mode
    rw [← run, last] at indexes
    exact .appended (copied.appends indexes)
  cases records with
  | nil => exact ends rfl
  | cons record records =>
      cases keyed : job.extractor.key record with
      | error error =>
          simp only [Phase.single, keyed]
          exact @ends (.failed error) sink (by simp [Pipeline.sequentialFrom, keyed])
      | ok key =>
          rcases wrote : Backend.writer [⟨key, offset, record.length⟩] sink with ⟨verdict, after⟩
          cases verdict with
          | refused error =>
              simp only [Phase.single, keyed, wrote]
              exact @ends (.failed error) after
                (by simp [Pipeline.sequentialFrom, keyed, wrote])
          | panicked message =>
              simp only [Phase.single, keyed, wrote]
              exact @ends (.panicked message) after
                (by simp [Pipeline.sequentialFrom, keyed, wrote])
          | accepted =>
              simp only [Phase.single, keyed, wrote]
              refine .singly copied mode (Eq.trans ?_ run)
              simp [Pipeline.sequentialFrom, keyed, wrote]

theorem step_recruiting {tail : Tail} (copied : Copied blob base job tail sink)
    (mode : job.settings.mode = .parallel)
    (step : (Phase.recruiting job tail).write? blob choice sink = some made) :
    Progress blob base job made.1 made.2 := by
  simp only [Phase.write?] at step
  split at step
  · split at step
    · rename_i admitted
      cases step
      exact .jointly copied mode admitted .refl
    · cases step
  · cases step

theorem step_jointly {tail : Tail} {workers : Nat} {run : Pipeline.State Unit}
    {first : Backend × Disk} (copied : Copied blob base job tail first)
    (mode : job.settings.mode = .parallel) (admitted : job.settings.Admits workers)
    (reached : Pipeline.Reaches
      (job.settings.environment job.extractor.key Backend.writer tail.scan)
      (job.settings.firstState tail.start tail.scan workers first) (run.withSink sink))
    (step : (Phase.jointly job tail run).write? blob choice sink = some made) :
    Progress blob base job made.1 made.2 := by
  simp only [Phase.write?] at step
  split at step
  · rename_i action
    split at step
    · rename_i next taken
      cases step
      exact .jointly copied mode admitted (reached.tail ⟨action, taken⟩)
    · cases step
  · split at step
    · rename_i finished
      cases step
      exact .appended (copied.appends (.parallel copied.valid mode admitted reached finished))
    · cases step
  · cases step

/-- An append goes on from step to step, up to one of the things that it can come to. -/
theorem step (progress : Progress blob base job phase sink)
    (step : phase.write? blob choice sink = some made) : Progress blob base job made.1 made.2 := by
  cases progress with
  | starting => exact step_starting step
  | copying valid opened bytes ending grown =>
      exact step_copying valid opened bytes ending grown step
  | singly copied mode run =>
      cases step
      exact step_singly copied mode run
  | recruiting copied mode => exact step_recruiting copied mode step
  | jointly copied mode admitted reached => exact step_jointly copied mode admitted reached step
  | appended => cases step

end Progress

/-! ### Between appends -/

namespace Threads

/-- Where nobody has the lock for writing, the store is where whole operations have led it; a thread
that has it for writing is on its way from such a point. -/
structure Kept {ι : Type} (origin : Store × Disk) (state : Threads ι) : Prop where
  guarded : Guarded state
  free : state.writer = none → Series origin (state.store, state.disk)
  taken : ∀ i, state.writer = some i → ∃ job base,
    Series origin ({ state.store with backend := base.1 }, base.2) ∧
      Progress state.store.blob base job (state.phase i) (state.store.backend, state.disk)

theorem kept_start {ι : Type} (store : Store) (disk : Disk) :
    Kept (store, disk) (start store disk : Threads ι) :=
  ⟨guarded_start store disk, fun _ => .none, fun _ taken => by cases taken⟩

variable {ι : Type} [DecidableEq ι] {origin : Store × Disk} {state next : Threads ι}

/-- A thread that has not the lock for writing goes on: nobody's append is moved by that. -/
theorem Kept.go (kept : Kept origin state) {i : ι} (out : (state.phase i).writes = false)
    {phase : Phase} {readers : List ι}
    (guarded : Guarded { state.go i phase with readers }) :
    Kept origin { state.go i phase with readers } := by
  refine ⟨guarded, kept.free, ?_⟩
  intro j taken
  have other : j ≠ i := by
    rintro rfl
    rw [(kept.guarded.writer j).mp taken] at out
    cases out
  obtain ⟨job, base, series, progress⟩ := kept.taken j taken
  refine ⟨job, base, series, ?_⟩
  simpa [Threads.go, other] using progress

theorem Kept.enter_write (kept : Kept origin state) {i : ι} {job : Job}
    (free : state.writer = none ∧ state.readers = []) :
    Kept origin { state.go i (.starting job) with writer := some i } := by
  refine ⟨kept.guarded.enter_write free, fun taken => (by cases taken), ?_⟩
  rintro j taken
  cases taken
  refine ⟨job, (state.store.backend, state.disk), kept.free free.1, ?_⟩
  rw [go_phase_self]
  exact .starting

theorem Kept.read (kept : Kept origin state) {i : ι} {made : Phase × (Backend × Disk)}
    (read : (state.phase i).read? state.store.blob (state.store.backend, state.disk) = some made)
    (guarded : Guarded (state.put i made)) : Kept origin (state.put i made) := by
  obtain ⟨⟨reads, -⟩, -⟩ := Phase.reads_of_read? read
  have free := kept.guarded.free_of_reads reads
  obtain ⟨phase, sink⟩ := made
  refine ⟨guarded, fun _ => ?_, fun j taken => ?_⟩
  · rcases Phase.sink_of_read? read with same | ⟨query, -, same⟩
    · cases same
      exact kept.free free
    · cases same
      have looked := (kept.free free).lookup query.key
      rwa [Store.lookup_eq] at looked
  · have none : state.writer = some j := taken
    rw [free] at none
    cases none

theorem Kept.write (kept : Kept origin state) {i : ι} {choice : Choice}
    {made : Phase × (Backend × Disk)}
    (wrote : (state.phase i).write? state.store.blob choice (state.store.backend, state.disk) =
      some made)
    (guarded : Guarded (state.put i made)) : Kept origin (state.put i made) := by
  obtain ⟨⟨-, writes⟩, -⟩ := Phase.writes_of_write? wrote
  have own : state.writer = some i := (kept.guarded.writer i).mpr writes
  refine ⟨guarded, fun nobody => ?_, fun j taken => ?_⟩
  · have none : state.writer = none := nobody
    rw [own] at none
    cases none
  · obtain rfl : i = j := Option.some.inj (own.symm.trans taken)
    obtain ⟨job, base, series, progress⟩ := kept.taken i own
    refine ⟨job, base, series, ?_⟩
    simpa [put] using progress.step wrote

theorem Kept.leave_write (kept : Kept origin state) {i : ι} {outcome : Outcome Growth}
    (there : state.phase i = .appended outcome) :
    Kept origin { state.go i (.idle (some (.growth outcome))) with
      writer := none
      store := state.store.appended outcome state.store.backend } := by
  have own : state.writer = some i := (kept.guarded.writer i).mpr (by simp [there, Phase.writes])
  obtain ⟨job, base, series, progress⟩ := kept.taken i own
  rw [there] at progress
  cases progress with
  | appended appends =>
      exact ⟨kept.guarded.leave_write there _, fun _ => series.append appends,
        fun _ taken => by cases taken⟩

/-- Every move keeps it. -/
theorem Kept.step (kept : Kept origin state) {move : Move ι}
    (transition : Transition state move next) : Kept origin next := by
  have guarded := kept.guarded.step transition
  cases transition with
  | call there | enterRead there | leaveRead there =>
      exact kept.go (by simp [there, Phase.writes]) guarded
  | enterWrite there free => exact kept.enter_write free
  | read read => exact kept.read read guarded
  | write wrote => exact kept.write wrote guarded
  | leaveWrite there => exact kept.leave_write there

/-- Whatever threads do, wherever nobody has the lock for writing the store is where whole
operations, one after another, have led it. -/
theorem kept_of_run? {store : Store} {disk : Disk} {moves : List (Move ι)}
    (replayed : run? (start store disk) moves = some state) : Kept (store, disk) state :=
  invariant_of_run? replayed (kept_start store disk) fun _ _ _ kept transition =>
    kept.step transition

end Threads

end RecordStore
