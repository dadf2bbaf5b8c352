import RecordStore.Proofs.Pipeline.Termination
import RecordStore.Proofs.Store

/-!
Threads that share a store.

Threads that look a key up share the lock of a store; one that appends has it for itself. With the
lock a thread goes step by step: it looks up the place of a record, opens the file, asks for its
size and reads it, or it opens the file, copies its source piece by piece and then writes
batch after batch. Between any two steps of one thread others may take theirs. `Threads.run?`
replays such an interleaving. On the way the lock knows who has it, never is there somebody else
beside a thread that has it for writing (`Guarded`), and whoever has it can go on or let go of it
(`Threads.exists_step?_of_locked`).
-/

namespace RecordStore

/-- The bytes that the next read of a source yields. -/
def Source.next : Source → Bytes
  | .data bytes :: _ => bytes
  | _ => []

/-- A read that does not end the source leaves the rest of it. -/
theorem Source.next_cons {delivery : Delivery} (unfailed : ∀ message, delivery ≠ .failed message)
    (calm : delivery ≠ .panicked) (rest : Source) :
    (next (delivery :: rest)).length = delivery.size ∧
      bytes (delivery :: rest) = next (delivery :: rest) ++ bytes rest ∧
      ending (delivery :: rest) = ending rest := by
  cases delivery with
  | failed message => exact absurd rfl (unfailed message)
  | panicked => exact absurd rfl calm
  | data | interrupted | glance => exact ⟨rfl, rfl, rfl⟩

/-- The bytes at a span of a blob that is long enough for it. -/
def Blob.bytes (blob : Blob) (span : Span) (disk : Disk) : Except Error Bytes :=
  match blob.target with
  | .file id => .ok (Bytes.slice (disk.content id) span.offset span.length)
  | .folder => if span.length = 0 then .ok [] else .error (.io .isFolder)

theorem Blob.readSpan_eq (blob : Blob) (span : Span) (disk : Disk) :
    blob.readSpan span disk =
      if blob.size disk < span.offset + span.length then
        .error (.outOfRange span.offset span.length (blob.size disk))
      else blob.bytes span disk := rfl

instance (settings : RunSettings) (workers : Nat) : Decidable (settings.Admits workers) :=
  inferInstanceAs (Decidable (_ ∧ _))

/-! ### What threads do -/

/-- What a store is asked. -/
inductive Query
  | span (key : String)
  | record (key : String)

/-- What is to be appended, and how it is indexed. -/
structure Job where
  source : Source
  extractor : Extractor
  settings : RunSettings

/-- What a thread calls a store for. -/
inductive Task
  | ask (query : Query)
  | append (job : Job)

/-- What a call comes to. -/
inductive Reply
  | span (result : Except Error (Option Span))
  | record (result : Except Error (Option Bytes))
  | growth (outcome : Outcome Growth)

/-- The new part of a file: where it starts, how long it is, and its records. -/
structure Tail where
  start : Nat
  length : Nat
  scan : Scan

/-- How far a thread is with its call. -/
inductive Phase
  /-- Between two calls, of which the last one came to a reply. -/
  | idle (last : Option Reply)
  /-- Without the lock. -/
  | waiting (task : Task)
  | looking (query : Query)
  | opening (span : Span)
  | sizing (span : Span) (blob : Blob)
  | reading (span : Span) (blob : Blob)
  /-- About to let go of the lock for reading. -/
  | answered (reply : Reply)
  | starting (job : Job)
  | copying (job : Job) (id start copied : Nat) (rest : Source)
  /-- Between two records of a run without workers. -/
  | singly (job : Job) (tail : Tail) (offset : Nat) (summary : Summary) (records : List Bytes)
  | recruiting (job : Job) (tail : Tail)
  /-- In a run with workers, who write into the index of the store. -/
  | jointly (job : Job) (tail : Tail) (run : Pipeline.State Unit)
  /-- About to let go of the lock for writing. -/
  | appended (outcome : Outcome Growth)

namespace Query

/-- The key that is asked for. -/
def key : Query → String
  | .span key => key
  | .record key => key

/-- The reply of a store to which nobody else does anything. -/
def reply (query : Query) (store : Store) (disk : Disk) : Reply :=
  match query with
  | .span key => .span (store.lookup key disk).1
  | .record key => .record (store.get key disk).1

/-- What follows on looking up the place of a key. -/
def afterLookup : Query → Except Error (Option Span) → Phase
  | .span _, result => .answered (.span result)
  | .record _, .error error => .answered (.record (.error error))
  | .record _, .ok none => .answered (.record (.ok none))
  | .record _, .ok (some place) => .opening place

end Query

/-- What an append of this part comes to when indexing comes to this. -/
def Tail.growth (tail : Tail) (outcome : Outcome Summary) : Outcome Growth :=
  outcome.map fun summary => ⟨tail.start, tail.length, summary⟩

/-- How indexing a new part starts. -/
def Job.indexing (job : Job) (tail : Tail) : Phase :=
  match job.settings.mode with
  | .sequential => .singly job tail tail.start ⟨0, 0, 0, 0⟩ tail.scan.records
  | .parallel => .recruiting job tail

/-- What is left to choose when a thread takes a step of an append. -/
inductive Choice
  | next
  | recruit (workers : Nat)
  | run (action : Pipeline.Action)

namespace Phase

/-- Whether a thread has the lock for reading. -/
def reads : Phase → Bool
  | .looking _ | .opening _ | .sizing _ _ | .reading _ _ | .answered _ => true
  | _ => false

/-- Whether a thread has the lock for writing. -/
def writes : Phase → Bool
  | .starting _ | .copying _ _ _ _ _ | .singly _ _ _ _ _ | .recruiting _ _ | .jointly _ _ _
  | .appended _ => true
  | _ => false

/-- A step of a thread that has the lock for reading. -/
def read? (blob : String) (sink : Backend × Disk) : Phase → Option (Phase × (Backend × Disk))
  | .looking query =>
    let (result, sink) := sink.1.lookup query.key sink.2
    some (query.afterLookup result, sink)
  | .opening span =>
    match Blob.atPath blob sink.2 with
    | .error error => some (.answered (.record (.error error)), sink)
    | .ok blob => some (.sizing span blob, sink)
  | .sizing span blob =>
    if blob.size sink.2 < span.offset + span.length then
      some (.answered (.record
        (.error (.outOfRange span.offset span.length (blob.size sink.2)))), sink)
    else some (.reading span blob, sink)
  | .reading span blob => some (.answered (.record ((blob.bytes span sink.2).map some)), sink)
  | _ => none

/-- A step of a run without workers, into the index of a store. -/
def single (job : Job) (tail : Tail) (offset : Nat) (summary : Summary) (sink : Backend × Disk) :
    List Bytes → Phase × (Backend × Disk)
  | [] => (.appended (tail.growth (Pipeline.atEnd summary tail.scan.ending)), sink)
  | record :: records =>
    match job.extractor.key record with
    | .error error => (.appended (.failed error), sink)
    | .ok key =>
      match Backend.writer [⟨key, offset, record.length⟩] sink with
      | (.refused error, sink) => (.appended (.failed error), sink)
      | (.panicked message, sink) => (.appended (.panicked message), sink)
      | (.accepted, sink) =>
        (.singly job tail (offset + record.length) (Pipeline.addRecord summary record.length)
          records, sink)

/-- A step of a thread that has the lock for writing. What one read of the source yields is added to
the file before the next one. -/
def write? (blob : String) (choice : Choice) (sink : Backend × Disk) :
    Phase → Option (Phase × (Backend × Disk))
  | .starting job =>
    match job.settings.validate with
    | .error error => some (.appended (.failed error), sink)
    | .ok () =>
      match sink.2.openFile blob with
      | .error fault => some (.appended (.failed (.io fault)), sink)
      | .ok (id, disk) =>
        some (.copying job id (disk.content id).length 0 job.source, (sink.1, disk))
  | .copying job id start copied rest =>
    let disk := sink.2.appendTo id rest.next
    match rest with
    | [] =>
      let tail := Bytes.slice (disk.content id) start copied
      let scan := Source.records Source.usualBuffer (.ofBytes tail)
      some (job.indexing ⟨start, copied, scan⟩, (sink.1, disk))
    | .failed message :: _ =>
      some (.appended (.failed (.io (.device message))), (sink.1, disk))
    | .panicked :: _ => some (.appended (.panicked "source panicked"), (sink.1, disk))
    | delivery :: rest =>
      some (.copying job id start (copied + delivery.size) rest, (sink.1, disk))
  | .singly job tail offset summary records => some (single job tail offset summary sink records)
  | .recruiting job tail =>
    match choice with
    | .recruit workers =>
      if job.settings.Admits workers then
        some (.jointly job tail (job.settings.firstState tail.start tail.scan workers ()), sink)
      else none
    | _ => none
  | .jointly job tail run =>
    match choice with
    | .run action =>
      match Pipeline.step? (job.settings.environment job.extractor.key Backend.writer tail.scan)
        (run.withSink sink) action with
      | some next => some (.jointly job tail (next.withSink ()), next.sink)
      | none => none
    | .next =>
      if run.finished then
        some (.appended (tail.growth (Pipeline.outcome tail.scan run)), sink)
      else none
    | .recruit _ => none
  | _ => none

end Phase

/-! ### Interleavings -/

/-- A store, the lock around it, and the threads that use it. Any number of threads may have the
lock for reading, or one for writing. -/
structure Threads (ι : Type) where
  store : Store
  disk : Disk
  readers : List ι
  writer : Option ι
  phase : ι → Phase

/-- What happens next. -/
inductive Move (ι : Type)
  | call (thread : ι) (task : Task)
  /-- A thread is given the lock. -/
  | enter (thread : ι)
  | read (thread : ι)
  | write (thread : ι) (choice : Choice)
  /-- A thread lets go of the lock and returns. -/
  | leave (thread : ι)

/-- The thread that makes a move. -/
def Move.thread {ι : Type} : Move ι → ι
  | .call i _ | .enter i | .read i | .write i _ | .leave i => i

namespace Threads

variable {ι : Type}

/-- Before the first call. -/
def start (store : Store) (disk : Disk) : Threads ι :=
  ⟨store, disk, [], none, fun _ => .idle none⟩

/-- The index behind the lock and the disk. -/
def sink (state : Threads ι) : Backend × Disk :=
  (Store.recovered state.store.guard, state.disk)

@[simp] theorem sink_eq (state : Threads ι) : state.sink = (state.store.backend, state.disk) := by
  rw [sink, Store.recovered_guard]

variable [DecidableEq ι]

/-- One thread goes on to a phase. -/
def go (state : Threads ι) (i : ι) (phase : Phase) : Threads ι :=
  { state with phase := Function.update state.phase i phase }

@[simp] theorem go_readers (state : Threads ι) (i : ι) (phase : Phase) :
    (state.go i phase).readers = state.readers := rfl

@[simp] theorem go_writer (state : Threads ι) (i : ι) (phase : Phase) :
    (state.go i phase).writer = state.writer := rfl

@[simp] theorem go_phase_self (state : Threads ι) (i : ι) (phase : Phase) :
    (state.go i phase).phase i = phase := Function.update_self _ _ _

@[simp] theorem go_phase_of_ne (state : Threads ι) {i j : ι} (other : j ≠ i) (phase : Phase) :
    (state.go i phase).phase j = state.phase j := Function.update_of_ne other _ _

/-- What a step of a thread makes of the index and the disk. -/
def put (state : Threads ι) (i : ι) (made : Phase × (Backend × Disk)) : Threads ι :=
  { state.go i made.1 with
    store := { state.store with backend := made.2.1 }
    disk := made.2.2 }

/-- The state after a move, if it can be made. The lock is given to a thread for writing when nobody
has it, and for reading when nobody has it for writing. An append that panicked poisons it. -/
def step? (state : Threads ι) : Move ι → Option (Threads ι)
  | .call i task =>
    match state.phase i with
    | .idle _ => some (state.go i (.waiting task))
    | _ => none
  | .enter i =>
    match state.phase i with
    | .waiting (.ask query) =>
      if state.writer = none then
        some { state.go i (.looking query) with readers := i :: state.readers }
      else none
    | .waiting (.append job) =>
      if state.writer = none ∧ state.readers = [] then
        some { state.go i (.starting job) with writer := some i }
      else none
    | _ => none
  | .read i => ((state.phase i).read? state.store.blob state.sink).map (state.put i)
  | .write i choice => ((state.phase i).write? state.store.blob choice state.sink).map (state.put i)
  | .leave i =>
    match state.phase i with
    | .answered reply =>
      some { state.go i (.idle (some reply)) with readers := state.readers.erase i }
    | .appended outcome =>
      some { state.go i (.idle (some (.growth outcome))) with
        writer := none
        store := state.store.appended outcome state.store.backend }
    | _ => none

/-- The state after some moves, if each of them can be made. -/
def run? (state : Threads ι) (moves : List (Move ι)) : Option (Threads ι) :=
  moves.foldlM step? state

theorem run?_append (state : Threads ι) (first rest : List (Move ι)) :
    run? state (first ++ rest) = (run? state first).bind fun next => run? next rest :=
  List.foldlM_append

theorem run?_concat_eq_some_iff {state last : Threads ι} {moves : List (Move ι)} {move : Move ι} :
    run? state (moves ++ [move]) = some last ↔
      ∃ middle, run? state moves = some middle ∧ step? middle move = some last := by
  rw [run?_append, Option.bind_eq_some_iff]
  simp [run?]

/-- What a move makes of a state. -/
inductive Transition (state : Threads ι) : Move ι → Threads ι → Prop
  | call {i : ι} {task : Task} {last : Option Reply} (there : state.phase i = .idle last) :
      Transition state (.call i task) (state.go i (.waiting task))
  | enterRead {i : ι} {query : Query} (there : state.phase i = .waiting (.ask query))
      (free : state.writer = none) :
      Transition state (.enter i)
        { state.go i (.looking query) with readers := i :: state.readers }
  | enterWrite {i : ι} {job : Job} (there : state.phase i = .waiting (.append job))
      (free : state.writer = none ∧ state.readers = []) :
      Transition state (.enter i) { state.go i (.starting job) with writer := some i }
  | read {i : ι} {made : Phase × (Backend × Disk)}
      (read : (state.phase i).read? state.store.blob (state.store.backend, state.disk) = some made) :
      Transition state (.read i) (state.put i made)
  | write {i : ι} {choice : Choice} {made : Phase × (Backend × Disk)}
      (wrote : (state.phase i).write? state.store.blob choice (state.store.backend, state.disk) =
        some made) :
      Transition state (.write i choice) (state.put i made)
  | leaveRead {i : ι} {reply : Reply} (there : state.phase i = .answered reply) :
      Transition state (.leave i)
        { state.go i (.idle (some reply)) with readers := state.readers.erase i }
  | leaveWrite {i : ι} {outcome : Outcome Growth} (there : state.phase i = .appended outcome) :
      Transition state (.leave i)
        { state.go i (.idle (some (.growth outcome))) with
          writer := none
          store := state.store.appended outcome state.store.backend }

theorem transition_of_step? {state next : Threads ι} {move : Move ι}
    (step : step? state move = some next) : Transition state move next := by
  cases move with
  | call i task =>
      simp only [step?] at step
      split at step <;> cases step
      exact .call ‹_›
  | enter i =>
      simp only [step?] at step
      split at step
      · split at step <;> cases step
        exact .enterRead ‹_› ‹_›
      · split at step <;> cases step
        exact .enterWrite ‹_› ‹_›
      · cases step
  | read i =>
      obtain ⟨made, read, rfl⟩ := Option.map_eq_some_iff.mp step
      rw [sink_eq] at read
      exact .read read
  | write i choice =>
      obtain ⟨made, wrote, rfl⟩ := Option.map_eq_some_iff.mp step
      rw [sink_eq] at wrote
      exact .write wrote
  | leave i =>
      simp only [step?] at step
      split at step <;> cases step
      · exact .leaveRead ‹_›
      · exact .leaveWrite ‹_›

/-- What holds at the start and over every move holds wherever an interleaving leads. -/
theorem invariant_of_run? {state last : Threads ι} {moves : List (Move ι)} {P : Threads ι → Prop}
    (replayed : run? state moves = some last) (first : P state)
    (kept : ∀ before move after, P before → Transition before move after → P after) : P last := by
  induction moves using List.reverseRecOn generalizing last with
  | nil =>
      cases replayed
      exact first
  | append_singleton moves move ih =>
      obtain ⟨middle, earlier, step⟩ := run?_concat_eq_some_iff.mp replayed
      exact kept _ _ _ (ih earlier) (transition_of_step? step)

/-! ### The lock -/

/-- The lock knows which threads have it, and it is free, or with one for writing, or with some for
reading. -/
structure Guarded (state : Threads ι) : Prop where
  readers : ∀ i, i ∈ state.readers ↔ (state.phase i).reads = true
  writer : ∀ i, state.writer = some i ↔ (state.phase i).writes = true
  once : state.readers.Nodup
  alone : state.writer = none ∨ state.readers = []

end Threads

namespace Phase

variable {phase phase' : Phase} {blob : String} {choice : Choice} {sink sink' : Backend × Disk}

theorem afterLookup_reads (query : Query) (result : Except Error (Option Span)) :
    (query.afterLookup result).reads = true ∧ (query.afterLookup result).writes = false := by
  cases query with
  | span key => exact ⟨rfl, rfl⟩
  | record key =>
      cases result with
      | error error => exact ⟨rfl, rfl⟩
      | ok found => cases found <;> exact ⟨rfl, rfl⟩

/-- A thread that reads goes on reading. -/
theorem reads_of_read? (step : phase.read? blob sink = some (phase', sink')) :
    (phase.reads = true ∧ phase.writes = false) ∧ phase'.reads = true ∧ phase'.writes = false := by
  cases phase with
  | looking query =>
      cases step
      exact ⟨⟨rfl, rfl⟩, afterLookup_reads _ _⟩
  | opening span =>
      simp only [read?] at step
      split at step <;> cases step <;> exact ⟨⟨rfl, rfl⟩, rfl, rfl⟩
  | sizing span blob =>
      simp only [read?] at step
      split at step <;> cases step <;> exact ⟨⟨rfl, rfl⟩, rfl, rfl⟩
  | reading span blob =>
      cases step
      exact ⟨⟨rfl, rfl⟩, rfl, rfl⟩
  | _ => cases step

/-- A step of a reader is a lookup, or changes neither the index nor the disk. -/
theorem sink_of_read? (step : phase.read? blob sink = some (phase', sink')) :
    sink' = sink ∨ ∃ query, phase = .looking query ∧ sink' = (sink.1.lookup query.key sink.2).2 := by
  cases phase with
  | looking query =>
      cases step
      exact .inr ⟨query, rfl, rfl⟩
  | opening span | sizing span blob =>
      simp only [read?] at step
      split at step <;> cases step <;> exact .inl rfl
  | reading span blob =>
      cases step
      exact .inl rfl
  | _ => cases step

theorem single_writes (job : Job) (tail : Tail) (offset : Nat) (summary : Summary)
    (sink : Backend × Disk) (records : List Bytes) :
    (single job tail offset summary sink records).1.reads = false ∧
      (single job tail offset summary sink records).1.writes = true := by
  cases records with
  | nil => exact ⟨rfl, rfl⟩
  | cons record records =>
      cases made : job.extractor.key record with
      | error error => simp [single, made, reads, writes]
      | ok key =>
          rcases wrote : Backend.writer [⟨key, offset, record.length⟩] sink with ⟨verdict, after⟩
          cases verdict <;> simp [single, made, wrote, reads, writes]

/-- A thread that writes goes on writing. -/
theorem writes_of_write? (step : phase.write? blob choice sink = some (phase', sink')) :
    (phase.reads = false ∧ phase.writes = true) ∧ phase'.reads = false ∧ phase'.writes = true := by
  cases phase with
  | starting job =>
      simp only [write?] at step
      split at step
      · cases step
        exact ⟨⟨rfl, rfl⟩, rfl, rfl⟩
      · split at step <;> cases step <;> exact ⟨⟨rfl, rfl⟩, rfl, rfl⟩
  | copying job id start copied rest =>
      simp only [write?] at step
      split at step
      · cases step
        refine ⟨⟨rfl, rfl⟩, ?_⟩
        unfold Job.indexing
        split <;> exact ⟨rfl, rfl⟩
      all_goals
        cases step
        exact ⟨⟨rfl, rfl⟩, rfl, rfl⟩
  | singly job tail offset summary records =>
      simp only [write?, Option.some.injEq] at step
      have made := single_writes job tail offset summary sink records
      rw [step] at made
      exact ⟨⟨rfl, rfl⟩, made⟩
  | recruiting job tail =>
      simp only [write?] at step
      split at step
      · split at step <;> cases step
        exact ⟨⟨rfl, rfl⟩, rfl, rfl⟩
      · cases step
  | jointly job tail run =>
      simp only [write?] at step
      split at step
      · split at step <;> cases step
        exact ⟨⟨rfl, rfl⟩, rfl, rfl⟩
      · split at step <;> cases step
        exact ⟨⟨rfl, rfl⟩, rfl, rfl⟩
      · cases step
  | _ => cases step

end Phase

namespace Threads

theorem guarded_start {ι : Type} (store : Store) (disk : Disk) :
    Guarded (start store disk : Threads ι) :=
  ⟨fun _ => by simp [start, Phase.reads], fun _ => by simp [start, Phase.writes], .nil, .inl rfl⟩

variable {ι : Type} [DecidableEq ι] {state next : Threads ι} {move : Move ι}

/-- When one thread goes on to a phase, only what the lock knows of this thread has to be shown. -/
theorem Guarded.update (guarded : Guarded state) {i : ι} {phase : Phase} {store : Store}
    {disk : Disk} {readers : List ι} {writer : Option ι}
    (inside : i ∈ readers ↔ phase.reads = true) (owner : writer = some i ↔ phase.writes = true)
    (others : ∀ j, j ≠ i →
      (j ∈ readers ↔ j ∈ state.readers) ∧ (writer = some j ↔ state.writer = some j))
    (once : readers.Nodup) (alone : writer = none ∨ readers = []) :
    Guarded ⟨store, disk, readers, writer, (state.go i phase).phase⟩ := by
  refine ⟨?_, ?_, once, alone⟩
  · intro j
    by_cases same : j = i
    · rw [same, go_phase_self]
      exact inside
    · rw [go_phase_of_ne _ same, (others j same).1]
      exact guarded.readers j
  · intro j
    by_cases same : j = i
    · rw [same, go_phase_self]
      exact owner
    · rw [go_phase_of_ne _ same, (others j same).2]
      exact guarded.writer j

/-- The lock stays where it is when a thread goes on with it or without it. -/
theorem Guarded.put (guarded : Guarded state) {i : ι} {made : Phase × (Backend × Disk)}
    (reads : made.1.reads = (state.phase i).reads)
    (writes : made.1.writes = (state.phase i).writes) : Guarded (state.put i made) :=
  guarded.update (reads ▸ guarded.readers i) (writes ▸ guarded.writer i)
    (fun _ _ => ⟨.rfl, .rfl⟩) guarded.once guarded.alone

theorem Guarded.call (guarded : Guarded state) {i : ι} {last : Option Reply} {task : Task}
    (there : state.phase i = .idle last) : Guarded (state.go i (.waiting task)) := by
  have reads := guarded.readers i
  have writes := guarded.writer i
  rw [there] at reads writes
  exact guarded.update reads writes (fun _ _ => ⟨.rfl, .rfl⟩) guarded.once guarded.alone

theorem Guarded.enter_read (guarded : Guarded state) {i : ι} {query : Query}
    (there : state.phase i = .waiting (.ask query)) (free : state.writer = none) :
    Guarded { state.go i (.looking query) with readers := i :: state.readers } := by
  have out : i ∉ state.readers := by simp [guarded.readers, there, Phase.reads]
  refine guarded.update (by simp [Phase.reads]) (by simp [free, Phase.writes]) ?_
    (List.nodup_cons.mpr ⟨out, guarded.once⟩) (.inl free)
  intro j other
  exact ⟨by simp [other], .rfl⟩

theorem Guarded.enter_write (guarded : Guarded state) {i : ι} {job : Job}
    (free : state.writer = none ∧ state.readers = []) :
    Guarded { state.go i (.starting job) with writer := some i } := by
  refine guarded.update (by simp [free.2, Phase.reads]) (by simp [Phase.writes]) ?_ guarded.once
    (.inr free.2)
  intro j other
  exact ⟨.rfl, by simp [free.1, Ne.symm other]⟩

theorem Guarded.leave_read (guarded : Guarded state) {i : ι} {reply : Reply}
    (there : state.phase i = .answered reply) :
    Guarded { state.go i (.idle (some reply)) with readers := state.readers.erase i } := by
  have writes := guarded.writer i
  rw [there] at writes
  refine guarded.update ?_ writes ?_ (guarded.once.erase i) ?_
  · simp [guarded.once.mem_erase_iff, Phase.reads]
  · intro j other
    exact ⟨by simp [guarded.once.mem_erase_iff, other], .rfl⟩
  · exact guarded.alone.imp_right fun none => by simp [none]

theorem Guarded.leave_write (guarded : Guarded state) {i : ι} {outcome : Outcome Growth}
    (there : state.phase i = .appended outcome) (store : Store) :
    Guarded { state.go i (.idle (some (.growth outcome))) with
      writer := none
      store } := by
  have own : state.writer = some i := (guarded.writer i).mpr (by simp [there, Phase.writes])
  have reads := guarded.readers i
  rw [there] at reads
  refine guarded.update reads (by simp [Phase.writes]) ?_ guarded.once (.inl rfl)
  intro j other
  exact ⟨.rfl, by simp [own, Ne.symm other]⟩

/-- Every move respects the lock. -/
theorem Guarded.step (guarded : Guarded state) (transition : Transition state move next) :
    Guarded next := by
  cases transition with
  | call there => exact guarded.call there
  | enterRead there free => exact guarded.enter_read there free
  | enterWrite there free => exact guarded.enter_write free
  | read read =>
      obtain ⟨⟨reads, writes⟩, reads', writes'⟩ := Phase.reads_of_read? read
      exact guarded.put (reads'.trans reads.symm) (writes'.trans writes.symm)
  | write wrote =>
      obtain ⟨⟨reads, writes⟩, reads', writes'⟩ := Phase.writes_of_write? wrote
      exact guarded.put (reads'.trans reads.symm) (writes'.trans writes.symm)
  | leaveRead there => exact guarded.leave_read there
  | leaveWrite there => exact guarded.leave_write there _

omit [DecidableEq ι] in
/-- Beside a thread that has the lock for reading nobody has it for writing. -/
theorem Guarded.free_of_reads (guarded : Guarded state) {i : ι}
    (reads : (state.phase i).reads = true) : state.writer = none := by
  refine guarded.alone.resolve_right fun nobody => ?_
  have inside := (guarded.readers i).mpr reads
  simp [nobody] at inside

/-! ### What a move changes -/

/-- A move changes how far the thread is that makes it, and no other. -/
theorem Transition.phase_eq (transition : Transition state move next) {i : ι}
    (other : i ≠ move.thread) : next.phase i = state.phase i := by
  cases transition <;> exact go_phase_of_ne _ other _

/-- Without the lock for writing a move changes nothing behind the lock, apart from what a lookup
does. -/
theorem Transition.sink_cases (transition : Transition state move next) (guarded : Guarded state) :
    (next.store.backend, next.disk) = (state.store.backend, state.disk) ∨
      (∃ key, (next.store.backend, next.disk) = (state.store.backend.lookup key state.disk).2) ∨
      state.writer ≠ none := by
  cases transition with
  | call | enterRead | enterWrite | leaveRead | leaveWrite => exact .inl rfl
  | read read =>
      rcases Phase.sink_of_read? read with same | ⟨query, -, same⟩
      · exact .inl same
      · exact .inr (.inl ⟨query.key, same⟩)
  | @write i choice made wrote =>
      obtain ⟨⟨-, writes⟩, -⟩ := Phase.writes_of_write? wrote
      exact .inr (.inr (by simp [(guarded.writer i).mpr writes]))

theorem Transition.blob_eq (transition : Transition state move next) :
    next.store.blob = state.store.blob := by
  cases transition <;> rfl

end Threads

/-! ### Going on -/

/-- A step of an append can be taken as long as it has not come to anything. -/
theorem Phase.exists_write? {phase : Phase} (writes : phase.writes = true)
    (under : ∀ outcome, phase ≠ .appended outcome) (blob : String) (sink : Backend × Disk) :
    ∃ choice made, phase.write? blob choice sink = some made := by
  cases phase with
  | idle | waiting | looking | opening | sizing | reading | answered => cases writes
  | starting job =>
      refine ⟨.next, ?_⟩
      simp only [write?]
      split
      · exact ⟨_, rfl⟩
      · split <;> exact ⟨_, rfl⟩
  | copying job id start copied rest =>
      refine ⟨.next, ?_⟩
      simp only [write?]
      split <;> exact ⟨_, rfl⟩
  | singly job tail offset summary records => exact ⟨.next, _, rfl⟩
  | recruiting job tail =>
      refine ⟨.recruit job.settings.workerCount, ?_⟩
      simp only [write?, if_pos job.settings.admits_workerCount]
      exact ⟨_, rfl⟩
  | jointly job tail run =>
      cases finished : run.finished with
      | true =>
          refine ⟨.next, ?_⟩
          simp only [write?, if_pos finished]
          exact ⟨_, rfl⟩
      | false =>
          have unfinished : (run.withSink sink).finished = false := finished
          obtain ⟨action, next, taken⟩ := @Pipeline.exists_step?_of_not_finished _
            (job.settings.environment job.extractor.key Backend.writer tail.scan) _ unfinished
          refine ⟨.run action, ?_⟩
          simp only [write?, taken]
          exact ⟨_, rfl⟩
  | appended outcome => exact absurd rfl (under outcome)

/-- A step of a reader can be taken as long as there is no answer. -/
theorem Phase.exists_read? {phase : Phase} (reads : phase.reads = true)
    (unanswered : ∀ reply, phase ≠ .answered reply) (blob : String) (sink : Backend × Disk) :
    ∃ made, phase.read? blob sink = some made := by
  cases phase with
  | looking query => exact ⟨_, rfl⟩
  | opening span | sizing span blob =>
      simp only [read?]
      split <;> exact ⟨_, rfl⟩
  | reading span blob => exact ⟨_, rfl⟩
  | answered reply => exact absurd rfl (unanswered reply)
  | _ => cases reads

/-- Whoever has the lock can go on with it, or let go of it. -/
theorem Threads.exists_step?_of_locked {ι : Type} [DecidableEq ι] (state : Threads ι) {i : ι}
    (locked : (state.phase i).reads = true ∨ (state.phase i).writes = true) :
    ∃ move, move.thread = i ∧ ∃ next, step? state move = some next := by
  rcases locked with reads | writes
  · by_cases answer : ∃ reply, state.phase i = .answered reply
    · obtain ⟨reply, there⟩ := answer
      refine ⟨.leave i, rfl, ?_⟩
      simp only [step?, there]
      exact ⟨_, rfl⟩
    · obtain ⟨made, read⟩ := Phase.exists_read? reads
        (fun reply there => answer ⟨reply, there⟩) state.store.blob state.sink
      exact ⟨.read i, rfl, _, congrArg (Option.map (state.put i)) read⟩
  · by_cases came : ∃ outcome, state.phase i = .appended outcome
    · obtain ⟨outcome, there⟩ := came
      refine ⟨.leave i, rfl, ?_⟩
      simp only [step?, there]
      exact ⟨_, rfl⟩
    · obtain ⟨choice, made, wrote⟩ := Phase.exists_write? writes
        (fun outcome there => came ⟨outcome, there⟩) state.store.blob state.sink
      exact ⟨.write i choice, rfl, _, congrArg (Option.map (state.put i)) wrote⟩

end RecordStore
