import RecordStore.Proofs.Lookups
import RecordStore.Proofs.Writers

/-!
Threads that read a store to which others append.

A thread that asks a store for a record looks up its place and then opens, measures and reads the
file, and in between others may look up other keys. What it comes to is what the whole
call gives at the point where the place was looked up (`Follows`), for nobody has the lock
for writing until it is done and lookups of others change nothing any more. That an append
panicked changes nothing but the mark on the lock (`step?_healed`).
-/

namespace RecordStore

/-! ### One reader -/

/-- How far a call is that comes to what it comes to alone on a store and a disk, and the index and
the disk that it needs for that. -/
inductive Follows (query : Query) (store : Store) (disk : Disk) : Phase → Backend × Disk → Prop
  | opening {key : String} {span : Span} {sink : Backend × Disk} (asked : query = .record key)
      (found : store.backend.lookup key disk = (.ok (some span), sink)) :
      Follows query store disk (.opening span) sink
  | sizing {key : String} {span : Span} {blob : Blob} {sink : Backend × Disk}
      (asked : query = .record key)
      (found : store.backend.lookup key disk = (.ok (some span), sink))
      (opened : Blob.atPath store.blob sink.2 = .ok blob) :
      Follows query store disk (.sizing span blob) sink
  | reading {key : String} {span : Span} {blob : Blob} {sink : Backend × Disk}
      (asked : query = .record key)
      (found : store.backend.lookup key disk = (.ok (some span), sink))
      (opened : Blob.atPath store.blob sink.2 = .ok blob)
      (long : ¬blob.size sink.2 < span.offset + span.length) :
      Follows query store disk (.reading span blob) sink
  | answered {reply : Reply} {sink : Backend × Disk} (alone : query.reply store disk = reply) :
      Follows query store disk (.answered reply) sink
  | returned {reply : Reply} {sink : Backend × Disk} (alone : query.reply store disk = reply) :
      Follows query store disk (.idle (some reply)) sink

namespace Follows

variable {query : Query} {store : Store} {disk : Disk} {phase : Phase} {sink : Backend × Disk}
  {made : Phase × (Backend × Disk)}

/-- The reply of a store that has the place of a key. -/
theorem reply_of_lookup {key : String} {span : Span}
    (found : store.backend.lookup key disk = (.ok (some span), sink)) :
    (Query.record key).reply store disk = .record
      (match Blob.atPath store.blob sink.2 with
        | .error error => .error error
        | .ok blob => (blob.readSpan span sink.2).map some) := by
  simp only [Query.reply, Store.get, Store.lookup_eq, found]
  cases Blob.atPath store.blob sink.2 <;> rfl

/-- A call starts by looking up the place of its key. -/
theorem of_looking (step : (Phase.looking query).read? store.blob (store.backend, disk) = some made) :
    Follows query store disk made.1 made.2 := by
  rcases found : store.backend.lookup query.key disk with ⟨result, sink⟩
  simp only [Phase.read?, found] at step
  cases step
  cases query with
  | span key =>
      change store.backend.lookup key disk = _ at found
      exact .answered (by simp [Query.reply, Store.lookup_eq, found])
  | record key =>
      change store.backend.lookup key disk = _ at found
      cases result with
      | error error => exact .answered (by simp [Query.reply, Store.get, Store.lookup_eq, found])
      | ok place =>
          cases place with
          | none => exact .answered (by simp [Query.reply, Store.get, Store.lookup_eq, found])
          | some span => exact .opening rfl found

/-- A call goes on. -/
theorem read (follows : Follows query store disk phase sink)
    (step : phase.read? store.blob sink = some made) : Follows query store disk made.1 made.2 := by
  cases follows with
  | opening asked found =>
      subst asked
      have reply := reply_of_lookup found
      simp only [Phase.read?] at step
      split at step
      · rename_i error missing
        cases step
        rw [missing] at reply
        exact .answered reply
      · rename_i blob opened
        cases step
        exact .sizing rfl found opened
  | sizing asked found opened =>
      subst asked
      have reply := reply_of_lookup found
      simp only [opened, Blob.readSpan_eq] at reply
      simp only [Phase.read?] at step
      split at step
      · rename_i short
        cases step
        rw [if_pos short] at reply
        exact .answered reply
      · rename_i long
        cases step
        exact .reading rfl found opened long
  | reading asked found opened long =>
      subst asked
      have reply := reply_of_lookup found
      simp only [opened, Blob.readSpan_eq, if_neg long] at reply
      cases step
      exact .answered reply
  | answered | returned => cases step

/-- What others look up changes nothing for a call that has the place of its key. -/
theorem lookup (follows : Follows query store disk phase sink) (other : String) :
    Follows query store disk phase (sink.1.lookup other sink.2).2 := by
  cases follows with
  | opening asked found =>
      rw [Backend.lookup_again found]
      exact .opening asked found
  | sizing asked found opened =>
      rw [Backend.lookup_again found]
      exact .sizing asked found opened
  | reading asked found opened long =>
      rw [Backend.lookup_again found]
      exact .reading asked found opened long
  | answered alone => exact .answered alone
  | returned alone => exact .returned alone

/-- Without the lock for reading a call is over, and needs nothing any more. -/
theorem of_not_reads (follows : Follows query store disk phase sink)
    (out : phase.reads = false) (other : Backend × Disk) : Follows query store disk phase other := by
  cases follows with
  | returned alone => exact .returned alone
  | opening | sizing | reading | answered => cases out

end Follows

/-! ### Readers among others -/

namespace Threads

variable {ι : Type} [DecidableEq ι] {state next called : Threads ι} {moves : List (Move ι)}
  {i : ι} {query : Query}

/-- How far a thread is that asked: it has yet to look up the place of its key, or it is on the way
from a point behind its call at which nobody had the lock for writing. -/
inductive Asking (called : Threads ι) (moves : List (Move ι)) (query : Query) (blob : String) :
    Phase → Backend × Disk → Prop
  | waiting {sink : Backend × Disk} : Asking called moves query blob (.waiting (.ask query)) sink
  | looking {sink : Backend × Disk} : Asking called moves query blob (.looking query) sink
  | following {first second : List (Move ι)} {middle : Threads ι} {phase : Phase}
      {sink : Backend × Disk} (parts : moves = first ++ second)
      (passes : run? called first = some middle) (free : middle.writer = none)
      (same : blob = middle.store.blob) (follows : Follows query middle.store middle.disk phase sink) :
      Asking called moves query blob phase sink

theorem Asking.writes_eq {blob : String} {phase : Phase} {sink : Backend × Disk}
    (asking : Asking called moves query blob phase sink) : phase.writes = false := by
  cases asking with
  | waiting | looking => rfl
  | following _ _ _ _ follows => cases follows <;> rfl

/-- A thread that asked goes on with the lock for reading. -/
theorem Asking.read {phase : Phase} {made : Phase × (Backend × Disk)}
    (asking : Asking called moves query state.store.blob phase (state.store.backend, state.disk))
    (replayed : run? called moves = some state) (free : state.writer = none)
    (read : phase.read? state.store.blob (state.store.backend, state.disk) = some made)
    (move : Move ι) :
    Asking called (moves ++ [move]) query state.store.blob made.1 made.2 := by
  cases asking with
  | waiting => cases read
  | looking => exact .following rfl replayed free rfl (.of_looking read)
  | following parts passes free same follows =>
      rw [same] at read
      exact .following (by rw [parts, List.append_assoc]) passes free same (follows.read read)

/-- A move of the thread that asked. -/
theorem Asking.own
    (asking : Asking called moves query state.store.blob (state.phase i)
      (state.store.backend, state.disk))
    (guarded : Guarded state) (replayed : run? called moves = some state) {move : Move ι}
    (transition : Transition state move next) (own : move.thread = i)
    (uncalled : ∀ task, move ≠ .call i task) :
    Asking called (moves ++ [move]) query next.store.blob (next.phase i)
      (next.store.backend, next.disk) := by
  cases transition with
  | call =>
      cases own
      exact absurd rfl (uncalled _)
  | @enterRead j asked there =>
      obtain rfl : j = i := own
      rw [there] at asking
      cases asking with
      | waiting =>
          rw [go_phase_self]
          exact .looking
      | following _ _ _ _ follows => cases follows
  | @enterWrite j job there =>
      obtain rfl : j = i := own
      rw [there] at asking
      cases asking with
      | following _ _ _ _ follows => cases follows
  | @read j made read =>
      obtain rfl : j = i := own
      have free := guarded.free_of_reads (Phase.reads_of_read? read).1.1
      simpa [put] using asking.read replayed free read (.read j)
  | @write j choice made wrote =>
      obtain rfl : j = i := own
      obtain ⟨⟨-, writes⟩, -⟩ := Phase.writes_of_write? wrote
      rw [asking.writes_eq] at writes
      cases writes
  | @leaveRead j reply there =>
      obtain rfl : j = i := own
      rw [there] at asking
      cases asking with
      | following parts passes free same follows =>
          cases follows with
          | answered alone =>
              refine .following (by rw [parts, List.append_assoc]) passes free same ?_
              rw [go_phase_self]
              exact .returned alone
  | @leaveWrite j outcome there =>
      obtain rfl : j = i := own
      have writes := asking.writes_eq
      rw [there] at writes
      cases writes

/-- A move of another thread. -/
theorem Asking.other
    (asking : Asking called moves query state.store.blob (state.phase i)
      (state.store.backend, state.disk))
    (guarded : Guarded state) {move : Move ι} (transition : Transition state move next)
    (other : i ≠ move.thread) :
    Asking called (moves ++ [move]) query next.store.blob (next.phase i)
      (next.store.backend, next.disk) := by
  rw [transition.phase_eq other, transition.blob_eq]
  have changed := transition.sink_cases guarded
  have alone (reads : (state.phase i).reads = true) := guarded.free_of_reads reads
  generalize state.phase i = phase at asking alone
  cases asking with
  | waiting => exact .waiting
  | looking => exact .looking
  | following parts passes free same follows =>
      refine .following (by rw [parts, List.append_assoc]) passes free same ?_
      rcases changed with kept | ⟨key, looked⟩ | taken
      · rw [kept]
        exact follows
      · rw [looked]
        exact follows.lookup key
      · refine follows.of_not_reads ?_ _
        exact Bool.eq_false_iff.mpr fun reads => taken (alone reads)

/-- A thread that asked is on its way as long as it asks for nothing else, whatever all of them do.
-/
theorem asking_of_run? (guarded : Guarded called) (there : called.phase i = .waiting (.ask query))
    (replayed : run? called moves = some state) (uncalled : ∀ task, .call i task ∉ moves) :
    Guarded state ∧ Asking called moves query state.store.blob (state.phase i)
      (state.store.backend, state.disk) := by
  induction moves using List.reverseRecOn generalizing state with
  | nil =>
      cases replayed
      rw [there]
      exact ⟨guarded, .waiting⟩
  | append_singleton moves move ih =>
      obtain ⟨middle, earlier, step⟩ := run?_concat_eq_some_iff.mp replayed
      obtain ⟨guarded, asking⟩ := ih earlier fun task inside => uncalled task (by simp [inside])
      have transition := transition_of_step? step
      refine ⟨guarded.step transition, ?_⟩
      by_cases own : move.thread = i
      · refine asking.own guarded earlier transition own fun task same => ?_
        exact uncalled task (by simp [same])
      · exact asking.other guarded transition (Ne.symm own)

end Threads

/-! ### After a panic -/

namespace Store

/-- A store whose lock is not poisoned. -/
def healed (store : Store) : Store :=
  { store with poisoned := false }

@[simp] theorem healed_healed (store : Store) : store.healed.healed = store.healed := rfl

/-- What a call gives and leaves behind, whether the lock is poisoned or not. -/
def unmarked {α : Type} (left : α × Store × Disk) : α × Store × Disk :=
  (left.1, left.2.1.healed, left.2.2)

/-- Whatever is called, it gives the same for both stores. -/
structure Alike (store other : Store) : Prop where
  lookup : ∀ key disk, unmarked (store.lookup key disk) = unmarked (other.lookup key disk)
  get : ∀ key disk, unmarked (store.get key disk) = unmarked (other.get key disk)
  append : ∀ source extractor settings disk,
    (store.append source extractor settings disk).1 =
        (other.append source extractor settings disk).1 ∧
      unmarked (store.append source extractor settings disk).2 =
        unmarked (other.append source extractor settings disk).2
  close : ∀ disk, store.close disk = other.close disk

theorem unmarked_lookup_healed (store : Store) (key : String) (disk : Disk) :
    unmarked (store.healed.lookup key disk) = unmarked (store.lookup key disk) := by
  rw [lookup_eq, lookup_eq]
  rfl

theorem unmarked_get_healed (store : Store) (key : String) (disk : Disk) :
    unmarked (store.healed.get key disk) = unmarked (store.get key disk) := by
  simp only [get, lookup_eq, healed]
  rcases store.backend.lookup key disk with ⟨result, backend, after⟩
  cases result with
  | error error => rfl
  | ok found =>
      cases found with
      | none => rfl
      | some span =>
          dsimp only
          cases Blob.atPath store.blob after <;> rfl

theorem unmarked_append_healed (store : Store) (source : Source) (extractor : Extractor)
    (settings : RunSettings) (disk : Disk) :
    (store.healed.append source extractor settings disk).1 =
        (store.append source extractor settings disk).1 ∧
      unmarked (store.healed.append source extractor settings disk).2 =
        unmarked (store.append source extractor settings disk).2 := by
  simp only [append, recovered_guard]
  exact ⟨rfl, rfl⟩

theorem close_healed (store : Store) (disk : Disk) :
    store.healed.close disk = store.close disk := by
  rw [close, close, recovered_guard, recovered_guard]
  rfl

/-- Nothing but the mark tells whether a lock is poisoned: who takes the backend out of the error
around it goes on as without one. -/
theorem alike_healed (store : Store) : store.Alike store.healed where
  lookup key disk := (unmarked_lookup_healed store key disk).symm
  get key disk := (unmarked_get_healed store key disk).symm
  append source extractor settings disk :=
    (unmarked_append_healed store source extractor settings disk).imp Eq.symm Eq.symm
  close disk := (store.close_healed disk).symm

end Store

namespace Threads

variable {ι : Type} [DecidableEq ι]

/-- The same threads around a lock that is not poisoned. -/
def healed (state : Threads ι) : Threads ι :=
  { state with store := state.store.healed }

theorem step?_healed (state : Threads ι) (move : Move ι) :
    (step? state.healed move).map healed = (step? state move).map healed := by
  cases move with
  | call i task =>
      simp only [step?, healed]
      cases state.phase i <;> rfl
  | enter i =>
      simp only [step?, healed]
      cases state.phase i with
      | waiting task =>
          cases task with
          | ask query => by_cases free : state.writer = none <;> simp [free, healed, go]
          | append job =>
              by_cases free : state.writer = none ∧ state.readers = [] <;> simp [free, healed, go]
      | _ => rfl
  | read i =>
      simp only [step?, sink_eq, Option.map_map]
      rfl
  | write i choice =>
      simp only [step?, sink_eq, Option.map_map]
      rfl
  | leave i =>
      simp only [step?, healed]
      cases state.phase i <;> rfl

theorem step?_congr {state other : Threads ι} (same : state.healed = other.healed) (move : Move ι) :
    (step? state move).map healed = (step? other move).map healed := by
  rw [← step?_healed state, same, step?_healed]

/-- Whatever threads do, they do the same when the lock is not poisoned. -/
theorem run?_congr {state other : Threads ι} (same : state.healed = other.healed)
    (moves : List (Move ι)) : (run? state moves).map healed = (run? other moves).map healed := by
  induction moves using List.reverseRecOn with
  | nil => exact congrArg some same
  | append_singleton moves move ih =>
      rw [run?_append, run?_append]
      cases first : run? state moves with
      | none =>
          cases second : run? other moves with
          | none => rfl
          | some middle' => simp [first, second] at ih
      | some middle =>
          cases second : run? other moves with
          | none => simp [first, second] at ih
          | some middle' =>
              have here : middle.healed = middle'.healed := by
                simpa [first, second] using ih
              simpa [run?] using step?_congr here move

/-- A lock is poisoned when an append has panicked. -/
def Marked (state : Threads ι) : Prop :=
  ∀ i message, state.phase i = .idle (some (.growth (.panicked message))) ∨
    state.phase i = .answered (.growth (.panicked message)) → state.store.poisoned = true

omit [DecidableEq ι] in
theorem marked_start (store : Store) (disk : Disk) : Marked (start store disk : Threads ι) := by
  intro i message came
  rcases came with came | came <;> cases came

/-- What a reader is answered is nothing that an append came to. -/
theorem ungrown_of_read? {blob : String} {sink : Backend × Disk} {phase : Phase}
    {made : Phase × (Backend × Disk)} (read : phase.read? blob sink = some made)
    (outcome : Outcome Growth) :
    made.1 ≠ .answered (.growth outcome) ∧ made.1 ≠ .idle (some (.growth outcome)) := by
  cases phase with
  | looking query =>
      rcases found : sink.1.lookup query.key sink.2 with ⟨result, after⟩
      simp only [Phase.read?, found] at read
      cases read
      cases query with
      | span key => simp [Query.afterLookup]
      | record key =>
          cases result with
          | error error => simp [Query.afterLookup]
          | ok place => cases place <;> simp [Query.afterLookup]
  | opening span | sizing span blob =>
      simp only [Phase.read?] at read
      split at read <;> cases read <;> simp
  | reading span blob =>
      cases read
      simp
  | _ => cases read

theorem Transition.poisoned {state next : Threads ι} {move : Move ι}
    (transition : Transition state move next) (poisoned : state.store.poisoned = true) :
    next.store.poisoned = true := by
  cases transition with
  | @leaveWrite i outcome there =>
      cases outcome with
      | panicked message => rfl
      | done | failed => exact poisoned
  | _ => exact poisoned

theorem Marked.step {state next : Threads ι} {move : Move ι} (marked : Marked state)
    (transition : Transition state move next) : Marked next := by
  intro j message came
  by_cases own : move.thread = j
  · cases transition with
    | @call i task last there =>
        obtain rfl : i = j := own
        simp at came
    | @enterRead i query there | @enterWrite i job there =>
        obtain rfl : i = j := own
        simp at came
    | @read i made read =>
        obtain rfl : i = j := own
        obtain ⟨unanswered, unreturned⟩ := ungrown_of_read? read (.panicked message)
        simp [put, unanswered, unreturned] at came
    | @write i choice made wrote =>
        obtain rfl : i = j := own
        have writes := (Phase.writes_of_write? wrote).2.2
        simp only [put, go_phase_self] at came
        rcases came with came | came <;> rw [came] at writes <;> cases writes
    | @leaveRead i reply there =>
        obtain rfl : i = j := own
        simp only [go_phase_self] at came
        rcases came with came | came
        · cases came
          exact marked i message (.inr there)
        · cases came
    | @leaveWrite i outcome there =>
        obtain rfl : i = j := own
        simp only [go_phase_self] at came
        rcases came with came | came
        · cases came
          rfl
        · cases came
  · rw [transition.phase_eq (Ne.symm own)] at came
    exact transition.poisoned (marked j message came)

/-! ### All readers -/

/-- Readers see what is there between appends, whatever threads do and in whichever order. A call
that asked for a span or a record comes to exactly what it comes to alone on the store as it was at
a point behind its start, and before its end, at which no append was under way and to which whole
operations have led, one after another. An append that panicked leaves a mark on the lock, and apart
from the mark everything goes on as without it: what threads do, and every call on its own. -/
theorem readers_see_states_between_appends {store : Store} {disk : Disk} {moves : List (Move ι)}
    {state : Threads ι} (replayed : run? (start store disk) moves = some state) :
    (∀ before during i query reply, moves = before ++ .call i (.ask query) :: during →
      (∀ task, .call i task ∉ during) → state.phase i = .idle (some reply) →
      ∃ first second middle, during = first ++ second ∧
        run? (start store disk) (before ++ .call i (.ask query) :: first) = some middle ∧
        (∀ j, (middle.phase j).writes = false) ∧
        Series (store, disk) (middle.store, middle.disk) ∧
        reply = query.reply middle.store middle.disk) ∧
    (∀ i message, state.phase i = .idle (some (.growth (.panicked message))) →
      state.store.poisoned = true) ∧
    (∀ more, (run? state more).map healed = (run? state.healed more).map healed) ∧
    state.store.Alike state.store.healed := by
  have same : state.healed = state.healed.healed := rfl
  refine ⟨?_, ?_, run?_congr same, state.store.alike_healed⟩
  · rintro before during i query reply rfl uncalled there
    have split (first : List (Move ι)) : before ++ .call i (.ask query) :: first =
        (before ++ [.call i (.ask query)]) ++ first := by simp
    rw [split, run?_append, Option.bind_eq_some_iff] at replayed
    obtain ⟨called, earlier, rest⟩ := replayed
    obtain ⟨origin, -, step⟩ := run?_concat_eq_some_iff.mp earlier
    have waits : called.phase i = .waiting (.ask query) := by
      cases transition_of_step? step with
      | call => exact go_phase_self _ _ _
    obtain ⟨-, asking⟩ := asking_of_run? (kept_of_run? earlier).guarded waits rest uncalled
    rw [there] at asking
    cases asking with
    | @following first second middle _ _ parts passes free same follows =>
        cases follows with
        | returned alone =>
            have reached : run? (start store disk) (before ++ .call i (.ask query) :: first) =
                some middle := by
              rw [split, run?_append, earlier]
              exact passes
            have kept := kept_of_run? reached
            refine ⟨first, second, middle, parts, reached, ?_, kept.free free, alone.symm⟩
            intro j
            rw [← Bool.not_eq_true, ← kept.guarded.writer j, free]
            exact nofun
  · have marked : Marked state := invariant_of_run? replayed (marked_start store disk)
      fun _ _ _ marked transition => marked.step transition
    exact fun i message came => marked i message (.inl came)

/-- A record is asked for while it is appended, and once more behind an append that panicked, which
takes nothing from it. -/
theorem readers_see_states_between_appends_behind_a_panic :
    let settings : RunSettings := ⟨1, 0, .sequential, .drain⟩
    let line : Bytes := [123, 34, 107, 34, 58, 34, 97, 34, 125, 10]
    let store := Store.new "f" (.log ⟨"i", some 0⟩)
    let ask : Move Bool := .call false (.ask (.record "a"))
    let reading := [.enter false] ++ List.replicate 4 (.read false) ++ [.leave false]
    let appended :=
      [.call true (.append ⟨[.data (line.take 4), .data (line.drop 4)], .field "k", settings⟩),
        .enter true, ask] ++ List.replicate 6 (.write true .next) ++ [.leave true] ++ reading
    let panicked :=
      [.call true (.append ⟨[.data [10], .panicked], .field "k", settings⟩), .enter true] ++
        List.replicate 3 (.write true .next) ++ [.leave true]
    ∃ state, run? (start store Disk.empty) (appended ++ panicked ++ ask :: reading) = some state ∧
      state.store.poisoned = true ∧ state.phase false = .idle (some (.record (.ok (some line)))) ∧
      ∃ middle : Threads Bool, (∀ j, (middle.phase j).writes = false) ∧
        (Query.record "a").reply middle.store middle.disk = .record (.ok (some line)) := by
  intro settings line store ask reading appended panicked
  have whole : (run? (start store Disk.empty) (appended ++ panicked ++ ask :: reading)).map
      (fun state => (state.phase true, state.phase false)) =
        some (.idle (some (.growth (.panicked "source panicked"))),
          .idle (some (.record (.ok (some line))))) := by
    cbv
  obtain ⟨state, replayed, phases⟩ := Option.map_eq_some_iff.mp whole
  obtain ⟨came, there⟩ := Prod.mk.inj phases
  obtain ⟨answers, marks, -, -⟩ := readers_see_states_between_appends replayed
  obtain ⟨-, -, middle, -, -, free, -, alone⟩ :=
    answers _ reading false (.record "a") _ rfl (by simp [reading]) there
  exact ⟨state, replayed, marks true _ came, there, middle, free, alone.symm⟩

end Threads

end RecordStore
