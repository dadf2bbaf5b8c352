import RecordStore.Proofs.Acceptance
import RecordStore.Proofs.Pipeline.Delay
import RecordStore.Proofs.Pipeline.Termination

/-!
What several workers make of a key that occurs more than once.

Each batch keeps the order of its records, but the batches are written as they arrive. So an
index ends up with the last record of a key in some package that has one, and with two workers
every such package can be the one (`several_workers_leave_the_last_of_some_package`).
-/

namespace RecordStore

/-- The last entry of a key in several batches is the last one in one of them. -/
theorem exists_of_lastOf?_flatten {key : String} {batches : List (List Entry)} {entry : Entry}
    (last : lastOf? key batches.flatten = some entry) :
    ∃ batch ∈ batches, lastOf? key batch = some entry := by
  induction batches with
  | nil => cases last
  | cons batch batches ih =>
      rw [List.flatten_cons, lastOf?_append, Option.or_eq_some_iff] at last
      rcases last with later | ⟨-, own⟩
      · obtain ⟨other, member, found⟩ := ih later
        exact ⟨other, List.mem_cons_of_mem _ member, found⟩
      · exact ⟨batch, List.mem_cons_self, own⟩

namespace Layout

/-- Whether an entry is the last one of a key in some group of an input. -/
def LastInGroup (keyOf : KeyOf) (size start : Nat) (records : List Bytes) (key : String)
    (entry : Entry) : Prop :=
  ∃ number < groupCount size records.length,
    lastOf? key (groupEntries keyOf size start records number) = some entry

/-- Whether no key is in two groups of an input. -/
def KeysApart (keyOf : KeyOf) (size start : Nat) (records : List Bytes) : Prop :=
  ∀ key number other, number < groupCount size records.length →
    other < groupCount size records.length →
    key ∈ (groupEntries keyOf size start records number).map Entry.key →
    key ∈ (groupEntries keyOf size start records other).map Entry.key → number = other

section Groups

variable {keyOf : KeyOf} {size start : Nat} {records : List Bytes} {key : String} {entry : Entry}

/-- An entry is in one group only. -/
theorem group_eq_of_mem (positive : 0 < size)
    (keyed : records.findSome? (fault? keyOf) = none) (filled : ∀ record ∈ records, record ≠ [])
    {number other : Nat} (inside : number < groupCount size records.length)
    (inside' : other < groupCount size records.length)
    (member : entry ∈ groupEntries keyOf size start records number)
    (member' : entry ∈ groupEntries keyOf size start records other) : number = other := by
  have once := @nodup_entries keyOf start records filled
  rw [← flatten_batches keyOf positive keyed, batches_eq_map_groupEntries keyed,
    List.nodup_flatten, List.pairwise_map] at once
  have apart {first second : Nat} (less : first < second)
      (inside : second < groupCount size records.length)
      (member : entry ∈ groupEntries keyOf size start records first)
      (member' : entry ∈ groupEntries keyOf size start records second) : False := by
    have disjoint := List.pairwise_iff_getElem.mp once.2 first second (by simp; omega)
      (by simpa using inside) less
    simp only [List.getElem_range] at disjoint
    exact disjoint member member'
  rcases Nat.lt_trichotomy number other with less | same | more
  · exact (apart less inside' member member').elim
  · exact same
  · exact (apart more inside member' member).elim

/-- An entry of a group is that of a record. -/
theorem mem_entries_of_mem_group {number : Nat}
    (member : entry ∈ groupEntries keyOf size start records number) :
    entry ∈ entries keyOf start records := by
  obtain ⟨place, inside, made⟩ := List.mem_filterMap.mp member
  exact List.mem_filterMap.mpr ⟨place, List.mem_of_mem_drop (List.mem_of_mem_take inside), made⟩

theorem LastInGroup.exists_record (last : LastInGroup keyOf size start records key entry) :
    ∃ record ∈ records, keyOf record = .ok key := by
  obtain ⟨number, -, last⟩ := last
  obtain ⟨member, rfl⟩ := lastOf?_eq_some last
  exact exists_record_of_mem_entries (mem_entries_of_mem_group member)

/-- Where no key is in two groups, a key has one last entry. -/
theorem LastInGroup.unique (apart : KeysApart keyOf size start records) {other : Entry}
    (last : LastInGroup keyOf size start records key entry)
    (last' : LastInGroup keyOf size start records key other) : entry = other := by
  obtain ⟨number, inside, last⟩ := last
  obtain ⟨number', inside', last'⟩ := last'
  obtain ⟨member, rfl⟩ := lastOf?_eq_some last
  obtain ⟨member', same⟩ := lastOf?_eq_some last'
  obtain rfl := apart _ _ _ inside inside' (List.mem_map_of_mem member)
    (same ▸ List.mem_map_of_mem member')
  rw [last] at last'
  exact Option.some.inj last'

/-- A key of a group has a last entry in it. -/
theorem exists_lastOf?_of_mem {number : Nat}
    (member : key ∈ (groupEntries keyOf size start records number).map Entry.key) :
    ∃ entry, lastOf? key (groupEntries keyOf size start records number) = some entry := by
  obtain ⟨entry, inside, rfl⟩ := List.mem_map.mp member
  refine Option.ne_none_iff_exists'.mp fun none => ?_
  exact lastOf?_eq_none_iff.mp none entry inside rfl

/-- Where the last entries of a key in all groups have one span, no key is in two groups. -/
theorem keysApart_of_unique (positive : 0 < size)
    (keyed : records.findSome? (fault? keyOf) = none) (filled : ∀ record ∈ records, record ≠ [])
    (unique : ∀ key entry other, LastInGroup keyOf size start records key entry →
      LastInGroup keyOf size start records key other → entry.span = other.span) :
    KeysApart keyOf size start records := by
  intro key number other inside inside' member member'
  obtain ⟨entry, last⟩ := exists_lastOf?_of_mem member
  obtain ⟨entry', last'⟩ := exists_lastOf?_of_mem member'
  have spans := unique key entry entry' ⟨number, inside, last⟩ ⟨other, inside', last'⟩
  obtain ⟨here, own⟩ := lastOf?_eq_some last
  obtain ⟨there, own'⟩ := lastOf?_eq_some last'
  have same : entry = entry' := by
    cases entry
    cases entry'
    simp only [Entry.span, Span.mk.injEq] at spans own own'
    obtain ⟨rfl, rfl⟩ := spans
    rw [own, own']
  exact group_eq_of_mem positive keyed filled inside inside' here (same ▸ there)

/-- The package with a number comes to the group with that number. -/
theorem exists_package (positive : 0 < size) (keyed : records.findSome? (fault? keyOf) = none)
    {number : Nat} (inside : number < groupCount size records.length) :
    ∃ before package after, Package.cut (size - 1) start records = before ++ package :: after ∧
      package.batch keyOf = groupEntries keyOf size start records number := by
  have short : number < (Package.cut (size - 1) start records).length := by
    rwa [length_cut records positive]
  obtain ⟨before, after, parts, -, -⟩ :=
    Pipeline.exists_parts (List.getElem?_eq_getElem short)
  refine ⟨before, _, after, parts, ?_⟩
  have batches := Package.map_batch_cut keyOf start records positive
  rw [batches_eq_map_groupEntries keyed] at batches
  have own := congrArg (fun batches => batches[number]?) batches
  simpa [short, inside] using own

end Groups

end Layout

section Runs

variable {route : Route} {keyOf : KeyOf} {settings : RunSettings} {start workers : Nat}
  {scan : Scan} {sink after : Backend × Disk} {summary : Summary}

/-- A run that succeeds comes to writing the batches of the groups in some order. -/
theorem Indexes.exists_batches_of_done (isIndex : sink.1.IsIndex) (sound : sink.2.Sound)
    (away : sink.1.Away route sink.2) (whole : scan.ending = .finished)
    (filled : 0 < settings.batchSize)
    (run : Indexes keyOf Backend.writer settings start scan sink (.done summary) after) :
    ∃ batches : List (List Entry), batches.Perm
        ((List.range (Layout.groupCount settings.batchSize scan.records.length)).map
          (Layout.groupEntries keyOf settings.batchSize start scan.records)) ∧
      ∀ key, after.1.stored key after.2 =
        readAfter key batches.flatten (sink.1.stored key sink.2) := by
  obtain ⟨keyed, written, -, ordered, -, stored⟩ := run.exists_written isIndex sound away whole
  cases mode : settings.mode with
  | sequential =>
      refine ⟨_, .refl _, ?_⟩
      rw [← Layout.batches_eq_map_groupEntries keyed, Layout.flatten_batches keyOf filled keyed,
        ← ordered (.inl mode)]
      exact stored
  | parallel =>
      obtain ⟨calls, run⟩ := run.recorded
      rcases run.of_parallel Backend.calm_writer whole filled mode with
        ⟨-, accepted, handed, -⟩ | ⟨-, error, failed⟩
      · refine ⟨calls.map Call.batch, ?_, ?_⟩
        · rw [← Layout.batches_eq_map_groupEntries keyed, ← Layout.filter_batches keyed]
          exact handed
        · rw [← List.flatMap_def]
          exact (Backend.fits_of_accepted isIndex sound away run.leads_subperm.1 accepted).2
      · cases failed

/-- After a run into an empty index a key has the place of its last record in some group, or no
record has the key. -/
theorem Indexes.stored_lastInGroup (isIndex : sink.1.IsIndex) (sound : sink.2.Sound)
    (away : sink.1.Away route sink.2) (whole : scan.ending = .finished)
    (filled : 0 < settings.batchSize) (empty : ∀ key, sink.1.stored key sink.2 = .ok none)
    (run : Indexes keyOf Backend.writer settings start scan sink (.done summary) after)
    (key : String) :
    (∃ entry, Layout.LastInGroup keyOf settings.batchSize start scan.records key entry ∧
        after.1.stored key after.2 = .ok (some entry.span)) ∨
      (∀ record ∈ scan.records, keyOf record ≠ .ok key) ∧
        after.1.stored key after.2 = .ok none := by
  obtain ⟨keyed, -⟩ := run.exists_written isIndex sound away whole
  obtain ⟨batches, perm, stored⟩ := run.exists_batches_of_done isIndex sound away whole filled
  cases last : lastOf? key batches.flatten with
  | some entry =>
      obtain ⟨batch, member, own⟩ := exists_of_lastOf?_flatten last
      obtain ⟨number, inside, rfl⟩ := List.mem_map.mp (perm.subset member)
      refine .inl ⟨entry, ⟨number, List.mem_range.mp inside, own⟩, ?_⟩
      rw [stored, readAfter_of_some last]
  | none =>
      refine .inr ⟨?_, by rw [stored, readAfter_of_none last, empty]⟩
      intro record member made
      have inside : .ok key ∈ scan.records.map keyOf := made ▸ List.mem_map_of_mem member
      rw [@Layout.map_keyOf_eq keyOf start _ keyed, List.mem_map] at inside
      obtain ⟨entry, inside, same⟩ := inside
      have all := perm.flatten
      rw [← Layout.batches_eq_map_groupEntries keyed, Layout.flatten_batches keyOf filled keyed]
        at all
      exact lastOf?_eq_none_iff.mp last entry (all.symm.subset inside) (Except.ok.inj same)

end Runs

/-! ### Several workers -/

/-- An interleaving of a run with workers into an index, to its end. -/
def RunSettings.Completes (settings : RunSettings) (keyOf : KeyOf) (start : Nat) (scan : Scan)
    (workers : Nat) (sink : Backend × Disk) (actions : List Pipeline.Action)
    (final : Pipeline.State (Backend × Disk)) : Prop :=
  Pipeline.steps? (settings.environment keyOf Backend.writer scan)
    (settings.firstState start scan workers sink) actions = some final ∧ final.finished = true

/-- An input of which every record has a key and every entry fits, and an empty index that can be
written. -/
structure Fitting (route : Route) (keyOf : KeyOf) (settings : RunSettings) (start : Nat)
    (scan : Scan) (sink : Backend × Disk) : Prop where
  isIndex : sink.1.IsIndex
  sound : sink.2.Sound
  away : sink.1.Away route sink.2
  writable : Backend.Writable sink
  empty : ∀ key, sink.1.stored key sink.2 = .ok none
  whole : scan.ending = .finished
  filled : 0 < settings.batchSize
  keyed : scan.records.findSome? (Layout.fault? keyOf) = none
  fits : Backend.Fits (Layout.entries keyOf start scan.records) sink

section Fitting

variable {route : Route} {keyOf : KeyOf} {settings : RunSettings} {start workers : Nat}
  {scan : Scan} {sink after : Backend × Disk} {actions : List Pipeline.Action}
  {final : Pipeline.State (Backend × Disk)}

/-- What the settings are does not matter to a fitting input, but that there are batches. -/
theorem Fitting.mode (fitting : Fitting route keyOf settings start scan sink) (mode : RunMode) :
    Fitting route keyOf { settings with mode } start scan sink :=
  ⟨fitting.isIndex, fitting.sound, fitting.away, fitting.writable, fitting.empty, fitting.whole,
    fitting.filled, fitting.keyed, fitting.fits⟩

/-- Over a fitting input every run succeeds, and leaves of each key the last record in some group.
-/
theorem Fitting.of_indexes (fitting : Fitting route keyOf settings start scan sink)
    {outcome : Outcome Summary}
    (run : Indexes keyOf Backend.writer settings start scan sink outcome after) :
    (∃ summary, outcome = .done summary) ∧
      ∀ key, (∃ entry, Layout.LastInGroup keyOf settings.batchSize start scan.records key entry ∧
          after.1.stored key after.2 = .ok (some entry.span)) ∨
        (∀ record ∈ scan.records, keyOf record ≠ .ok key) ∧
          after.1.stored key after.2 = .ok none := by
  obtain ⟨isIndex, sound, away, writable, empty, whole, filled, keyed, fits⟩ := fitting
  obtain ⟨summary, rfl⟩ := run.done_of_fits isIndex sound away writable whole filled keyed fits
  exact ⟨⟨summary, rfl⟩, run.stored_lastInGroup isIndex sound away whole filled empty⟩

/-- What the calls of a run write of a fitting input is accepted. -/
theorem Fitting.accepted (fitting : Fitting route keyOf settings start scan sink)
    {state : Pipeline.State ((Backend × Disk) × List Call)} (some : 0 < workers)
    (run : Pipeline.Reaches
      (settings.environment keyOf Backend.writer scan).recorded (.initial
        (Package.cut (settings.batchSize - 1) start scan.records) workers (sink, [])) state) :
    ∀ call ∈ state.calls, call.verdict = .accepted := by
  have part : (state.calls.map Call.batch).flatten.Subperm
      (Layout.batches keyOf settings.batchSize start scan.records).flatten :=
    Package.map_batch_cut keyOf start scan.records fitting.filled ▸
      subperm_flatten (run.subperm_calls some)
  rw [← List.flatMap_def] at part
  have whole := Layout.flatten_batches_sublist keyOf start scan.records fitting.filled
  exact (Backend.accepted_of_fits fitting.isIndex fitting.sound fitting.away fitting.writable
    run.leads (fitting.fits.of_subperm (part.trans whole.subperm))).1

theorem Fitting.firstState_eq (fitting : Fitting route keyOf settings start scan sink) :
    settings.firstState start scan workers sink =
      .initial (Package.cut (settings.batchSize - 1) start scan.records) workers sink := by
  rw [RunSettings.firstState, Package.handedOut_of_finished fitting.whole]

/-- Nothing goes wrong in a run over a fitting input. -/
theorem Fitting.smooth (fitting : Fitting route keyOf settings start scan sink)
    (some : 0 < workers) :
    Pipeline.Smooth (settings.environment keyOf Backend.writer scan)
      (.initial (Package.cut (settings.batchSize - 1) start scan.records) workers sink)
      (Package.cut (settings.batchSize - 1) start scan.records) := by
  have batches := Package.map_batch_cut keyOf start scan.records fitting.filled
  refine ⟨(Package.forall_fault?_cut_iff keyOf start scan.records fitting.filled).mpr
    fitting.keyed, ?_, ?_⟩
  · intro package member
    have inside : package.batch keyOf ∈
        Layout.batches keyOf settings.batchSize start scan.records :=
      batches ▸ List.mem_map_of_mem member
    rw [← Layout.filter_batches fitting.keyed] at inside
    exact of_decide_eq_true (List.mem_filter.mp inside).2
  · intro state batch run writing
    obtain ⟨calls, recorded⟩ := run.recorded []
    obtain ⟨next, reached, called⟩ := recorded.exists_called writing
    rcases wrote : Backend.writer batch state.sink with ⟨verdict, after⟩
    have same : next.sink = (after, calls ++ [⟨batch, verdict⟩]) :=
      called.trans (congrArg Prod.snd (Writer.recorded_eq_iff.mpr ⟨wrote, rfl⟩))
    have taken := fitting.accepted some reached ⟨batch, verdict⟩
      (by simp [Pipeline.State.calls, same])
    dsimp only at taken
    subst taken
    exact ⟨after, wrote⟩

/-- An interleaving of a run over a fitting input is one of the ways in which indexing goes. -/
theorem RunSettings.Completes.indexes (filled : 0 < settings.batchSize)
    (parallel : settings.mode = .parallel) (admitted : settings.Admits workers)
    (completes : settings.Completes keyOf start scan workers sink actions final) :
    Indexes keyOf Backend.writer settings start scan sink (Pipeline.outcome scan final)
      final.sink :=
  .parallel (RunSettings.validate_eq_ok_iff.mpr filled) parallel admitted
    (Pipeline.reaches_of_steps? completes.1) completes.2

/-- For every entry that is the last one of its key in some group there is an interleaving that
leaves it. -/
theorem Fitting.exists_completes (fitting : Fitting route keyOf settings start scan sink)
    (several : 2 ≤ workers) {key : String} {entry : Entry}
    (last : Layout.LastInGroup keyOf settings.batchSize start scan.records key entry) :
    ∃ actions final, settings.Completes keyOf start scan workers sink actions final ∧
      final.sink.1.stored key final.sink.2 = .ok (some entry.span) := by
  obtain ⟨number, inside, last⟩ := last
  obtain ⟨before, package, after, parts, group⟩ :=
    @Layout.exists_package keyOf _ start _ fitting.filled fitting.keyed _ inside
  have some : 0 < workers := by omega
  obtain ⟨final, run, finished, leads⟩ :=
    Pipeline.exists_kept_back several parts (fitting.smooth some)
  obtain ⟨actions, replayed⟩ := Pipeline.reaches_iff_steps?.mp run
  refine ⟨actions, final, ⟨fitting.firstState_eq ▸ replayed, finished⟩, ?_⟩
  have written := (Backend.fits_of_accepted fitting.isIndex fitting.sound fitting.away leads
    (Pipeline.accepted_of_mem_acceptedCalls _)).2 key
  rw [Pipeline.flatMap_acceptedCalls, List.flatten_append, List.flatten_singleton,
    readAfter_append, readAfter_of_some (show lastOf? key _ = _ from group ▸ last)] at written
  exact written

/-- All interleavings of a run over a fitting input leave what a run without workers leaves just
where no key is in two groups. -/
theorem Fitting.agree_iff (fitting : Fitting route keyOf settings start scan sink)
    (lines : ∀ record ∈ scan.records, record ≠ []) (parallel : settings.mode = .parallel)
    (admitted : settings.Admits workers) (several : 2 ≤ workers)
    {outcome : Outcome Summary} (run : Indexes keyOf Backend.writer
      { settings with mode := .sequential } start scan sink outcome after) :
    (∀ actions final, settings.Completes keyOf start scan workers sink actions final →
        ∀ key, final.sink.1.stored key final.sink.2 = after.1.stored key after.2) ↔
      Layout.KeysApart keyOf settings.batchSize start scan.records := by
  constructor
  · intro agree
    refine Layout.keysApart_of_unique fitting.filled fitting.keyed lines ?_
    intro key entry other last last'
    obtain ⟨actions, final, completes, stored⟩ := fitting.exists_completes several last
    obtain ⟨actions', final', completes', stored'⟩ := fitting.exists_completes several last'
    rw [agree _ _ completes] at stored
    rw [agree _ _ completes', stored] at stored'
    exact Option.some.inj (Except.ok.inj stored')
  · intro apart actions final completes key
    have parallelRun := completes.indexes fitting.filled parallel admitted
    rcases (fitting.of_indexes parallelRun).2 key with ⟨entry, last, stored⟩ | ⟨none, stored⟩ <;>
      rcases ((fitting.mode .sequential).of_indexes run).2 key with
        ⟨entry', last', stored'⟩ | ⟨none', stored'⟩
    · rw [stored, stored', last.unique apart last']
    · obtain ⟨record, member, made⟩ := last.exists_record
      exact absurd made (none' record member)
    · obtain ⟨record, member, made⟩ := last'.exists_record
      exact absurd made (none record member)
    · rw [stored, stored']

end Fitting

section Contention

variable {keyOf : KeyOf} {index : LogIndex} {disk : Disk} {settings : RunSettings}
  {start buffer workers : Nat} {source : Source}

/-- Over an input of which every record has a key and every offset fits, two workers or more write
into an empty log. Every interleaving can be brought to its end, and comes to success there. Then
each key of the input has the place of its last record in some group of as many records as make a
package, and no other key has anything. For every key and every group that has it there is an
interleaving which leaves the last record that this group has of it. So all interleavings leave
what a run without workers leaves just where no key is in two groups. -/
theorem several_workers_leave_the_last_of_some_package (sound : disk.Sound)
    (writable : Backend.Writable (.log index, disk))
    (empty : ∀ key, (Backend.log index).stored key disk = .ok none)
    (whole : source.ending = .finished) (filled : 0 < settings.batchSize)
    (parallel : settings.mode = .parallel) (admitted : settings.Admits workers)
    (several : 2 ≤ workers)
    (keyed : ∀ record ∈ Bytes.lines source.bytes, ∃ key, keyOf record = .ok key)
    (room : ∀ entry ∈ Layout.entries keyOf start (Bytes.lines source.bytes),
      entry.offset ≤ Slot.maxValue ∧ entry.length ≤ Slot.maxValue) :
    (∀ actions state, Pipeline.steps?
        (settings.environment keyOf Backend.writer (source.records buffer))
        (settings.firstState start (source.records buffer) workers (.log index, disk)) actions =
          some state →
      ∃ more final, settings.Completes keyOf start (source.records buffer) workers
        (.log index, disk) (actions ++ more) final) ∧
    (∀ actions final, settings.Completes keyOf start (source.records buffer) workers
        (.log index, disk) actions final →
      (∃ summary, Pipeline.outcome (source.records buffer) final = .done summary) ∧
      ∀ key, (∃ entry, Layout.LastInGroup keyOf settings.batchSize start
            (Bytes.lines source.bytes) key entry ∧
          final.sink.1.stored key final.sink.2 = .ok (some entry.span)) ∨
        (∀ record ∈ Bytes.lines source.bytes, keyOf record ≠ .ok key) ∧
          final.sink.1.stored key final.sink.2 = .ok none) ∧
    (∀ key entry, Layout.LastInGroup keyOf settings.batchSize start (Bytes.lines source.bytes)
        key entry →
      ∃ actions final, settings.Completes keyOf start (source.records buffer) workers
        (.log index, disk) actions final ∧
        final.sink.1.stored key final.sink.2 = .ok (some entry.span)) ∧
    ∃ summary after, Pipeline.runSequential keyOf Backend.writer start (source.records buffer)
        (.log index, disk) = (.done summary, after) ∧
      ((∀ actions final, settings.Completes keyOf start (source.records buffer) workers
          (.log index, disk) actions final →
          ∀ key, final.sink.1.stored key final.sink.2 = after.1.stored key after.2) ↔
        Layout.KeysApart keyOf settings.batchSize start (Bytes.lines source.bytes)) := by
  rw [Source.records_eq]
  obtain ⟨route, away⟩ := @Backend.exists_away (.log index) disk trivial
  have fitting : Fitting route keyOf settings start ⟨Bytes.lines source.bytes, source.ending⟩
      (.log index, disk) :=
    ⟨trivial, sound, away, writable, empty, whole, filled,
      Layout.findSome?_fault_eq_none_iff.mpr keyed, room, fun rejects => by cases rejects⟩
  refine ⟨?_, ?_, fun key entry last => fitting.exists_completes several last, ?_⟩
  · intro actions state replayed
    obtain ⟨more, final, rest, finished⟩ := Pipeline.exists_finish
      (settings.environment keyOf Backend.writer ⟨Bytes.lines source.bytes, source.ending⟩) state
    refine ⟨more, final, ?_, finished⟩
    rw [Pipeline.steps?_append, replayed]
    exact rest
  · intro actions final completes
    exact fitting.of_indexes (completes.indexes filled parallel admitted)
  · have run : Indexes keyOf Backend.writer { settings with mode := .sequential } start
        ⟨Bytes.lines source.bytes, source.ending⟩ (.log index, disk) _ _ :=
      .sequential (RunSettings.validate_eq_ok_iff.mpr filled) rfl
    obtain ⟨summary, done⟩ := ((fitting.mode .sequential).of_indexes run).1
    exact ⟨summary, _, Prod.ext done rfl, fitting.agree_iff
      (fun record member => (Bytes.isLine_of_mem_lines member).ne_nil) parallel admitted several
      run⟩

/-- Three records in packages of their own, the first and the last of which have the same key: two
workers can leave either of them. -/
theorem several_workers_leave_either_of_two :
    let keyOf : KeyOf := fun record => .ok (if record.length = 2 then "a" else "b")
    let source : Source := [.data [97, 10, 98], .data [98, 10, 97, 10]]
    let settings : RunSettings := ⟨1, 2, .parallel, .abort⟩
    let sink : Backend × Disk := (.log ⟨"i", some 0⟩, Disk.empty)
    ∃ actions final actions' final',
      settings.Completes keyOf 0 (source.records 4) 2 sink actions final ∧
      final.sink.1.stored "a" final.sink.2 = .ok (some ⟨0, 2⟩) ∧
      settings.Completes keyOf 0 (source.records 4) 2 sink actions' final' ∧
      final'.sink.1.stored "a" final'.sink.2 = .ok (some ⟨5, 2⟩) := by
  intro keyOf source settings sink
  have lines : Bytes.lines source.bytes = [[97, 10], [98, 98, 10], [97, 10]] := by
    simp [source, Source.bytes, Bytes.lines, Bytes.lines.go, Bytes.cutLine, Bytes.newline]
  have writable : Backend.Writable sink := ⟨0, _, _, rfl⟩
  have empty (key : String) : sink.1.stored key sink.2 = .ok none := rfl
  have admitted : settings.Admits 2 := ⟨by decide, fun _ => rfl⟩
  have room : ∀ entry ∈ Layout.entries keyOf 0 (Bytes.lines source.bytes),
      entry.offset ≤ Slot.maxValue ∧ entry.length ≤ Slot.maxValue := by
    intro entry inside
    have stop := Layout.stop_le_of_mem_entries inside
    simp only [lines, List.flatten_cons, List.flatten_nil, List.length_append, List.length_cons,
      List.length_nil] at stop
    simp only [Slot.maxValue_eq]
    omega
  obtain ⟨-, -, possible, -⟩ := @several_workers_leave_the_last_of_some_package keyOf _ _ settings
    0 4 2 source Disk.sound_empty writable empty rfl (by decide) rfl admitted (by decide)
    (fun record _ => ⟨_, rfl⟩) room
  rw [lines] at possible
  obtain ⟨actions, final, completes, stored⟩ := possible "a" ⟨"a", 0, 2⟩ ⟨0, by decide, rfl⟩
  obtain ⟨actions', final', completes', stored'⟩ := possible "a" ⟨"a", 5, 2⟩ ⟨2, by decide, rfl⟩
  exact ⟨actions, final, actions', final', completes, stored, completes', stored'⟩

end Contention

end RecordStore
