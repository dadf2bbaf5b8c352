import RecordStore.Proofs.Pipeline.Breaks
import RecordStore.Proofs.Writers

/-!
How a source is cut into reads.

A run sees of its source the records and how it ends (`Source.records_eq`), and an append adds to
the file read after read, but in the end all of it (`Progress.of_goes`). So sources that hand over
the same bytes and end in the same way come to the same. Where the order of the calls is fixed
this is one thing: the batches decide the calls (`Writer.Leads.unique`), and the calls decide
the outcome (`Indexes.eq_of_steady`).
-/

namespace RecordStore

/-! ### Batches that decide -/

namespace Writer

variable {σ : Type} {write : Writer σ} {origin left right : σ} {calls others : List Call}

/-- The batches that a writer gets decide what it makes of them and where it is afterwards. -/
theorem Leads.unique (leads : write.Leads origin calls left)
    (leads' : write.Leads origin others right)
    (same : calls.map Call.batch = others.map Call.batch) : calls = others ∧ left = right := by
  induction leads generalizing others right with
  | none =>
      cases leads' with
      | none => exact ⟨rfl, rfl⟩
      | call => simp at same
  | @call calls before after batch verdict _ wrote ih =>
      cases leads' with
      | none => simp at same
      | @call others before' _ batch' verdict' leads' wrote' =>
          rw [List.map_append, List.map_append] at same
          obtain ⟨earlier, last⟩ := List.append_inj' same rfl
          obtain ⟨rfl, rfl⟩ := ih leads' earlier
          obtain rfl : batch = batch' := List.singleton_injective last
          rw [wrote] at wrote'
          cases wrote'
          exact ⟨rfl, rfl⟩

/-- Whether a writer accepts whatever calls hand over some of these entries, each at most once. -/
def Welcomes (write : Writer σ) (entries : List Entry) (origin : σ) : Prop :=
  ∀ calls after, write.Leads origin calls after →
    (calls.flatMap Call.batch).Subperm entries → ∀ call ∈ calls, call.verdict = .accepted

end Writer

/-! ### Settings that fix the order of the calls -/

/-- Whether nothing but the input decides in which order calls are made: there are no workers, or a
single one that is never cancelled. -/
def RunSettings.Steady (settings : RunSettings) : Prop :=
  settings.mode = .sequential ∨ settings.workers = 1 ∧ settings.onError = .drain

namespace Pipeline

variable {σ : Type} {env : Environment σ} {packages : List Package} {workers : Nat} {sink : σ}
  {final final' : State (σ × List Call)}

theorem ProducerEnd.ofEnding_orderly (ending : Ending) :
    ofEnding ending ≠ .cancelled ∧ ofEnding ending ≠ .stranded := by
  cases ending <;> simp [ofEnding]

/-- A run that drains hands every package to a worker. -/
theorem Reaches.sent_of_drain
    (run : Reaches env.recorded (.initial packages workers (sink, [])) final)
    (staffed : 0 < workers) (calm : env.write.Calm) (finished : final.finished = true)
    (drains : env.policy = .drain) : final.sent = packages.length := by
  have ended := run.ended_of_drain staffed calm finished drains
  have sent := run.sent_add_pending fun how same => by
    rw [ended] at same
    cases same
    exact ProducerEnd.ofEnding_orderly env.ending
  rw [ended] at sent
  exact sent

/-- The calls and the recorded error decide what a run that drains comes to. -/
theorem Reaches.outcome_unique
    (run : Reaches env.recorded (.initial packages workers (sink, [])) final)
    (run' : Reaches env.recorded (.initial packages workers (sink, [])) final')
    (staffed : 0 < workers) (calm : env.write.Calm) (finished : final.finished = true)
    (finished' : final'.finished = true) (drains : env.policy = .drain)
    (recorded : final.firstError = final'.firstError) (called : final.calls = final'.calls)
    (scan : Scan) : outcome scan final = outcome scan final' := by
  have ended := run.ended_of_drain staffed calm finished drains
  have ended' := run'.ended_of_drain staffed calm finished' drains
  have awake := run.not_panicked calm
  have awake' := run'.not_panicked calm
  cases ending : env.ending with
  | finished =>
      rw [ending] at ended ended'
      rw [outcome_of_ended ended (.inl rfl) awake, outcome_of_ended ended' (.inl rfl) awake',
        recorded, run.sent_of_drain staffed calm finished drains,
        run'.sent_of_drain staffed calm finished' drains, run.written_eq, run'.written_eq, called]
  | failed message =>
      rw [ending] at ended ended'
      rw [outcome_of_readFailed ended awake, outcome_of_readFailed ended' awake']
  | panicked =>
      rw [ending] at ended ended'
      simp only [outcome, ended, ended', ProducerEnd.ofEnding]

end Pipeline

section Runs

variable {σ : Type} {keyOf : KeyOf} {write : Writer σ} {settings : RunSettings} {start : Nat}
  {scan : Scan} {sink after after' : σ} {calls calls' : List Call}
  {outcome outcome' : Outcome Summary}

/-- With steady settings there is one way for a run to go, if its calls are accepted. -/
theorem Indexes.eq_of_steady (calm : write.Calm) (steady : settings.Steady)
    (run : Indexes keyOf write.recorded settings start scan (sink, []) outcome (after, calls))
    (run' : Indexes keyOf write.recorded settings start scan (sink, []) outcome' (after', calls'))
    (accepted : ∀ call ∈ calls, call.verdict = .accepted) :
    calls = calls' ∧ outcome = outcome' ∧ after = after' := by
  rcases Nat.eq_zero_or_pos settings.batchSize with empty | filled
  · have invalid := RunSettings.validate_of_empty empty
    obtain ⟨rfl, same⟩ := run.of_invalid invalid
    obtain ⟨rfl, same'⟩ := run'.of_invalid invalid
    cases same
    cases same'
    exact ⟨rfl, rfl, rfl⟩
  · cases mode : settings.mode with
    | sequential =>
        have same := (run.eq_runSequential filled mode).trans
          (run'.eq_runSequential filled mode).symm
        cases same
        exact ⟨rfl, rfl, rfl⟩
    | parallel =>
        obtain ⟨single, drains⟩ := steady.resolve_left (by simp [mode])
        obtain ⟨workers, final, admitted, reaches, finished, rfl, last⟩ :=
          run.exists_final filled mode
        obtain ⟨workers', final', admitted', reaches', finished', rfl, last'⟩ :=
          run'.exists_final filled mode
        obtain rfl : workers = 1 := (admitted.2 (by omega)).trans single
        obtain rfl : workers' = 1 := (admitted'.2 (by omega)).trans single
        obtain ⟨state, called⟩ := Prod.mk.inj last
        obtain ⟨state', called'⟩ := Prod.mk.inj last'
        let env : Pipeline.Environment σ := ⟨keyOf, write, settings.onError, scan.ending⟩
        have reaches : Pipeline.Reaches env.recorded (.initial
            (Package.handedOut settings.batchSize start scan) 1 (sink, [])) final := reaches
        have reaches' : Pipeline.Reaches env.recorded (.initial
            (Package.handedOut settings.batchSize start scan) 1 (sink, [])) final' := reaches'
        obtain ⟨batches, error⟩ :=
          reaches.inOrder_of_finished calm (reaches.running_of_drain drains) finished
        obtain ⟨batches', error'⟩ :=
          reaches'.inOrder_of_finished calm (reaches'.running_of_drain drains) finished'
        obtain ⟨same, led⟩ := reaches.leads.unique reaches'.leads (batches.trans batches'.symm)
        have same : final.calls = final'.calls := same
        have fine : ∀ call ∈ final.calls, call.verdict = .accepted := by
          rw [Pipeline.State.calls, ← called]
          exact accepted
        refine ⟨(called.trans same).trans called'.symm, ?_, (state.trans led).trans state'.symm⟩
        exact reaches.outcome_unique reaches' Nat.one_pos calm finished finished' drains
          ((error fine).trans (error' (same ▸ fine)).symm) same scan

end Runs

/-! ### Appends -/

section Appends

variable {σ : Type} {path : String} {source source' : Source} {keyOf : KeyOf}
  {write : Writer (σ × Disk)} {settings : RunSettings} {sink after after' : σ × Disk}
  {outcome outcome' : Outcome Growth}

/-- Sources that hand over the same bytes and end in the same way are appended alike. -/
theorem Appends.of_same_bytes (same : source.bytes = source'.bytes)
    (ends : source.ending = source'.ending)
    (appends : Appends path source keyOf write settings sink outcome after) :
    Appends path source' keyOf write settings sink outcome after := by
  cases appends with
  | refused invalid => exact .refused invalid
  | unopened valid missing => exact .unopened valid missing
  | broken valid opened ending =>
      rw [same]
      exact .broken valid opened (ends ▸ ending)
  | panicked valid opened ending =>
      rw [same]
      exact .panicked valid opened (ends ▸ ending)
  | indexed valid opened ending run =>
      rw [same] at run ⊢
      exact .indexed valid opened (ends ▸ ending) run

/-- What is read back of a file is what was added to it, or nothing if the file holds no bytes. -/
theorem Disk.slice_appendTo (disk : Disk) (id : Nat) (bytes : Bytes) :
    Bytes.slice ((disk.appendTo id bytes).content id) (disk.content id).length bytes.length = bytes ∨
      Bytes.slice ((disk.appendTo id bytes).content id) (disk.content id).length bytes.length =
        [] := by
  cases held : disk.body id with
  | bytes old => simp [content, body_appendTo_self, held, Body.append, Bytes.slice]
  | table rows | damaged =>
      simp [content, body_appendTo_self, held, Body.append, Bytes.slice]

/-- The entries of what is read back are among those of the source. -/
theorem Layout.entries_of_appendTo (disk : Disk) (id start : Nat) (bytes : Bytes) :
    (Layout.entries keyOf start (Bytes.lines (Bytes.slice ((disk.appendTo id bytes).content id)
      (disk.content id).length bytes.length))).Subperm
      (Layout.entries keyOf start (Bytes.lines bytes)) := by
  rcases disk.slice_appendTo id bytes with all | none
  · rw [all]
  · rw [none]
    exact List.nil_subperm

/-- With steady settings there is one way for an append to go, if the index accepts what it gets. -/
theorem Appends.eq_of_steady (calm : write.Calm) (steady : settings.Steady)
    (welcome : ∀ id disk, sink.2.openFile path = .ok (id, disk) →
      write.Welcomes (Layout.entries keyOf (disk.content id).length (Bytes.lines source.bytes))
        (sink.1, disk.appendTo id source.bytes))
    (appends : Appends path source keyOf write settings sink outcome after)
    (appends' : Appends path source keyOf write settings sink outcome' after') :
    outcome = outcome' ∧ after = after' := by
  cases appends with
  | refused invalid =>
      cases appends' with
      | refused invalid' =>
          rw [invalid] at invalid'
          cases invalid'
          exact ⟨rfl, rfl⟩
      | _ => simp_all
  | unopened valid missing =>
      cases appends' with
      | unopened _ missing' =>
          rw [missing] at missing'
          cases missing'
          exact ⟨rfl, rfl⟩
      | _ => simp_all
  | broken valid opened ending =>
      cases appends' with
      | broken _ opened' ending' =>
          rw [opened] at opened'
          rw [ending] at ending'
          cases opened'
          cases ending'
          exact ⟨rfl, rfl⟩
      | _ => simp_all
  | panicked valid opened ending =>
      cases appends' with
      | panicked _ opened' =>
          rw [opened] at opened'
          cases opened'
          exact ⟨rfl, rfl⟩
      | _ => simp_all
  | @indexed id disk _ _ valid opened ending run =>
      cases appends' with
      | indexed _ opened' _ run' =>
          rw [opened] at opened'
          cases opened'
          obtain ⟨calls, run⟩ := run.recorded
          obtain ⟨calls', run'⟩ := run'.recorded
          obtain ⟨leads, among⟩ := run.leads_subperm
          rw [Source.records_eq, Source.bytes_ofBytes] at among
          have accepted := welcome id disk opened calls _ leads
            (among.trans (Layout.entries_of_appendTo disk id _ source.bytes))
          obtain ⟨-, rfl, rfl⟩ := run.eq_of_steady calm steady run' accepted
          exact ⟨rfl, rfl⟩
      | _ => simp_all

end Appends

/-! ### Appends step by step -/

/-- What the steps of a call lead to, one after another and with nobody between them. -/
inductive Phase.Goes (blob : String) (first : Phase × (Backend × Disk)) :
    Phase × (Backend × Disk) → Prop where
  | none : Goes blob first first
  | step {before after : Phase × (Backend × Disk)} {choice : Choice} :
      Goes blob first before → before.1.write? blob choice before.2 = some after →
        Goes blob first after

/-- The steps of an append, each read of its source one of them, lead on to one of the things that
it can come to. -/
theorem Progress.of_goes {blob : String} {base : Backend × Disk} {job : Job}
    {reached : Phase × (Backend × Disk)}
    (goes : Phase.Goes blob (.starting job, base) reached) :
    Progress blob base job reached.1 reached.2 := by
  induction goes with
  | none => exact .starting
  | step _ step ih => exact ih.step step

/-! ### Cuts that nobody sees -/

section Cuts

variable {σ : Type} {keyOf : KeyOf} {write : Writer σ} {settings : RunSettings} {start : Nat}
  {buffer buffer' : Nat} {source source' : Source} {sink : σ} {path : String}
  {extractor : Extractor} {index : Backend × Disk}

/-- Let two sources hand over the same bytes and end in the same way, however they are cut into
reads and however often a read has to be tried again. A run over one of them, through whatever
buffer that has room, can come to exactly what a run over the other can come to, and so for appends;
this also holds of an append that adds to the file read after read. Without workers, or with a
single one that drains, a run whose calls are accepted makes the same calls in the same order over
both, comes to the same and leaves the same behind, and so does an append to an index that accepts
what it gets: the file, the index and the outcome are the same. -/
theorem cuts_of_a_source_are_invisible (calm : write.Calm) (room : 0 < buffer)
    (room' : 0 < buffer') (same : source.bytes = source'.bytes)
    (ends : source.ending = source'.ending) :
    (∀ outcome after,
      Indexes keyOf write settings start (source.readThrough buffer) sink outcome after ↔
        Indexes keyOf write settings start (source'.readThrough buffer') sink outcome after) ∧
    (settings.Steady → ∀ {outcome outcome' after after' calls calls'},
      Indexes keyOf write.recorded settings start (source.readThrough buffer) (sink, []) outcome
        (after, calls) →
      Indexes keyOf write.recorded settings start (source'.readThrough buffer') (sink, []) outcome'
        (after', calls') →
      (∀ call ∈ calls, call.verdict = .accepted) →
      calls = calls' ∧ outcome = outcome' ∧ after = after') ∧
    (∀ outcome after,
      Appends path source extractor.key Backend.writer settings index outcome after ↔
        Appends path source' extractor.key Backend.writer settings index outcome after) ∧
    (∀ outcome after,
      Phase.Goes path (.starting ⟨source, extractor, settings⟩, index) (.appended outcome, after) →
      Appends path source' extractor.key Backend.writer settings index outcome after) ∧
    (settings.Steady →
      (∀ id disk, index.2.openFile path = .ok (id, disk) →
        Backend.writer.Welcomes
          (Layout.entries extractor.key (disk.content id).length (Bytes.lines source.bytes))
          (index.1, disk.appendTo id source.bytes)) →
      ∀ {outcome outcome' after after'},
        Appends path source extractor.key Backend.writer settings index outcome after →
        Appends path source' extractor.key Backend.writer settings index outcome' after' →
        outcome = outcome' ∧ after = after') := by
  have scanned : source.readThrough buffer = source'.readThrough buffer' := by
    rw [Source.readThrough_eq room, Source.readThrough_eq room', same, ends]
  refine ⟨?_, ?_, ?_, ?_, ?_⟩
  · intro outcome after
    rw [scanned]
  · intro steady outcome outcome' after after' calls calls' run run' accepted
    rw [← scanned] at run'
    exact run.eq_of_steady calm steady run' accepted
  · intro outcome after
    exact ⟨Appends.of_same_bytes same ends, Appends.of_same_bytes same.symm ends.symm⟩
  · intro outcome after goes
    cases Progress.of_goes goes with
    | appended appends => exact appends.of_same_bytes same ends
  · intro steady welcome outcome outcome' after after' appends appends'
    exact appends.eq_of_steady Backend.calm_writer steady welcome
      (appends'.of_same_bytes same.symm ends.symm)

/-- A record and the start of another one, cut inside the first one and behind its newline, with
reads that have to be tried again: a log that is held ends up the same, and so does the file. -/
theorem cuts_of_a_source_are_invisible_inside_a_record :
    let source : Source := [.data [123, 34, 105, 100], .interrupted,
      .data [34, 58, 34, 97, 34, 125, 10, 123, 34, 105]]
    let source' : Source := [.interrupted, .data [123, 34, 105, 100, 34, 58, 34, 97, 34, 125, 10],
      .interrupted, .interrupted, .data [123], .data [34, 105]]
    let extractor := Extractor.field "id"
    let settings : RunSettings := ⟨2, 1, .parallel, .drain⟩
    let index : Backend × Disk :=
      (.log ⟨"i", some 0⟩, (Disk.empty.createAt ["f"] (.bytes [10])).2)
    (∃ outcome after calls,
      Indexes extractor.key Backend.writer.recorded settings 1 (source.readThrough 3) (index, [])
        outcome (after, calls) ∧
      Indexes extractor.key Backend.writer.recorded settings 1 (source'.readThrough 100) (index, [])
        outcome (after, calls)) ∧
    ∃ outcome after,
      Appends "f" source extractor.key Backend.writer settings index outcome after ∧
      Appends "f" source' extractor.key Backend.writer settings index outcome after := by
  intro source source' extractor settings index
  have lines : Bytes.lines source.bytes = [[123, 34, 105, 100, 34, 58, 34, 97, 34, 125, 10]] := by
    simp [source, Source.bytes, Bytes.lines, Bytes.lines.go, Bytes.cutLine, Bytes.newline]
  have room {entry : Entry}
      (inside : entry ∈ Layout.entries extractor.key 1 (Bytes.lines source.bytes)) :
      entry.offset ≤ Slot.maxValue ∧ entry.length ≤ Slot.maxValue := by
    rw [lines] at inside
    have stop := Layout.stop_le_of_mem_entries inside
    simp only [List.flatten_cons, List.flatten_nil, List.length_append, List.length_cons,
      List.length_nil] at stop
    simp only [Slot.maxValue_eq]
    omega
  have welcome (disk : Disk) : Backend.writer.Welcomes
      (Layout.entries extractor.key 1 (Bytes.lines source.bytes)) (index.1, disk) := by
    intro calls after leads entries
    refine (Backend.accepted_of_held rfl leads ?_).2
    intro call made entry inside
    exact room (entries.subset (List.mem_flatMap.mpr ⟨call, made, inside⟩))
  obtain ⟨outcome, after, calls, run⟩ : ∃ outcome after calls, Indexes extractor.key
      Backend.writer.recorded settings 1 (source.readThrough 3) (index, []) outcome (after, calls) :=
    ⟨_, _, _, indexes_index _ _ _ _ _ _⟩
  obtain ⟨outcome', after', calls', run'⟩ : ∃ outcome after calls, Indexes extractor.key
      Backend.writer.recorded settings 1 (source'.readThrough 100) (index, []) outcome
      (after, calls) := ⟨_, _, _, indexes_index _ _ _ _ _ _⟩
  have accepted : ∀ call ∈ calls, call.verdict = .accepted := by
    obtain ⟨leads, entries⟩ := run.leads_subperm
    rw [Source.readThrough_eq (by decide)] at entries
    exact welcome index.2 calls after leads entries
  obtain ⟨-, one, -, -, alike⟩ := @cuts_of_a_source_are_invisible (Backend × Disk) extractor.key
    Backend.writer settings 1 3 100 source source' index "f" extractor index Backend.calm_writer
    (by decide) (by decide) rfl rfl
  obtain ⟨rfl, rfl, rfl⟩ := one (.inr ⟨rfl, rfl⟩) run run' accepted
  refine ⟨⟨outcome, after, calls, run, run'⟩, ?_⟩
  have appends := appends_append "f" source extractor.key Backend.writer settings index
  have appends' := appends_append "f" source' extractor.key Backend.writer settings index
  have opened : index.2.openFile "f" = .ok (0, index.2) := by cbv
  obtain ⟨comes, left⟩ := alike (.inr ⟨rfl, rfl⟩)
    (fun id disk there => by
      rw [opened] at there
      cases there
      exact welcome _) appends appends'
  rw [← comes, ← left] at appends'
  exact ⟨_, _, appends, appends'⟩

/-- Through a buffer without room nothing is seen of a record that a buffer of one byte shows, so
the run makes no call and comes to no record. -/
theorem cut_of_a_source_is_visible_through_no_buffer :
    let line : Bytes := [123, 34, 105, 100, 34, 58, 34, 97, 34, 125, 10]
    let source : Source := [.data line]
    let settings : RunSettings := ⟨1, 1, .sequential, .drain⟩
    let accept : Writer Unit := fun _ sink => (.accepted, sink)
    (∀ outcome calls, Indexes (Extractor.field "id").key accept.recorded settings 0
        (source.readThrough 1) ((), []) outcome ((), calls) →
      outcome = .done ⟨1, 11, 0, 1⟩ ∧ calls = [⟨[⟨"a", 0, 11⟩], .accepted⟩]) ∧
    (∀ outcome calls, Indexes (Extractor.field "id").key accept.recorded settings 0
        (source.readThrough 0) ((), []) outcome ((), calls) →
      outcome = .done ⟨0, 0, 0, 0⟩ ∧ calls = []) := by
  intro line source settings accept
  have lines : Bytes.lines source.bytes = [line] := by
    simp [source, line, Source.bytes, Bytes.lines, Bytes.lines.go, Bytes.cutLine, Bytes.newline]
  refine ⟨fun outcome calls run => ?_, fun outcome calls run => ?_⟩
  · have same := run.eq_runSequential (by decide) rfl
    have shown : Pipeline.runSequential (Extractor.field "id").key accept.recorded 0
        ⟨[line], .finished⟩ ((), []) =
          (.done ⟨1, 11, 0, 1⟩, ((), [⟨[⟨"a", 0, 11⟩], .accepted⟩])) := by
      cbv
    rw [Source.readThrough_eq (by decide), lines] at same
    cases same.trans shown
    exact ⟨rfl, rfl⟩
  · cases run.eq_runSequential (by decide) rfl
    exact ⟨rfl, rfl⟩

end Cuts

end RecordStore
