import RecordStore.Proofs.Backend
import RecordStore.Proofs.Lines
import RecordStore.Proofs.Pipeline.Drain
import RecordStore.Proofs.Pipeline.Entries

/-!
A single worker comes to what no worker comes to.

Both hand over the entries of an input in its order, one batch for every group of records
or one for every record. An index that accepts them is left the same, and where a record
has no key both fail with the error of the first one.
-/

namespace RecordStore

section Runs

variable {σ : Type} {keyOf : KeyOf} {write : Writer σ} {settings : RunSettings} {start : Nat}
  {scan : Scan} {sink after : σ} {calls : List Call} {outcome : Outcome Summary}

/-- How a run with a single worker ends when every call is accepted. -/
theorem Indexes.of_single (calm : write.Calm) (whole : scan.ending = .finished)
    (filled : 0 < settings.batchSize) (parallel : settings.mode = .parallel)
    (single : settings.workers = 1) (drains : settings.onError = .drain)
    (run : Indexes keyOf write.recorded settings start scan (sink, []) outcome (after, calls))
    (accepted : ∀ call ∈ calls, call.verdict = .accepted) :
    write.Leads sink calls after ∧
      calls.map Call.batch =
        (Layout.batches keyOf settings.batchSize start scan.records).filter (· ≠ []) ∧
      ∀ error, scan.records.findSome? (Layout.fault? keyOf) = some error →
        outcome = .failed error := by
  obtain ⟨workers, final, admitted, reaches, finished, rfl, rfl, rfl⟩ :=
    run.exists_finished whole filled parallel
  obtain rfl : workers = 1 := (admitted.2 (by omega)).trans single
  have running := reaches.running_of_drain drains
  obtain ⟨batches, kept⟩ := reaches.inOrder_of_finished calm running finished
  rw [Package.map_batch_cut keyOf start _ filled] at batches
  refine ⟨reaches.leads, batches, ?_⟩
  intro error first
  have recorded : final.firstError = some error := by
    rw [kept accepted, ← first, ← Layout.findSome?_cut keyOf scan.records filled]
    rfl
  rw [reaches.outcome_eq Nat.one_pos calm finished whole, recorded]

end Runs

theorem batch_ne_nil_of_map_eq {calls : List Call} {batches : List (List Entry)}
    (same : calls.map Call.batch = batches) (filled : ∀ batch ∈ batches, batch ≠ [])
    (call : Call) (made : call ∈ calls) : call.batch ≠ [] :=
  filled call.batch (same ▸ List.mem_map_of_mem made)

end RecordStore
