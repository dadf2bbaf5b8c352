import RecordStore.Append
import RecordStore.Backend
import RecordStore.Blob
import RecordStore.Extractor

/-!
A store: a blob file and the backend that says where its records lie.

The backend is behind a lock, and an append has it for itself. An append that panicked poisons
the lock, which then gives the backend away with an error around it. Whoever uses the store takes
it out of the error (`recovered`), so everything goes on working; only looking at the store, then
or during an append, shows it as locked.
-/

namespace RecordStore

/-- A store. -/
structure Store where
  blob : String
  backend : Backend
  /-- An append has panicked. -/
  poisoned : Bool
  deriving DecidableEq, Repr

namespace Store

/-- The store of a blob file and a backend. -/
def new (blob : String) (backend : Backend) : Store :=
  ⟨blob, backend, false⟩

/-- What the lock gives away: the backend, or an error around it when the lock is poisoned. -/
def guard (store : Store) : Except Backend Backend :=
  if store.poisoned then .error store.backend else .ok store.backend

/-- What is inside, around which there may be an error. -/
def recovered {α : Type} : Except α α → α
  | .ok inside => inside
  | .error inside => inside

@[simp] theorem recovered_guard (store : Store) : recovered store.guard = store.backend := by
  unfold guard
  split <;> rfl

/-- The place of the record under a key. -/
def lookup (key : String) (store : Store) (disk : Disk) :
    Except Error (Option Span) × Store × Disk :=
  let (result, backend, disk) := (recovered store.guard).lookup key disk
  (result, { store with backend }, disk)

/-- Looking up a place asks the backend behind the lock, poisoned or not. -/
theorem lookup_eq (key : String) (store : Store) (disk : Disk) :
    store.lookup key disk =
      let (result, backend, disk) := store.backend.lookup key disk
      (result, { store with backend }, disk) := by
  rw [lookup, recovered_guard]

/-- The record under a key. -/
def get (key : String) (store : Store) (disk : Disk) :
    Except Error (Option Bytes) × Store × Disk :=
  match store.lookup key disk with
  | (.error error, store, disk) => (.error error, store, disk)
  | (.ok none, store, disk) => (.ok none, store, disk)
  | (.ok (some span), store, disk) =>
    match Blob.atPath store.blob disk with
    | .error error => (.error error, store, disk)
    | .ok blob => ((blob.readSpan span disk).map some, store, disk)

/-- Appends a source and indexes what is new; gives the number of looks at the store meanwhile
as well. -/
def append (source : Source) (extractor : Extractor) (settings : RunSettings) (store : Store)
    (disk : Disk) : Outcome Growth × Nat × Store × Disk :=
  let appended :=
    RecordStore.append store.blob source extractor.key Backend.writer settings
      (recovered store.guard, disk)
  let poisoned :=
    match appended.outcome with
    | .panicked _ => true
    | _ => store.poisoned
  (appended.outcome, appended.glances,
    { store with backend := appended.sink.1, poisoned }, appended.sink.2)

/-- Closes the backend and gives it back. -/
def close (store : Store) (disk : Disk) : Except Error Unit × Backend × Disk :=
  (recovered store.guard).close disk

/-- What a store looks like, an append being under way or not. -/
def shown (store : Store) (appending : Bool) : String :=
  let backend := if appending || store.poisoned then "<locked>" else store.backend.name
  "BlobStore \x7b blob_path: " ++ Text.quoted store.blob ++ ", backend: " ++
    Text.quoted backend ++ " \x7d"

end Store

end RecordStore
