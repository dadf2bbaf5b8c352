import RecordStore.Proofs.Rows
import Mathlib.Data.List.Dedup
import Mathlib.Logic.Function.Basic

/-!
Several handles on one index.

Handles that were made for one path share what is stored there, and each of them may be open
or closed. A `Ledger` knows no handles, only whether the index is there and which entries were
written. That handles answer as a ledger does says that nothing else about them matters: where
a request leaves the ledger as it is, no other answer depends on it
(`answers_eraseIdx_of_ledger`).
-/

namespace RecordStore

/-- What is asked of one of several handles. -/
inductive Request (ι : Type)
  | write (handle : ι) (entries : List Entry)
  | lookup (handle : ι) (key : String)
  | size (handle : ι)
  | close (handle : ι)
  /-- The handle is dropped and made anew; an eager one opens its index at once. -/
  | reopen (handle : ι) (eager : Bool)

/-- What comes of a request. -/
inductive Answer
  | done (result : Except Error Unit)
  | span (result : Except Error (Option Span))
  | count (result : Except Error Nat)

namespace Request

variable {ι : Type}

/-- The handle that is asked. -/
def handle : Request ι → ι
  | .write handle _ => handle
  | .lookup handle _ => handle
  | .size handle => handle
  | .close handle => handle
  | .reopen handle _ => handle

/-- The entries that are to be written. -/
def entries : Request ι → List Entry
  | .write _ entries => entries
  | _ => []

/-- Whether an index that is not there is made. -/
def creates : Request ι → Bool
  | .write _ _ => true
  | .reopen _ eager => eager
  | _ => false

/-- Whether the index of the handle is opened, if it is not open yet. -/
def opens : Request ι → Bool
  | .close _ => false
  | .reopen _ eager => eager
  | _ => true

/-- Whether a request can neither write nor make anything behind others. -/
def Idle (request : Request ι) (earlier : List (Request ι)) : Prop :=
  (∀ handle entries, request ≠ .write handle entries) ∧
    (request.creates = true → ∃ other ∈ earlier, other.creates = true)

theorem opens_of_creates {request : Request ι} (creates : request.creates = true) :
    request.opens = true := by
  cases request with
  | reopen => exact creates
  | write | lookup | size => rfl
  | close => cases creates

end Request

/-! ### Different keys -/

namespace Assoc

variable {α : Type} {map : Assoc String α}

theorem find?_eq_none_iff {key : String} : find? key map = none ↔ key ∉ keys map := by
  refine ⟨?_, find?_eq_none_of_not_mem⟩
  induction map with
  | nil => simp [keys]
  | cons pair rest ih =>
      intro absent
      rw [find?] at absent
      split at absent
      · cases absent
      · rename_i other
        rw [keys, List.map_cons, List.mem_cons, not_or]
        exact ⟨Ne.symm other, ih absent⟩

theorem nodup_keys_put (distinct : (keys map).Nodup) (key : String) (value : α) :
    (keys (put key value map)).Nodup := by
  rw [keys_put]
  split
  · exact distinct
  · rename_i absent
    rw [has, Option.not_isSome_iff_eq_none, find?_eq_none_iff] at absent
    refine List.nodup_append'.mpr ⟨distinct, by simp, ?_⟩
    intro other member last
    rw [List.mem_singleton.mp last] at member
    exact absent member

/-- A map that has just the keys of some entries has as many as they have different ones. -/
theorem length_eq_of_keys (distinct : (keys map).Nodup) {entries : List Entry}
    (same : ∀ key, find? key map = none ↔ lastOf? key entries = none) :
    map.length = (entries.map Entry.key).dedup.length := by
  have members (key : String) : key ∈ keys map ↔ key ∈ (entries.map Entry.key).dedup := by
    rw [← not_iff_not, ← find?_eq_none_iff, same key, lastOf?_eq_none_iff, List.mem_dedup]
    simp
  have perm := (List.perm_ext_iff_of_nodup distinct (List.nodup_dedup _)).mpr members
  rw [← perm.length_eq, keys, List.length_map]

end Assoc

/-! ### Requests one after another -/

section Serve

variable {ι S T : Type} {perform : Request ι → S → Answer × S}
  {perform' : Request ι → T → Answer × T}

/-- The answers to requests one after another, and the state that is left behind. -/
def serve (perform : Request ι → S → Answer × S) : List (Request ι) → S → List Answer × S
  | [], state => ([], state)
  | request :: requests, state =>
    let (answer, next) := perform request state
    let (answers, last) := serve perform requests next
    (answer :: answers, last)

/-- Whether requests one after another are allowed in the states in which they come. -/
def Throughout (perform : Request ι → S → Answer × S) (allowed : Request ι → S → Prop) :
    List (Request ι) → S → Prop
  | [], _ => True
  | request :: requests, state =>
    allowed request state ∧ Throughout perform allowed requests (perform request state).2

theorem serve_cons (request : Request ι) (requests : List (Request ι)) (state : S) :
    serve perform (request :: requests) state =
      ((perform request state).1 :: (serve perform requests (perform request state).2).1,
        (serve perform requests (perform request state).2).2) := rfl

theorem serve_append (first second : List (Request ι)) (state : S) :
    serve perform (first ++ second) state =
      ((serve perform first state).1 ++ (serve perform second (serve perform first state).2).1,
        (serve perform second (serve perform first state).2).2) := by
  induction first generalizing state with
  | nil => rfl
  | cons request first ih => simp [serve_cons, ih]

theorem length_serve (requests : List (Request ι)) (state : S) :
    (serve perform requests state).1.length = requests.length := by
  induction requests generalizing state with
  | nil => rfl
  | cons request requests ih => simp [serve_cons, ih]

theorem Throughout.of_forall {allowed : Request ι → S → Prop} {requests : List (Request ι)}
    (all : ∀ request ∈ requests, ∀ state, allowed request state) (state : S) :
    Throughout perform allowed requests state := by
  induction requests generalizing state with
  | nil => trivial
  | cons request requests ih =>
      obtain ⟨first, others⟩ := List.forall_mem_cons.mp all
      exact ⟨first state, ih others _⟩

/-- Where every request that is allowed keeps two states related and is answered the same in both,
all are answered the same. -/
theorem serve_simulates {allowed : Request ι → S → Prop} {R : S → T → Prop}
    (step : ∀ request state other, R state other → allowed request state →
      (perform request state).1 = (perform' request other).1 ∧
        R (perform request state).2 (perform' request other).2)
    {requests : List (Request ι)} {state : S} {other : T} (related : R state other)
    (orderly : Throughout perform allowed requests state) :
    (serve perform requests state).1 = (serve perform' requests other).1 ∧
      R (serve perform requests state).2 (serve perform' requests other).2 := by
  induction requests generalizing state other with
  | nil => exact ⟨rfl, related⟩
  | cons request requests ih =>
      obtain ⟨first, others⟩ := orderly
      obtain ⟨same, next⟩ := step request state other related first
      obtain ⟨rest, last⟩ := ih next others
      rw [serve_cons, serve_cons, same, rest]
      exact ⟨rfl, last⟩

/-- The answer to a request between others. -/
theorem getElem?_serve (before after : List (Request ι)) (request : Request ι) (state : S) :
    (serve perform (before ++ request :: after) state).1[before.length]? =
      some (perform request (serve perform before state).2).1 := by
  rw [serve_append, serve_cons, List.getElem?_append_right (by rw [length_serve]), length_serve,
    Nat.sub_self]
  rfl

/-- A request that leaves the state as it is changes no other answer. -/
theorem answers_eraseIdx {before after : List (Request ι)} {extra : Request ι} {state : S}
    (still : (perform extra (serve perform before state).2).2 = (serve perform before state).2) :
    (serve perform (before ++ after) state).1 =
      (serve perform (before ++ extra :: after) state).1.eraseIdx before.length := by
  rw [serve_append, serve_append, serve_cons, still,
    List.eraseIdx_append_of_length_le (by rw [length_serve]), length_serve, Nat.sub_self]
  rfl

end Serve

/-! ### Handles -/

/-- What can be done with an index of some kind. -/
structure Operations (I : Type) where
  write : List Entry → I → Disk → Except Error Unit × I × Disk
  lookup : String → I → Disk → Except Error (Option Span) × I × Disk
  size : I → Disk → Except Error Nat × I × Disk
  close : I → Disk → I × Disk
  /-- The index made anew, with nothing open. -/
  renew : I → I
  /-- Opens the index before its first use. -/
  prepare : I → Disk → Except Error Unit × I × Disk

/-- The operations of an index in a table. -/
def TableIndex.operations : Operations TableIndex where
  write := TableIndex.write
  lookup := TableIndex.lookup
  size := TableIndex.size
  close := TableIndex.close
  renew index := .ofPath index.path index.onDuplicate
  prepare index disk :=
    let (result, index, disk) := index.acquire disk
    (result.map fun _ => (), index, disk)

/-- The operations of an index in a log. -/
def LogIndex.operations : Operations LogIndex where
  write := LogIndex.write
  lookup := LogIndex.lookup
  size := LogIndex.size
  close := LogIndex.close
  renew index := .ofPath index.path
  prepare index disk :=
    let (result, index, disk) := index.acquire true disk
    (result.map fun _ => (), index, disk)

/-- Handles on indexes of some kind, and the disk that they are on. -/
structure Handles (ι I : Type) where
  index : ι → I
  disk : Disk

section Handles

variable {ι I : Type}

/-- What a request does with the index of its handle. -/
def Operations.answer (operations : Operations I) (request : Request ι) (index : I) (disk : Disk) :
    Answer × I × Disk :=
  match request with
  | .write _ entries =>
    let (result, index, disk) := operations.write entries index disk
    (.done result, index, disk)
  | .lookup _ key =>
    let (result, index, disk) := operations.lookup key index disk
    (.span result, index, disk)
  | .size _ =>
    let (result, index, disk) := operations.size index disk
    (.count result, index, disk)
  | .close _ => (.done (.ok ()), operations.close index disk)
  | .reopen _ eager =>
    let (index, disk) := operations.close index disk
    if eager then
      let (result, index, disk) := operations.prepare (operations.renew index) disk
      (.done result, index, disk)
    else (.done (.ok ()), operations.renew index, disk)

/-- Carries out a request. -/
def Operations.perform [DecidableEq ι] (operations : Operations I) (request : Request ι)
    (state : Handles ι I) : Answer × Handles ι I :=
  let (answer, index, disk) := operations.answer request (state.index request.handle) state.disk
  (answer, ⟨Function.update state.index request.handle index, disk⟩)

theorem Operations.perform_of_answer [DecidableEq ι] {operations : Operations I}
    {request : Request ι} {state : Handles ι I} {answer : Answer} {index : I} {disk : Disk}
    (answered : operations.answer request (state.index request.handle) state.disk =
      (answer, index, disk)) :
    operations.perform request state =
      (answer, ⟨Function.update state.index request.handle index, disk⟩) := by
  simp [perform, answered]

end Handles

/-! ### Ledgers -/

/-- What handles that share an index share. -/
structure Ledger where
  /-- Whether the index is there. -/
  made : Bool
  /-- The entries of all batches that were written, in their order. -/
  written : List Entry

/-- How indexes of some kind fail. -/
structure Manner (ι : Type) where
  /-- What is said where no index is. -/
  absent : Error
  /-- Why a handle refuses a batch behind entries that were written. -/
  refusal? : ι → (written entries : List Entry) → Option Error

namespace Ledger

variable {ι : Type} {manner : Manner ι}

/-- The ledger of an index that is not there. -/
def blank : Ledger :=
  ⟨false, []⟩

/-- The span of the last entry of a key. -/
def spanOf? (key : String) (ledger : Ledger) : Option Span :=
  (lastOf? key ledger.written).map Entry.span

/-- The number of different keys. -/
def size (ledger : Ledger) : Nat :=
  (ledger.written.map Entry.key).dedup.length

/-- What is read from an index that is there. -/
def reading {α : Type} (manner : Manner ι) (value : α) (ledger : Ledger) : Except Error α :=
  if ledger.made then .ok value else .error manner.absent

/-- Carries out a request. -/
def perform (manner : Manner ι) (request : Request ι) (ledger : Ledger) : Answer × Ledger :=
  match request with
  | .write handle entries =>
    match manner.refusal? handle ledger.written entries with
    | some error => (.done (.error error), ⟨true, ledger.written⟩)
    | none => (.done (.ok ()), ⟨true, ledger.written ++ entries⟩)
  | .lookup _ key => (.span (ledger.reading manner (ledger.spanOf? key)), ledger)
  | .size _ => (.count (ledger.reading manner ledger.size), ledger)
  | .close _ => (.done (.ok ()), ledger)
  | .reopen _ eager => (.done (.ok ()), ⟨ledger.made || eager, ledger.written⟩)

theorem made_of_perform (request : Request ι) (ledger : Ledger) :
    (perform manner request ledger).2.made = (ledger.made || request.creates) := by
  cases request with
  | write handle entries =>
      cases refused : manner.refusal? handle ledger.written entries <;>
        simp [perform, refused, Request.creates]
  | reopen => rfl
  | lookup | size | close => simp [perform, Request.creates]

/-- A request that makes an index where none is does the same where one is. -/
theorem perform_of_creates {request : Request ι} (creates : request.creates = true) (made : Bool)
    (written : List Entry) :
    perform manner request ⟨made, written⟩ = perform manner request ⟨true, written⟩ := by
  cases request with
  | write => rfl
  | reopen handle eager =>
      obtain rfl : eager = true := creates
      simp [perform]
  | lookup | size | close => cases creates

/-- A request that opens nothing leaves a ledger as it is. -/
theorem perform_of_closes {request : Request ι} (closes : request.opens = false) (ledger : Ledger) :
    perform manner request ledger = (.done (.ok ()), ledger) := by
  cases request with
  | close => rfl
  | reopen handle eager =>
      obtain rfl : eager = false := closes
      simp [perform]
  | write | lookup | size => cases closes

/-- A batch that is refused leaves the ledger of an index that is there as it is. -/
theorem perform_of_refusal {handle : ι} {entries : List Entry} {ledger : Ledger} {error : Error}
    (made : ledger.made = true)
    (refused : manner.refusal? handle ledger.written entries = some error) :
    perform manner (.write handle entries) ledger = (.done (.error error), ledger) := by
  simp [perform, refused, ← made]

/-- An index is there when it was before or some request makes it. -/
theorem made_of_serve (requests : List (Request ι)) (ledger : Ledger) :
    (serve (perform manner) requests ledger).2.made =
      (ledger.made || requests.any Request.creates) := by
  induction requests generalizing ledger with
  | nil => simp [serve]
  | cons request requests ih =>
      rw [serve_cons, ih, made_of_perform, List.any_cons, Bool.or_assoc]

/-- An idle request leaves a ledger as it is. -/
theorem perform_of_idle {earlier : List (Request ι)} {request : Request ι}
    (idle : request.Idle earlier) :
    (perform manner request (serve (perform manner) earlier blank).2).2 =
      (serve (perform manner) earlier blank).2 := by
  obtain ⟨reads, makes⟩ := idle
  cases request with
  | write handle entries => exact absurd rfl (reads handle entries)
  | lookup | size | close => rfl
  | reopen handle eager =>
      have made : ((serve (perform manner) earlier blank).2.made || eager) =
          (serve (perform manner) earlier blank).2.made := by
        cases eager with
        | false => simp
        | true => simpa [made_of_serve, blank] using makes rfl
      simp only [perform, made]

end Ledger

/-- Handles that every request keeps together with their ledger answer as it does, and make nothing
before a request that makes an index. -/
theorem serve_of_follows {ι I : Type} [DecidableEq ι] {operations : Operations I}
    {manner : Manner ι} {allowed : Request ι → Handles ι I → Prop}
    {R : Handles ι I → Ledger → Prop} {disk : Disk} {start : Handles ι I}
    (step : ∀ request state ledger, R state ledger → allowed request state →
      (operations.perform request state).1 = (Ledger.perform manner request ledger).1 ∧
        R (operations.perform request state).2 (Ledger.perform manner request ledger).2)
    (absent : ∀ state ledger, R state ledger → ledger.made = false → state.disk = disk)
    (first : R start .blank) {requests : List (Request ι)}
    (orderly : Throughout operations.perform allowed requests start) :
    (serve operations.perform requests start).1 =
        (serve (Ledger.perform manner) requests .blank).1 ∧
      ((∀ request ∈ requests, request.creates = false) →
        (serve operations.perform requests start).2.disk = disk) := by
  obtain ⟨same, last⟩ := serve_simulates step first orderly
  refine ⟨same, fun still => absent _ _ last ?_⟩
  simpa [Ledger.made_of_serve, Ledger.blank] using still

/-- Where handles answer as a ledger does, a request that leaves the ledger as it is changes no
other answer. -/
theorem answers_eraseIdx_of_ledger {ι S : Type} {perform : Request ι → S → Answer × S} {state : S}
    (manner : Manner ι) {before after : List (Request ι)} {extra : Request ι}
    (still : (Ledger.perform manner extra (serve (Ledger.perform manner) before .blank).2).2 =
      (serve (Ledger.perform manner) before .blank).2)
    (agrees : ∀ requests, requests = before ++ after ∨ requests = before ++ extra :: after →
      (serve perform requests state).1 = (serve (Ledger.perform manner) requests .blank).1) :
    (serve perform (before ++ after) state).1 =
      (serve perform (before ++ extra :: after) state).1.eraseIdx before.length := by
  rw [agrees _ (.inl rfl), agrees _ (.inr rfl)]
  exact answers_eraseIdx still

end RecordStore
