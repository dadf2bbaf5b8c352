import RecordStore.Proofs.Index.Log
import RecordStore.Proofs.Sharing
import Mathlib

/-!
Handles on one log.

A log that was opened is found again by whoever opens its path, with everything as it is
(`Disk.LogStands`), but only one handle at a time may hold it. Handles of which one is used
while no other is open follow a ledger of the batches that were written (`LogIndex.Follows`),
whichever of them is used.
-/

namespace RecordStore

/-! ### A log that stays where it is -/

namespace Disk

variable {place : Route} {disk before after disk' : Disk} {path : String} {id : Nat}

theorem isFolderAt_iff {names : List String} :
    disk.isFolderAt names = true ↔
      ∃ route, disk.walk [] names = .ok route ∧ disk.HasFolder route := by
  unfold isFolderAt HasFolder
  cases disk.walk [] names with
  | error fault => simp
  | ok route => cases found : disk.node? route <;> simp [found]

theorem Spares.isFolderAt (spares : Spares place before after) {names : List String}
    (there : before.isFolderAt names = true) : after.isFolderAt names = true := by
  obtain ⟨route, leads, folder⟩ := isFolderAt_iff.mp there
  exact isFolderAt_iff.mpr ⟨route, spares.walk leads, spares.folders route folder⟩

/-- A path that led to something does so still where nothing was taken away. -/
theorem Spares.has (spares : Spares place before after)
    (kept : ∀ route, before.node? route ≠ none → after.node? route ≠ none)
    (there : before.has path = true) : after.has path = true := by
  unfold Disk.has Disk.find at there ⊢
  split at there
  · cases there
  · rename_i route leads
    rw [spares.route leads]
    split at there
    · cases there
    · rename_i node found
      obtain ⟨node', found'⟩ := Option.ne_none_iff_exists'.mp
        (kept route (Option.ne_none_iff_exists'.mpr ⟨node, found⟩))
      simp only [found']
      rfl

/-- Whether the folder that names lead to is there, the innermost name first. -/
def HasFolders (disk : Disk) : List String → Prop
  | [] => True
  | name :: around => disk.isFolderAt (name :: around).reverse = true

theorem Spares.hasFolders (spares : Spares place before after) {names : List String}
    (there : before.HasFolders names) : after.HasFolders names := by
  cases names with
  | nil => trivial
  | cons name around => exact spares.isFolderAt there

theorem isFolderAt_of_makeFolderAt {names : List String}
    (made : disk.makeFolderAt names = .ok disk') : disk'.isFolderAt names = true := by
  have spares := (@makeFolderAt_spec [] _ _ _ made).1
  unfold makeFolderAt at made
  split at made
  · cases made
  · rename_i route leads
    split at made
    · cases made
      unfold isFolderAt
      rw [spares.walk leads]
      simp [isFolder]
    · cases made

/-- Folders that were made are there. -/
theorem hasFolders_of_makeFolders {names : List String}
    (made : disk.makeFolders names = (.ok (), disk')) : disk'.HasFolders names := by
  cases names with
  | nil => trivial
  | cons name around =>
      have settled {last : Disk} {fault : IoFault}
          (made : ((if last.isFolderAt (name :: around).reverse then .ok () else .error fault, last) :
            Except IoFault Unit × Disk) = (.ok (), disk')) :
          disk'.HasFolders (name :: around) := by
        split at made
        · rename_i there
          cases made
          exact there
        · cases made
      unfold makeFolders at made
      dsimp only at made
      split at made
      · rename_i middle one
        cases made
        exact isFolderAt_of_makeFolderAt one
      · split at made
        · cases made
        · split at made
          · rename_i last one
            cases made
            exact isFolderAt_of_makeFolderAt one
          · exact settled made
      · exact settled made

/-- Folders that are there are not made again. -/
theorem makeFolders_of_hasFolders {names : List String} (there : disk.HasFolders names) :
    disk.makeFolders names = (.ok (), disk) := by
  cases names with
  | nil => rfl
  | cons name around =>
      have folder : disk.isFolderAt (name :: around).reverse = true := there
      have refused : disk.makeFolderAt (name :: around).reverse = .error .alreadyThere := by
        obtain ⟨route, leads, node, found, -⟩ := isFolderAt_iff.mp folder
        simp only [makeFolderAt, leads, found]
      unfold makeFolders
      simp only [refused, folder, if_true]

/-- The names of the folder in which a log keeps what is too large for it, the innermost first. -/
def blobFolder (path : String) : List String :=
  (((pathWithin path "blobs").splitOn "/").filter fun name => name ≠ "" ∧ name ≠ ".").reverse

/-- A log at the place of a path, with its folder and nothing in the way of its files. -/
structure LogStands (path : String) (id : Nat) (disk : Disk) : Prop where
  named : pathFault? (pathWithin path "blobs") = none
  folders : disk.has (pathWithin path "blobs") = true ∨ disk.HasFolders (blobFolder path)
  leads : disk.walk [] (path.splitOn "/") = .ok (placeOf path)
  there : disk.node? (placeOf path) = some (.log id)
  files : ∀ name ∈ logFiles, (disk.node? (placeOf path ++ [name])).any isFolder = false

/-- Whoever opens a log that stands gets it, with the disk as it is. -/
theorem LogStands.openLog_eq (stands : LogStands path id disk) :
    disk.openLog path = (.ok id, disk) := by
  have folders : (if disk.has (pathWithin path "blobs") then (.ok (), disk) else
      disk.makeFolders (blobFolder path) : Except IoFault Unit × Disk) = (.ok (), disk) := by
    split
    · rfl
    · rename_i missing
      exact makeFolders_of_hasFolders (stands.folders.resolve_left missing)
  have clear : logFiles.any (fun name => (disk.node? (placeOf path ++ [name])).any isFolder) =
      false := by
    simpa using stands.files
  unfold blobFolder at folders
  unfold openLog
  simp only [stands.named, folders, stands.leads, openLogAt, clear, stands.there]
  rfl

/-- Making a log puts files where nothing was, and changes nothing else around it. -/
theorem node?_createLog (disk : Disk) {route other : Route} (away : other ≠ route) :
    (disk.createLog route).2.node? other = disk.node? other ∨
      disk.node? other = none ∧
        ∃ file, (disk.createLog route).2.node? other = some (.file file) := by
  have fill (disk : Disk) (name : String) :
      let filled := if (disk.node? (route ++ [name])).isSome then disk
        else (disk.createAt (route ++ [name]) (.bytes (Bytes.ofText name))).2
      filled.node? other = disk.node? other ∨
        disk.node? other = none ∧ ∃ file, filled.node? other = some (.file file) := by
    intro filled
    simp only [filled]
    split
    · exact .inl rfl
    · rename_i free
      rw [node?_createAt]
      split
      · rename_i same
        subst same
        exact .inr ⟨Option.not_isSome_iff_eq_none.mp free, _, rfl⟩
      · exact .inl rfl
  have last : ∀ filled : Disk, ({ filled with
      nodes := Assoc.put route (.log filled.next) filled.nodes
      logs := Assoc.put filled.next ⟨[], false⟩ filled.logs
      next := filled.next + 1 } : Disk).node? other = filled.node? other := by
    intro filled
    exact (node?_setNode filled route other (.log filled.next)).trans (if_neg away.symm)
  have first := fill disk "conf"
  have second := fill
    (if (disk.node? (route ++ ["conf"])).isSome then disk
      else (disk.createAt (route ++ ["conf"]) (.bytes (Bytes.ofText "conf"))).2) "db"
  unfold createLog
  simp only [logFiles, List.foldl, last]
  rcases second with same | ⟨free, file, made⟩
  · rw [same]
    exact first
  · refine .inr ⟨?_, file, made⟩
    rcases first with same | ⟨free', -⟩
    · exact same ▸ free
    · exact free'

/-- A log that is made where its folder is and nothing is in the way of its files stands. -/
theorem logStands_createLog (named : pathFault? (pathWithin path "blobs") = none)
    (folders : disk.has (pathWithin path "blobs") = true ∨ disk.HasFolders (blobFolder path))
    (leads : disk.walk [] (path.splitOn "/") = .ok (placeOf path))
    (files : ∀ name ∈ logFiles, (disk.node? (placeOf path ++ [name])).any isFolder = false) :
    LogStands path (disk.createLog (placeOf path)).1 (disk.createLog (placeOf path)).2 := by
  have inside (name : String) : placeOf path ++ [name] ≠ placeOf path := by simp
  obtain ⟨spares, there, -⟩ := @createLog_spec (placeOf path ++ [""]) disk (placeOf path)
  have spares := spares (inside "")
  have kept : ∀ other, disk.node? other ≠ none →
      (disk.createLog (placeOf path)).2.node? other ≠ none := by
    intro other found
    by_cases own : other = placeOf path
    · rw [own, there]
      exact Option.some_ne_none _
    · rcases node?_createLog disk own with same | ⟨free, -⟩
      · rwa [same]
      · exact absurd free found
  refine ⟨named, folders.imp (spares.has kept) spares.hasFolders, spares.walk leads, there, ?_⟩
  intro name member
  rcases node?_createLog disk (inside name) with same | ⟨-, file, made⟩
  · rw [same]
    exact files name member
  · rw [made]
    rfl

/-- A log that was opened stands. -/
theorem logStands_of_openLog (opened : disk.openLog path = (.ok id, disk')) :
    LogStands path id disk' := by
  unfold openLog at opened
  dsimp only at opened
  split at opened
  · cases opened
  · rename_i named
    generalize folders : (if disk.has (pathWithin path "blobs") then (.ok (), disk) else
      disk.makeFolders _ : Except IoFault Unit × Disk) = made at opened
    obtain ⟨outcome, middle⟩ := made
    dsimp only at opened
    split at opened
    · cases opened
    · cases opened
    · rename_i route leads
      obtain rfl : route = placeOf path := eq_follow_of_walk leads
      have around : middle.has (pathWithin path "blobs") = true ∨
          middle.HasFolders (blobFolder path) := by
        split at folders
        · rename_i there
          cases folders
          exact .inl there
        · exact .inr (hasFolders_of_makeFolders folders)
      unfold openLogAt at opened
      dsimp only at opened
      split at opened
      · cases opened
      · rename_i clear
        have files : ∀ name ∈ logFiles,
            (middle.node? (placeOf path ++ [name])).any isFolder = false := by
          simpa using clear
        split at opened
        · rename_i there
          cases opened
          exact ⟨named, around, leads, there, files⟩
        · cases opened
          exact logStands_createLog named around leads files

/-- What a log holds does not matter to where it stands. -/
theorem LogStands.setLog (stands : LogStands path id disk) (log : Log) :
    LogStands path id (disk.setLog id log) := by
  have spares : Spares [] disk (disk.setLog id log) := spares_setLog id log
  exact ⟨stands.named, stands.folders.imp (spares.has fun _ there => there) spares.hasFolders,
    spares.walk stands.leads, stands.there, stands.files⟩

/-- A path that something inside it may have is no worse itself. -/
theorem pathFault?_of_within {name : String} (named : pathFault? (pathWithin path name) = none)
    (filled : path ≠ "") : pathFault? path = none := by
  obtain ⟨tail, inner⟩ : ∃ tail, pathWithin path name = path ++ tail := by
    unfold pathWithin
    split
    · exact ⟨name, rfl⟩
    · exact ⟨"/" ++ name, String.append_assoc⟩
  rw [inner] at named
  unfold pathFault? at named ⊢
  split at named
  · cases named
  · rename_i plain
    split at named
    · cases named
    · split at named
      · cases named
      · rename_i short
        have plain' : ¬path.toList.contains (Char.ofNat 0) = true := by
          simp only [String.toList_append, List.contains_append, Bool.or_eq_true, not_or] at plain
          exact plain.1
        have short' : ¬longestPath < path.utf8ByteSize := by
          rw [String.utf8ByteSize_append] at short
          omega
        rw [if_neg plain', if_neg filled, if_neg short']

/-- A log that stands is there for reading. -/
theorem LogStands.has (stands : LogStands path id disk) (filled : path ≠ "") :
    disk.has path = true := by
  have proper := pathFault?_of_within stands.named filled
  simp [Disk.has, find, route, proper, stands.leads, stands.there, Except.toBool]

end Disk

/-! ### Batches behind what was written -/

namespace LogIndex

variable {entries written : List Entry} {pairs : List (String × Bytes)}

/-- What a stored span has no room for. -/
def overflow? (entry : Entry) : Option Error :=
  if Slot.maxValue < entry.offset then some (.valueOverflow entry.offset)
  else if Slot.maxValue < entry.length then some (.valueOverflow entry.length)
  else none

/-- How indexes in a log at a path fail. -/
def manner {ι : Type} (path : String) : Manner ι where
  absent := .backendOpen path .absent
  refusal? _ _ entries := entries.findSome? overflow?

theorem encode_span (entry : Entry) :
    (∃ error, overflow? entry = some error ∧ entry.span.encode = .error error) ∨
      (overflow? entry = none ∧ ∃ stored, entry.span.encode = .ok stored) := by
  unfold overflow?
  by_cases offset : Slot.maxValue < entry.offset
  · exact .inl ⟨_, if_pos offset, by simp [Span.encode, Slot.encode, Entry.span, offset]⟩
  · by_cases length : Slot.maxValue < entry.length
    · refine .inl ⟨_, by rw [if_neg offset, if_pos length], ?_⟩
      simp [Span.encode, Slot.encode, Entry.span, offset, length]
    · refine .inr ⟨by rw [if_neg offset, if_neg length], ?_⟩
      simp [Span.encode, Slot.encode, Entry.span, offset, length]

/-- A batch has no stored form where a ledger refuses it. -/
theorem encodeAll_of_refusal {ι : Type} (path : String) (handle : ι) (written entries : List Entry) :
    (∃ error, (manner path).refusal? handle written entries = some error ∧
        encodeAll entries = .error error) ∨
      ((manner path).refusal? handle written entries = none ∧
        ∃ pairs, encodeAll entries = .ok pairs) := by
  induction entries with
  | nil => exact .inr ⟨rfl, [], rfl⟩
  | cons entry entries ih =>
      simp only [manner] at ih ⊢
      rcases encode_span entry with ⟨error, large, refused⟩ | ⟨room, stored, made⟩
      · exact .inl ⟨error, by simp [large], by simp [encodeAll, refused]⟩
      · rcases ih with ⟨error, others, refused⟩ | ⟨others, pairs, encoded⟩
        · exact .inl ⟨error, by simp [room, others], by simp [encodeAll, made, refused]⟩
        · refine .inr ⟨by simp [room, others], (entry.key, stored) :: pairs, ?_⟩
          simp [encodeAll, made, encoded]

theorem nodup_keys_putAll {rows : Assoc String Bytes} (distinct : (Assoc.keys rows).Nodup)
    (pairs : List (String × Bytes)) : (Assoc.keys (Assoc.putAll pairs rows)).Nodup := by
  induction pairs generalizing rows with
  | nil => exact distinct
  | cons pair pairs ih => exact ih (Assoc.nodup_keys_put distinct _ _)

/-- The rows that were written are as many as they have different keys. -/
theorem length_of_written (encoded : encodeAll written = .ok pairs) :
    (Assoc.putAll pairs []).length = (written.map Entry.key).dedup.length := by
  have empty : (Assoc.keys ([] : Assoc String Bytes)).Nodup := List.nodup_nil
  refine Assoc.length_eq_of_keys (nodup_keys_putAll empty pairs) ?_
  intro key
  rcases find?_putAll encoded key [] with ⟨none, same⟩ | ⟨entry, stored, last, -, same⟩
  · simp [none, same, Assoc.find?]
  · simp [last, same]

/-- Under a key stands the span of the last entry that was written with it. -/
theorem spanOf?_of_written (encoded : encodeAll written = .ok pairs) (key : String) :
    spanOf? key (Assoc.putAll pairs []) = .ok ((lastOf? key written).map Entry.span) := by
  rw [spanOf?_putAll encoded]
  cases last : lastOf? key written with
  | none => exact readAfter_of_none last _
  | some entry => exact readAfter_of_some last _

/-! ### Handles on a log that stands -/

variable {path : String} {id : Nat} {disk base : Disk} {opened : Bool}

/-- A handle on a path that holds its log, or is closed. -/
def onLog (path : String) (id : Nat) (opened : Bool) : LogIndex :=
  ⟨path, if opened then some id else none⟩

/-- The disk on which a log has these rows and is held or not. -/
def diskOf (base : Disk) (id : Nat) (pairs : List (String × Bytes)) (held : Bool) : Disk :=
  base.setLog id ⟨Assoc.putAll pairs [], held⟩

@[simp] theorem log_diskOf (held : Bool) :
    (diskOf base id pairs held).log id = ⟨Assoc.putAll pairs [], held⟩ :=
  Disk.log_setLog_self base id _

@[simp] theorem setLog_diskOf (held : Bool) (log : Log) :
    (diskOf base id pairs held).setLog id log = base.setLog id log :=
  Disk.setLog_setLog base id _ _

/-- A handle opens a log that no other one holds. -/
theorem acquire_onLog (stands : Disk.LogStands path id base) (filled : path ≠ "") (create : Bool) :
    (onLog path id opened).acquire create (diskOf base id pairs opened) =
      (.ok id, onLog path id true, diskOf base id pairs true) := by
  cases opened with
  | true => exact acquire_of_held rfl create _
  | false =>
      have here : Disk.LogStands path id (diskOf base id pairs false) := stands.setLog _
      simp only [acquire, onLog, Bool.false_eq_true, if_false, if_true, here.has filled,
        here.openLog_eq, log_diskOf, setLog_diskOf]
      simp [diskOf]

theorem close_onLog :
    (onLog path id opened).close (diskOf base id pairs opened) =
      (onLog path id false, diskOf base id pairs false) := by
  cases opened with
  | true => simp [close, onLog, diskOf]
  | false => rfl

theorem prepare_onLog (stands : Disk.LogStands path id base) (filled : path ≠ "") :
    operations.prepare (onLog path id opened) (diskOf base id pairs opened) =
      (.ok (), onLog path id true, diskOf base id pairs true) := by
  simp [operations, acquire_onLog stands filled, Except.map]

/-- Reading gives what the rows say, and leaves the log open. -/
theorem reading_onLog {α : Type} (stands : Disk.LogStands path id base) (filled : path ≠ "")
    (read : Assoc String Bytes → Except Error α) :
    reading read (onLog path id opened) (diskOf base id pairs opened) =
      (read (Assoc.putAll pairs []), onLog path id true, diskOf base id pairs true) := by
  simp [reading, acquire_onLog stands filled]

/-- A batch is put into the rows, or refused behind opening the log. -/
theorem write_onLog (stands : Disk.LogStands path id base) (filled : path ≠ "")
    (entries : List Entry) :
    (onLog path id opened).write entries (diskOf base id pairs opened) =
      match encodeAll entries with
      | .error error => (.error error, onLog path id true, diskOf base id pairs true)
      | .ok more => (.ok (), onLog path id true, diskOf base id (pairs ++ more) true) := by
  rw [write, acquire_onLog stands filled]
  cases encodeAll entries with
  | error error => rfl
  | ok more => simp [diskOf]

/-! ### Handles and ledgers -/

section Ledger

variable {ι : Type}

/-- Where a log stands, a handle that opens it answers as the ledger of what was written. -/
theorem answer_onLog {request : Request ι} (opened : Bool) (opens : request.opens = true)
    (stands : Disk.LogStands path id base) (filled : path ≠ "")
    (encoded : encodeAll written = .ok pairs) :
    ∃ pairs',
      operations.answer request (onLog path id opened) (diskOf base id pairs opened) =
        ((Ledger.perform (manner path) request ⟨true, written⟩).1, onLog path id true,
          diskOf base id pairs' true) ∧
      encodeAll (Ledger.perform (manner path) request ⟨true, written⟩).2.written = .ok pairs' := by
  cases request with
  | write handle entries =>
      have wrote : write entries (onLog path id opened) (diskOf base id pairs opened) = _ :=
        write_onLog stands filled entries
      rcases encodeAll_of_refusal path handle written entries with
        ⟨error, refused, failed⟩ | ⟨allowed, more, added⟩
      · refine ⟨pairs, ?_, by simpa [Ledger.perform, refused] using encoded⟩
        simp [Operations.answer, operations, wrote, failed, Ledger.perform, refused]
      · refine ⟨pairs ++ more, ?_, ?_⟩
        · simp [Operations.answer, operations, wrote, added, Ledger.perform, allowed]
        · simp [Ledger.perform, allowed, encodeAll_append, encoded, added, Except.bind, Except.map]
  | lookup handle key =>
      refine ⟨pairs, ?_, encoded⟩
      simp [Operations.answer, operations, lookup, reading_onLog stands filled,
        spanOf?_of_written encoded, Ledger.perform, Ledger.reading, Ledger.spanOf?]
  | size handle =>
      refine ⟨pairs, ?_, encoded⟩
      simp [Operations.answer, operations, size, reading_onLog stands filled,
        length_of_written encoded, Ledger.perform, Ledger.reading, Ledger.size]
  | close => cases opens
  | reopen handle eager =>
      obtain rfl : eager = true := opens
      have closed : operations.close (onLog path id opened) (diskOf base id pairs opened) = _ :=
        close_onLog
      have renewed : operations.renew (onLog path id false) = onLog path id false := rfl
      refine ⟨pairs, ?_, encoded⟩
      simp [Operations.answer, closed, renewed, prepare_onLog stands filled, Ledger.perform]

/-- A request that opens nothing closes its handle. -/
theorem answer_of_closes {request : Request ι} (closes : request.opens = false) (path : String)
    (id : Nat) (opened : Bool) (disk : Disk) :
    operations.answer request (onLog path id opened) disk =
      (.done (.ok ()), onLog path id false, ((onLog path id opened).close disk).2) := by
  have closed : operations.close (onLog path id opened) disk =
      (onLog path id false, ((onLog path id opened).close disk).2) := by
    cases opened <;> rfl
  cases request with
  | close => simp [Operations.answer, closed]
  | reopen handle eager =>
      obtain rfl : eager = false := closes
      have renewed : operations.renew (onLog path id false) = onLog path id false := rfl
      simp [Operations.answer, closed, renewed]
  | write | lookup | size => cases closes

/-- Opening a path makes a log where there was none. -/
structure Founds (path : String) (id : Nat) (disk base : Disk) : Prop where
  stands : Disk.LogStands path id base
  filled : path ≠ ""
  missing : disk.has path = false
  opens : (ofPath path).acquire true disk = (.ok id, onLog path id true, diskOf base id [] true)

/-- A path to a free place founds a log if one can be made there at all. -/
theorem exists_founds (absent : disk.node? (Disk.placeOf path) = none)
    (creatable : (operations.prepare (ofPath path) disk).1 = .ok ()) :
    ∃ id base, Founds path id disk base := by
  have filled : path ≠ "" := by
    rintro rfl
    have root : Disk.placeOf "" = [] := by cbv
    simp [root, Disk.node?] at absent
  have missing : disk.has path = false := by
    unfold Disk.has Disk.find
    split
    · rfl
    · rename_i route leads
      rw [Disk.eq_placeOf_of_route leads, absent]
      rfl
  rcases opened : disk.openLog path with ⟨result, base⟩
  cases result with
  | error fault => simp [operations, acquire, ofPath, opened, Except.map] at creatable
  | ok id =>
      have stands := Disk.logStands_of_openLog opened
      have opens := @Disk.opens_openLog [] _ _ _ _ opened
      have rows : (base.log id).rows = [] := by
        rw [opens.rows id rfl]
        exact Disk.logRows_of_not_log fun other there => by rw [absent] at there; cases there
      cases held : (base.log id).held with
      | true => simp [operations, acquire, ofPath, opened, held, Except.map] at creatable
      | false =>
          refine ⟨id, base, stands, filled, missing, ?_⟩
          simp [acquire, ofPath, opened, held, rows, onLog, diskOf, Assoc.putAll]

/-- Where no log is, a request that makes none finds none. -/
theorem Founds.answer_of_absent (founds : Founds path id disk base) {request : Request ι}
    (still : request.creates = false) :
    operations.answer request (ofPath path) disk =
        ((Ledger.perform (manner path) request .blank).1, ofPath path, disk) ∧
      (Ledger.perform (manner path) request .blank).2 = .blank := by
  cases request with
  | write => cases still
  | lookup | size =>
      refine ⟨?_, rfl⟩
      simp [Operations.answer, operations, lookup, size, reading, acquire, ofPath, founds.missing,
        Ledger.perform, Ledger.reading, Ledger.blank, manner]
  | close => exact ⟨rfl, rfl⟩
  | reopen handle eager =>
      obtain rfl : eager = false := still
      exact ⟨rfl, rfl⟩

/-- Where no log is, a request that makes one is answered as by an open handle on an empty one. -/
theorem Founds.answer_of_creates (founds : Founds path id disk base) {request : Request ι}
    (creates : request.creates = true) :
    operations.answer request (ofPath path) disk =
      operations.answer request (onLog path id true) (diskOf base id [] true) := by
  cases request with
  | write handle entries =>
      have wrote : write entries (ofPath path) disk =
          write entries (onLog path id true) (diskOf base id [] true) := by
        rw [write, write, founds.opens, acquire_onLog founds.stands founds.filled]
      simp [Operations.answer, operations, wrote]
  | lookup | size | close => cases creates
  | reopen handle eager =>
      obtain rfl : eager = true := creates
      have before : operations.close (ofPath path) disk = (ofPath path, disk) := rfl
      have closed : (onLog path id true).close (diskOf base id [] true) = _ := close_onLog
      have after : operations.close (onLog path id true) _ = _ := closed
      have renewed : operations.renew (ofPath path) = ofPath path := rfl
      have renewed' : operations.renew (onLog path id false) = onLog path id false := rfl
      have prepared : operations.prepare (ofPath path) disk =
          operations.prepare (onLog path id false) (diskOf base id [] false) := by
        rw [prepare_onLog founds.stands founds.filled]
        simp [operations, founds.opens, Except.map]
      simp [Operations.answer, before, after, renewed, renewed', prepared]

/-- Handles on a path to which nothing leads at first, of which at most one is open, and the ledger
of what was written. -/
inductive Follows [DecidableEq ι] (path : String) (id : Nat) (disk base : Disk) :
    Handles ι LogIndex → Ledger → Prop
  | absent : Follows path id disk base ⟨fun _ => ofPath path, disk⟩ .blank
  | present {owner : Option ι} {pairs : List (String × Bytes)} {written : List Entry}
      (encoded : encodeAll written = .ok pairs) :
      Follows path id disk base
        ⟨fun handle => onLog path id (owner = some handle), diskOf base id pairs owner.isSome⟩
        ⟨true, written⟩

/-- Whether a handle is used while no other one is open. -/
def UsedAlone (request : Request ι) (state : Handles ι LogIndex) : Prop :=
  request.opens = true → ∀ other, other ≠ request.handle → (state.index other).held = none

/-- Where a handle answers as one on a log that stands, all follow the ledger. -/
theorem follows_of_answer [DecidableEq ι] {request : Request ι} {index : ι → LogIndex}
    (opens : request.opens = true) (founds : Founds path id disk base) {before : Disk}
    (same : operations.answer request (index request.handle) before =
      operations.answer request (onLog path id opened) (diskOf base id pairs opened))
    (others : ∀ handle, handle ≠ request.handle → index handle = onLog path id false)
    (encoded : encodeAll written = .ok pairs) :
    (operations.perform request ⟨index, before⟩).1 =
        (Ledger.perform (manner path) request ⟨true, written⟩).1 ∧
      Follows path id disk base (operations.perform request ⟨index, before⟩).2
        (Ledger.perform (manner path) request ⟨true, written⟩).2 := by
  obtain ⟨pairs', answered, encoded'⟩ :=
    answer_onLog opened opens founds.stands founds.filled encoded
  rw [Operations.perform_of_answer (same.trans answered)]
  have there : (Ledger.perform (manner path) request ⟨true, written⟩).2.made = _ :=
    Ledger.made_of_perform request ⟨true, written⟩
  rcases after : Ledger.perform (manner path) request ⟨true, written⟩ with
    ⟨answer, made', written'⟩
  rw [after] at there encoded'
  obtain rfl : made' = true := by simpa using there
  have alone : Function.update index request.handle (onLog path id true) =
      fun handle => onLog path id (some request.handle = some handle) := by
    funext handle
    by_cases own : handle = request.handle
    · subst own
      simp
    · rw [Function.update_of_ne own, others handle own]
      simp [Ne.symm own]
  refine ⟨rfl, ?_⟩
  rw [alone]
  exact .present encoded'

/-- Where a handle is closed, no other one opens or closes. -/
theorem follows_of_closes [DecidableEq ι] {request : Request ι} {owner : Option ι}
    (closes : request.opens = false) (encoded : encodeAll written = .ok pairs) :
    let state : Handles ι LogIndex :=
      ⟨fun handle => onLog path id (owner = some handle), diskOf base id pairs owner.isSome⟩
    (operations.perform request state).1 =
        (Ledger.perform (manner path) request ⟨true, written⟩).1 ∧
      Follows path id disk base (operations.perform request state).2
        (Ledger.perform (manner path) request ⟨true, written⟩).2 := by
  intro state
  have closed := answer_of_closes closes path id (owner = some request.handle) state.disk
  rw [Operations.perform_of_answer closed, Ledger.perform_of_closes closes]
  refine ⟨rfl, ?_⟩
  by_cases own : owner = some request.handle
  · subst own
    have shut : ((onLog path id true).close (diskOf base id pairs true)).2 =
        diskOf base id pairs false := congrArg Prod.snd close_onLog
    have nobody : Function.update state.index request.handle (onLog path id false) =
        fun handle => onLog path id ((none : Option ι) = some handle) := by
      funext handle
      by_cases same : handle = request.handle
      · subst same
        simp
      · rw [Function.update_of_ne same]
        simp [state, Ne.symm same]
    simp only [state, decide_true, Option.isSome_some, shut, nobody]
    exact @Follows.present ι _ path id disk base none _ _ encoded
  · have same : onLog path id (owner = some request.handle) = onLog path id false := by
      simp [own]
    have still : Function.update state.index request.handle (onLog path id false) = state.index := by
      rw [← same]
      exact Function.update_eq_self _ _
    have shut : ((onLog path id (owner = some request.handle)).close state.disk).2 = state.disk := by
      rw [same]
      rfl
    rw [still, shut]
    exact @Follows.present ι _ path id disk base owner _ _ encoded

/-- A request keeps handles and their ledger together, and is answered as the ledger says. -/
theorem Follows.perform [DecidableEq ι] (founds : Founds path id disk base) {request : Request ι}
    {state : Handles ι LogIndex} {ledger : Ledger}
    (follows : Follows path id disk base state ledger) (alone : UsedAlone request state) :
    (operations.perform request state).1 = (Ledger.perform (manner path) request ledger).1 ∧
      Follows path id disk base (operations.perform request state).2
        (Ledger.perform (manner path) request ledger).2 := by
  cases follows with
  | absent =>
      cases creates : request.creates with
      | false =>
          obtain ⟨answered, still⟩ := founds.answer_of_absent creates
          rw [Operations.perform_of_answer answered, still, Function.update_eq_self]
          exact ⟨rfl, .absent⟩
      | true =>
          rw [Ledger.blank, Ledger.perform_of_creates creates]
          exact follows_of_answer (Request.opens_of_creates creates) founds
            (founds.answer_of_creates creates) (fun _ _ => rfl) rfl
  | @present owner pairs written encoded =>
      cases opens : request.opens with
      | true =>
          have own : ∀ other, owner = some other → other = request.handle := by
            intro other same
            by_contra apart
            simpa [onLog, same] using alone opens other apart
          have held : owner.isSome = decide (owner = some request.handle) := by
            cases owner with
            | none => rfl
            | some other => simp [own other rfl]
          refine follows_of_answer opens founds (by rw [held]) ?_ encoded
          intro handle apart
          have free : owner ≠ some handle := fun same => apart (own handle same)
          simp [free]
      | false => exact follows_of_closes opens encoded

/-- Where no request made a log, nothing was made at all. -/
theorem Follows.disk_eq [DecidableEq ι] {state : Handles ι LogIndex} {ledger : Ledger}
    (follows : Follows path id disk base state ledger) (absent : ledger.made = false) :
    state.disk = disk := by
  cases follows with
  | absent => rfl
  | present => cases absent

/-- Handles that are each used while no other one is open answer as a ledger does, from when nothing
leads to the path. -/
theorem Founds.serve_eq [DecidableEq ι] (founds : Founds path id disk base)
    {requests : List (Request ι)}
    (orderly : Throughout operations.perform UsedAlone requests ⟨fun _ => ofPath path, disk⟩) :
    (serve operations.perform requests ⟨fun _ => ofPath path, disk⟩).1 =
        (serve (Ledger.perform (manner path)) requests .blank).1 ∧
      ((∀ request ∈ requests, request.creates = false) →
        (serve operations.perform requests ⟨fun _ => ofPath path, disk⟩).2.disk = disk) :=
  have first : Follows path id disk base ⟨fun _ => ofPath path, disk⟩ .blank := .absent
  serve_of_follows (fun _ _ _ follows alone => follows.perform founds alone)
    (fun _ _ follows absent => follows.disk_eq absent) first orderly

/-- Whether handles take turns: one that was used is closed before another one is. One of them may
be open at first. -/
def inTurns [DecidableEq ι] : Option ι → List (Request ι) → Bool
  | _, [] => true
  | owner, request :: requests =>
    if request.opens then
      owner.all (· = request.handle) && inTurns (some request.handle) requests
    else inTurns (if owner = some request.handle then none else owner) requests

theorem held_of_closes {request : Request ι} (closes : request.opens = false) (index : LogIndex)
    (disk : Disk) : (operations.answer request index disk).2.1.held = none := by
  cases request with
  | close =>
      unfold Operations.answer operations close
      cases held : index.held <;> simp [held]
  | reopen handle eager =>
      obtain rfl : eager = false := closes
      rfl
  | write | lookup | size => cases closes

/-- Handles that take turns are each used while no other is open, whatever comes of it. -/
theorem throughout_of_inTurns [DecidableEq ι] {owner : Option ι} {requests : List (Request ι)}
    {state : Handles ι LogIndex} (turns : inTurns owner requests = true)
    (closed : ∀ handle, owner ≠ some handle → (state.index handle).held = none) :
    Throughout operations.perform UsedAlone requests state := by
  induction requests generalizing owner state with
  | nil => trivial
  | cons request requests ih =>
      have others (handle : ι) (apart : handle ≠ request.handle) :
          (operations.perform request state).2.index handle = state.index handle :=
        Function.update_of_ne apart _ _
      rw [inTurns] at turns
      split at turns
      · obtain ⟨alone, turns⟩ := Bool.and_eq_true_iff.mp turns
        have apart (handle : ι) (other : handle ≠ request.handle) :
            (state.index handle).held = none := by
          refine closed handle ?_
          rintro rfl
          exact other (by simpa using alone)
        refine ⟨fun _ => apart, ih turns fun handle other => ?_⟩
        have other : handle ≠ request.handle := fun same => other (congrArg some same.symm)
        rw [others handle other]
        exact apart handle other
      · rename_i closes
        have closes : request.opens = false := Bool.eq_false_iff.mpr closes
        refine ⟨fun opens => ?_, ih turns fun handle other => ?_⟩
        · rw [closes] at opens
          cases opens
        · by_cases own : handle = request.handle
          · rw [own]
            exact (congrArg LogIndex.held (Function.update_self _ _ _)).trans
              (held_of_closes closes _ _)
          · rw [others handle own]
            refine closed handle ?_
            rintro rfl
            simp [own] at other

/-- A batch with a number too large is refused for such a number. -/
theorem refusal?_of_large (path : String) (handle : ι) (written : List Entry)
    {entries : List Entry}
    (large : ∃ entry ∈ entries, Slot.maxValue < entry.offset ∨ Slot.maxValue < entry.length) :
    ∃ value, Slot.maxValue < value ∧
      (manner path).refusal? handle written entries = some (.valueOverflow value) := by
  obtain ⟨entry, inside, large⟩ := large
  have refused : overflow? entry ≠ none := by
    unfold overflow?
    rcases large with offset | length
    · simp [offset]
    · by_cases offset : Slot.maxValue < entry.offset
      · simp [offset]
      · simp [offset, length]
  cases found : entries.findSome? overflow? with
  | none => exact absurd (List.findSome?_eq_none_iff.mp found entry inside) refused
  | some error =>
      obtain ⟨first, -, failed⟩ := List.exists_of_findSome?_eq_some found
      unfold overflow? at failed
      split at failed
      · rename_i offset
        cases failed
        exact ⟨first.offset, offset, found⟩
      · split at failed
        · rename_i length
          cases failed
          exact ⟨first.length, length, found⟩
        · cases failed

end Ledger

/-! ### A log on an empty disk -/

theorem absent_from_empty : Disk.empty.node? (Disk.placeOf "t") = none := by cbv

theorem creatable_on_empty : (operations.prepare (ofPath "t") Disk.empty).1 = .ok () := by
  have inner : pathWithin "t" "blobs" = "t/blobs" := by cbv
  have names : "t/blobs".splitOn "/" = ["t", "blobs"] := by
    rw [Disk.splitOn_slash]
    decide
  have names' : "t".splitOn "/" = ["t"] := by
    rw [Disk.splitOn_slash]
    decide
  have named : Disk.pathFault? "t/blobs" = none := by decide +kernel
  have missing : Disk.empty.has "t/blobs" = false := by
    unfold Disk.has Disk.find Disk.route
    rw [named, names]
    decide +kernel
  simp only [operations, acquire, ofPath, Disk.openLog, inner, named, missing, names, names']
  rfl

/-! ### All requests -/

/-- Handles on a path where nothing is and a log can be made answer as a ledger does, as long as
each is used only while no other is open: until one of them writes or is opened eagerly, nothing is
read and nothing made; then the one that is used reads the last entry of each key in the batches
that were accepted. A batch with a number too large for a slot, which opens the log like any other,
is refused, and behind a request that made the log it changes no other answer. -/
theorem logs_keep_one_map {ι : Type} [DecidableEq ι] {path : String} {disk : Disk}
    (absent : disk.node? (Disk.placeOf path) = none)
    (creatable : (operations.prepare (ofPath path) disk).1 = .ok ()) :
    let start : Handles ι LogIndex := ⟨fun _ => ofPath path, disk⟩
    let orderly (requests : List (Request ι)) := Throughout operations.perform UsedAlone requests start
    (∀ requests, orderly requests →
      (serve operations.perform requests start).1 =
          (serve (Ledger.perform (manner path)) requests .blank).1 ∧
        ((∀ request ∈ requests, request.creates = false) →
          (serve operations.perform requests start).2.disk = disk)) ∧
      ∀ before handle entries after, orderly (before ++ after) →
        orderly (before ++ .write handle entries :: after) →
        (∃ request ∈ before, request.creates = true) →
        (∃ entry ∈ entries, Slot.maxValue < entry.offset ∨ Slot.maxValue < entry.length) →
          (∃ value, Slot.maxValue < value ∧
            (serve operations.perform (before ++ .write handle entries :: after) start).1[
              before.length]? = some (.done (.error (.valueOverflow value)))) ∧
          (serve operations.perform (before ++ after) start).1 =
            (serve operations.perform (before ++ .write handle entries :: after)
              start).1.eraseIdx before.length := by
  obtain ⟨id, base, founds⟩ := exists_founds absent creatable
  intro start orderly
  have agrees (requests : List (Request ι)) (alone : orderly requests) := founds.serve_eq alone
  refine ⟨agrees, ?_⟩
  intro before handle entries after without within creates large
  let earlier := serve (Ledger.perform (manner path)) before .blank
  have made : earlier.2.made = true := by
    simpa [earlier, Ledger.made_of_serve, Ledger.blank] using creates
  obtain ⟨value, beyond, refused⟩ := refusal?_of_large path handle earlier.2.written large
  have still := Ledger.perform_of_refusal made refused
  refine ⟨⟨value, beyond, ?_⟩,
    answers_eraseIdx_of_ledger (manner path) (congrArg Prod.snd still) ?_⟩
  · rw [(agrees _ within).1, getElem?_serve]
    exact congrArg (some ·.1) still
  · rintro requests (rfl | rfl)
    · exact (agrees _ without).1
    · exact (agrees _ within).1

/-- A handle that reads too early finds nothing; then it writes and is closed, and another one reads
what it wrote, whether or not it tried to write a number that is too large. -/
theorem logs_keep_one_map_of_two :
    let start : Handles Bool LogIndex := ⟨fun _ => ofPath "t", Disk.empty⟩
    let before : List (Request Bool) :=
      [.size true, .write true [⟨"a", 0, 1⟩, ⟨"a", 5, 2⟩], .close true]
    let large : List Entry := [⟨"b", 0, 1⟩, ⟨"a", 1 <<< 55, 2⟩]
    let after : List (Request Bool) := [.lookup false "a", .size false]
    (serve operations.perform (before ++ after) start).1 =
        [.count (.error (.backendOpen "t" .absent)), .done (.ok ()), .done (.ok ()),
          .span (.ok (some ⟨5, 2⟩)), .count (.ok 1)] ∧
      (serve operations.perform (before ++ after) start).1 =
        (serve operations.perform (before ++ .write false large :: after) start).1.eraseIdx 3 ∧
      (serve operations.perform [.size true] start).2.disk = Disk.empty := by
  intro start before large after
  obtain ⟨answers, unchanged⟩ :=
    @logs_keep_one_map Bool _ _ _ absent_from_empty creatable_on_empty
  have alone {requests : List (Request Bool)} (turns : inTurns none requests = true) :
      Throughout operations.perform UsedAlone requests start :=
    throughout_of_inTurns turns fun _ _ => rfl
  have refused := unchanged before false large after (alone (by decide)) (alone (by decide))
    (by decide) (by decide)
  refine ⟨?_, refused.2, ?_⟩
  · rw [(answers _ (alone (by decide))).1]
    cbv
  · exact (answers [.size true] (alone (by decide))).2 (by decide)

/-- A batch with a number too large that comes before everything else makes the log like any other,
so what could not be read without it is read behind it: there is nothing under the key. -/
theorem large_batch_changes_answers_when_first :
    let start : Handles Unit LogIndex := ⟨fun _ => ofPath "t", Disk.empty⟩
    let large : Request Unit := .write () [⟨"a", 1 <<< 55, 1⟩]
    let after : List (Request Unit) := [.lookup () "a", .size ()]
    (serve operations.perform after start).1 =
        [.span (.error (.backendOpen "t" .absent)), .count (.error (.backendOpen "t" .absent))] ∧
      (serve operations.perform (large :: after) start).1 =
        [.done (.error (.valueOverflow (1 <<< 55))), .span (.ok none), .count (.ok 0)] := by
  intro start large after
  obtain ⟨id, base, founds⟩ := exists_founds absent_from_empty creatable_on_empty
  have agrees {requests : List (Request Unit)} (turns : inTurns none requests = true) :=
    (founds.serve_eq (throughout_of_inTurns turns fun _ _ => rfl)).1
  rw [agrees (by decide), agrees (by decide)]
  constructor <;> cbv

end LogIndex

end RecordStore
