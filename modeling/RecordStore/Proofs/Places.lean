import RecordStore.Proofs.Connection
import Mathlib.Data.String.Basic

/-!
Where a path leads, and what leaves the file there alone.

The names of a path lead to the same place on every disk that has what stands on the way
(`placeOf`). A change of a disk spares a place when the file that stands there stays and
keeps what it holds; folders stay folders under such a change, so a path that led to the
file leads there still. Everything an index does to a disk spares the places that are not
its own.
-/

namespace RecordStore

namespace Disk

/-! ### Following names -/

/-- The place that names lead to from another one, whatever stands on the way. -/
def follow : Route → List String → Route
  | route, [] => route
  | route, name :: names =>
    if name = "" ∨ name = "." then follow route names
    else if name = ".." then follow route.dropLast names
    else follow (route ++ [name]) names

/-- The place of a path. -/
def placeOf (path : String) : Route :=
  follow [] (path.splitOn "/")

/-- Cutting a text at slashes is cutting it at a letter. -/
theorem splitOnAux_slash (text : String) (start here : String.Pos.Raw) (done : List String) :
    text.splitOnAux "/" start here 0 done = text.splitAux (· == '/') start here done := by
  have slash : (0 : String.Pos.Raw).get "/" = '/' := by decide +kernel
  have next : (0 : String.Pos.Raw).next "/" = ⟨1⟩ := by decide +kernel
  have past : (⟨1⟩ : String.Pos.Raw).atEnd "/" = true := by decide +kernel
  fun_induction String.splitAux text (· == '/') start here done with
  | case1 start here done ended => rw [String.splitOnAux, if_pos ended]
  | case2 start here done more _ cut at' ih =>
      have back : (here.next text).unoffsetBy ⟨1⟩ = here := by
        have size : '/'.utf8Size = 1 := by decide
        have letter : here.get text = '/' := by simpa using cut
        simp [String.Pos.Raw.next, letter, size, String.Pos.Raw.unoffsetBy]
      rw [String.splitOnAux, if_neg more]
      simp only [slash, cut, next, past, if_true, back]
      exact ih
  | case3 start here done more _ other ih =>
      rw [String.splitOnAux, if_neg more]
      simp only [slash, other]
      exact ih

/-- The names of a path, letter by letter. -/
theorem splitOn_slash (path : String) :
    path.splitOn "/" = (path.toList.splitOnP (· == '/')).map String.ofList := by
  rw [← String.splitToList_of_valid, String.splitToList, ← splitOnAux_slash]
  rfl

theorem eq_follow_of_walk {disk : Disk} {start place : Route} {names : List String}
    (leads : disk.walk start names = .ok place) : place = follow start names := by
  induction names generalizing start with
  | nil =>
      cases leads
      rfl
  | cons name names ih =>
      unfold walk at leads
      split at leads
      · cases leads
      · rename_i route entered
        rw [ih leads]
        unfold enter at entered
        split at entered
        · cases entered
        · split at entered
          · split at entered
            · rename_i stay
              cases entered
              rw [follow, if_pos stay]
            · rename_i move
              split at entered
              · rename_i up
                cases entered
                rw [follow, if_neg move, if_pos up]
              · rename_i down
                split at entered
                · cases entered
                · cases entered
                  rw [follow, if_neg move, if_neg down]
          · cases entered

theorem eq_placeOf_of_route {disk : Disk} {path : String} {place : Route}
    (leads : disk.route path = .ok place) : place = placeOf path := by
  unfold route at leads
  split at leads
  · cases leads
  · exact eq_follow_of_walk leads

theorem eq_follow_of_placeFrom? {disk : Disk} {start place : Route} {names : List String}
    (leads : Connection.placeFrom? disk start names = some place) :
    place = follow start names := by
  induction names generalizing start with
  | nil =>
      cases leads
      rfl
  | cons name names ih =>
      unfold Connection.placeFrom? at leads
      rw [follow]
      split at leads
      · rename_i stay
        rw [if_pos stay, ih leads]
      · rename_i move
        rw [if_neg move]
        split at leads
        · rename_i up
          rw [if_pos up, ih leads]
        · rename_i down
          rw [if_neg down]
          split at leads
          · exact ih leads
          · cases leads

/-! ### Sound disks -/

/-- The files of a disk have identities of their own. -/
structure Sound (disk : Disk) : Prop where
  known : ∀ route id, disk.node? route = some (.file id) → id < disk.next
  distinct : ∀ route other id, disk.node? route = some (.file id) →
    disk.node? other = some (.file id) → route = other
  shared : ∀ name memory, Assoc.find? name disk.memories = some memory →
    memory.id < disk.next ∧ (∀ route, disk.node? route ≠ some (.file memory.id)) ∧
      0 < memory.holders

theorem sound_empty : empty.Sound := by
  have free (route : Route) (id : Nat) : empty.node? route ≠ some (.file id) := by
    by_cases root : route = [] <;> simp [node?, empty, Assoc.find?, root]
  refine ⟨fun route id there => absurd there (free route id),
    fun route _ id there => absurd there (free route id), ?_⟩
  intro _ _ there
  cases there

/-- Whether a folder is at a place. -/
def HasFolder (disk : Disk) (route : Route) : Prop :=
  ∃ node, disk.node? route = some node ∧ isFolder node = true

/-! ### Changes that spare a place -/

/-- The file at a place stays there with what it holds, folders stay, and a sound disk stays sound.
-/
structure Spares (place : Route) (before after : Disk) : Prop where
  node : ∀ id, before.node? place = some (.file id) → after.node? place = some (.file id)
  body : before.Sound → ∀ id, before.node? place = some (.file id) →
    after.body id = before.body id
  folders : ∀ route, before.HasFolder route → after.HasFolder route
  next : before.next ≤ after.next
  sound : before.Sound → after.Sound

theorem Spares.refl (place : Route) (disk : Disk) : Spares place disk disk :=
  ⟨fun _ there => there, fun _ _ _ => rfl, fun _ there => there, Nat.le_refl _, id⟩

theorem Spares.trans {place : Route} {first second third : Disk}
    (one : Spares place first second) (other : Spares place second third) :
    Spares place first third := by
  refine ⟨fun id there => other.node id (one.node id there), ?_,
    fun route there => other.folders route (one.folders route there),
    Nat.le_trans one.next other.next, fun sound => other.sound (one.sound sound)⟩
  intro sound id there
  rw [other.body (one.sound sound) id (one.node id there), one.body sound id there]

/-- A way that could be gone can still be gone. -/
theorem Spares.walk {place : Route} {before after : Disk} (spares : Spares place before after)
    {start route : Route} {names : List String} (leads : before.walk start names = .ok route) :
    after.walk start names = .ok route := by
  induction names generalizing start with
  | nil => exact leads
  | cons name names ih =>
      unfold Disk.walk at leads ⊢
      split at leads
      · cases leads
      · rename_i next entered
        have again : after.enter start name = .ok next := by
          unfold enter at entered ⊢
          split at entered
          · cases entered
          · rename_i node there
            split at entered
            · rename_i open'
              obtain ⟨node', there', open''⟩ := spares.folders start ⟨node, there, open'⟩
              rw [there']
              simp only [open'', if_true]
              exact entered
            · cases entered
        rw [again]
        exact ih leads

theorem Spares.route {place : Route} {before after : Disk} (spares : Spares place before after)
    {path : String} {route : Route} (leads : before.route path = .ok route) :
    after.route path = .ok route := by
  unfold Disk.route at leads ⊢
  split at leads
  · cases leads
  · exact spares.walk leads

/-! ### What spares a place -/

variable {place : Route} {disk : Disk}

theorem hasFolder_setNode {route other : Route} {node : Node}
    (kept : route = other → isFolder node = true) (there : disk.HasFolder other) :
    (disk.setNode route node).HasFolder other := by
  by_cases same : route = other
  · exact ⟨node, by rw [node?_setNode, if_pos same], kept same⟩
  · obtain ⟨old, found, folder⟩ := there
    exact ⟨old, by rw [node?_setNode, if_neg same]; exact found, folder⟩

/-- A folder may stand anywhere but in the place of the file that is spared. -/
theorem spares_setNode_folder {route : Route} {node : Node} (folder : isFolder node = true)
    (free : route = place → ∀ id, disk.node? route ≠ some (.file id)) :
    Spares place disk (disk.setNode route node) := by
  have file : ∀ other id, (disk.setNode route node).node? other = some (.file id) →
      disk.node? other = some (.file id) := by
    intro other id there
    rw [node?_setNode] at there
    split at there
    · cases there
      cases folder
    · exact there
  constructor
  · intro id there
    rw [node?_setNode, if_neg]
    · exact there
    · rintro rfl
      exact free rfl id there
  · intro _ id _
    rfl
  · intro other there
    exact hasFolder_setNode (fun _ => folder) there
  · exact Nat.le_refl _
  · intro sound
    refine ⟨fun other id there => sound.known other id (file other id there),
      fun one other id there there' =>
        sound.distinct one other id (file one id there) (file other id there'),
      ?_⟩
    intro name memory shared
    obtain ⟨known, hidden, held⟩ := sound.shared name memory shared
    exact ⟨known, fun other there => hidden other (file other _ there), held⟩

/-- A new file may stand wherever nothing stands. -/
theorem spares_createAt {route : Route} {body : Body} (free : disk.node? route = none) :
    Spares place disk (disk.createAt route body).2 := by
  have file : ∀ other id, (disk.createAt route body).2.node? other = some (.file id) →
      other = route ∧ id = disk.next ∨ disk.node? other = some (.file id) := by
    intro other id there
    rw [node?_createAt] at there
    split at there
    · rename_i same
      cases there
      exact .inl ⟨same.symm, rfl⟩
    · exact .inr there
  have stays : ∀ other node, disk.node? other = some node →
      (disk.createAt route body).2.node? other = some node := by
    intro other node there
    rw [node?_createAt, if_neg]
    · exact there
    · rintro rfl
      rw [free] at there
      cases there
  constructor
  · intro id there
    exact stays place _ there
  · intro sound id there
    have old : disk.next ≠ id := Nat.ne_of_gt (sound.known place id there)
    exact (body_createFile disk body id).trans (if_neg old)
  · rintro other ⟨node, there, folder⟩
    exact ⟨node, stays other node there, folder⟩
  · exact Nat.le_succ _
  · intro sound
    refine ⟨?_, ?_,
      ?_⟩
    · intro other id there
      rcases file other id there with ⟨-, rfl⟩ | old
      · exact Nat.lt_succ_self _
      · exact Nat.lt_succ_of_lt (sound.known other id old)
    · intro one other id there there'
      rcases file one id there with ⟨rfl, rfl⟩ | old
      · rcases file other _ there' with ⟨rfl, -⟩ | old'
        · rfl
        · exact absurd (sound.known other _ old') (Nat.lt_irrefl _)
      · rcases file other id there' with ⟨rfl, rfl⟩ | old'
        · exact absurd (sound.known one _ old) (Nat.lt_irrefl _)
        · exact sound.distinct one other id old old'
    · intro name memory shared
      obtain ⟨known, hidden, held⟩ := sound.shared name memory shared
      refine ⟨Nat.lt_succ_of_lt known, ?_, held⟩
      intro other there
      rcases file other _ there with ⟨-, same⟩ | old
      · rw [same] at known
        exact Nat.lt_irrefl _ known
      · exact hidden other old

/-- A new log may stand anywhere else. -/
theorem spares_newLog {route : Route} (away : place ≠ route) {logs : Assoc Nat Log} :
    Spares place disk { disk with
      nodes := Assoc.put route (.log disk.next) disk.nodes, logs, next := disk.next + 1 } := by
  have folder := @spares_setNode_folder place disk route (.log disk.next) rfl
    fun same => absurd same.symm away
  constructor
  · exact folder.node
  · intro _ id _
    rfl
  · exact folder.folders
  · exact Nat.le_succ _
  · intro sound
    have after := folder.sound sound
    refine ⟨fun other id there => Nat.lt_succ_of_lt (after.known other id there),
      after.distinct, ?_⟩
    intro name memory shared
    obtain ⟨known, hidden, held⟩ := after.shared name memory shared
    exact ⟨Nat.lt_succ_of_lt known, hidden, held⟩

theorem spares_setLog (id : Nat) (log : Log) : Spares place disk (disk.setLog id log) :=
  ⟨fun _ there => there, fun _ _ _ => rfl, fun _ there => there, Nat.le_refl _,
    fun sound => ⟨sound.known, sound.distinct, sound.shared⟩⟩

/-- Another file may hold something else. -/
theorem spares_setBody {id : Nat} (other : disk.node? place ≠ some (.file id)) (body : Body) :
    Spares place disk (disk.setBody id body) := by
  refine ⟨fun _ there => there, ?_, fun _ there => there, Nat.le_refl _,
    fun sound => ⟨sound.known, sound.distinct, sound.shared⟩⟩
  intro _ own there
  refine body_setBody_of_ne disk ?_ body
  rintro rfl
  exact other there

/-- A new file may stand nowhere. -/
theorem spares_createFile (body : Body) : Spares place disk (disk.createFile body).2 := by
  refine ⟨fun _ there => there, ?_, fun _ there => there, Nat.le_succ _,
    ?_⟩
  · intro sound id there
    have old : disk.next ≠ id := Nat.ne_of_gt (sound.known place id there)
    exact (body_createFile disk body id).trans (if_neg old)
  · intro sound
    refine ⟨fun route id there => Nat.lt_succ_of_lt (sound.known route id there), sound.distinct,
      ?_⟩
    intro name memory shared
    obtain ⟨known, hidden, held⟩ := sound.shared name memory shared
    exact ⟨Nat.lt_succ_of_lt known, hidden, held⟩

/-- What is shared in memory may change as long as no file of the disk is shared. -/
theorem spares_memories {memories : Assoc String SharedMemory}
    (shared : disk.Sound → ∀ name memory, Assoc.find? name memories = some memory →
      memory.id < disk.next ∧ (∀ route, disk.node? route ≠ some (.file memory.id)) ∧
        0 < memory.holders) :
    Spares place disk { disk with memories } :=
  ⟨fun _ there => there, fun _ _ _ => rfl, fun _ there => there, Nat.le_refl _,
    fun sound => ⟨sound.known, sound.distinct, shared sound⟩⟩

theorem spares_putMemory {name : String} {memory : SharedMemory}
    (shared : disk.Sound → memory.id < disk.next ∧
      (∀ route, disk.node? route ≠ some (.file memory.id)) ∧ 0 < memory.holders) :
    Spares place disk { disk with memories := Assoc.put name memory disk.memories } := by
  apply spares_memories
  intro sound other memory' there
  rw [Assoc.find?_put] at there
  split at there
  · cases there
    exact shared sound
  · exact sound.shared other memory' there

theorem spares_eraseMemory {name : String} :
    Spares place disk { disk with memories := Assoc.erase name disk.memories } := by
  apply spares_memories
  intro sound other memory there
  rw [Assoc.find?_erase] at there
  split at there
  · cases there
  · exact sound.shared other memory there

end Disk

/-- Clearing spares every place that is not beside the file of the connection. -/
theorem Connection.Clears.spares {connection : Connection} {place : Route} {before after : Disk}
    (clears : connection.Clears before after)
    (away : ∀ home, connection.home = some home →
      place ≠ journal home ∧ place ≠ writeAhead home) :
    Disk.Spares place before after := by
  have old : ∀ route node, after.node? route = some node → before.node? route = some node := by
    intro route node there
    rcases clears.nodes route with same | ⟨gone, -⟩
    · rwa [← same]
    · rw [gone] at there
      cases there
  constructor
  · intro id there
    rcases clears.nodes place with same | ⟨-, -, home, found, beside⟩
    · rwa [same]
    · rcases beside with rfl | rfl
      · exact absurd rfl (away home found).1
      · exact absurd rfl (away home found).2
  · intro _ id _
    exact clears.body_eq id
  · rintro route ⟨node, there, folder⟩
    rcases clears.nodes route with same | ⟨-, ⟨id, was⟩, -⟩
    · exact ⟨node, same.trans there, folder⟩
    · rw [was] at there
      cases there
      cases folder
  · exact Nat.le_of_eq clears.next.symm
  · intro sound
    refine ⟨?_, ?_,
      ?_⟩
    · intro route id there
      rw [clears.next]
      exact sound.known route id (old route _ there)
    · intro one other id there there'
      exact sound.distinct one other id (old one _ there) (old other _ there')
    · intro name memory shared
      rw [clears.memories] at shared
      rw [clears.next]
      obtain ⟨known, hidden, held⟩ := sound.shared name memory shared
      exact ⟨known, fun route there => hidden route (old route _ there), held⟩

end RecordStore
