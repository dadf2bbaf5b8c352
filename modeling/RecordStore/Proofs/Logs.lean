import RecordStore.Proofs.Places

/-!
Opening a log.

Making folders and making a log leave the rows of every log as they are, and a log that is
opened has the rows of the log at its place, or none when there was no log. All of it
spares every other place.
-/

namespace RecordStore.Disk

/-- The rows of the log at a place; where no log is, there are none. -/
def logRows (disk : Disk) (route : Route) : Assoc String Bytes :=
  match disk.node? route with
  | some (.log id) => (disk.log id).rows
  | _ => []

variable {place : Route} {disk disk' : Disk}

theorem logRows_of_log {route : Route} {id : Nat} (there : disk.node? route = some (.log id)) :
    disk.logRows route = (disk.log id).rows := by
  simp [logRows, there]

theorem logRows_of_not_log {route : Route}
    (other : ∀ id, disk.node? route ≠ some (.log id)) : disk.logRows route = [] := by
  unfold logRows
  split
  · rename_i id there
    exact absurd there (other id)
  · rfl

/-- A node that is no log, where nothing was, adds no rows. -/
theorem logRows_setNode {route : Route} {node : Node} (free : disk.node? route = none)
    (plain : ∀ id, node ≠ .log id) (other : Route) :
    (disk.setNode route node).logRows other = disk.logRows other := by
  by_cases same : route = other
  · subst same
    rw [logRows_of_not_log fun id there => ?_, logRows_of_not_log fun id there => ?_]
    · rw [free] at there
      cases there
    · rw [node?_setNode_self] at there
      exact plain id (Option.some.inj there)
  · unfold logRows
    rw [node?_setNode, if_neg same]
    rfl

/-! ### Folders -/

theorem makeFolderAt_spec {names : List String} (made : disk.makeFolderAt names = .ok disk') :
    Spares place disk disk' ∧ ∀ route, disk'.logRows route = disk.logRows route := by
  unfold makeFolderAt at made
  split at made
  · cases made
  · split at made
    · rename_i free
      cases made
      refine ⟨spares_setNode_folder rfl ?_, ?_⟩
      · intro _ id there
        rw [free] at there
        cases there
      · intro route
        exact logRows_setNode free (fun _ same => by cases same) route
    · cases made

/-- Making folders makes nothing else, also where it fails. -/
theorem makeFolders_spec {names : List String} {result : Except IoFault Unit}
    (made : disk.makeFolders names = (result, disk')) :
    Spares place disk disk' ∧ ∀ route, disk'.logRows route = disk.logRows route := by
  induction names generalizing result disk' with
  | nil =>
      cases made
      exact ⟨.refl _ _, fun _ => rfl⟩
  | cons name around ih =>
      unfold makeFolders at made
      dsimp only at made
      split at made
      · rename_i middle one
        cases made
        exact makeFolderAt_spec one
      · split at made
        · rename_i fault middle outer
          cases made
          exact ih outer
        · rename_i middle outer
          obtain ⟨spares, rows⟩ := ih outer
          split at made
          · rename_i last one
            cases made
            obtain ⟨spares', rows'⟩ := @makeFolderAt_spec place _ _ _ one
            exact ⟨spares.trans spares', fun route => (rows' route).trans (rows route)⟩
          · cases made
            exact ⟨spares, rows⟩
      · cases made
        exact ⟨.refl _ _, fun _ => rfl⟩

/-! ### Logs -/

/-- What a log consists of, made where it is missing. -/
theorem createLog_spec (disk : Disk) (route : Route) :
    (place ≠ route → Spares place disk (disk.createLog route).2) ∧
      (disk.createLog route).2.node? route = some (.log (disk.createLog route).1) ∧
      ((disk.createLog route).2.log (disk.createLog route).1).rows = [] := by
  have fill (disk : Disk) (name : String) : Spares place disk
      (if (disk.node? (route ++ [name])).isSome then disk
        else (disk.createAt (route ++ [name]) (.bytes (Bytes.ofText name))).2) := by
    split
    · exact .refl _ _
    · rename_i free
      exact spares_createAt (Option.not_isSome_iff_eq_none.mp free)
  have filled := (fill disk "conf").trans (fill _ "db")
  refine ⟨fun away => filled.trans (spares_newLog away), ?_, ?_⟩
  · exact node?_setNode_self _ _ _
  · simp [createLog, Disk.log]

/-- What opening a log comes to: with the log, its place and its rows, and without, no change of any
rows. -/
structure Opens (place route : Route) (disk : Disk) (result : Except IoFault Nat)
    (disk' : Disk) : Prop where
  spares : place ≠ route → Spares place disk disk'
  failed : ∀ fault, result = .error fault → ∀ other, disk'.logRows other = disk.logRows other
  node : ∀ id, result = .ok id → disk'.node? route = some (.log id)
  rows : ∀ id, result = .ok id → (disk'.log id).rows = disk.logRows route

theorem opens_openLogAt {route : Route} {result : Except IoFault Nat}
    (opened : disk.openLogAt route = (result, disk')) : Opens place route disk result disk' := by
  unfold openLogAt at opened
  dsimp only at opened
  split at opened
  · cases opened
    exact ⟨fun _ => .refl _ _, fun _ _ _ => rfl, fun _ same => (by cases same),
      fun _ same => (by cases same)⟩
  · split at opened
    · rename_i id there
      cases opened
      refine ⟨fun _ => .refl _ _, fun _ same => (by cases same), ?_,
        ?_⟩
      · intro id same
        cases same
        exact there
      · intro id same
        cases same
        exact (logRows_of_log there).symm
    · rename_i other
      cases opened
      obtain ⟨spares, node, rows⟩ := @createLog_spec place disk route
      refine ⟨spares, fun _ same => (by cases same), ?_, ?_⟩
      · intro id same
        cases same
        exact node
      · intro id same
        cases same
        rw [rows, logRows_of_not_log fun id there => other id there]

/-- Opening a log gives the rows of the log at its place. -/
theorem opens_openLog {path : String} {result : Except IoFault Nat}
    (opened : disk.openLog path = (result, disk')) :
    Opens place (placeOf path) disk result disk' := by
  have failed {disk' : Disk} {fault : IoFault} (spares : Spares place disk disk')
      (rows : ∀ route, disk'.logRows route = disk.logRows route) :
      Opens place (placeOf path) disk (.error fault) disk' :=
    ⟨fun _ => spares, fun _ _ => rows, fun _ same => (by cases same),
      fun _ same => (by cases same)⟩
  unfold openLog at opened
  dsimp only at opened
  split at opened
  · cases opened
    exact failed (.refl _ _) fun _ => rfl
  · generalize folders : (if disk.has (pathWithin path "blobs") then (.ok (), disk) else
      disk.makeFolders _ : Except IoFault Unit × Disk) = made at opened
    obtain ⟨outcome, middle⟩ := made
    have around : Spares place disk middle ∧
        ∀ route, middle.logRows route = disk.logRows route := by
      split at folders
      · cases folders
        exact ⟨.refl _ _, fun _ => rfl⟩
      · exact makeFolders_spec folders
    dsimp only at opened
    split at opened
    · cases opened
      exact failed around.1 around.2
    · cases opened
      exact failed around.1 around.2
    · rename_i route leads
      obtain rfl := eq_follow_of_walk leads
      have opens : Opens place (placeOf path) middle result disk' := opens_openLogAt opened
      refine ⟨fun away => around.1.trans (opens.spares away), ?_,
        opens.node, fun id ok => (opens.rows id ok).trans (around.2 _)⟩
      intro fault error other
      rw [opens.failed fault error, around.2]

end RecordStore.Disk
