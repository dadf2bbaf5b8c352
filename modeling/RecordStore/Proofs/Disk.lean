import RecordStore.Disk

/-!
What each change of a disk changes.

A change of a node, a body or a log is seen under its own place or identity and nowhere
else. These are the lemmas by which a disk is computed with; no proof looks into a map.
-/

namespace RecordStore

namespace Assoc

variable {κ α : Type} [DecidableEq κ]

theorem put_put (key : κ) (first second : α) (map : Assoc κ α) :
    put key second (put key first map) = put key second map := by
  induction map with
  | nil => simp [put]
  | cons pair rest ih =>
      obtain ⟨k, old⟩ := pair
      by_cases same : k = key <;> simp [put, same, ih]

theorem find?_eq_none_of_not_mem {key : κ} {map : Assoc κ α} (absent : key ∉ keys map) :
    find? key map = none := by
  induction map with
  | nil => rfl
  | cons pair rest ih =>
      rw [keys, List.map_cons, List.mem_cons, not_or] at absent
      rw [find?, if_neg (Ne.symm absent.1)]
      exact ih absent.2

/-- A new key is put behind the others. -/
theorem put_of_find?_eq_none {key : κ} {map : Assoc κ α} (new : find? key map = none) (value : α) :
    put key value map = map ++ [(key, value)] := by
  induction map with
  | nil => rfl
  | cons pair rest ih =>
      obtain ⟨k, old⟩ := pair
      rw [find?] at new
      split at new
      · cases new
      · rename_i other
        rw [put, if_neg other, ih new, List.cons_append]

theorem find?_erase (key other : κ) (map : Assoc κ α) :
    find? other (erase key map) = if key = other then none else find? other map := by
  induction map with
  | nil => simp [erase, find?]
  | cons pair rest ih =>
      obtain ⟨k, value⟩ := pair
      unfold erase at ih ⊢
      by_cases gone : k = key
      · subst gone
        by_cases same : k = other
        · simp [same] at ih ⊢
          simpa [same] using ih
        · simp [find?, same] at ih ⊢
          simpa [same] using ih
      · by_cases same : k = other
        · subst same
          simp [find?, gone, Ne.symm gone]
        · simp [find?, gone, same] at ih ⊢
          exact ih

theorem erase_erase (key : κ) (map : Assoc κ α) : erase key (erase key map) = erase key map := by
  simp [erase]

/-- A key that is not there leaves nothing to take out. -/
theorem erase_of_find?_eq_none {key : κ} {map : Assoc κ α} (absent : find? key map = none) :
    erase key map = map := by
  induction map with
  | nil => rfl
  | cons pair rest ih =>
      rw [find?] at absent
      split at absent
      · cases absent
      · rename_i other
        simpa [erase, other] using ih absent

end Assoc

namespace Disk

variable (disk : Disk)

/-! ### Nodes -/

theorem node?_setNode (route other : Route) (node : Node) :
    (disk.setNode route node).node? other =
      if route = other then some node else disk.node? other := by
  by_cases same : route = other <;> simp [node?, setNode, Assoc.find?_put, same]

@[simp] theorem node?_setNode_self (route : Route) (node : Node) :
    (disk.setNode route node).node? route = some node := by
  simp [node?_setNode]

theorem node?_eraseNode (route other : Route) :
    (disk.eraseNode route).node? other =
      if route = other then (if other = [] then some .folder else none)
      else disk.node? other := by
  by_cases same : route = other <;> simp [node?, eraseNode, Assoc.find?_erase, same]

theorem node?_eraseNode_of_ne {route other : Route} (different : route ≠ other) :
    (disk.eraseNode route).node? other = disk.node? other := by
  simp [node?_eraseNode, different]

@[simp] theorem eraseNode_eraseNode (route : Route) :
    (disk.eraseNode route).eraseNode route = disk.eraseNode route := by
  simp [eraseNode, Assoc.erase_erase]

@[simp] theorem node?_setBody (id : Nat) (body : Body) (route : Route) :
    (disk.setBody id body).node? route = disk.node? route := rfl

theorem node?_createAt (route other : Route) (body : Body) :
    (disk.createAt route body).2.node? other =
      if route = other then some (.file disk.next) else disk.node? other :=
  node?_setNode _ _ _ _

/-! ### Bodies -/

theorem body_setBody (id other : Nat) (body : Body) :
    (disk.setBody id body).body other = if id = other then body else disk.body other := by
  by_cases same : id = other <;> simp [Disk.body, setBody, Assoc.find?_put, same]

@[simp] theorem body_setBody_self (id : Nat) (body : Body) :
    (disk.setBody id body).body id = body := by
  simp [body_setBody]

theorem body_setBody_of_ne {id other : Nat} (different : id ≠ other) (body : Body) :
    (disk.setBody id body).body other = disk.body other := by
  simp [body_setBody, different]

theorem body_createFile (body : Body) (id : Nat) :
    (disk.createFile body).2.body id = if disk.next = id then body else disk.body id := by
  by_cases same : disk.next = id <;> simp [Disk.body, createFile, Assoc.find?_put, same]

@[simp] theorem setBody_setBody (id : Nat) (first second : Body) :
    (disk.setBody id first).setBody id second = disk.setBody id second := by
  simp [setBody, Assoc.put_put]

/-- A file has the bytes that were added behind those that it had, if it has bytes at all. -/
theorem body_appendTo_self (id : Nat) (bytes : Bytes) :
    (disk.appendTo id bytes).body id = (disk.body id).append bytes :=
  body_setBody_self _ _ _

/-! ### Logs -/

theorem log_setLog (id other : Nat) (log : Log) :
    (disk.setLog id log).log other = if id = other then log else disk.log other := by
  by_cases same : id = other <;> simp [Disk.log, setLog, Assoc.find?_put, same]

@[simp] theorem log_setLog_self (id : Nat) (log : Log) : (disk.setLog id log).log id = log := by
  simp [log_setLog]

@[simp] theorem setLog_setLog (id : Nat) (first second : Log) :
    (disk.setLog id first).setLog id second = disk.setLog id second := by
  simp [setLog, Assoc.put_put]

end Disk

end RecordStore
