/-!
Maps as lists of pairs, in the order in which their keys came.

A key that is put again keeps its place. `find?_put` says all there is to know of
`put`: it changes what is found under that key and under no other.
-/

namespace RecordStore

/-- A map from keys to values, no key twice. -/
abbrev Assoc (κ α : Type) := List (κ × α)

namespace Assoc

variable {κ α : Type} [DecidableEq κ]

/-- The value under a key. -/
def find? (key : κ) : Assoc κ α → Option α
  | [] => none
  | (k, value) :: rest => if k = key then some value else find? key rest

/-- Puts a value under a key. -/
def put (key : κ) (value : α) : Assoc κ α → Assoc κ α
  | [] => [(key, value)]
  | (k, old) :: rest => if k = key then (key, value) :: rest else (k, old) :: put key value rest

/-- Puts pairs into a map, in order. -/
def putAll (pairs : List (κ × α)) (map : Assoc κ α) : Assoc κ α :=
  pairs.foldl (fun map pair => put pair.1 pair.2 map) map

/-- Takes a key out. -/
def erase (key : κ) (map : Assoc κ α) : Assoc κ α :=
  map.filter fun pair => pair.1 ≠ key

/-- Whether there is a value under a key. -/
def has (key : κ) (map : Assoc κ α) : Bool :=
  (find? key map).isSome

/-- The keys in their order. -/
def keys (map : Assoc κ α) : List κ :=
  map.map (·.1)

@[simp] theorem putAll_nil (map : Assoc κ α) : putAll [] map = map := rfl

@[simp] theorem putAll_cons (pair : κ × α) (pairs : List (κ × α)) (map : Assoc κ α) :
    putAll (pair :: pairs) map = putAll pairs (put pair.1 pair.2 map) := rfl

@[simp] theorem putAll_append (first second : List (κ × α)) (map : Assoc κ α) :
    putAll (first ++ second) map = putAll second (putAll first map) := by
  simp [putAll]

theorem find?_put (key other : κ) (value : α) (map : Assoc κ α) :
    find? other (put key value map) = if key = other then some value else find? other map := by
  induction map with
  | nil => simp [put, find?]
  | cons pair rest ih =>
    obtain ⟨k, old⟩ := pair
    by_cases h : k = key
    · subst h
      by_cases same : k = other <;> simp [put, find?, same]
    · by_cases same : k = other
      · subst same
        simp [put, find?, h, Ne.symm h]
      · simp [put, find?, h, same, ih]

@[simp] theorem find?_put_self (key : κ) (value : α) (map : Assoc κ α) :
    find? key (put key value map) = some value := by
  simp [find?_put]

theorem find?_put_of_ne {key other : κ} (different : key ≠ other) (value : α) (map : Assoc κ α) :
    find? other (put key value map) = find? other map := by
  simp [find?_put, different]

/-- Putting adds the key at the end when it is new and changes no key otherwise. -/
theorem keys_put (key : κ) (value : α) (map : Assoc κ α) :
    keys (put key value map) = if has key map then keys map else keys map ++ [key] := by
  induction map with
  | nil => simp [put, keys, has, find?]
  | cons pair rest ih =>
    obtain ⟨k, old⟩ := pair
    by_cases h : k = key
    · simp [put, keys, has, find?, h]
    · simp only [keys, has] at ih
      cases there : (find? key rest).isSome <;>
        simp [put, keys, has, find?, h, there, ih]

end Assoc

end RecordStore
