import RecordStore.Json.Tagged
import RecordStore.Proofs.Json.Passing

/-!
Objects whose members stand in any order.

A reader of a record or of a tagged value has a slot for each member that it knows. `SlotsText` is
the grammar of the objects that fill the slots: every member that is given stands once, in whatever
order, and between them stand any members that have no slot. What is read is the value that is known
from the members given, and no other member plays a part (`Record.read_of_slotsText`,
`readTagged_of_slotsText`). Both readers keep a draft, and along the members the draft is always the
value `known names` that belongs to the names read so far; each field or part has to show that it
takes that value a name further (`Fills`, `Decodes`).
-/

namespace RecordStore.Json

/-! ### The grammar -/

/-- A member that an object has a slot for: its name, whether it is given, and what its value looks
like. -/
structure Slot where
  name : String
  given : Bool
  Form : Bytes → Prop

/-- A slot for one scalar. -/
def Slot.scalar (name : String) (given : Bool) (value : Json) : Slot :=
  ⟨name, given, fun bytes => ScalarText bytes value⟩

/-- What the value of a member looks like: as its slot says, or as members without one may. -/
def formOf (slots : List Slot) (Other : Bytes → Prop) (name : String) : Bytes → Prop :=
  match slots.find? fun slot => slot.name == name with
  | some slot => slot.Form
  | none => Other

/-- A member of an object: its name, a colon, and a value that goes with the name. -/
inductive Labelled (Form : String → Bytes → Prop) : Bytes → String → Prop
  | member {raw before after bytes : Bytes} {name : String} (named : Spells raw name.toList)
      (left : Blanks before) (right : Blanks after) (stands : Form name bytes) :
      Labelled Form (34 :: (raw ++ 34 :: (before ++ 58 :: (after ++ bytes)))) name

/-- The bytes are an object that fills the slots: each member that is given stands in it once and
the others do not, in any order and among any members that have no slot. -/
inductive SlotsText (slots : List Slot) (Other : Bytes → Prop) : Bytes → Prop
  | members {bytes : Bytes} {names : List String}
      (entries : Listing 125 (Labelled (formOf slots Other)) true bytes names)
      (counted : ∀ slot ∈ slots, names.count slot.name = if slot.given then 1 else 0) :
      SlotsText slots Other (123 :: bytes)

variable {α β : Type} {bytes blanks after : Bytes} {first : Bool} {fuel depth levels : Nat}
  {slots : List Slot} {Other : Bytes → Prop} {names given : List String} {known : List String → α}

/-! ### Scalars -/

theorem Reader.map_eq_ok {reader : Reader α} {value : α} (f : α → β)
    (read : reader depth bytes = .ok (value, after)) :
    reader.map f depth bytes = .ok (f value, after) := by
  simp only [Reader.map, read]

theorem readNatural_of_scalarText {n : Nat} (expected : String)
    (form : ScalarText bytes (.number (.natural n))) (only : Blanks blanks) (ends : Ends after) :
    readNatural expected depth (blanks ++ (bytes ++ after)) = .ok (n, after) := by
  obtain ⟨b, more, rfl, begins, -⟩ := form.lead
  have read := form.read ends
  unfold readNatural
  simp only [List.cons_append, skipBlanks_mark only begins.1]
  rcases scalar_eq_number_iff.mp read with ⟨minus, read⟩ | ⟨digit, read⟩
  · simp only [minus, if_pos, read]
  · have noSign : b ≠ 45 := by
      rintro rfl
      exact absurd digit (by decide)
    rw [if_neg noSign, if_pos digit, read]

theorem readString_of_scalarText {text : String} (expected : String)
    (form : ScalarText bytes (.text text)) (only : Blanks blanks) (after : Bytes) :
    readString expected depth (blanks ++ (bytes ++ after)) = .ok (text, after) := by
  cases form with
  | text spells =>
      rename_i raw
      have read := readText_eq_ok_iff.mpr ⟨raw, spells, (rfl : raw ++ 34 :: after = _)⟩
      rw [List.cons_append, List.append_assoc, List.singleton_append]
      simp only [readString, skipBlanks_mark only (by decide : ¬IsBlank 34), if_pos, read]

theorem readName_of_scalarText {choices : Choices α} {name : String} {value : α}
    (offered : choices.lookup name = some value) (form : ScalarText bytes (.text name))
    (only : Blanks blanks) (after : Bytes) :
    readName choices depth (blanks ++ (bytes ++ after)) = .ok (value, after) := by
  simp only [readName, readString_of_scalarText _ form only after, offered]

theorem readChoice_of_scalarText {choices : Choices α} {name : String} {value : α}
    (offered : choices.lookup name = some value) (form : ScalarText bytes (.text name))
    (only : Blanks blanks) (after : Bytes) :
    readChoice choices depth (blanks ++ (bytes ++ after)) = .ok (value, after) := by
  have read : readName choices depth (bytes ++ after) = .ok (value, after) :=
    readName_of_scalarText offered form Blanks.nil after
  cases form with
  | text spells =>
      simp only [readChoice, List.cons_append, skipBlanks_mark only (by decide : ¬IsBlank 34),
        if_pos]
      exact read

/-! ### Names with and without a slot -/

/-- In two lists of named things that go together, a name is in neither, or it is in both and what
it names goes together. -/
theorem find?_of_forall₂ {γ δ : Type} {Fits : γ → δ → Prop} {left : γ → String}
    {right : δ → String} {lefts : List γ} {rights : List δ}
    (fits : List.Forall₂ Fits lefts rights) (same : ∀ l r, Fits l r → left l = right r)
    (name : String) :
    (lefts.find? fun l => left l == name) = none ∧ (rights.find? fun r => right r == name) = none ∨
      ∃ l r, (lefts.find? fun l => left l == name) = some l ∧
        (rights.find? fun r => right r == name) = some r ∧ Fits l r := by
  induction fits with
  | nil => exact .inl ⟨rfl, rfl⟩
  | cons fit _ ih =>
      rename_i l r lefts rights _
      by_cases here : right r = name
      · refine .inr ⟨l, r, ?_, ?_, fit⟩
        · exact List.find?_cons_of_pos (by simp [same l r fit, here])
        · exact List.find?_cons_of_pos (by simp [here])
      · rw [List.find?_cons_of_neg (by simp [same l r fit, here]),
          List.find?_cons_of_neg (by simp [here])]
        exact ih

theorem exists_of_forall₂ {γ δ : Type} {Fits : γ → δ → Prop} {lefts : List γ} {rights : List δ}
    (fits : List.Forall₂ Fits lefts rights) : ∀ l ∈ lefts, ∃ r ∈ rights, Fits l r := by
  induction fits with
  | nil => exact List.forall_mem_nil _
  | cons fit _ ih =>
      rw [List.forall_mem_cons]
      constructor
      · exact ⟨_, List.mem_cons_self, fit⟩
      · intro l here
        obtain ⟨r, there, fit⟩ := ih l here
        exact ⟨r, List.mem_cons_of_mem _ there, fit⟩

/-- The names that have been taken up when another one has been read. -/
def taken (slots : List Slot) (given : List String) (name : String) : List String :=
  if ∃ slot ∈ slots, slot.name = name then name :: given else given

/-- Just the names of the members that are given have been taken up. -/
def Settled (slots : List Slot) (found : List String) : Prop :=
  ∀ slot ∈ slots, slot.name ∈ found ↔ slot.given = true

theorem count_taken {slot : Slot} (here : slot ∈ slots) (given : List String) (name : String) :
    (taken slots given name).count slot.name = (name :: given).count slot.name := by
  unfold taken
  by_cases known : ∃ slot ∈ slots, slot.name = name
  · rw [if_pos known]
  · have other : name ≠ slot.name := fun same => known ⟨slot, here, same.symm⟩
    rw [if_neg known, List.count_cons_of_ne other]

theorem count_foldl_taken {slot : Slot} (here : slot ∈ slots) (names given : List String) :
    (names.foldl (taken slots) given).count slot.name =
      names.count slot.name + given.count slot.name := by
  induction names generalizing given with
  | nil => rw [List.foldl_nil, List.count_nil, Nat.zero_add]
  | cons name names ih =>
      rw [List.foldl_cons, ih, count_taken here, List.count_cons, List.count_cons]
      omega

theorem settled_of_counted
    (counted : ∀ slot ∈ slots, names.count slot.name = if slot.given then 1 else 0) :
    Settled slots (names.foldl (taken slots) []) := by
  intro slot here
  rw [← List.count_pos_iff, count_foldl_taken here, counted slot here]
  cases slot.given <;> simp

theorem once_of_counted
    (counted : ∀ slot ∈ slots, names.count slot.name = if slot.given then 1 else 0) :
    ∀ slot ∈ slots, names.count slot.name + [].count slot.name ≤ 1 := by
  intro slot here
  rw [counted slot here, List.count_nil]
  split <;> omega

/-- Where no name is repeated, the next one has not been taken up. -/
theorem not_mem_of_once {name : String}
    (once : ∀ slot ∈ slots, (name :: names).count slot.name + given.count slot.name ≤ 1) :
    ∀ slot ∈ slots, slot.name = name → name ∉ given := by
  rintro slot here rfl again
  have := once slot here
  rw [List.count_cons_self] at this
  have := List.count_pos_iff.mpr again
  omega

theorem once_taken {name : String}
    (once : ∀ slot ∈ slots, (name :: names).count slot.name + given.count slot.name ≤ 1) :
    ∀ slot ∈ slots, names.count slot.name + (taken slots given name).count slot.name ≤ 1 := by
  intro slot here
  have := once slot here
  rw [List.count_cons] at this
  rw [count_taken here, List.count_cons]
  omega

/-! ### Records -/

/-- Reading the member of a slot takes the value that is known so far to the one that is known with
this member. -/
structure Fills (depth : Nat) (known : List String → α) (field : Field α) (slot : Slot) : Prop where
  name_eq : field.name = slot.name
  read : ∀ {bytes blanks after : Bytes}, slot.Form bytes → Blanks blanks → Ends after →
    ∃ change, field.read depth (blanks ++ (bytes ++ after)) = .ok (change, after) ∧
      ∀ given, change (known given) = known (slot.name :: given)

theorem Fills.map {reader : Reader β} {value : β} {put : β → α → α} {slot : Slot} {name : String}
    (same : name = slot.name)
    (reads : ∀ {bytes blanks after : Bytes}, slot.Form bytes → Blanks blanks → Ends after →
      reader depth (blanks ++ (bytes ++ after)) = .ok (value, after))
    (puts : ∀ given, put value (known given) = known (slot.name :: given)) :
    Fills depth known ⟨name, reader.map put⟩ slot where
  name_eq := same
  read form only ends := ⟨put value, Reader.map_eq_ok put (reads form only ends), puts⟩

/-- A member with a slot is taken up into the value; any other one is passed over. -/
theorem Record.readMember_of_form {record : Record α} {before : Bytes} {name : String}
    (fills : List.Forall₂ (Fills depth known) record.fields slots)
    (stands : formOf slots IsValue name bytes) (left : Blanks before) (right : Blanks blanks)
    (ends : Ends after) (fresh : ∀ slot ∈ slots, slot.name = name → name ∉ given) :
    record.readMember depth ⟨known given, given⟩ name
        (before ++ 58 :: (blanks ++ (bytes ++ after))) =
      .ok (⟨known (taken slots given name), taken slots given name⟩, after) := by
  have mark := colon_eq_ok_iff.mpr
    ⟨before, left, (rfl : before ++ 58 :: (blanks ++ (bytes ++ after)) = _)⟩
  rcases find?_of_forall₂ fills (fun _ _ => Fills.name_eq) name with
    ⟨noField, noSlot⟩ | ⟨field, slot, isField, isSlot, fill⟩
  · have other : taken slots given name = given := if_neg (by simpa using noSlot)
    have value : IsValue bytes := by simpa only [formOf, noSlot] using stands
    rw [other]
    simp only [readMember, noField, mark, skipValue_of_isValue value right ends]
  · have here := List.mem_of_find?_eq_some isSlot
    have same : slot.name = name := by simpa using List.find?_some isSlot
    have more : taken slots given name = name :: given := if_pos ⟨slot, here, same⟩
    have value : slot.Form bytes := by simpa only [formOf, isSlot] using stands
    obtain ⟨change, read, changes⟩ := fill.read value right ends
    have new : ¬given.contains name = true := by simpa using fresh slot here same
    rw [more]
    simp only [readMember, isField, if_neg new, mark, read, changes, same]

/-- The members of an object are taken up one by one. -/
theorem Record.readMembers_of_listing {record : Record α} (optional : record.complete = false)
    (fills : List.Forall₂ (Fills depth known) record.fields slots)
    (listing : Listing 125 (Labelled (formOf slots IsValue)) first bytes names)
    (once : ∀ slot ∈ slots, names.count slot.name + given.count slot.name ≤ 1)
    (enough : bytes.length ≤ fuel) (after : Bytes) :
    ∃ blanks, Blanks blanks ∧
      record.readMembers depth fuel first ⟨known given, given⟩ (bytes ++ after) =
        .ok (known (names.foldl (taken slots) given), blanks ++ 125 :: after) := by
  -- The names given grow along the members; that the draft is what is known from them is kept.
  induction listing generalizing fuel given with
  | close only =>
      rename_i first blanks
      simp only [List.length_append, List.length_singleton] at enough
      obtain ⟨fuel, rfl⟩ : ∃ more, fuel = more + 1 := ⟨fuel - 1, by omega⟩
      refine ⟨blanks, only, ?_⟩
      rw [List.append_assoc, List.singleton_append]
      simp only [readMembers, memberStart_close only, finish, optional, List.foldl_nil]
  | entry separated stands others ih =>
      rename_i first lead _ more name names
      obtain ⟨spells, left, right, stands⟩ := stands
      rename_i raw before blanks bytes
      simp only [List.length_append, List.length_cons] at enough
      obtain ⟨fuel, rfl⟩ : ∃ more, fuel = more + 1 := ⟨fuel - 1, by omega⟩
      have named := readText_eq_ok_iff.mpr ⟨raw, spells,
        (rfl : raw ++ 34 :: (before ++ 58 :: (blanks ++ (bytes ++ (more ++ after)))) = _)⟩
      have member := readMember_of_form fills stands left right (others.ends (by decide) after)
        (not_mem_of_once once)
      simp only [List.append_assoc, List.cons_append, readMembers, memberStart_lead separated,
        named, member, List.foldl_cons]
      exact ih (once_taken once) (by omega)

/-- An object that fills the slots of a record is read as the value that is known from the members
given. -/
theorem Record.read_of_slotsText {record : Record α} (optional : record.complete = false)
    (start : record.start = known []) (fills : List.Forall₂ (Fills depth known) record.fields slots)
    (deep : 0 < depth) (form : SlotsText slots IsValue bytes) (only : Blanks blanks)
    (after : Bytes) :
    ∃ found, Settled slots found ∧
      record.read (depth + 1) (blanks ++ (bytes ++ after)) = .ok (known found, after) := by
  obtain ⟨entries, counted⟩ := form
  rename_i bytes names
  refine ⟨_, settled_of_counted counted, ?_⟩
  have enough : bytes.length ≤ fuelFor (bytes ++ after) := length_le_fuelFor [] bytes after
  obtain ⟨behind, left, read⟩ :=
    readMembers_of_listing optional fills entries (once_of_counted counted) enough after
  have closed := closeObject_eq_ok_iff.mpr ⟨behind, left, (rfl : behind ++ 125 :: after = _)⟩
  simp only [Record.read, List.cons_append, skipBlanks_mark only (by decide : ¬IsBlank 123),
    if_neg (by decide : ¬(123 : UInt8) = 91), if_pos, if_neg (by omega : ¬depth + 1 ≤ 1),
    Nat.add_sub_cancel, start, read, leave, closed]

end RecordStore.Json
