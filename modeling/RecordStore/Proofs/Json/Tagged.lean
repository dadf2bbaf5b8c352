import RecordStore.Proofs.Json.Members

/-!
Tagged objects.

The members beside a tag are kept as values until the tag is known, since the tag may stand behind
them. So they have to be values that can be kept (`Kept`), which is more than can be said of a
member that is only passed over. What is read of an object that fills the slots of a variant is the
value that is known from the members given (`readTagged_of_slotsText`): first the bytes become a tag
and a list of members, then the members of this list are taken up one by one.
-/

namespace RecordStore.Json

/-- The bytes are a value that can be kept inside so many further arrays and objects. -/
def Kept (levels : Nat) (bytes : Bytes) : Prop :=
  ∃ value, ValueText levels bytes value

variable {α β τ : Type} {bytes blanks after : Bytes} {first : Bool} {fuel depth levels : Nat}
  {slots : List Slot} {names given : List String} {known : List String → α} {tag : String}
  {kind : τ} {tags : Choices τ} {members : Members} {variant : Variant α}

/-! ### Keeping the members -/

/-- Values are chosen for the members of an object. -/
theorem Listing.exists_members {Form : String → Bytes → Prop} {Suits : String × Json → Prop}
    (choose : ∀ {name bytes}, Form name bytes →
      ∃ value, ValueText levels bytes value ∧ Suits (name, value))
    (listing : Listing 125 (Labelled Form) first bytes names) :
    ∃ members : Members, Listing 125 (MemberText (ValueText levels)) first bytes members ∧
      members.map (·.1) = names ∧ ∀ member ∈ members, Suits member := by
  induction listing with
  | close only => exact ⟨[], .close only, rfl, List.forall_mem_nil _⟩
  | entry separated stands _ ih =>
      obtain ⟨members, entries, same, suit⟩ := ih
      obtain ⟨named, left, right, stands⟩ := stands
      obtain ⟨value, form, suits⟩ := choose stands
      refine ⟨_ :: members, .entry separated (.member named left right form) entries, ?_, ?_⟩
      · rw [List.map_cons, same]
      · exact List.forall_mem_cons.mpr ⟨suits, suit⟩

/-- The members beside the tag. -/
def beside (members : Members) : Members :=
  members.filter fun member => member.1 ≠ Tagged.tagName

theorem scalarText_of_valueText {text : String} (form : ValueText levels bytes (.text text)) :
    ScalarText bytes (.text text) := by
  cases levels with
  | zero => exact form
  | succ levels =>
      have nested : Nested (ValueText levels) bytes (.text text) := form
      cases nested with
      | scalar form => exact form

theorem readValue_of_valueText {value : Json} (form : ValueText levels bytes value)
    (only : Blanks blanks) (ends : Ends after) (deep : levels < depth) :
    readValue depth (blanks ++ (bytes ++ after)) = .ok (value, after) :=
  (readable levels).read form only ends deep (length_le_fuelFor blanks bytes after)

/-- What is left of a tagged object is read: the tag, unless it has been found, and the members
beside it in their order. -/
theorem Tagged.readMembers_of_listing (offered : tags.lookup tag = some kind) {found : Option τ}
    (listing : Listing 125 (MemberText (ValueText levels)) first bytes members)
    (typed : ∀ member ∈ members, member.1 = tagName → member.2 = .text tag)
    (once : found = none ∧ (members.map (·.1)).count tagName = 1 ∨
      found = some kind ∧ (members.map (·.1)).count tagName = 0)
    (kept : Members) (deep : levels < depth) (enough : bytes.length ≤ fuel) (after : Bytes) :
    ∃ blanks, Blanks blanks ∧
      Tagged.readMembers tags depth fuel first found kept (bytes ++ after) =
        .ok ((kind, .members (kept.reverse ++ beside members)), blanks ++ 125 :: after) := by
  -- The tag is found already, or it stands once among the members that are left.
  induction listing generalizing fuel found kept with
  | close only =>
      rename_i first blanks
      simp only [List.length_append, List.length_singleton] at enough
      obtain ⟨fuel, rfl⟩ : ∃ more, fuel = more + 1 := ⟨fuel - 1, by omega⟩
      obtain ⟨-, one⟩ | ⟨rfl, -⟩ := once
      · cases one
      · refine ⟨blanks, only, ?_⟩
        rw [List.append_assoc, List.singleton_append]
        simp only [Tagged.readMembers, memberStart_close only, beside, List.filter_nil,
          List.append_nil]
  | entry separated stands others ih =>
      rename_i first lead _ more _ members
      obtain ⟨spells, left, right, stands⟩ := stands
      rename_i raw before blanks bytes name value
      simp only [List.length_append, List.length_cons] at enough
      obtain ⟨fuel, rfl⟩ : ∃ more, fuel = more + 1 := ⟨fuel - 1, by omega⟩
      obtain ⟨own, types⟩ := List.forall_mem_cons.mp typed
      have mark := colon_eq_ok_iff.mpr
        ⟨before, left, (rfl : before ++ 58 :: (blanks ++ (bytes ++ (more ++ after))) = _)⟩
      have named := readText_eq_ok_iff.mpr ⟨raw, spells,
        (rfl : raw ++ 34 :: (before ++ 58 :: (blanks ++ (bytes ++ (more ++ after)))) = _)⟩
      simp only [List.map_cons, List.count_cons] at once
      simp only [List.append_assoc, List.cons_append, Tagged.readMembers,
        memberStart_lead separated, named, mark]
      by_cases isTag : name = tagName
      · have same : value = .text tag := own isTag
        subst same
        obtain ⟨rfl, one⟩ | ⟨-, none⟩ := once
        · have behind : (members.map (·.1)).count tagName = 0 := by simpa [isTag] using one
          have left : beside ((name, .text tag) :: members) = beside members :=
            List.filter_cons_of_neg (by simp [isTag])
          have read : readName tags depth (blanks ++ (bytes ++ (more ++ after))) =
              .ok (kind, more ++ after) :=
            readName_of_scalarText offered (scalarText_of_valueText stands) right _
          simp only [if_pos isTag, Option.isSome_none, if_neg Bool.false_ne_true, read, left]
          exact ih types (.inr ⟨rfl, behind⟩) kept (by omega)
        · simp [isTag] at none
      · have later : found = none ∧ (members.map (·.1)).count tagName = 1 ∨
            found = some kind ∧ (members.map (·.1)).count tagName = 0 := by
          simpa [isTag] using once
        have left : kept.reverse ++ beside ((name, value) :: members) =
            ((name, value) :: kept).reverse ++ beside members := by
          have stays : beside ((name, value) :: members) = (name, value) :: beside members :=
            List.filter_cons_of_pos (by simp [isTag])
          rw [stays, List.reverse_cons, List.append_assoc, List.singleton_append]
        have read := readValue_of_valueText stands right (others.ends (by decide) after) deep
        simp only [if_neg isTag, read, left]
        exact ih types later _ (by omega)

/-! ### Taking the members up -/

/-- Taking up the member of a slot takes the value that is known so far to the one that is known
with this member. A member that has to be given is given. -/
structure Decodes (levels : Nat) (known : List String → α) (part : Part α) (slot : Slot) :
    Prop where
  name_eq : part.name = slot.name
  given_of_required : part.required = true → slot.given = true
  decode : ∀ {bytes : Bytes}, slot.Form bytes →
    ∃ value change, ValueText levels bytes value ∧ part.decode value = .ok change ∧
      ∀ given, change (known given) = known (slot.name :: given)

theorem Decodes.scalar {part : Part α} {given : Bool} {value : Json} {change : α → α}
    (required : part.required = true → given = true) (decoded : part.decode value = .ok change)
    (changes : ∀ names, change (known names) = known (part.name :: names)) :
    Decodes levels known part (.scalar part.name given value) where
  name_eq := rfl
  given_of_required := required
  decode form := ⟨value, change, form.within levels, decoded, changes⟩

/-- The value that is kept for a member can be taken up; for the tag it is the tag. -/
structure Suits (tag : String) (variant : Variant α) (known : List String → α)
    (member : String × Json) : Prop where
  tag : member.1 = Tagged.tagName → member.2 = .text tag
  part : ∀ part, (variant.parts.find? fun part => part.name == member.1) = some part →
    ∃ change, part.decode member.2 = .ok change ∧
      ∀ given, change (known given) = known (member.1 :: given)

/-- The slots of a variant with its tag. -/
def tagged (tag : String) (slots : List Slot) : List Slot :=
  .scalar Tagged.tagName true (.text tag) :: slots

theorem exists_suits {name : String}
    (decodes : List.Forall₂ (Decodes levels known) variant.parts slots)
    (free : ∀ slot ∈ slots, slot.name ≠ Tagged.tagName)
    (stands : formOf (tagged tag slots) (Kept levels) name bytes) :
    ∃ value, ValueText levels bytes value ∧ Suits tag variant known (name, value) := by
  have both := find?_of_forall₂ decodes (fun _ _ => Decodes.name_eq) name
  unfold formOf tagged at stands
  by_cases isTag : name = Tagged.tagName
  · rw [List.find?_cons_of_pos (by simp [Slot.scalar, isTag])] at stands
    have form : ScalarText bytes (.text tag) := stands
    refine ⟨.text tag, form.within levels, fun _ => rfl, fun part isPart => ?_⟩
    rcases both with ⟨noPart, -⟩ | ⟨_, slot, -, isSlot, -⟩
    · rw [noPart] at isPart
      cases isPart
    · have same : slot.name = name := by simpa using List.find?_some isSlot
      exact absurd (same.trans isTag) (free slot (List.mem_of_find?_eq_some isSlot))
  · rw [List.find?_cons_of_neg (by simpa [Slot.scalar] using Ne.symm isTag)] at stands
    rcases both with ⟨noPart, noSlot⟩ | ⟨part, slot, isPart, isSlot, decode⟩
    · rw [noSlot] at stands
      obtain ⟨value, form⟩ := stands
      refine ⟨value, form, fun same => absurd same isTag, fun part isPart => ?_⟩
      rw [noPart] at isPart
      cases isPart
    · rw [isSlot] at stands
      have same : slot.name = name := by simpa using List.find?_some isSlot
      obtain ⟨value, change, form, decoded, changes⟩ := decode.decode stands
      refine ⟨value, form, fun same => absurd same isTag, fun other isOther => ?_⟩
      obtain rfl : part = other := Option.some.inj (isPart.symm.trans isOther)
      exact ⟨change, decoded, fun given => same ▸ changes given⟩

/-- Members that are kept are taken up one by one. -/
theorem Variant.decodeMembers_of_suits
    (decodes : List.Forall₂ (Decodes levels known) variant.parts slots)
    (suit : ∀ member ∈ members, Suits tag variant known member)
    (once : ∀ slot ∈ slots, (members.map (·.1)).count slot.name + given.count slot.name ≤ 1) :
    variant.decodeMembers ⟨known given, given⟩ members =
      .ok ⟨known ((members.map (·.1)).foldl (taken slots) given),
        (members.map (·.1)).foldl (taken slots) given⟩ := by
  induction members generalizing given with
  | nil => rfl
  | cons member members ih =>
      obtain ⟨name, value⟩ := member
      obtain ⟨suits, suit⟩ := List.forall_mem_cons.mp suit
      have behind := ih suit (once_taken once)
      rw [List.map_cons, List.foldl_cons, ← behind]
      rcases find?_of_forall₂ decodes (fun _ _ => Decodes.name_eq) name with
        ⟨noPart, noSlot⟩ | ⟨part, slot, isPart, isSlot, -⟩
      · have other : taken slots given name = given := if_neg (by simpa using noSlot)
        simp only [decodeMembers, noPart, other]
      · have here := List.mem_of_find?_eq_some isSlot
        have same : slot.name = name := by simpa using List.find?_some isSlot
        have more : taken slots given name = name :: given := if_pos ⟨slot, here, same⟩
        have new : ¬given.contains name = true := by simpa using not_mem_of_once once slot here same
        obtain ⟨change, decoded, changes⟩ := suits.part part isPart
        simp only [decodeMembers, isPart, if_neg new, decoded, changes, more]

/-- The members that are kept come to the value that is known from the members given. -/
theorem Variant.decode_of_suits (start : variant.start = known [])
    (decodes : List.Forall₂ (Decodes levels known) variant.parts slots)
    (suit : ∀ member ∈ members, Suits tag variant known member)
    (counted : ∀ slot ∈ slots,
      (members.map (·.1)).count slot.name = if slot.given then 1 else 0) :
    variant.decode (.members members) =
      .ok (known ((members.map (·.1)).foldl (taken slots) [])) := by
  have complete : (variant.parts.find? fun part => part.required &&
      !((members.map (·.1)).foldl (taken slots) []).contains part.name) = none := by
    rw [List.find?_eq_none]
    intro part here missing
    obtain ⟨slot, there, decode⟩ := exists_of_forall₂ decodes part here
    rw [Bool.and_eq_true, Bool.not_eq_true'] at missing
    have given := (settled_of_counted counted slot there).mpr (decode.given_of_required missing.1)
    rw [← decode.name_eq] at given
    simp [given] at missing
  simp only [decode, start, decodeMembers_of_suits decodes suit (once_of_counted counted),
    complete]

theorem count_beside {name : String} (other : name ≠ Tagged.tagName) (members : Members) :
    ((beside members).map (·.1)).count name = (members.map (·.1)).count name := by
  have names : (beside members).map (·.1) =
      (members.map (·.1)).filter fun name => name ≠ Tagged.tagName := by
    rw [List.filter_map]
    rfl
  rw [names]
  exact List.count_filter (by simpa using other)

/-- An object that fills the slots of a variant is read as the value that is known from the members
given. -/
theorem readTagged_of_slotsText {expected : String} {decode : τ → Content → Except Problem β}
    {make : α → β} (offered : tags.lookup tag = some kind)
    (decoder : ∀ content, decode kind content = (variant.decode content).map make)
    (start : variant.start = known [])
    (decodes : List.Forall₂ (Decodes levels known) variant.parts slots)
    (free : ∀ slot ∈ slots, slot.name ≠ Tagged.tagName) (deep : levels < depth)
    (form : SlotsText (tagged tag slots) (Kept levels) bytes) (only : Blanks blanks)
    (after : Bytes) :
    ∃ found, Settled slots found ∧
      readTagged expected tags decode (depth + 1) (blanks ++ (bytes ++ after)) =
        .ok (make (known found), after) := by
  obtain ⟨entries, counted⟩ := form
  rename_i bytes names
  obtain ⟨members, listing, rfl, suit⟩ := entries.exists_members (exists_suits decodes free)
  obtain ⟨one, counted⟩ := List.forall_mem_cons.mp counted
  have counted : ∀ slot ∈ slots,
      ((beside members).map (·.1)).count slot.name = if slot.given then 1 else 0 := by
    intro slot here
    rw [count_beside (free slot here), counted slot here]
  have enough : bytes.length ≤ fuelFor (bytes ++ after) := length_le_fuelFor [] bytes after
  obtain ⟨behind, left, read⟩ := Tagged.readMembers_of_listing offered listing
    (fun member here => (suit member here).tag) (.inl ⟨rfl, one⟩) [] deep enough after
  have closed := closeObject_eq_ok_iff.mpr ⟨behind, left, (rfl : behind ++ 125 :: after = _)⟩
  have suits : ∀ member ∈ beside members, Suits tag variant known member :=
    fun member here => suit member (List.mem_of_mem_filter here)
  have decoded := Variant.decode_of_suits start decodes suits counted
  refine ⟨_, settled_of_counted counted, ?_⟩
  rw [List.reverse_nil, List.nil_append] at read
  simp only [readTagged, Tagged.read, List.cons_append,
    skipBlanks_mark only (by decide : ¬IsBlank 123), if_neg (by decide : ¬(123 : UInt8) = 91),
    if_pos, if_neg (by omega : ¬depth + 1 ≤ 1), Nat.add_sub_cancel, read, Record.leave, closed,
    decoder, decoded, Except.map]

end RecordStore.Json
