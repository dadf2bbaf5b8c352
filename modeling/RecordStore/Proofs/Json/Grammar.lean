import RecordStore.Proofs.Json.Numerals
import RecordStore.Proofs.Json.Texts

/-!
The grammar of JSON texts and the values that they are read as.

`ValueText` relates the bytes of a value to the value, by the number of arrays and objects that may
enclose one another; `ObjectText` does so for a whole text that is an object. The grammar knows no
fuel, no order of attempts and no faults. A text is read as some members just when it is the text of
an object with these members (`parseObject_eq_ok_iff`): what is read is of the grammar, by induction
on the fuel, and what is of the grammar is read, by induction on its nesting and, inside one array
or object, along its entries.
-/

namespace RecordStore.Json

/-! ### The grammar -/

/-- The byte may stand between any two parts of a text. -/
def IsBlank (b : UInt8) : Prop :=
  b = 32 ∨ b = 10 ∨ b = 9 ∨ b = 13

instance (b : UInt8) : Decidable (IsBlank b) :=
  inferInstanceAs (Decidable (b = 32 ∨ b = 10 ∨ b = 9 ∨ b = 13))

/-- All bytes are blanks. -/
def Blanks (bytes : Bytes) : Prop :=
  ∀ b ∈ bytes, IsBlank b

/-- What stands before an entry of an array or object: a comma, unless it is the first one. -/
inductive Lead : Bool → Bytes → Prop
  | first {blanks : Bytes} (only : Blanks blanks) : Lead true blanks
  | later {before after : Bytes} (left : Blanks before) (right : Blanks after) :
      Lead false (before ++ 44 :: after)

/-- Entries up to the mark that closes them, and that mark. -/
inductive Listing {α : Type} (mark : UInt8) (Entry : Bytes → α → Prop) :
    Bool → Bytes → List α → Prop
  | close {first : Bool} {blanks : Bytes} (only : Blanks blanks) :
      Listing mark Entry first (blanks ++ [mark]) []
  | entry {first : Bool} {lead bytes more : Bytes} {entry : α} {entries : List α}
      (separated : Lead first lead) (stands : Entry bytes entry)
      (others : Listing mark Entry false more entries) :
      Listing mark Entry first (lead ++ (bytes ++ more)) (entry :: entries)

/-- A member of an object: its name, a colon and its value. -/
inductive MemberText (Value : Bytes → Json → Prop) : Bytes → String × Json → Prop
  | member {raw before after bytes : Bytes} {name : String} {value : Json}
      (named : Spells raw name.toList) (left : Blanks before) (right : Blanks after)
      (stands : Value bytes value) :
      MemberText Value (34 :: (raw ++ 34 :: (before ++ 58 :: (after ++ bytes)))) (name, value)

/-- The bytes of a value that is neither an array nor an object. -/
inductive ScalarText : Bytes → Json → Prop
  | null : ScalarText [110, 117, 108, 108] .null
  | true : ScalarText [116, 114, 117, 101] (.bool true)
  | false : ScalarText [102, 97, 108, 115, 101] (.bool false)
  | number {bytes : Bytes} {n : Number} (form : NumberText bytes n) :
      ScalarText bytes (.number n)
  | text {raw : Bytes} {text : String} (spells : Spells raw text.toList) :
      ScalarText (34 :: (raw ++ [34])) (.text text)

/-- The bytes of a value, with what may stand inside arrays and objects given. -/
inductive Nested (Value : Bytes → Json → Prop) : Bytes → Json → Prop
  | scalar {bytes : Bytes} {value : Json} (form : ScalarText bytes value) : Nested Value bytes value
  | array {bytes : Bytes} {items : List Json} (entries : Listing 93 Value true bytes items) :
      Nested Value (91 :: bytes) (.array items)
  | object {bytes : Bytes} {members : Members}
      (entries : Listing 125 (MemberText Value) true bytes members) :
      Nested Value (123 :: bytes) (.object members)

/-- The bytes of a value in which at most so many arrays and objects enclose one another. -/
def ValueText : (levels : Nat) → Bytes → Json → Prop
  | 0 => ScalarText
  | levels + 1 => Nested (ValueText levels)

/-- The text is that of an object with these members, within the limit of nesting. -/
inductive ObjectText : Bytes → Members → Prop
  | parts {before bytes after : Bytes} {members : Members} (left : Blanks before)
      (stands : ValueText (depthLimit - 1) bytes (.object members)) (right : Blanks after) :
      ObjectText (before ++ (bytes ++ after)) members

/-! ### Blanks -/

theorem Blanks.nil : Blanks [] :=
  fun _ here => nomatch here

theorem Blanks.append {left right : Bytes} (first : Blanks left) (second : Blanks right) :
    Blanks (left ++ right) :=
  fun b here => (List.mem_append.mp here).elim (first b) (second b)

variable {bytes rest : Bytes} {first : Bool}

theorem skipBlanks_cons {b : UInt8} (visible : ¬IsBlank b) (rest : Bytes) :
    skipBlanks (b :: rest) = b :: rest := by
  rw [skipBlanks]
  exact if_neg visible

theorem skipBlanks_append {blanks : Bytes} (only : Blanks blanks) (rest : Bytes) :
    skipBlanks (blanks ++ rest) = skipBlanks rest := by
  induction blanks with
  | nil => rfl
  | cons b blanks ih =>
      obtain ⟨blank, others⟩ := List.forall_mem_cons.mp only
      rw [List.cons_append, skipBlanks]
      exact (if_pos blank).trans (ih others)

theorem skipBlanks_blanks {blanks : Bytes} (only : Blanks blanks) : skipBlanks blanks = [] := by
  have skipped := skipBlanks_append only []
  rwa [List.append_nil] at skipped

/-- Blanks are skipped up to what is none. -/
theorem skipBlanks_mark {blanks : Bytes} {b : UInt8} (only : Blanks blanks) (visible : ¬IsBlank b)
    (rest : Bytes) : skipBlanks (blanks ++ b :: rest) = b :: rest :=
  (skipBlanks_append only _).trans (skipBlanks_cons visible rest)

/-- What is skipped are blanks. -/
theorem exists_blanks (bytes : Bytes) :
    ∃ blanks, Blanks blanks ∧ bytes = blanks ++ skipBlanks bytes := by
  induction bytes with
  | nil => exact ⟨[], Blanks.nil, rfl⟩
  | cons b bytes ih =>
      by_cases blank : IsBlank b
      · obtain ⟨blanks, only, parts⟩ := ih
        have skipped : skipBlanks (b :: bytes) = skipBlanks bytes := if_pos blank
        refine ⟨b :: blanks, ?_, ?_⟩
        · exact List.forall_mem_cons.mpr ⟨blank, only⟩
        · rw [skipped, List.cons_append, ← parts]
      · exact ⟨[], Blanks.nil, by rw [skipBlanks_cons blank, List.nil_append]⟩

theorem Lead.append {lead blanks : Bytes} (form : Lead first lead) (only : Blanks blanks) :
    Lead first (lead ++ blanks) := by
  cases form with
  | first before => exact .first (before.append only)
  | later left right =>
      rw [List.append_assoc, List.cons_append]
      exact .later left (right.append only)

/-! ### Scalars -/

theorem literal_eq_ok_iff {letters : Bytes} :
    literal letters bytes = .ok rest ↔ bytes = letters ++ rest := by
  induction letters generalizing bytes with
  | nil => simp [literal]
  | cons letter letters ih =>
      cases bytes with
      | nil => simp [literal]
      | cons b bytes =>
          rw [literal, List.cons_append, List.cons.injEq]
          by_cases same : b = letter
          · rw [if_pos same, ih]
            simp [same]
          · rw [if_neg same]
            simp [same]

/-- What is read as a scalar stands there as one. -/
theorem exists_scalarText {b : UInt8} {value : Json} (read : scalar b bytes = .ok (value, rest)) :
    ∃ more, ScalarText (b :: more) value ∧ bytes = more ++ rest := by
  have number {n : Number} (isNumber : value = .number n) :
      ∃ more, ScalarText (b :: more) value ∧ bytes = more ++ rest := by
    subst isNumber
    obtain ⟨more, form, parts⟩ := exists_numberText read
    exact ⟨more, .number form, parts⟩
  have whole := read
  unfold scalar at read
  split_ifs at read with null isTrue isFalse minus digit mark
  · split at read
    · cases read
    · rename_i letters
      cases read
      exact ⟨_, null ▸ .null, literal_eq_ok_iff.mp letters⟩
  · split at read
    · cases read
    · rename_i letters
      cases read
      exact ⟨_, isTrue ▸ .true, literal_eq_ok_iff.mp letters⟩
  · split at read
    · cases read
    · rename_i letters
      cases read
      exact ⟨_, isFalse ▸ .false, literal_eq_ok_iff.mp letters⟩
  · split at read <;> cases read
    exact number rfl
  · split at read <;> cases read
    exact number rfl
  · split at read
    · cases read
    · rename_i text
      cases read
      obtain ⟨raw, spells, rfl⟩ := readText_eq_ok_iff.mp text
      refine ⟨raw ++ [34], mark ▸ .text spells, ?_⟩
      rw [List.append_assoc, List.singleton_append]

/-- A numeral starts with its sign or a digit. -/
theorem NumberText.lead {b : UInt8} {more : Bytes} {n : Number} (form : NumberText (b :: more) n) :
    b = 45 ∨ isDigit b = true :=
  (scalar_eq_number_iff.mp (form.takes Ends.nil)).imp And.left And.left

theorem NumberText.ne_nil {n : Number} : ¬NumberText [] n := by
  intro form
  cases form with
  | integer spelled _ _ =>
      cases spelled with
      | natural whole => cases whole

/-- The byte may begin a value. -/
def Begins (b : UInt8) : Prop :=
  ¬IsBlank b ∧ b ≠ 93

instance (b : UInt8) : Decidable (Begins b) :=
  inferInstanceAs (Decidable (¬IsBlank b ∧ b ≠ 93))

/-- A scalar starts with a byte that tells it from blanks, arrays and objects. -/
theorem ScalarText.lead {value : Json} (form : ScalarText bytes value) :
    ∃ b more, bytes = b :: more ∧ Begins b ∧ b ≠ 91 ∧ b ≠ 123 := by
  unfold Begins IsBlank
  cases form with
  | number form =>
      cases bytes with
      | nil => exact absurd form NumberText.ne_nil
      | cons b more =>
          refine ⟨b, more, rfl, ?_⟩
          rcases form.lead with rfl | digit
          · decide
          · have range := isDigit_eq_true_iff.mp digit
            simp only [ne_eq, ← UInt8.toNat_inj, UInt8.reduceToNat]
            omega
  | _ => exact ⟨_, _, rfl, by decide⟩

/-- A scalar is read for what it is, whatever ends it. -/
theorem ScalarText.read {b : UInt8} {more after : Bytes} {value : Json}
    (form : ScalarText (b :: more) value) (ends : Ends after) :
    scalar b (more ++ after) = .ok (value, after) := by
  cases form with
  | null => simp [scalar, literal]
  | true => simp [scalar, literal]
  | false => simp [scalar, literal]
  | number form => exact form.takes ends
  | text spells =>
      rename_i raw text
      have read := readText_eq_ok_iff.mpr ⟨raw, spells, (rfl : raw ++ 34 :: after = _)⟩
      rw [List.append_assoc, List.singleton_append]
      simp [scalar, isDigit, read]

/-! ### Arrays and objects -/

section Listing

variable {α : Type} {mark : UInt8} {Entry : Bytes → α → Prop} {entries : List α}

theorem Listing.length_pos (listing : Listing mark Entry first bytes entries) :
    0 < bytes.length := by
  induction listing with
  | close _ => simp
  | entry _ _ _ ih => simp [ih]

theorem Blanks.ends {blanks : Bytes} (only : Blanks blanks) (ends : Ends rest) :
    Ends (blanks ++ rest) := by
  cases blanks with
  | nil => exact ends
  | cons b blanks =>
      refine Ends.cons ?_ _
      rcases only b List.mem_cons_self with rfl | rfl | rfl | rfl <;> decide

/-- Behind an entry no numeral goes on. -/
theorem Listing.ends (listing : Listing mark Entry false bytes entries)
    (closing : isDigit mark = false ∧ mark ≠ 46 ∧ mark ≠ 101 ∧ mark ≠ 69) (after : Bytes) :
    Ends (bytes ++ after) := by
  cases listing with
  | close only =>
      rw [List.append_assoc]
      exact only.ends (Ends.cons closing _)
  | entry separated _ _ =>
      cases separated with
      | later left right =>
          rw [List.append_assoc, List.append_assoc]
          exact left.ends (Ends.cons (by decide) _)

end Listing

/-- What stands before an entry is passed over, up to the byte that begins the entry. -/
theorem elementStart_lead {lead more : Bytes} {b : UInt8} (form : Lead first lead)
    (begins : Begins b) : elementStart first (lead ++ b :: more) = .ok (some (b :: more)) := by
  obtain ⟨visible, mark⟩ := begins
  cases form with
  | first only =>
      simp only [elementStart, skipBlanks_mark only visible, if_neg mark, if_pos]
  | later left right =>
      have comma : ¬IsBlank 44 := by decide
      rw [List.append_assoc, List.cons_append]
      simp only [elementStart, skipBlanks_mark left comma, skipBlanks_mark right visible,
        if_neg mark]
      simp

theorem exists_lead_of_elementStart {start : Bytes}
    (read : elementStart first bytes = .ok (some start)) :
    ∃ lead, Lead first lead ∧ bytes = lead ++ start := by
  obtain ⟨blanks, only, parts⟩ := exists_blanks bytes
  unfold elementStart at read
  split at read
  · cases read
  · rename_i b more skipped
    rw [skipped] at parts
    split_ifs at read with mark isFirst comma
    · cases read
    · cases read
      exact ⟨blanks, isFirst ▸ .first only, parts⟩
    · obtain ⟨behind, others, rest⟩ := exists_blanks more
      split at read
      · cases read
      · rename_i c after skipped
        split_ifs at read
        cases read
        rw [skipped] at rest
        rw [Bool.not_eq_true] at isFirst
        refine ⟨blanks ++ 44 :: behind, isFirst ▸ .later only others, ?_⟩
        rw [parts, comma, rest, List.append_assoc, List.cons_append]

theorem elementStart_close {blanks : Bytes} (only : Blanks blanks) (rest : Bytes) :
    elementStart first (blanks ++ 93 :: rest) = .ok none := by
  simp only [elementStart, skipBlanks_mark only (by decide : ¬IsBlank 93), if_pos]

theorem closeArray_eq_ok_iff :
    closeArray bytes = .ok rest ↔ ∃ blanks, Blanks blanks ∧ bytes = blanks ++ 93 :: rest := by
  constructor
  · intro read
    obtain ⟨blanks, only, parts⟩ := exists_blanks bytes
    unfold closeArray at read
    split at read
    · cases read
    · rename_i b more skipped
      split_ifs at read with mark comma
      · cases read
        exact ⟨blanks, only, by rw [parts, skipped, mark]⟩
      · split at read <;> cases read
  · rintro ⟨blanks, only, rfl⟩
    simp only [closeArray, skipBlanks_mark only (by decide : ¬IsBlank 93), if_pos]

/-- What stands before a member is passed over, up to the mark that begins its name. -/
theorem memberStart_lead {lead : Bytes} (form : Lead first lead) (more : Bytes) :
    memberStart first (lead ++ 34 :: more) = .ok (some more) := by
  have visible : ¬IsBlank 34 := by decide
  cases form with
  | first only => simp [memberStart, skipBlanks_mark only visible]
  | later left right =>
      have comma : ¬IsBlank 44 := by decide
      rw [List.append_assoc, List.cons_append]
      simp [memberStart, skipBlanks_mark left comma, skipBlanks_mark right visible]

theorem exists_lead_of_memberStart {start : Bytes}
    (read : memberStart first bytes = .ok (some start)) :
    ∃ lead, Lead first lead ∧ bytes = lead ++ 34 :: start := by
  obtain ⟨blanks, only, parts⟩ := exists_blanks bytes
  unfold memberStart at read
  split at read
  · cases read
  · rename_i b more skipped
    rw [skipped] at parts
    split_ifs at read with mark isFirst quote comma
    · cases read
    · cases read
      exact ⟨blanks, isFirst ▸ .first only, quote ▸ parts⟩
    · obtain ⟨behind, others, rest⟩ := exists_blanks more
      split at read
      · cases read
      · rename_i c after skipped
        split_ifs at read with quote
        cases read
        rw [skipped, quote] at rest
        rw [Bool.not_eq_true] at isFirst
        refine ⟨blanks ++ 44 :: behind, isFirst ▸ .later only others, ?_⟩
        rw [parts, comma, rest, List.append_assoc, List.cons_append]

theorem memberStart_close {blanks : Bytes} (only : Blanks blanks) (rest : Bytes) :
    memberStart first (blanks ++ 125 :: rest) = .ok none := by
  simp only [memberStart, skipBlanks_mark only (by decide : ¬IsBlank 125), if_pos]

theorem closeObject_eq_ok_iff :
    closeObject bytes = .ok rest ↔ ∃ blanks, Blanks blanks ∧ bytes = blanks ++ 125 :: rest := by
  constructor
  · intro read
    obtain ⟨blanks, only, parts⟩ := exists_blanks bytes
    unfold closeObject at read
    split at read
    · cases read
    · rename_i b more skipped
      split_ifs at read with mark comma
      cases read
      exact ⟨blanks, only, by rw [parts, skipped, mark]⟩
  · rintro ⟨blanks, only, rfl⟩
    simp only [closeObject, skipBlanks_mark only (by decide : ¬IsBlank 125), if_pos]

theorem colon_eq_ok_iff :
    colon bytes = .ok rest ↔ ∃ blanks, Blanks blanks ∧ bytes = blanks ++ 58 :: rest := by
  constructor
  · intro read
    obtain ⟨blanks, only, parts⟩ := exists_blanks bytes
    unfold colon at read
    split at read
    · cases read
    · rename_i b more skipped
      split_ifs at read with mark
      cases read
      exact ⟨blanks, only, by rw [parts, skipped, mark]⟩
  · rintro ⟨blanks, only, rfl⟩
    simp only [colon, skipBlanks_mark only (by decide : ¬IsBlank 58), if_pos]

/-! ### What is read is of the grammar -/

/-- With this fuel, what is read as a value, as elements or as members stands there as such. -/
structure Sound (fuel : Nat) : Prop where
  value : ∀ {depth : Nat} {bytes rest : Bytes} {value : Json},
    readWithin fuel depth bytes = .ok (value, rest) →
      ∃ blanks text, Blanks blanks ∧ ValueText (depth - 1) text value ∧
        bytes = blanks ++ (text ++ rest)
  elements : ∀ {depth : Nat} {first : Bool} {bytes rest : Bytes} {items : List Json},
    readElements fuel depth first bytes = .ok (items, rest) →
      ∃ text, Listing 93 (ValueText (depth - 1)) first text items ∧ bytes = text ++ rest
  members : ∀ {depth : Nat} {first : Bool} {bytes rest : Bytes} {members : Members},
    readMembers fuel depth first bytes = .ok (members, rest) →
      ∃ text, Listing 125 (MemberText (ValueText (depth - 1))) first text members ∧
        bytes = text ++ rest

theorem ScalarText.within {value : Json} (form : ScalarText bytes value) (levels : Nat) :
    ValueText levels bytes value := by
  cases levels with
  | zero => exact form
  | succ levels => exact .scalar form

variable {fuel depth : Nat}

theorem Sound.value_succ {value : Json} (sound : Sound fuel)
    (read : readWithin (fuel + 1) depth bytes = .ok (value, rest)) :
    ∃ blanks text, Blanks blanks ∧ ValueText (depth - 1) text value ∧
      bytes = blanks ++ (text ++ rest) := by
  obtain ⟨blanks, only, parts⟩ := exists_blanks bytes
  rw [readWithin] at read
  split at read
  · cases read
  · rename_i b more skipped
    rw [skipped] at parts
    split_ifs at read with isArray shallow isObject shallow
    · obtain ⟨levels, rfl⟩ : ∃ levels, depth = levels + 2 := ⟨depth - 2, by omega⟩
      split at read
      · cases read
      · rename_i entries
        cases read
        obtain ⟨text, listing, rfl⟩ := sound.elements entries
        exact ⟨blanks, 91 :: text, only, .array listing, by rw [parts, isArray, List.cons_append]⟩
    · obtain ⟨levels, rfl⟩ : ∃ levels, depth = levels + 2 := ⟨depth - 2, by omega⟩
      split at read
      · cases read
      · rename_i entries
        cases read
        obtain ⟨text, listing, rfl⟩ := sound.members entries
        exact ⟨blanks, 123 :: text, only, .object listing,
          by rw [parts, isObject, List.cons_append]⟩
    · obtain ⟨text, form, rfl⟩ := exists_scalarText read
      exact ⟨blanks, b :: text, only, form.within _, by rw [parts, List.cons_append]⟩

theorem Sound.elements_succ {items : List Json} (sound : Sound fuel)
    (read : readElements (fuel + 1) depth first bytes = .ok (items, rest)) :
    ∃ text, Listing 93 (ValueText (depth - 1)) first text items ∧ bytes = text ++ rest := by
  rw [readElements] at read
  split at read
  · cases read
  · split at read
    · cases read
    · rename_i closed
      cases read
      obtain ⟨blanks, only, rfl⟩ := closeArray_eq_ok_iff.mp closed
      exact ⟨blanks ++ [93], .close only, by rw [List.append_assoc, List.singleton_append]⟩
  · rename_i start started
    obtain ⟨lead, separated, rfl⟩ := exists_lead_of_elementStart started
    split at read
    · cases read
    · rename_i item after within
      obtain ⟨blanks, text, only, stands, rfl⟩ := sound.value within
      split at read
      · cases read
      · rename_i others
        cases read
        obtain ⟨more, listing, rfl⟩ := sound.elements others
        refine ⟨_, .entry (separated.append only) stands listing, ?_⟩
        simp only [List.append_assoc]

theorem Sound.members_succ {members : Members} (sound : Sound fuel)
    (read : readMembers (fuel + 1) depth first bytes = .ok (members, rest)) :
    ∃ text, Listing 125 (MemberText (ValueText (depth - 1))) first text members ∧
      bytes = text ++ rest := by
  rw [readMembers] at read
  split at read
  · cases read
  · split at read
    · cases read
    · rename_i closed
      cases read
      obtain ⟨blanks, only, rfl⟩ := closeObject_eq_ok_iff.mp closed
      exact ⟨blanks ++ [125], .close only, by rw [List.append_assoc, List.singleton_append]⟩
  · rename_i start started
    obtain ⟨lead, separated, rfl⟩ := exists_lead_of_memberStart started
    split at read
    · cases read
    · rename_i name behind named
      obtain ⟨raw, spells, rfl⟩ := readText_eq_ok_iff.mp named
      split at read
      · cases read
      · rename_i after mark
        obtain ⟨before, left, rfl⟩ := colon_eq_ok_iff.mp mark
        split at read
        · cases read
        · rename_i value rest within
          obtain ⟨blanks, text, right, stands, rfl⟩ := sound.value within
          split at read
          · cases read
          · rename_i others
            cases read
            obtain ⟨more, listing, rfl⟩ := sound.members others
            refine ⟨_, .entry separated (.member spells left right stands) listing, ?_⟩
            simp only [List.append_assoc, List.cons_append]

theorem sound (fuel : Nat) : Sound fuel := by
  induction fuel with
  | zero =>
      constructor
      · intro _ _ _ _ read
        cases read
      · intro _ _ _ _ _ read
        cases read
      · intro _ _ _ _ _ read
        cases read
  | succ fuel ih => exact ⟨ih.value_succ, ih.elements_succ, ih.members_succ⟩

/-! ### What is of the grammar is read -/

/-- Values of that form are read for what they are, with more depth than they have levels and a unit
of fuel for each byte. -/
structure Readable (Value : Bytes → Json → Prop) (levels : Nat) : Prop where
  lead : ∀ {bytes : Bytes} {value : Json}, Value bytes value →
    ∃ b more, bytes = b :: more ∧ Begins b
  read : ∀ {bytes blanks after : Bytes} {value : Json} {fuel depth : Nat}, Value bytes value →
    Blanks blanks → Ends after → levels < depth → bytes.length ≤ fuel →
      readWithin fuel depth (blanks ++ (bytes ++ after)) = .ok (value, after)

variable {Value : Bytes → Json → Prop} {levels : Nat} {after : Bytes}

theorem Readable.elements {items : List Json} (readable : Readable Value levels)
    (listing : Listing 93 Value first bytes items) (deep : levels < depth)
    (enough : bytes.length ≤ fuel) :
    readElements fuel depth first (bytes ++ after) = .ok (items, after) := by
  induction listing generalizing fuel with
  | close only =>
      rename_i first blanks
      obtain ⟨fuel, rfl⟩ : ∃ more, fuel = more + 1 :=
        ⟨fuel - 1, by simp only [List.length_append, List.length_singleton] at enough; omega⟩
      have closed := closeArray_eq_ok_iff.mpr ⟨blanks, only, (rfl : blanks ++ 93 :: after = _)⟩
      rw [List.append_assoc, List.singleton_append]
      simp only [readElements, elementStart_close only, closed]
  | entry separated stands others ih =>
      rename_i first lead bytes more item items
      have closing := others.length_pos
      simp only [List.length_append] at enough
      obtain ⟨b, rest, rfl, begins⟩ := readable.lead stands
      obtain ⟨fuel, rfl⟩ : ∃ more, fuel = more + 1 := ⟨fuel - 1, by omega⟩
      have value : readWithin fuel depth (b :: (rest ++ (more ++ after))) =
          .ok (item, more ++ after) :=
        readable.read stands Blanks.nil (others.ends (by decide) after) deep (by omega)
      simp only [List.length_cons] at enough
      have behind : readElements fuel depth false (more ++ after) = .ok (items, after) :=
        ih (by omega)
      rw [List.append_assoc, List.append_assoc, List.cons_append]
      simp only [readElements, elementStart_lead separated begins, value, behind]

theorem Readable.members {members : Members} (readable : Readable Value levels)
    (listing : Listing 125 (MemberText Value) first bytes members) (deep : levels < depth)
    (enough : bytes.length ≤ fuel) :
    readMembers fuel depth first (bytes ++ after) = .ok (members, after) := by
  induction listing generalizing fuel with
  | close only =>
      rename_i first blanks
      obtain ⟨fuel, rfl⟩ : ∃ more, fuel = more + 1 :=
        ⟨fuel - 1, by simp only [List.length_append, List.length_singleton] at enough; omega⟩
      have closed := closeObject_eq_ok_iff.mpr ⟨blanks, only, (rfl : blanks ++ 125 :: after = _)⟩
      rw [List.append_assoc, List.singleton_append]
      simp only [readMembers, memberStart_close only, closed]
  | entry separated stands others ih =>
      rename_i first lead _ more _ members
      have closing := others.length_pos
      obtain ⟨spells, left, right, stands⟩ := stands
      rename_i raw before blanks bytes name value
      simp only [List.length_append, List.length_cons] at enough
      obtain ⟨fuel, rfl⟩ : ∃ more, fuel = more + 1 := ⟨fuel - 1, by omega⟩
      have read : readWithin fuel depth (blanks ++ (bytes ++ (more ++ after))) =
          .ok (value, more ++ after) :=
        readable.read stands right (others.ends (by decide) after) deep (by omega)
      have behind : readMembers fuel depth false (more ++ after) = .ok (members, after) :=
        ih (by omega)
      have mark := colon_eq_ok_iff.mpr
        ⟨before, left, (rfl : before ++ 58 :: (blanks ++ (bytes ++ (more ++ after))) = _)⟩
      have named := readText_eq_ok_iff.mpr ⟨raw, spells,
        (rfl : raw ++ 34 :: (before ++ 58 :: (blanks ++ (bytes ++ (more ++ after)))) = _)⟩
      simp only [List.append_assoc, List.cons_append]
      simp only [readMembers, memberStart_lead separated, named, mark, read, behind]

theorem Readable.scalar : Readable ScalarText levels := by
  constructor
  · intro bytes value form
    obtain ⟨b, more, parts, begins, -⟩ := form.lead
    exact ⟨b, more, parts, begins⟩
  · intro bytes blanks after value fuel depth form only ends _ enough
    obtain ⟨b, more, rfl, begins, notArray, notObject⟩ := form.lead
    obtain ⟨fuel, rfl⟩ : ∃ more, fuel = more + 1 :=
      ⟨fuel - 1, by simp only [List.length_cons] at enough; omega⟩
    simp only [readWithin, List.cons_append, skipBlanks_mark only begins.1,
      if_neg notArray, if_neg notObject, form.read ends]

theorem Readable.nested (readable : Readable Value levels) :
    Readable (Nested Value) (levels + 1) := by
  have array : ¬IsBlank 91 := by decide
  have object : ¬IsBlank 123 := by decide
  constructor
  · intro bytes value form
    cases form with
    | scalar form => exact (Readable.scalar : Readable ScalarText levels).lead form
    | array _ => exact ⟨91, _, rfl, array, by decide⟩
    | object _ => exact ⟨123, _, rfl, object, by decide⟩
  · intro bytes blanks after value fuel depth form only ends deep enough
    cases form with
    | scalar form => exact Readable.scalar.read form only ends deep enough
    | array entries =>
        obtain ⟨fuel, rfl⟩ : ∃ more, fuel = more + 1 :=
          ⟨fuel - 1, by simp only [List.length_cons] at enough; omega⟩
        have read : readElements fuel (depth - 1) true (_ ++ after) = _ :=
          readable.elements entries (Nat.lt_sub_of_add_lt deep) (Nat.le_of_succ_le_succ enough)
        simp only [readWithin, List.cons_append, skipBlanks_mark only array, if_pos,
          if_neg (by omega : ¬depth ≤ 1), read]
    | object entries =>
        obtain ⟨fuel, rfl⟩ : ∃ more, fuel = more + 1 :=
          ⟨fuel - 1, by simp only [List.length_cons] at enough; omega⟩
        have read : readMembers fuel (depth - 1) true (_ ++ after) = _ :=
          readable.members entries (Nat.lt_sub_of_add_lt deep) (Nat.le_of_succ_le_succ enough)
        simp only [readWithin, List.cons_append, skipBlanks_mark only object,
          if_neg (by decide : ¬(123 : UInt8) = 91), if_pos, if_neg (by omega : ¬depth ≤ 1), read]

theorem readable (levels : Nat) : Readable (ValueText levels) levels := by
  induction levels with
  | zero => exact Readable.scalar
  | succ levels ih => exact ih.nested

theorem length_le_fuelFor (before bytes after : Bytes) :
    bytes.length ≤ fuelFor (before ++ (bytes ++ after)) := by
  unfold fuelFor
  simp only [List.length_append]
  omega

/-! ### Whole texts -/

/-- An object within the limit is its opening mark and its members. -/
theorem valueText_object_iff {members : Members} :
    ValueText (depthLimit - 1) bytes (.object members) ↔
      ∃ body, bytes = 123 :: body ∧
        Listing 125 (MemberText (ValueText (depthLimit - 2))) true body members := by
  constructor
  · intro form
    have nested : Nested (ValueText (depthLimit - 2)) bytes (.object members) := form
    cases nested with
    | scalar form => cases form
    | object entries => exact ⟨_, rfl, entries⟩
  · rintro ⟨body, rfl, entries⟩
    exact Nested.object entries

/-- A text is read as some members just when it is the text of an object with these members. -/
theorem parseObject_eq_ok_iff {text : Bytes} {members : Members} :
    parseObject text = .ok members ↔ ObjectText text members := by
  have deep : ¬depthLimit ≤ 1 := by decide
  constructor
  · intro read
    obtain ⟨before, left, parts⟩ := exists_blanks text
    unfold parseObject readAll readObject at read
    split at read
    · cases read
    · rename_i members rest object
      split at object
      · cases object
      · rename_i b body skipped
        split_ifs at object with mark
        obtain ⟨listed, entries, rfl⟩ := (sound _).members object
        obtain ⟨behind, right, others⟩ := exists_blanks rest
        split at read
        · rename_i ended
          cases read
          rw [ended, List.append_nil] at others
          rw [parts, skipped, mark, others, ← List.cons_append]
          exact .parts left (valueText_object_iff.mpr ⟨listed, rfl, entries⟩) right
        · cases read
  · rintro ⟨left, stands, right⟩
    rename_i before bytes after
    obtain ⟨body, rfl, entries⟩ := valueText_object_iff.mp stands
    have enough : body.length ≤ fuelFor (body ++ after) := length_le_fuelFor [] body after
    have read : readMembers (fuelFor (body ++ after)) (depthLimit - 1) true (body ++ after) =
        .ok (members, after) :=
      (readable _).members entries (by decide : depthLimit - 2 < depthLimit - 1) enough
    have skipped : skipBlanks (before ++ (123 :: body ++ after)) = 123 :: (body ++ after) :=
      skipBlanks_mark left (by decide) _
    simp only [parseObject, readAll, readObject, skipped, if_pos, if_neg deep, read,
      skipBlanks_blanks right]

end RecordStore.Json
