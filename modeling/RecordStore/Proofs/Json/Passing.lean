import RecordStore.Json.Skip
import RecordStore.Proofs.Json.Grammar

/-!
Values that are passed over.

`IsValue` is the grammar of any value at all: nested to any depth, with numerals of any size and
escapes that need not spell a text. `skipValue` passes over every such value and stops right behind
it (`skipValue_of_isValue`). It goes over a whole text in one loop, with the marks that are open on
a stack, so what is said of a value inside the loop is that the loop comes to the same end as it
would from behind the value (`Passes`).
-/

namespace RecordStore.Json

/-! ### The grammar -/

/-- The bytes may stand between two quotation marks. -/
inductive IsQuoted : Bytes → Prop
  | nil : IsQuoted []
  | plain {b : UInt8} {raw : Bytes} (visible : ¬b < 32) (mark : b ≠ 34) (backslash : b ≠ 92)
      (others : IsQuoted raw) : IsQuoted (b :: raw)
  | letter {b : UInt8} {c : Char} {raw : Bytes} (named : Names b c) (others : IsQuoted raw) :
      IsQuoted (92 :: b :: raw)
  | number {digits raw : Bytes} {n : Nat} (form : HexDigits digits n) (others : IsQuoted raw) :
      IsQuoted (92 :: 117 :: (digits ++ raw))

/-- The bytes are a value that is neither an array nor an object. -/
inductive IsScalar : Bytes → Prop
  | null : IsScalar [110, 117, 108, 108]
  | true : IsScalar [116, 114, 117, 101]
  | false : IsScalar [102, 97, 108, 115, 101]
  | number {bytes : Bytes} (numeral : IsNumeral bytes) : IsScalar bytes
  | text {raw : Bytes} (quoted : IsQuoted raw) : IsScalar (34 :: (raw ++ [34]))

/-- The bytes are a member of an object, with what its value may be given. -/
inductive IsMember (Value : Bytes → Prop) : Bytes → Unit → Prop
  | member {raw before after bytes : Bytes} (quoted : IsQuoted raw) (left : Blanks before)
      (right : Blanks after) (stands : Value bytes) :
      IsMember Value (34 :: (raw ++ 34 :: (before ++ 58 :: (after ++ bytes)))) ()

/-- The bytes are a value, with what may stand inside arrays and objects given. -/
inductive IsNested (Value : Bytes → Prop) : Bytes → Prop
  | scalar {bytes : Bytes} (form : IsScalar bytes) : IsNested Value bytes
  | array {bytes : Bytes} {items : List Unit}
      (entries : Listing 93 (fun bytes (_ : Unit) => Value bytes) true bytes items) :
      IsNested Value (91 :: bytes)
  | object {bytes : Bytes} {members : List Unit}
      (entries : Listing 125 (IsMember Value) true bytes members) : IsNested Value (123 :: bytes)

/-- The bytes are a value in which at most so many arrays and objects enclose one another. -/
def IsWithin : (levels : Nat) → Bytes → Prop
  | 0 => IsScalar
  | levels + 1 => IsNested (IsWithin levels)

/-- The bytes are a value. -/
def IsValue (bytes : Bytes) : Prop :=
  ∃ levels, IsWithin levels bytes

/-! ### Texts and numerals -/

variable {bytes raw after rest : Bytes} {first : Bool}

theorem skipText_mark (rest : Bytes) : skipText (34 :: rest) = .ok rest := by
  rw [skipText, if_pos rfl]

theorem skipText_escape (escaped : skipEscape bytes = .ok after) :
    skipText (92 :: bytes) = skipText after := by
  rw [skipText, if_neg (by decide), if_pos rfl]
  split
  · rename_i failed
    rw [escaped] at failed
    cases failed
  · rename_i again
    rw [escaped] at again
    cases again
    rfl

/-- A text is passed over up to the mark that ends it. -/
theorem IsQuoted.skip (quoted : IsQuoted raw) (rest : Bytes) :
    skipText (raw ++ 34 :: rest) = .ok rest := by
  induction quoted with
  | nil => exact skipText_mark rest
  | plain visible mark backslash _ ih =>
      rw [List.cons_append, skipText, if_neg mark, if_neg backslash, if_neg visible]
      exact ih
  | letter named _ ih =>
      rename_i b c raw _
      obtain ⟨byte, letter, -⟩ := names_iff.mp named
      have escaped : skipEscape (b :: (raw ++ 34 :: rest)) = .ok (raw ++ 34 :: rest) := by
        simp only [skipEscape, letter]
      exact (skipText_escape escaped).trans ih
  | number form _ ih =>
      rename_i digits raw n _
      have read := hexEscape_eq_ok_iff.mpr
        ⟨digits, form, (rfl : digits ++ (raw ++ 34 :: rest) = _)⟩
      have noLetter : letterEscape? 117 = none := rfl
      have escaped :
          skipEscape (117 :: (digits ++ (raw ++ 34 :: rest))) = .ok (raw ++ 34 :: rest) := by
        simp only [skipEscape, noLetter, if_pos, read]
      rw [List.cons_append, List.cons_append, List.append_assoc]
      exact (skipText_escape escaped).trans ih

theorem IsPower.skip {power : Bytes} (form : IsPower power) (ends : Ends after) :
    skipExponent (power ++ after) = .ok after := by
  obtain ⟨signed, lead, others⟩ := form
  rename_i sign b more
  have behind := skipDigits_append others ends.stops
  cases signed with
  | none =>
      have unsigned : ¬(b = 43 ∨ b = 45) := by
        rintro (rfl | rfl) <;> exact absurd lead (by decide)
      simp only [List.nil_append, List.cons_append, skipExponent, if_neg unsigned, if_pos lead,
        behind]
  | plus => simp [skipExponent, lead, behind]
  | minus => simp [skipExponent, lead, behind]

theorem skipAfterInteger_of_ends (ends : Ends after) : skipAfterInteger after = .ok after := by
  cases after with
  | nil => rfl
  | cons b after =>
      obtain ⟨-, point, low, high⟩ := ends b rfl
      rw [skipAfterInteger, if_neg point, if_neg (not_or.mpr ⟨low, high⟩)]

theorem IsTail.skip {tail : Bytes} (form : IsTail tail) (ends : Ends after) :
    skipAfterInteger (tail ++ after) = .ok after := by
  obtain ⟨fraction, exponent⟩ := form
  cases fraction with
  | none =>
      cases exponent with
      | none => exact skipAfterInteger_of_ends ends
      | power mark behind =>
          have letter : ∀ b : UInt8, b = 101 ∨ b = 69 → b ≠ 46 := by
            rintro b (rfl | rfl) <;> decide
          rw [List.nil_append, List.cons_append, skipAfterInteger, if_neg (letter _ mark),
            if_pos mark, behind.skip ends]
  | digits lead others =>
      rename_i exponent b more
      have behind := skipDigits_append others (exponent.stops ends)
      rw [List.append_assoc, List.cons_append, List.cons_append, skipAfterInteger, if_pos rfl]
      cases exponent with
      | none =>
          rw [List.nil_append] at behind
          cases after with
          | nil =>
              rw [List.append_nil] at behind
              simp [skipFraction, lead, behind]
          | cons c after =>
              obtain ⟨-, -, low, high⟩ := ends c rfl
              simp [skipFraction, lead, behind, low, high]
      | power mark power =>
          rw [List.cons_append] at behind
          simp [skipFraction, lead, behind, mark, power.skip ends]

/-- A numeral is passed over, whatever ends it. -/
theorem IsMagnitude.skip (form : IsMagnitude bytes) (ends : Ends after) :
    skipNumber (bytes ++ after) = .ok after := by
  obtain ⟨whole, tail⟩ := form
  rename_i whole' tail'
  have behind := tail.skip ends
  have stops := tail.stops ends
  rw [List.append_assoc]
  cases whole with
  | zero =>
      generalize tail' ++ after = rest at behind stops
      cases rest with
      | nil => exact behind
      | cons c rest =>
          have noDigit := stops c rfl
          simpa [skipNumber, noDigit] using behind
  | digits lead nonzero others =>
      simp only [List.cons_append, skipNumber, if_neg nonzero, if_pos lead,
        skipDigits_append others stops, behind]

theorem IsMagnitude.exists_digit (form : IsMagnitude bytes) :
    ∃ b more, bytes = b :: more ∧ isDigit b = true := by
  obtain ⟨whole, -⟩ := form
  cases whole with
  | zero => exact ⟨48, _, rfl, rfl⟩
  | digits lead _ _ => exact ⟨_, _, rfl, lead⟩

theorem skipScalar_digit {b : UInt8} (digit : isDigit b = true) (rest : Bytes) :
    skipScalar b rest = skipNumber (b :: rest) := by
  have other {c : UInt8} (noDigit : isDigit c = false) : b ≠ c := by
    rintro rfl
    exact absurd digit (by rw [noDigit]; decide)
  simp only [skipScalar, if_pos digit, if_neg (other (c := 110) rfl),
    if_neg (other (c := 116) rfl), if_neg (other (c := 102) rfl), if_neg (other (c := 45) rfl)]

/-- A scalar starts with a byte that tells it from blanks, arrays and objects, and is passed over
whatever ends it. -/
theorem IsScalar.skip (form : IsScalar bytes) :
    ∃ b more, bytes = b :: more ∧ Begins b ∧ b ≠ 91 ∧ b ≠ 123 ∧
      ∀ after, Ends after → skipScalar b (more ++ after) = .ok after := by
  have passed {letters : Bytes} (after : Bytes) : literal letters (letters ++ after) = .ok after :=
    literal_eq_ok_iff.mpr rfl
  cases form with
  | null => exact ⟨_, _, rfl, by decide, by decide, by decide, fun after _ => passed after⟩
  | true => exact ⟨_, _, rfl, by decide, by decide, by decide, fun after _ => passed after⟩
  | false => exact ⟨_, _, rfl, by decide, by decide, by decide, fun after _ => passed after⟩
  | number numeral =>
      cases numeral with
      | positive magnitude =>
          obtain ⟨b, more, rfl, digit⟩ := magnitude.exists_digit
          have range := isDigit_eq_true_iff.mp digit
          refine ⟨b, more, rfl, ?_, ?_, ?_, fun after ends => ?_⟩
          · unfold Begins IsBlank
            simp only [ne_eq, ← UInt8.toNat_inj, UInt8.reduceToNat]
            omega
          · rintro rfl
            exact absurd digit (by decide)
          · rintro rfl
            exact absurd digit (by decide)
          · rw [skipScalar_digit digit]
            exact magnitude.skip ends
      | negative magnitude =>
          refine ⟨45, _, rfl, by decide, by decide, by decide, fun after ends => ?_⟩
          exact magnitude.skip ends
  | text quoted =>
      refine ⟨34, _, rfl, by decide, by decide, by decide, fun after _ => ?_⟩
      rw [List.append_assoc, List.singleton_append]
      exact quoted.skip after

/-! ### The loop -/

/-- What the loop makes of where it is to go on. -/
def resume (fuel : Nat) : Except Fault SkipState → Except Fault Bytes
  | .error fault => .error fault
  | .ok (.done rest) => .ok rest
  | .ok (.value marks rest) => skipWithin fuel marks rest

/-- From behind an item, or behind an opening mark, the loop arrives at that end. A unit of fuel for
each byte that is left is enough, both for the marks that are closed and for the values. -/
def Arrives (comma : Bool) (marks : List Enclosure) (bytes rest : Bytes) : Prop :=
  ∀ steps fuel, bytes.length < steps → bytes.length < fuel →
    resume fuel (nextItem steps comma marks bytes) = .ok rest

/-- In front of a value of that form, the loop arrives where it does from behind the value. -/
structure Passes (Value : Bytes → Prop) : Prop where
  lead : ∀ {bytes : Bytes}, Value bytes → ∃ b more, bytes = b :: more ∧ Begins b
  pass : ∀ {bytes blanks after rest : Bytes} {marks : List Enclosure} {fuel : Nat}, Value bytes →
    Blanks blanks → Ends after → Arrives true marks after rest → (bytes ++ after).length < fuel →
      skipWithin fuel marks (blanks ++ (bytes ++ after)) = .ok rest

variable {Value : Bytes → Prop} {marks : List Enclosure} {fuel steps : Nat}

/-- Where no mark is open the loop has arrived. -/
theorem arrives_nil (rest : Bytes) : Arrives true [] rest rest := by
  intro steps fuel enough _
  obtain ⟨steps, rfl⟩ : ∃ more, steps = more + 1 := ⟨steps - 1, by omega⟩
  rfl

theorem skipWithin_blanks {blanks : Bytes} (only : Blanks blanks) (bytes : Bytes) :
    skipWithin (fuel + 1) marks (blanks ++ bytes) = skipWithin (fuel + 1) marks bytes := by
  simp only [skipWithin, skipBlanks_append only]

theorem skipWithin_scalar {b : UInt8} {more : Bytes} (begins : Begins b) (notArray : b ≠ 91)
    (notObject : b ≠ 123) (skipped : skipScalar b more = .ok after) :
    skipWithin (fuel + 1) marks (b :: more) =
      resume fuel (nextItem (fuel + 1) true marks after) := by
  simp only [skipWithin, skipBlanks_cons begins.1, if_neg notArray, if_neg notObject, skipped]
  split <;> simp [resume, *]

theorem skipWithin_array (marks : List Enclosure) (more : Bytes) :
    skipWithin (fuel + 1) marks (91 :: more) =
      resume fuel (nextItem (fuel + 1) false (.array :: marks) more) := by
  simp only [skipWithin, skipBlanks_cons (by decide : ¬IsBlank 91), if_pos]
  split <;> simp [resume, *]

theorem skipWithin_object (marks : List Enclosure) (more : Bytes) :
    skipWithin (fuel + 1) marks (123 :: more) =
      resume fuel (nextItem (fuel + 1) false (.object :: marks) more) := by
  simp only [skipWithin, skipBlanks_cons (by decide : ¬IsBlank 123), if_pos,
    if_neg (by decide : ¬(123 : UInt8) = 91)]
  split <;> simp [resume, *]

/-- What closes an array or object is passed over, and the mark is no longer open. -/
theorem Arrives.close (behind : Arrives true marks after rest) (around : Enclosure)
    {blanks : Bytes} (only : Blanks blanks) (comma : Bool) :
    Arrives comma (around :: marks) (blanks ++ around.closing :: after) rest := by
  intro steps fuel enough room
  have visible : ¬IsBlank around.closing := by cases around <;> decide
  simp only [List.length_append, List.length_cons] at enough room
  obtain ⟨steps, rfl⟩ : ∃ more, steps = more + 1 := ⟨steps - 1, by omega⟩
  have closed : nextItem (steps + 1) comma (around :: marks)
      (blanks ++ around.closing :: after) = nextItem steps true marks after := by
    simp only [nextItem, skipBlanks_mark only visible, if_pos]
  rw [closed]
  exact behind steps fuel (by omega) (by omega)

theorem exists_nextItem_array {lead : Bytes} {b : UInt8} (form : Lead first lead)
    (begins : Begins b) (more : Bytes) (steps : Nat) (marks : List Enclosure) :
    ∃ blanks, Blanks blanks ∧ nextItem (steps + 1) (!first) (.array :: marks) (lead ++ b :: more) =
      .ok (.value (.array :: marks) (blanks ++ b :: more)) := by
  obtain ⟨visible, mark⟩ := begins
  cases form with
  | first only =>
      refine ⟨[], Blanks.nil, ?_⟩
      simp [nextItem, skipBlanks_mark only visible, Enclosure.closing, mark]
  | later left right =>
      rename_i before after
      refine ⟨after, right, ?_⟩
      rw [List.append_assoc, List.cons_append]
      simp [nextItem, skipBlanks_mark left (by decide : ¬IsBlank 44), Enclosure.closing]

theorem skipName_eq_ok {blanks before : Bytes} (only : Blanks blanks) (quoted : IsQuoted raw)
    (left : Blanks before) (rest : Bytes) :
    skipName (blanks ++ 34 :: (raw ++ 34 :: (before ++ 58 :: rest))) = .ok rest := by
  have mark := colon_eq_ok_iff.mpr ⟨before, left, (rfl : before ++ 58 :: rest = _)⟩
  simp only [skipName, skipBlanks_mark only (by decide : ¬IsBlank 34), if_pos, quoted.skip, mark]

theorem nextItem_object {lead before : Bytes} (form : Lead first lead) (quoted : IsQuoted raw)
    (left : Blanks before) (rest : Bytes) :
    nextItem (steps + 1) (!first) (.object :: marks)
        (lead ++ 34 :: (raw ++ 34 :: (before ++ 58 :: rest))) =
      .ok (.value (.object :: marks) rest) := by
  cases form with
  | first only =>
      have named := skipName_eq_ok Blanks.nil quoted left rest
      rw [List.nil_append] at named
      simp [nextItem, skipBlanks_mark only (by decide : ¬IsBlank 34), Enclosure.closing, named]
  | later before right =>
      have named := skipName_eq_ok right quoted left rest
      rw [List.append_assoc, List.cons_append]
      simp [nextItem, skipBlanks_mark before (by decide : ¬IsBlank 44), Enclosure.closing, named]

/-! ### What is of the grammar is passed over -/

theorem Passes.elements {items : List Unit} (passes : Passes Value)
    (listing : Listing 93 (fun bytes (_ : Unit) => Value bytes) first bytes items)
    (behind : Arrives true marks after rest) :
    Arrives (!first) (.array :: marks) (bytes ++ after) rest := by
  induction listing with
  | close only =>
      rw [List.append_assoc, List.singleton_append]
      exact behind.close .array only _
  | entry separated stands others ih =>
      rename_i first lead bytes more _ items
      intro steps fuel enough room
      simp only [List.length_append] at enough room
      obtain ⟨steps, rfl⟩ : ∃ more, steps = more + 1 := ⟨steps - 1, by omega⟩
      obtain ⟨b, tail, rfl, begins⟩ := passes.lead stands
      obtain ⟨blanks, only, next⟩ :=
        exists_nextItem_array separated begins (tail ++ (more ++ after)) steps marks
      rw [List.append_assoc, List.append_assoc, List.cons_append, next]
      refine passes.pass stands only (others.ends (by decide) after) ih ?_
      simp only [List.length_append]
      omega

theorem Passes.members {members : List Unit} (passes : Passes Value)
    (listing : Listing 125 (IsMember Value) first bytes members)
    (behind : Arrives true marks after rest) :
    Arrives (!first) (.object :: marks) (bytes ++ after) rest := by
  induction listing with
  | close only =>
      rw [List.append_assoc, List.singleton_append]
      exact behind.close .object only _
  | entry separated stands others ih =>
      rename_i first lead _ more _ members
      obtain ⟨quoted, left, right, stands⟩ := stands
      intro steps fuel enough room
      simp only [List.length_append, List.length_cons] at enough room
      obtain ⟨steps, rfl⟩ : ∃ more, steps = more + 1 := ⟨steps - 1, by omega⟩
      simp only [List.append_assoc, List.cons_append]
      rw [nextItem_object separated quoted left]
      refine passes.pass stands right (others.ends (by decide) after) ih ?_
      simp only [List.length_append]
      omega

theorem Passes.scalar : Passes IsScalar := by
  constructor
  · intro bytes form
    obtain ⟨b, more, parts, begins, -⟩ := form.skip
    exact ⟨b, more, parts, begins⟩
  · intro bytes blanks after rest marks fuel form only ends behind enough
    obtain ⟨b, more, rfl, begins, notArray, notObject, skipped⟩ := form.skip
    simp only [List.length_append, List.length_cons] at enough
    obtain ⟨fuel, rfl⟩ : ∃ more, fuel = more + 1 := ⟨fuel - 1, by omega⟩
    rw [skipWithin_blanks only, List.cons_append,
      skipWithin_scalar begins notArray notObject (skipped after ends)]
    exact behind (fuel + 1) fuel (by omega) (by omega)

theorem Passes.nested (passes : Passes Value) : Passes (IsNested Value) := by
  constructor
  · intro bytes form
    cases form with
    | scalar form => exact Passes.scalar.lead form
    | array _ => exact ⟨91, _, rfl, by decide⟩
    | object _ => exact ⟨123, _, rfl, by decide⟩
  · intro bytes blanks after rest marks fuel form only ends behind enough
    cases form with
    | scalar form => exact Passes.scalar.pass form only ends behind enough
    | array entries =>
        simp only [List.length_append, List.length_cons] at enough
        obtain ⟨fuel, rfl⟩ : ∃ more, fuel = more + 1 := ⟨fuel - 1, by omega⟩
        rw [skipWithin_blanks only, List.cons_append, skipWithin_array]
        apply passes.elements entries behind
        · simp only [List.length_append]
          omega
        · simp only [List.length_append]
          omega
    | object entries =>
        simp only [List.length_append, List.length_cons] at enough
        obtain ⟨fuel, rfl⟩ : ∃ more, fuel = more + 1 := ⟨fuel - 1, by omega⟩
        rw [skipWithin_blanks only, List.cons_append, skipWithin_object]
        apply passes.members entries behind
        · simp only [List.length_append]
          omega
        · simp only [List.length_append]
          omega

theorem passes (levels : Nat) : Passes (IsWithin levels) := by
  induction levels with
  | zero => exact Passes.scalar
  | succ levels ih => exact ih.nested

/-- A value is passed over, whatever it is and however deep. -/
theorem skipValue_of_isValue {blanks : Bytes} (value : IsValue bytes) (only : Blanks blanks)
    (ends : Ends after) : skipValue (blanks ++ (bytes ++ after)) = .ok after := by
  obtain ⟨levels, form⟩ := value
  apply (passes levels).pass form only ends (arrives_nil after)
  simp only [List.length_append]
  omega

end RecordStore.Json
