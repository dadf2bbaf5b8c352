import RecordStore.Json.Reader
import Mathlib

/-!
Numerals and the numbers they are read as.

The grammar of a numeral is stated apart from the readers, which look at one byte after another: a
sign, an integer part without leading zeros, a fraction and an exponent. What a reader takes is of
that grammar, and it takes the same bytes for the same number whatever ends the numeral (`Takes`),
so a numeral can be read alone and in its place with one outcome. An integer of the 64-bit ranges is
kept exactly (`NumberText.integer`); of all other numerals the grammar says which bytes they are,
and the number is the floating-point one that they are read as.
-/

namespace RecordStore.Json

/-! ### The grammar -/

/-- All bytes are decimal digits. -/
def Digits (bytes : Bytes) : Prop :=
  ∀ b ∈ bytes, isDigit b = true

/-- The integer part of a numeral: zero, or digits that do not start with zero. -/
inductive IsWhole : Bytes → Prop
  | zero : IsWhole [48]
  | digits {b : UInt8} {more : Bytes} (lead : isDigit b = true) (nonzero : b ≠ 48)
      (others : Digits more) : IsWhole (b :: more)

/-- The fraction of a numeral, which may be missing. -/
inductive IsFraction : Bytes → Prop
  | none : IsFraction []
  | digits {b : UInt8} {more : Bytes} (lead : isDigit b = true) (others : Digits more) :
      IsFraction (46 :: b :: more)

/-- The sign of an exponent, which may be missing. -/
inductive IsSign : Bytes → Prop
  | none : IsSign []
  | plus : IsSign [43]
  | minus : IsSign [45]

/-- A sign or none, and at least one digit. -/
inductive IsPower : Bytes → Prop
  | parts {sign : Bytes} {b : UInt8} {more : Bytes} (signed : IsSign sign)
      (lead : isDigit b = true) (others : Digits more) : IsPower (sign ++ b :: more)

/-- The exponent of a numeral, which may be missing. -/
inductive IsExponent : Bytes → Prop
  | none : IsExponent []
  | power {letter : UInt8} {power : Bytes} (mark : letter = 101 ∨ letter = 69)
      (behind : IsPower power) : IsExponent (letter :: power)

/-- What may follow the integer part of a numeral. -/
inductive IsTail : Bytes → Prop
  | parts {fraction exponent : Bytes} (first : IsFraction fraction) (second : IsExponent exponent) :
      IsTail (fraction ++ exponent)

/-- The bytes are a numeral behind its sign. -/
inductive IsMagnitude : Bytes → Prop
  | parts {whole tail : Bytes} (first : IsWhole whole) (second : IsTail tail) :
      IsMagnitude (whole ++ tail)

/-- The bytes are a numeral. -/
inductive IsNumeral : Bytes → Prop
  | positive {bytes : Bytes} (magnitude : IsMagnitude bytes) : IsNumeral bytes
  | negative {bytes : Bytes} (magnitude : IsMagnitude bytes) : IsNumeral (45 :: bytes)

/-- The number that digits make behind the digits of `n`. -/
def decimal (n : Nat) (digits : Bytes) : Nat :=
  digits.foldl (fun n b => n * 10 + digitValue b) n

/-- The bytes spell an integer. Minus zero does not spell one. -/
inductive IntegerText : Bytes → Int → Prop
  | natural {digits : Bytes} (whole : IsWhole digits) : IntegerText digits (decimal 0 digits)
  | negative {digits : Bytes} (whole : IsWhole digits) (nonzero : 0 < decimal 0 digits) :
      IntegerText (45 :: digits) (-decimal 0 digits)

/-- The number that an integer of the 64-bit ranges is kept as. -/
def Number.ofInt (i : Int) : Number :=
  if 0 ≤ i then .natural i.toNat else .negative (-i).toNat

/-- The bytes are the text of a number. An integer of the 64-bit ranges is told by its digits; every
other numeral stands for the floating-point number that it is read as alone. -/
inductive NumberText : Bytes → Number → Prop
  | integer {bytes : Bytes} {i : Int} (spelled : IntegerText bytes i) (low : -2 ^ 63 ≤ i)
      (high : i < 2 ^ 64) : NumberText bytes (.ofInt i)
  | real {b : UInt8} {more : Bytes} {f : Float} (numeral : IsNumeral (b :: more))
      (alone : scalar b more = .ok (.number (.real f), [])) : NumberText (b :: more) (.real f)

/-! ### What a reader takes -/

/-- No byte that could go on with a numeral stands here. -/
def Ends (after : Bytes) : Prop :=
  ∀ b ∈ after.head?, isDigit b = false ∧ b ≠ 46 ∧ b ≠ 101 ∧ b ≠ 69

/-- No digit stands here. -/
def Stops (after : Bytes) : Prop :=
  ∀ b ∈ after.head?, isDigit b = false

/-- The reader takes the bytes for that number, whatever ends the numeral. -/
def Takes (reader : Bytes → Reading Number) (body : Bytes) (n : Number) : Prop :=
  ∀ after, Ends after → reader (body ++ after) = .ok (n, after)

/-- What was read stood before the rest, is of that form, and is what the reader takes for the
number. -/
def Cuts (reader : Bytes → Reading Number) (Form : Bytes → Prop) (bytes rest : Bytes)
    (n : Number) : Prop :=
  ∃ body, Form body ∧ bytes = body ++ rest ∧ Takes reader body n

/-- The number is a floating-point one. -/
def IsReal (n : Number) : Prop :=
  ∃ f, n = .real f

theorem Ends.nil : Ends [] :=
  fun _ here => nomatch here

theorem Ends.cons {b : UInt8} (other : isDigit b = false ∧ b ≠ 46 ∧ b ≠ 101 ∧ b ≠ 69)
    (more : Bytes) : Ends (b :: more) := by
  rintro _ ⟨⟩
  exact other

theorem Ends.stops {after : Bytes} (ends : Ends after) : Stops after :=
  fun b here => (ends b here).1

/-- A reader that takes some bytes reads them alone. -/
theorem Takes.alone {reader : Bytes → Reading Number} {body : Bytes} {n : Number}
    (takes : Takes reader body n) : reader body = .ok (n, []) := by
  have read := takes [] Ends.nil
  rwa [List.append_nil] at read

theorem Digits.nil : Digits [] :=
  fun _ here => nomatch here

theorem Digits.cons {b : UInt8} {more : Bytes} (first : isDigit b = true) (others : Digits more) :
    Digits (b :: more) := by
  intro c here
  rcases List.mem_cons.mp here with rfl | later
  · exact first
  · exact others c later

theorem isDigit_eq_true_iff {b : UInt8} : isDigit b = true ↔ 48 ≤ b.toNat ∧ b.toNat ≤ 57 := by
  simp [isDigit, UInt8.le_iff_toNat_le]

variable {positive upward : Bool} {significand e count exponent : Nat} {whole start power : Int}
  {bytes rest : Bytes} {n : Number}

theorem real_eq_ok (read : real positive significand power bytes = .ok (n, rest)) :
    rest = bytes ∧ IsReal n ∧ ∀ after, real positive significand power after = .ok (n, after) := by
  unfold real at read ⊢
  split at read
  · cases read
  · cases read
    exact ⟨rfl, ⟨_, rfl⟩, fun after => rfl⟩

/-! A reader that stops where the numeral ends, or passes on from a byte to another reader. -/

section Cuts

variable {reader next : Bytes → Reading Number} {Form Form' : Bytes → Prop}

theorem Cuts.nil (form : Form []) (stops : ∀ after, Ends after → reader after = .ok (n, after)) :
    Cuts reader Form rest rest n :=
  ⟨[], form, rfl, stops⟩

theorem Cuts.real (form : Form [])
    (stops : ∀ after, Ends after → reader after = real positive significand power after)
    (read : real positive significand power bytes = .ok (n, rest)) :
    IsReal n ∧ Cuts reader Form bytes rest n := by
  obtain ⟨rfl, isReal, same⟩ := real_eq_ok read
  refine ⟨isReal, Cuts.nil form fun after ends => ?_⟩
  rw [stops after ends, same after]

theorem Cuts.cons {b : UInt8} (cuts : Cuts next Form bytes rest n)
    (form : ∀ body, Form body → Form' (b :: body))
    (passes : ∀ more, reader (b :: more) = next more) :
    Cuts reader Form' (b :: bytes) rest n := by
  obtain ⟨body, formed, rfl, takes⟩ := cuts
  refine ⟨b :: body, form body formed, rfl, fun after ends => ?_⟩
  rw [List.cons_append, passes]
  exact takes after ends

/-- A reader that hands all of what it takes to another one takes what that one takes. -/
theorem Cuts.mono (cuts : Cuts next Form bytes rest n) (form : ∀ body, Form body → Form' body)
    (hands : ∀ body after, Form body → Ends after → reader (body ++ after) = next (body ++ after)) :
    Cuts reader Form' bytes rest n := by
  obtain ⟨body, formed, parts, takes⟩ := cuts
  refine ⟨body, form body formed, parts, fun after ends => ?_⟩
  rw [hands body after formed ends]
  exact takes after ends

end Cuts

theorem skipDigits_of_stops {after : Bytes} (stops : Stops after) : skipDigits after = after := by
  cases after with
  | nil => rfl
  | cons b after => rw [skipDigits, stops b rfl, if_neg Bool.false_ne_true]

theorem skipDigits_append {digits after : Bytes} (form : Digits digits) (stops : Stops after) :
    skipDigits (digits ++ after) = after := by
  induction digits with
  | nil => exact skipDigits_of_stops stops
  | cons b digits ih =>
      obtain ⟨digit, others⟩ := List.forall_mem_cons.mp form
      rw [List.cons_append, skipDigits, if_pos digit, ih others]

/-- What is skipped are digits. -/
theorem exists_digits (bytes : Bytes) :
    ∃ digits, Digits digits ∧ bytes = digits ++ skipDigits bytes := by
  induction bytes with
  | nil => exact ⟨[], Digits.nil, rfl⟩
  | cons b bytes ih =>
      by_cases digit : isDigit b = true
      · obtain ⟨digits, decimal, parts⟩ := ih
        refine ⟨b :: digits, decimal.cons digit, ?_⟩
        rw [skipDigits, if_pos digit, List.cons_append, ← parts]
      · refine ⟨[], Digits.nil, ?_⟩
        rw [skipDigits, if_neg digit, List.nil_append]

/-! ### Exponents -/

theorem exponentDigits_of_ends {after : Bytes} (ends : Ends after) :
    exponentDigits positive upward significand start e after =
      real positive significand (if upward then start + e else start - e) after := by
  cases after with
  | nil => rfl
  | cons b after => rw [exponentDigits, (ends b rfl).1, if_neg Bool.false_ne_true]

theorem exponentDigits_cut
    (read : exponentDigits positive upward significand start e bytes = .ok (n, rest)) :
    IsReal n ∧ Cuts (exponentDigits positive upward significand start e) Digits bytes rest n := by
  induction bytes generalizing e with
  | nil => exact Cuts.real Digits.nil (fun _ => exponentDigits_of_ends) read
  | cons b bytes ih =>
      rw [exponentDigits] at read
      by_cases digit : isDigit b = true
      · rw [if_pos digit] at read
        by_cases long : maxExponent < e * 10 + digitValue b
        · rw [if_pos long] at read
          by_cases beyond : significand ≠ 0 ∧ upward = true
          · rw [if_pos beyond] at read
            cases read
          · rw [if_neg beyond] at read
            cases read
            obtain ⟨digits, decimal, parts⟩ := exists_digits bytes
            refine ⟨⟨_, rfl⟩, b :: digits, decimal.cons digit, ?_, fun after ends => ?_⟩
            · rw [List.cons_append, ← parts]
            · rw [List.cons_append, exponentDigits, if_pos digit, if_pos long, if_neg beyond,
                skipDigits_append decimal ends.stops]
        · rw [if_neg long] at read
          obtain ⟨isReal, cuts⟩ := ih read
          refine ⟨isReal, cuts.cons (fun _ others => others.cons digit) fun more => ?_⟩
          rw [exponentDigits, if_pos digit, if_neg long]
      · rw [if_neg digit] at read
        exact Cuts.real Digits.nil (fun _ => exponentDigits_of_ends) read

/-- The reader of an exponent behind its sign. -/
def unsignedExponent (positive upward : Bool) (significand : Nat) (start : Int) :
    Bytes → Reading Number
  | [] => .error (.before .eofInValue [])
  | b :: after =>
    if isDigit b then exponentDigits positive upward significand start (digitValue b) after
    else .error (.before .badNumber after)

theorem exponentPart_cons (b : UInt8) (more : Bytes) :
    exponentPart positive significand start (b :: more) =
      if b = 43 then unsignedExponent positive true significand start more
      else if b = 45 then unsignedExponent positive false significand start more
      else unsignedExponent positive true significand start (b :: more) := by
  by_cases plus : b = 43
  · subst plus
    rw [if_pos rfl]
    cases more <;> rfl
  · rw [if_neg plus]
    by_cases minus : b = 45
    · subst minus
      rw [if_pos rfl]
      cases more <;> rfl
    · rw [if_neg minus]
      simp only [exponentPart, unsignedExponent, if_neg plus, if_neg minus]

theorem unsignedExponent_cut
    (read : unsignedExponent positive upward significand start bytes = .ok (n, rest)) :
    IsReal n ∧ Cuts (unsignedExponent positive upward significand start)
      (fun body => ∃ b more, body = b :: more ∧ isDigit b = true ∧ Digits more) bytes rest n := by
  unfold unsignedExponent at read
  split at read
  · cases read
  · rename_i b after
    split at read
    · rename_i digit
      obtain ⟨isReal, cuts⟩ := exponentDigits_cut read
      refine ⟨isReal, cuts.cons (fun more others => ⟨b, more, rfl, digit, others⟩) fun more => ?_⟩
      rw [unsignedExponent, if_pos digit]
    · cases read

theorem exponentPart_cut (read : exponentPart positive significand start bytes = .ok (n, rest)) :
    IsReal n ∧ Cuts (exponentPart positive significand start) IsPower bytes rest n := by
  cases bytes with
  | nil => cases read
  | cons b bytes =>
      rw [exponentPart_cons] at read
      by_cases plus : b = 43
      · rw [if_pos plus] at read
        obtain ⟨isReal, cuts⟩ := unsignedExponent_cut read
        refine ⟨isReal, cuts.cons ?_ fun more => ?_⟩
        · rintro body ⟨c, more, rfl, lead, others⟩
          exact plus ▸ .parts .plus lead others
        · rw [exponentPart_cons, if_pos plus]
      · rw [if_neg plus] at read
        by_cases minus : b = 45
        · rw [if_pos minus] at read
          obtain ⟨isReal, cuts⟩ := unsignedExponent_cut read
          refine ⟨isReal, cuts.cons ?_ fun more => ?_⟩
          · rintro body ⟨c, more, rfl, lead, others⟩
            exact minus ▸ .parts .minus lead others
          · rw [exponentPart_cons, if_neg plus, if_pos minus]
        · rw [if_neg minus] at read
          obtain ⟨isReal, body, ⟨c, more, rfl, lead, others⟩, same, takes⟩ :=
            unsignedExponent_cut read
          obtain ⟨rfl, rfl⟩ := List.cons.inj same
          refine ⟨isReal, b :: more, .parts .none lead others, rfl, fun after ends => ?_⟩
          rw [List.cons_append, exponentPart_cons, if_neg plus, if_neg minus]
          exact takes after ends

/-! ### Fractions -/

theorem afterFraction_of_ends {after : Bytes} (ends : Ends after) :
    afterFraction positive significand power after = real positive significand power after := by
  cases after with
  | nil => rfl
  | cons b after =>
      obtain ⟨-, -, low, high⟩ := ends b rfl
      rw [afterFraction, if_neg (not_or.mpr ⟨low, high⟩)]

theorem afterFraction_cut (read : afterFraction positive significand power bytes = .ok (n, rest)) :
    IsReal n ∧ Cuts (afterFraction positive significand power) IsExponent bytes rest n := by
  cases bytes with
  | nil => exact Cuts.real .none (fun _ => afterFraction_of_ends) read
  | cons b bytes =>
      rw [afterFraction] at read
      by_cases letter : b = 101 ∨ b = 69
      · rw [if_pos letter] at read
        obtain ⟨isReal, cuts⟩ := exponentPart_cut read
        refine ⟨isReal, cuts.cons (fun _ => .power letter) fun more => ?_⟩
        rw [afterFraction, if_pos letter]
      · rw [if_neg letter] at read
        exact Cuts.real .none (fun _ => afterFraction_of_ends) read

theorem IsExponent.stops {exponent after : Bytes} (form : IsExponent exponent) (ends : Ends after) :
    Stops (exponent ++ after) := by
  cases form with
  | none => exact ends.stops
  | power mark _ =>
      rintro b ⟨⟩
      rcases mark with rfl | rfl <;> rfl

/-- Digits and an exponent, with a digit where the fraction has had none. -/
inductive IsFractionRest (count : Nat) : Bytes → Prop
  | parts {digits exponent : Bytes} (decimal : Digits digits) (enough : count = 0 → digits ≠ [])
      (behind : IsExponent exponent) : IsFractionRest count (digits ++ exponent)

theorem IsFractionRest.cons {b : UInt8} {body : Bytes} (digit : isDigit b = true)
    (form : IsFractionRest (count + 1) body) : IsFractionRest count (b :: body) := by
  obtain ⟨decimal, -, behind⟩ := form
  rw [← List.cons_append]
  exact .parts (decimal.cons digit) (fun _ => List.cons_ne_nil _ _) behind

theorem fractionDigits_of_stops (some : count ≠ 0) (stops : Stops bytes) :
    fractionDigits positive whole count significand bytes =
      afterFraction positive significand (whole - count) bytes := by
  cases bytes with
  | nil => rw [fractionDigits, if_neg some]
  | cons b bytes =>
      rw [fractionDigits, stops b rfl, if_neg Bool.false_ne_true, if_neg some]

theorem fractionDigits_cut
    (read : fractionDigits positive whole count significand bytes = .ok (n, rest)) :
    IsReal n ∧ Cuts (fractionDigits positive whole count significand) (IsFractionRest count)
      bytes rest n := by
  have stopped {count significand : Nat} {bytes : Bytes} (some : count ≠ 0)
      (read : afterFraction positive significand (whole - count) bytes = .ok (n, rest)) :
      IsReal n ∧ Cuts (fractionDigits positive whole count significand) (IsFractionRest count)
        bytes rest n := by
    obtain ⟨isReal, cuts⟩ := afterFraction_cut read
    refine ⟨isReal, cuts.mono (fun exponent form => ?_) fun exponent after form ends => ?_⟩
    · exact .parts Digits.nil (fun none => absurd none some) form
    · exact fractionDigits_of_stops some (form.stops ends)
  induction bytes generalizing count significand with
  | nil =>
      rw [fractionDigits] at read
      by_cases none : count = 0
      · rw [if_pos none] at read
        cases read
      · rw [if_neg none] at read
        exact stopped none read
  | cons b bytes ih =>
      rw [fractionDigits] at read
      by_cases digit : isDigit b = true
      · rw [if_pos digit] at read
        by_cases long : maxNatural < significand * 10 + digitValue b
        · rw [if_pos long] at read
          obtain ⟨digits, decimal, parts⟩ := exists_digits bytes
          obtain ⟨isReal, exponent, form, left, takes⟩ := afterFraction_cut read
          refine ⟨isReal, b :: digits ++ exponent, ?_, ?_, fun after ends => ?_⟩
          · exact .parts (decimal.cons digit) (fun _ => List.cons_ne_nil _ _) form
          · rw [List.append_assoc, List.cons_append, ← left, ← parts]
          · rw [List.append_assoc, List.cons_append, fractionDigits, if_pos digit, if_pos long,
              skipDigits_append decimal (form.stops ends)]
            exact takes after ends
        · rw [if_neg long] at read
          obtain ⟨isReal, cuts⟩ := ih read
          refine ⟨isReal, cuts.cons (fun _ => IsFractionRest.cons digit) fun more => ?_⟩
          rw [fractionDigits, if_pos digit, if_neg long]
      · rw [if_neg digit] at read
        by_cases none : count = 0
        · rw [if_pos none] at read
          cases read
        · rw [if_neg none] at read
          exact stopped none read

/-! ### Integer parts -/

theorem IsTail.nil : IsTail [] :=
  .parts .none .none

theorem IsTail.ofPoint {body : Bytes} (form : IsFractionRest 0 body) : IsTail (46 :: body) := by
  obtain ⟨decimal, enough, behind⟩ := form
  rename_i digits exponent
  cases digits with
  | nil => exact absurd rfl (enough rfl)
  | cons b more =>
      obtain ⟨lead, others⟩ := List.forall_mem_cons.mp decimal
      exact .parts (.digits lead others) behind

theorem IsTail.ofPower {letter : UInt8} {power : Bytes} (mark : letter = 101 ∨ letter = 69)
    (form : IsPower power) : IsTail (letter :: power) :=
  .parts .none (.power mark form)

theorem IsTail.stops {tail after : Bytes} (form : IsTail tail) (ends : Ends after) :
    Stops (tail ++ after) := by
  obtain ⟨first, second⟩ := form
  cases first with
  | none => exact second.stops ends
  | digits _ _ =>
      rintro b ⟨⟩
      rfl

/-- What may follow the first digits of an integer part. -/
inductive IsWholeRest : Bytes → Prop
  | parts {digits tail : Bytes} (decimal : Digits digits) (behind : IsTail tail) :
      IsWholeRest (digits ++ tail)

theorem IsWholeRest.cons {b : UInt8} {body : Bytes} (digit : isDigit b = true)
    (form : IsWholeRest body) : IsWholeRest (b :: body) := by
  obtain ⟨decimal, behind⟩ := form
  rw [← List.cons_append]
  exact .parts (decimal.cons digit) behind

theorem longInteger_of_ends {after : Bytes} (ends : Ends after) :
    longInteger positive significand exponent after =
      real positive significand exponent after := by
  cases after with
  | nil => rfl
  | cons b after =>
      obtain ⟨digit, point, low, high⟩ := ends b rfl
      rw [longInteger, digit, if_neg Bool.false_ne_true, if_neg point,
        if_neg (not_or.mpr ⟨low, high⟩)]

theorem longInteger_cut
    (read : longInteger positive significand exponent bytes = .ok (n, rest)) :
    IsReal n ∧ Cuts (longInteger positive significand exponent) IsWholeRest bytes rest n := by
  have none : IsWholeRest [] := .parts Digits.nil IsTail.nil
  induction bytes generalizing exponent with
  | nil => exact Cuts.real none (fun _ => longInteger_of_ends) read
  | cons b bytes ih =>
      rw [longInteger] at read
      by_cases digit : isDigit b = true
      · rw [if_pos digit] at read
        obtain ⟨isReal, cuts⟩ := ih read
        refine ⟨isReal, cuts.cons (fun _ => IsWholeRest.cons digit) fun more => ?_⟩
        rw [longInteger, if_pos digit]
      · rw [if_neg digit] at read
        by_cases point : b = 46
        · rw [if_pos point] at read
          obtain ⟨isReal, cuts⟩ := fractionDigits_cut read
          refine ⟨isReal, cuts.cons (fun body form => ?_) fun more => ?_⟩
          · exact point ▸ .parts Digits.nil (.ofPoint form)
          · rw [longInteger, if_neg digit, if_pos point]
        · rw [if_neg point] at read
          by_cases letter : b = 101 ∨ b = 69
          · rw [if_pos letter] at read
            obtain ⟨isReal, cuts⟩ := exponentPart_cut read
            refine ⟨isReal, cuts.cons (fun body form => ?_) fun more => ?_⟩
            · exact .parts Digits.nil (.ofPower letter form)
            · rw [longInteger, if_neg digit, if_neg point, if_pos letter]
          · rw [if_neg letter] at read
            exact Cuts.real none (fun _ => longInteger_of_ends) read

theorem afterInteger_of_ends {after : Bytes} (ends : Ends after) :
    afterInteger positive significand after = .ok (integer positive significand, after) := by
  cases after with
  | nil => rfl
  | cons b after =>
      obtain ⟨-, point, low, high⟩ := ends b rfl
      rw [afterInteger, if_neg point, if_neg (not_or.mpr ⟨low, high⟩)]

/-- Behind an integer part the numeral ends, or its number is a floating-point one. -/
theorem afterInteger_cut (read : afterInteger positive significand bytes = .ok (n, rest)) :
    Cuts (afterInteger positive significand)
      (fun body => IsTail body ∧ (IsReal n ∨ body = [] ∧ n = integer positive significand))
      bytes rest n := by
  have ended (read : Except.ok (integer positive significand, bytes) =
      (.ok (n, rest) : Reading Number)) :
      Cuts (afterInteger positive significand)
        (fun body => IsTail body ∧ (IsReal n ∨ body = [] ∧ n = integer positive significand))
        bytes rest n := by
    cases read
    exact Cuts.nil ⟨IsTail.nil, .inr ⟨rfl, rfl⟩⟩ fun _ => afterInteger_of_ends
  cases bytes with
  | nil => exact ended read
  | cons b bytes =>
      rw [afterInteger] at read
      by_cases point : b = 46
      · rw [if_pos point] at read
        obtain ⟨isReal, cuts⟩ := fractionDigits_cut read
        refine cuts.cons (fun body form => ⟨point ▸ .ofPoint form, .inl isReal⟩) fun more => ?_
        rw [afterInteger, if_pos point]
      · rw [if_neg point] at read
        by_cases letter : b = 101 ∨ b = 69
        · rw [if_pos letter] at read
          obtain ⟨isReal, cuts⟩ := exponentPart_cut read
          refine cuts.cons (fun body form => ⟨.ofPower letter form, .inl isReal⟩) fun more => ?_
          rw [afterInteger, if_neg point, if_pos letter]
        · rw [if_neg letter] at read
          exact ended read

theorem decimal_zero_cons (b : UInt8) (more : Bytes) :
    decimal 0 (b :: more) = decimal (digitValue b) more := by
  rw [decimal, List.foldl_cons, Nat.zero_mul, Nat.zero_add, decimal]

theorem le_decimal (n : Nat) (digits : Bytes) : n ≤ decimal n digits := by
  induction digits generalizing n with
  | nil => exact Nat.le_refl n
  | cons b digits ih => exact Nat.le_trans (by omega) (ih (n * 10 + digitValue b))

theorem integerDigits_of_stops (stops : Stops bytes) :
    integerDigits positive significand bytes = afterInteger positive significand bytes := by
  cases bytes with
  | nil => rfl
  | cons b bytes => rw [integerDigits, stops b rfl, if_neg Bool.false_ne_true]

/-- The digits of an integer that is kept are all counted. -/
theorem integerDigits_append {digits : Bytes} (form : Digits digits)
    (small : decimal significand digits ≤ maxNatural) (stops : Stops rest) :
    integerDigits positive significand (digits ++ rest) =
      afterInteger positive (decimal significand digits) rest := by
  induction digits generalizing significand with
  | nil => exact integerDigits_of_stops stops
  | cons b digits ih =>
      obtain ⟨digit, others⟩ := List.forall_mem_cons.mp form
      have short : ¬maxNatural < significand * 10 + digitValue b :=
        Nat.not_lt.mpr (Nat.le_trans (le_decimal _ digits) small)
      rw [List.cons_append, integerDigits, if_pos digit, if_neg short]
      exact ih others small

theorem integerDigits_cut (small : significand ≤ maxNatural)
    (read : integerDigits positive significand bytes = .ok (n, rest)) :
    Cuts (integerDigits positive significand)
      (fun body => IsWholeRest body ∧ (IsReal n ∨ Digits body ∧
        decimal significand body ≤ maxNatural ∧ n = integer positive (decimal significand body)))
      bytes rest n := by
  have stopped {significand : Nat} {bytes : Bytes} (small : significand ≤ maxNatural)
      (read : afterInteger positive significand bytes = .ok (n, rest)) :
      Cuts (integerDigits positive significand)
        (fun body => IsWholeRest body ∧ (IsReal n ∨ Digits body ∧
          decimal significand body ≤ maxNatural ∧ n = integer positive (decimal significand body)))
        bytes rest n := by
    refine (afterInteger_cut read).mono ?_ fun body after form ends => ?_
    · rintro body ⟨tail, isReal | ⟨rfl, same⟩⟩
      · exact ⟨.parts Digits.nil tail, .inl isReal⟩
      · exact ⟨.parts Digits.nil tail, .inr ⟨Digits.nil, small, same⟩⟩
    · exact integerDigits_of_stops (form.1.stops ends)
  induction bytes generalizing significand with
  | nil => exact stopped small read
  | cons b bytes ih =>
      rw [integerDigits] at read
      by_cases digit : isDigit b = true
      · rw [if_pos digit] at read
        by_cases long : maxNatural < significand * 10 + digitValue b
        · rw [if_pos long] at read
          obtain ⟨isReal, cuts⟩ := longInteger_cut read
          refine cuts.cons (fun body form => ⟨form.cons digit, .inl isReal⟩) fun more => ?_
          rw [integerDigits, if_pos digit, if_pos long]
        · rw [if_neg long] at read
          refine (ih (Nat.le_of_not_lt long) read).cons ?_ fun more => ?_
          · rintro body ⟨form, isReal | ⟨decimal, small, same⟩⟩
            · exact ⟨form.cons digit, .inl isReal⟩
            · exact ⟨form.cons digit, .inr ⟨decimal.cons digit, small, same⟩⟩
          · rw [integerDigits, if_pos digit, if_neg long]
      · rw [if_neg digit] at read
        exact stopped small read

theorem digitValue_le {b : UInt8} (digit : isDigit b = true) : digitValue b ≤ 9 := by
  have range := isDigit_eq_true_iff.mp digit
  unfold digitValue
  omega

theorem readNumber_of_nonzero {b : UInt8} (digit : isDigit b = true) (nonzero : b ≠ 48)
    (more : Bytes) :
    readNumber positive (b :: more) = integerDigits positive (digitValue b) more := by
  simp only [readNumber, if_neg nonzero, if_pos digit]

theorem readNumber_zero (stops : Stops bytes) :
    readNumber positive (48 :: bytes) = afterInteger positive 0 bytes := by
  cases bytes with
  | nil => rfl
  | cons b bytes => simp only [readNumber, if_pos, stops b rfl, if_neg Bool.false_ne_true]

/-- An integer part that is kept is read by its digits. -/
theorem readNumber_append {whole : Bytes} (form : IsWhole whole)
    (small : decimal 0 whole ≤ maxNatural) (stops : Stops rest) :
    readNumber positive (whole ++ rest) = afterInteger positive (decimal 0 whole) rest := by
  cases form with
  | zero => exact readNumber_zero stops
  | digits lead nonzero others =>
      rw [decimal_zero_cons] at small ⊢
      rw [List.cons_append, readNumber_of_nonzero lead nonzero]
      exact integerDigits_append others small stops

/-- What is read as a number is a numeral, and an integer of the 64-bit ranges by its digits. -/
theorem readNumber_cut (read : readNumber positive bytes = .ok (n, rest)) :
    Cuts (readNumber positive)
      (fun body => IsMagnitude body ∧ (IsReal n ∨ IsWhole body ∧ decimal 0 body ≤ maxNatural ∧
        n = integer positive (decimal 0 body))) bytes rest n := by
  cases bytes with
  | nil => cases read
  | cons b bytes =>
      by_cases zero : b = 48
      · subst zero
        have stops : Stops bytes := by
          cases bytes with
          | nil => exact Ends.nil.stops
          | cons c bytes =>
              rintro _ ⟨⟩
              by_contra digit
              rw [Bool.not_eq_false] at digit
              simp [readNumber, digit] at read
        rw [readNumber_zero stops] at read
        obtain ⟨body, ⟨tail, ends⟩, rfl, takes⟩ := afterInteger_cut read
        refine ⟨48 :: body, ⟨.parts .zero tail, ?_⟩, rfl, fun after ends => ?_⟩
        · rcases ends with isReal | ⟨rfl, same⟩
          · exact .inl isReal
          · exact .inr ⟨.zero, by decide, same⟩
        · rw [List.cons_append, readNumber_zero (tail.stops ends)]
          exact takes after ends
      · by_cases digit : isDigit b = true
        · rw [readNumber_of_nonzero digit zero] at read
          have small : digitValue b ≤ maxNatural :=
            Nat.le_trans (digitValue_le digit) (by decide)
          refine (integerDigits_cut small read).cons ?_ (readNumber_of_nonzero digit zero)
          rintro body ⟨⟨decimal, behind⟩, ends⟩
          refine ⟨.parts (.digits digit zero decimal) behind, ?_⟩
          rcases ends with isReal | ⟨others, small, same⟩
          · exact .inl isReal
          · rw [← decimal_zero_cons] at small same
            exact .inr ⟨.digits digit zero others, small, same⟩
        · simp only [readNumber, if_neg zero, if_neg digit] at read
          cases read

/-! ### Numbers -/

theorem ofInt_natCast (n : Nat) : Number.ofInt n = .natural n := by
  rw [Number.ofInt, if_pos (Int.natCast_nonneg n), Int.toNat_natCast]

theorem ofInt_neg {n : Nat} (nonzero : 0 < n) : Number.ofInt (-n) = .negative n := by
  rw [Number.ofInt, if_neg (by omega), neg_neg, Int.toNat_natCast]

theorem integer_true (n : Nat) : integer true n = .ofInt n := by
  rw [ofInt_natCast]
  rfl

theorem integer_false {n : Nat} (nonzero : 0 < n) (small : n ≤ 2 ^ 63) :
    integer false n = .ofInt (-n) := by
  rw [ofInt_neg nonzero]
  simp only [integer, if_neg Bool.false_ne_true]
  rw [if_pos ⟨nonzero, small⟩]

theorem scalar_minus (bytes : Bytes) :
    scalar 45 bytes = (readNumber false bytes).map (Prod.map .number id) := by
  simp only [scalar, if_neg (by decide : ¬(45 : UInt8) = 110), if_pos,
    if_neg (by decide : ¬(45 : UInt8) = 116), if_neg (by decide : ¬(45 : UInt8) = 102)]
  cases readNumber false bytes <;> rfl

theorem scalar_digit {b : UInt8} (digit : isDigit b = true) (bytes : Bytes) :
    scalar b bytes = (readNumber true (b :: bytes)).map (Prod.map .number id) := by
  have other {c : UInt8} (high : isDigit c = false) : b ≠ c := by
    rintro rfl
    exact absurd digit (by rw [high]; decide)
  simp only [scalar, if_pos digit, if_neg (other (c := 110) rfl), if_neg (other (c := 116) rfl),
    if_neg (other (c := 102) rfl), if_neg (other (c := 45) rfl)]
  cases readNumber true (b :: bytes) <;> rfl

theorem map_number_eq_ok_iff {reading : Reading Number} :
    reading.map (Prod.map Json.number id) = .ok (.number n, rest) ↔ reading = .ok (n, rest) := by
  cases reading with
  | error fault => simp [Except.map]
  | ok found => simp [Except.map, Prod.ext_iff]

/-- A scalar is a number just when it starts with the sign or a digit and is read as one. -/
theorem scalar_eq_number_iff {b : UInt8} :
    scalar b bytes = .ok (.number n, rest) ↔
      b = 45 ∧ readNumber false bytes = .ok (n, rest) ∨
        isDigit b = true ∧ readNumber true (b :: bytes) = .ok (n, rest) := by
  constructor
  · intro read
    by_cases minus : b = 45
    · rw [minus, scalar_minus, map_number_eq_ok_iff] at read
      exact .inl ⟨minus, read⟩
    · by_cases digit : isDigit b = true
      · rw [scalar_digit digit, map_number_eq_ok_iff] at read
        exact .inr ⟨digit, read⟩
      · -- Every other scalar is a literal or a text.
        simp only [scalar, if_neg minus, if_neg digit] at read
        repeat' split at read
        all_goals cases read
  · rintro (⟨rfl, read⟩ | ⟨digit, read⟩)
    · rwa [scalar_minus, map_number_eq_ok_iff]
    · rwa [scalar_digit digit, map_number_eq_ok_iff]

theorem IsWhole.lead {b : UInt8} {more : Bytes} (form : IsWhole (b :: more)) :
    isDigit b = true := by
  cases form with
  | zero => rfl
  | digits lead _ _ => exact lead

/-- The reader takes the text of a number for that number. -/
theorem NumberText.takes {b : UInt8} {more after : Bytes} (form : NumberText (b :: more) n)
    (ends : Ends after) : scalar b (more ++ after) = .ok (.number n, after) := by
  rw [scalar_eq_number_iff]
  cases form with
  | integer spelled low high =>
      cases spelled with
      | natural whole =>
          have small : decimal 0 (b :: more) ≤ maxNatural := by
            unfold maxNatural
            omega
          have taken : readNumber true (b :: more ++ after) = _ :=
            readNumber_append whole small ends.stops
          rw [afterInteger_of_ends ends, integer_true] at taken
          exact .inr ⟨whole.lead, taken⟩
      | negative whole nonzero =>
          have small : decimal 0 more ≤ 2 ^ 63 := by omega
          have taken : readNumber false (more ++ after) = _ :=
            readNumber_append whole (Nat.le_trans small (by decide)) ends.stops
          rw [afterInteger_of_ends ends, integer_false nonzero small] at taken
          exact .inl ⟨rfl, taken⟩
  | real numeral alone =>
      rcases scalar_eq_number_iff.mp alone with ⟨rfl, read⟩ | ⟨digit, read⟩
      · obtain ⟨body, -, same, takes⟩ := readNumber_cut read
        rw [List.append_nil] at same
        exact .inl ⟨rfl, same ▸ takes after ends⟩
      · obtain ⟨body, -, same, takes⟩ := readNumber_cut read
        rw [List.append_nil] at same
        have taken := takes after ends
        rw [← same] at taken
        exact .inr ⟨digit, taken⟩

/-- What is read as a number stands there as the text of one. -/
theorem exists_numberText {b : UInt8} (read : scalar b bytes = .ok (.number n, rest)) :
    ∃ more, NumberText (b :: more) n ∧ bytes = more ++ rest := by
  rcases scalar_eq_number_iff.mp read with ⟨rfl, behind⟩ | ⟨digit, behind⟩
  · obtain ⟨body, ⟨magnitude, kept⟩, rfl, takes⟩ := readNumber_cut behind
    have negative : IsNumeral (45 :: body) := .negative magnitude
    have alone : scalar 45 body = .ok (.number n, []) :=
      scalar_eq_number_iff.mpr (.inl ⟨rfl, takes.alone⟩)
    refine ⟨body, ?_, rfl⟩
    rcases kept with ⟨f, rfl⟩ | ⟨whole, small, rfl⟩
    · exact .real negative alone
    · by_cases inRange : 0 < decimal 0 body ∧ decimal 0 body ≤ 2 ^ 63
      · rw [integer_false inRange.1 inRange.2]
        exact .integer (.negative whole inRange.1) (by omega) (by omega)
      · have isReal :
            integer false (decimal 0 body) = .real (-(decimal 0 body).toUInt64.toFloat) := by
          simp only [integer, if_neg Bool.false_ne_true]
          exact if_neg inRange
        rw [isReal] at alone ⊢
        exact .real negative alone
  · obtain ⟨body, ⟨magnitude, kept⟩, same, takes⟩ := readNumber_cut behind
    obtain ⟨more, rfl⟩ : ∃ more, body = b :: more := by
      obtain ⟨first, -⟩ := magnitude
      cases first with
      | zero => exact ⟨_, by rw [(List.cons.inj same).1]; rfl⟩
      | digits _ _ _ => exact ⟨_, by rw [(List.cons.inj same).1]; rfl⟩
    refine ⟨more, ?_, (List.cons.inj same).2⟩
    rcases kept with ⟨f, rfl⟩ | ⟨whole, small, rfl⟩
    · exact .real (.positive magnitude)
        (scalar_eq_number_iff.mpr (.inr ⟨digit, takes.alone⟩))
    · rw [integer_true]
      unfold maxNatural at small
      exact .integer (.natural whole) (by omega) (by omega)

end RecordStore.Json
