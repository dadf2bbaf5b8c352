import RecordStore.Extractor
import RecordStore.Proofs.Utf8

/-!
What the default pattern finds.

A thread of the pattern wants one character (`follow_one`), goes on through a run up to a
character that ends it (`follow_run`), or goes on through a last run as far as it gets
(`follow_last`). So a match is `ai-`, digits, a dash and as many word characters as there are, all
of them ASCII. Such texts stand in the decoded record just where they stand in its bytes, and
what is found first is the same (`findFrom_decodeLossy`).
-/

namespace RecordStore

/-- What stands behind a run does not belong to it. -/
theorem eq_false_of_mem_head?_dropWhile {α : Type} (belongs : α → Bool) (things : List α) :
    ∀ thing ∈ (things.dropWhile belongs).head?, belongs thing = false := by
  intro thing head
  have ends := List.head?_dropWhile_not belongs things
  rw [head] at ends
  simpa using ends

namespace Pattern

/-! ### Threads that follow a text -/

section Follow

variable {fuel count n : Nat} {before : Option Char} {best : Option Nat} {thread next : Thread}
  {set exit : CharSet} {text : List Char}

/-- A thread that wants one character goes on behind it. -/
theorem follow_one (unfolded : ∀ place, unfold place fuel [] [thread] = ⟨[⟨set, next⟩], false⟩) :
    follow fuel before [thread] count none text = some n ↔
      ∃ c rest, text = c :: rest ∧ set.holds c = true ∧
        follow fuel (some c) [next] (count + 1) none rest = some n := by
  cases text with
  | nil => simp [follow, unfolded]
  | cons c rest =>
      by_cases wanted : set.holds c = true
      · simp [follow, unfolded, wanted]
      · simp [follow, unfolded, wanted]

/-- A step of a thread in a run that another character ends. -/
theorem follow_run_cons {c : Char} {rest : List Char}
    (unfolded : ∀ place, unfold place fuel [] [thread] = ⟨[⟨set, thread⟩, ⟨exit, next⟩], false⟩)
    (apart : ∀ c, set.holds c = true → exit.holds c = false) :
    follow fuel before [thread] count none (c :: rest) =
      if set.holds c then follow fuel (some c) [thread] (count + 1) none rest
      else if exit.holds c then follow fuel (some c) [next] (count + 1) none rest else none := by
  by_cases wanted : set.holds c = true
  · simp [follow, unfolded, wanted, apart c wanted]
  · by_cases leaves : exit.holds c = true
    · simp [follow, unfolded, wanted, leaves]
    · simp [follow, unfolded, wanted, leaves]

/-- A thread in a run goes on to the first character that is not of the run, which has to end it. -/
theorem follow_run
    (unfolded : ∀ place, unfold place fuel [] [thread] = ⟨[⟨set, thread⟩, ⟨exit, next⟩], false⟩)
    (apart : ∀ c, set.holds c = true → exit.holds c = false) :
    follow fuel before [thread] count none text = some n ↔
      ∃ run c rest, text = run ++ c :: rest ∧ (∀ d ∈ run, set.holds d = true) ∧
        exit.holds c = true ∧
        follow fuel (some c) [next] (count + run.length + 1) none rest = some n := by
  induction text generalizing before count with
  | nil => simp [follow, unfolded]
  | cons c rest ih =>
      rw [follow_run_cons unfolded apart]
      by_cases wanted : set.holds c = true
      · rw [if_pos wanted, ih]
        constructor
        · rintro ⟨run, d, rest, rfl, inside, leaves, goes⟩
          refine ⟨c :: run, d, rest, rfl, List.forall_mem_cons.mpr ⟨wanted, inside⟩, leaves, ?_⟩
          rwa [List.length_cons, Nat.add_comm run.length, ← Nat.add_assoc]
        · rintro ⟨_ | ⟨first, run⟩, d, rest', parts, inside, leaves, goes⟩
          · cases parts
            rw [apart c wanted] at leaves
            cases leaves
          · cases parts
            refine ⟨run, d, rest', rfl, (List.forall_mem_cons.mp inside).2, leaves, ?_⟩
            rwa [List.length_cons, Nat.add_comm run.length, ← Nat.add_assoc] at goes
      · rw [if_neg wanted, Option.ite_none_right_eq_some]
        constructor
        · rintro ⟨leaves, goes⟩
          exact ⟨[], c, rest, rfl, by simp, leaves, goes⟩
        · rintro ⟨_ | ⟨first, run⟩, d, rest', parts, inside, leaves, goes⟩
          · cases parts
            exact ⟨leaves, goes⟩
          · cases parts
            exact absurd (inside c List.mem_cons_self) wanted

/-- A thread that may end wherever it is in a run goes on to the end of it. -/
theorem follow_last
    (unfolded : ∀ place, unfold place fuel [] [thread] = ⟨[⟨set, thread⟩], true⟩) :
    follow fuel before [thread] count best text =
      some (count + (text.takeWhile set.holds).length) := by
  induction text generalizing before count best with
  | nil => simp [follow, unfolded]
  | cons c rest ih =>
      by_cases wanted : set.holds c = true
      · simp [follow, unfolded, wanted, ih, Nat.add_assoc, Nat.add_comm 1]
      · simp [follow, unfolded, wanted]

end Follow

/-! ### The default pattern -/

/-- What is left of the default pattern behind its last dash. -/
def wordsTask : Task :=
  .both (.plus true (.one CharSet.word)) .empty

/-- What is left of the default pattern behind `ai-`. -/
def digitsTask : Task :=
  .both (.plus true (.one CharSet.digit)) (.both (.one (CharSet.ofChar '-')) wordsTask)

/-- The task of the default pattern. -/
def defaultTask : Task :=
  .both (.one (CharSet.ofChar 'a'))
    (.both (.one (CharSet.ofChar 'i')) (.both (.one (CharSet.ofChar '-')) digitsTask))

theorem ofText_defaultPattern : ofText defaultPattern = .ok ⟨defaultPattern, defaultTask⟩ := by
  cbv

theorem holds_ofChar_iff {c d : Char} : (CharSet.ofChar c).holds d = true ↔ d = c := by
  simp only [CharSet.holds, CharSet.ofChar, inRanges, List.any_cons, List.any_nil, Bool.or_false,
    Bool.and_eq_true, decide_eq_true_eq]
  constructor
  · rintro ⟨low, high⟩
    exact Char.toNat_inj.mp (by omega)
  · rintro rfl
    exact ⟨Nat.le_refl _, Nat.le_refl _⟩

section Default

variable {count n : Nat} {before : Option Char} {text : List Char}

/-- Behind the last dash as many word characters are matched as there are, at least one. -/
theorem follow_words :
    follow (unfoldFuel defaultTask) before [[wordsTask]] count none text = some n ↔
      ∃ words rest, text = words ++ rest ∧ words ≠ [] ∧
        (∀ c ∈ words, CharSet.word.holds c = true) ∧
        (∀ c ∈ rest.head?, CharSet.word.holds c = false) ∧ n = count + words.length := by
  have first : ∀ place, unfold place (unfoldFuel defaultTask) [] [[wordsTask]] =
      ⟨[⟨CharSet.word, [.star true (.one CharSet.word), .empty]⟩], false⟩ := fun _ => rfl
  have more : ∀ place, unfold place (unfoldFuel defaultTask) []
      [[.star true (.one CharSet.word), .empty]] =
      ⟨[⟨CharSet.word, [.star true (.one CharSet.word), .empty]⟩], true⟩ := fun _ => rfl
  rw [follow_one first]
  constructor
  · rintro ⟨c, rest, rfl, word, goes⟩
    rw [follow_last more] at goes
    refine ⟨c :: rest.takeWhile CharSet.word.holds, rest.dropWhile CharSet.word.holds, ?_, by simp,
      ?_, eq_false_of_mem_head?_dropWhile _ rest, ?_⟩
    · rw [List.cons_append, List.takeWhile_append_dropWhile]
    · exact List.forall_mem_cons.mpr ⟨word, fun d inside => List.mem_takeWhile_imp inside⟩
    · rw [List.length_cons]
      have same := Option.some.inj goes
      omega
  · rintro ⟨words, rest, rfl, nonempty, all, ends, rfl⟩
    obtain ⟨c, words, rfl⟩ := List.exists_cons_of_ne_nil nonempty
    obtain ⟨word, others⟩ := List.forall_mem_cons.mp all
    refine ⟨c, words ++ rest, rfl, word, ?_⟩
    have stop : rest.takeWhile CharSet.word.holds = [] := by
      cases rest with
      | nil => rfl
      | cons d rest => simp [ends d rfl]
    rw [follow_last more, List.takeWhile_append_of_pos others, stop, List.append_nil,
      List.length_cons]
    congr 1
    omega

/-- Behind `ai-` comes a run of digits that a dash ends. -/
theorem follow_digits :
    follow (unfoldFuel defaultTask) before [[digitsTask]] count none text = some n ↔
      ∃ digits rest, text = digits ++ '-' :: rest ∧ digits ≠ [] ∧
        (∀ c ∈ digits, CharSet.digit.holds c = true) ∧
        follow (unfoldFuel defaultTask) (some '-') [[wordsTask]] (count + digits.length + 1) none
          rest = some n := by
  have first : ∀ place, unfold place (unfoldFuel defaultTask) [] [[digitsTask]] =
      ⟨[⟨CharSet.digit, [.star true (.one CharSet.digit),
        .both (.one (CharSet.ofChar '-')) wordsTask]⟩], false⟩ := fun _ => rfl
  have more : ∀ place, unfold place (unfoldFuel defaultTask) []
      [[.star true (.one CharSet.digit), .both (.one (CharSet.ofChar '-')) wordsTask]] =
      ⟨[⟨CharSet.digit, [.star true (.one CharSet.digit),
        .both (.one (CharSet.ofChar '-')) wordsTask]⟩, ⟨CharSet.ofChar '-', [wordsTask]⟩],
        false⟩ := fun _ => rfl
  have apart (c : Char) (digit : CharSet.digit.holds c = true) :
      (CharSet.ofChar '-').holds c = false := by
    by_contra dash
    rw [holds_ofChar_iff.mp (eq_true_of_ne_false dash)] at digit
    cases digit
  rw [follow_one first]
  constructor
  · rintro ⟨c, rest, rfl, digit, goes⟩
    obtain ⟨run, d, rest, rfl, inside, leaves, goes⟩ := (follow_run more apart).mp goes
    obtain rfl := holds_ofChar_iff.mp leaves
    refine ⟨c :: run, rest, rfl, by simp, List.forall_mem_cons.mpr ⟨digit, inside⟩, ?_⟩
    rwa [List.length_cons, Nat.add_comm run.length, ← Nat.add_assoc]
  · rintro ⟨digits, rest, rfl, nonempty, all, goes⟩
    obtain ⟨c, run, rfl⟩ := List.exists_cons_of_ne_nil nonempty
    obtain ⟨digit, inside⟩ := List.forall_mem_cons.mp all
    refine ⟨c, run ++ '-' :: rest, rfl, digit, (follow_run more apart).mpr ?_⟩
    refine ⟨run, '-', rest, rfl, inside, holds_ofChar_iff.mpr rfl, ?_⟩
    rwa [List.length_cons, Nat.add_comm run.length, ← Nat.add_assoc] at goes

/-- A text starts with a match of the default pattern when it starts with `ai-`, digits, a dash and
word characters; the match goes on to the last of these. -/
theorem matchLength_defaultTask :
    matchLength defaultTask before text = some n ↔ ∃ digits words rest,
      text = 'a' :: 'i' :: '-' :: (digits ++ '-' :: (words ++ rest)) ∧
        (digits ≠ [] ∧ ∀ c ∈ digits, CharSet.digit.holds c = true) ∧
        (words ≠ [] ∧ ∀ c ∈ words, CharSet.word.holds c = true) ∧
        (∀ c ∈ rest.head?, CharSet.word.holds c = false) ∧
        n = digits.length + words.length + 4 := by
  have first : ∀ place, unfold place (unfoldFuel defaultTask) [] [[defaultTask]] =
      ⟨[⟨CharSet.ofChar 'a', [.both (.one (CharSet.ofChar 'i'))
        (.both (.one (CharSet.ofChar '-')) digitsTask)]⟩], false⟩ := fun _ => rfl
  have second : ∀ place, unfold place (unfoldFuel defaultTask) [] [[.both
      (.one (CharSet.ofChar 'i')) (.both (.one (CharSet.ofChar '-')) digitsTask)]] =
      ⟨[⟨CharSet.ofChar 'i', [.both (.one (CharSet.ofChar '-')) digitsTask]⟩], false⟩ :=
    fun _ => rfl
  have third : ∀ place, unfold place (unfoldFuel defaultTask) []
      [[.both (.one (CharSet.ofChar '-')) digitsTask]] =
      ⟨[⟨CharSet.ofChar '-', [digitsTask]⟩], false⟩ := fun _ => rfl
  simp only [matchLength, follow_one first, follow_one second, follow_one third, follow_digits,
    follow_words, holds_ofChar_iff]
  constructor
  · rintro ⟨_, _, rfl, rfl, _, _, rfl, rfl, _, _, rfl, rfl, digits, _, rfl, anyDigit, allDigits,
      words, rest, rfl, anyWord, allWords, ends, rfl⟩
    exact ⟨digits, words, rest, rfl, ⟨anyDigit, allDigits⟩, ⟨anyWord, allWords⟩, ends, by omega⟩
  · rintro ⟨digits, words, rest, rfl, ⟨anyDigit, allDigits⟩, ⟨anyWord, allWords⟩, ends, rfl⟩
    exact ⟨_, _, rfl, rfl, _, _, rfl, rfl, _, _, rfl, rfl, digits, _, rfl, anyDigit, allDigits,
      words, rest, rfl, anyWord, allWords, ends, by omega⟩

end Default

end Pattern

/-! ### Identifiers in bytes -/

/-- The byte is an ASCII digit. -/
def IsDigit (byte : UInt8) : Prop :=
  48 ≤ byte.toNat ∧ byte.toNat ≤ 57

/-- The byte is an ASCII letter, a digit or the low line. -/
def IsWord (byte : UInt8) : Prop :=
  IsDigit byte ∨ 65 ≤ byte.toNat ∧ byte.toNat ≤ 90 ∨ byte.toNat = 95 ∨
    97 ≤ byte.toNat ∧ byte.toNat ≤ 122

instance (byte : UInt8) : Decidable (IsDigit byte) :=
  inferInstanceAs (Decidable (_ ∧ _))

instance (byte : UInt8) : Decidable (IsWord byte) :=
  inferInstanceAs (Decidable (_ ∨ _))

/-- Bytes that are `ai-`, digits, a dash and word characters. -/
inductive IsIdentifier : Bytes → Prop
  | spelled {digits words : Bytes} (anyDigit : digits ≠ [])
      (allDigits : ∀ byte ∈ digits, IsDigit byte) (anyWord : words ≠ [])
      (allWords : ∀ byte ∈ words, IsWord byte) :
      IsIdentifier (Bytes.ofText "ai-" ++ digits ++ Bytes.ofText "-" ++ words)

/-- Bytes that no word character starts. -/
def NoWordAhead (rest : Bytes) : Prop :=
  ∀ byte ∈ rest.head?, ¬IsWord byte

/-- The identifier that stands first in a record, as long as it gets. -/
structure FirstIdentifier (record found : Bytes) : Prop where
  identifier : IsIdentifier found
  place : ∃ before rest, record = before ++ found ++ rest ∧ NoWordAhead rest ∧
    ∀ earlier other more, record = earlier ++ other ++ more → IsIdentifier other →
      before.length ≤ earlier.length

open Utf8 (ascii IsAscii decodeLossy)

theorem IsWord.isAscii {byte : UInt8} (word : IsWord byte) : IsAscii byte := by
  unfold IsWord IsDigit at word
  unfold Utf8.IsAscii
  omega

theorem ofText_start : Bytes.ofText "ai-" = [97, 105, 45] := by
  cbv

theorem ofText_dash : Bytes.ofText "-" = [45] := by
  cbv

theorem IsIdentifier.isAscii {found : Bytes} (identifier : IsIdentifier found) :
    ∀ byte ∈ found, IsAscii byte := by
  cases identifier with
  | spelled _ allDigits _ allWords =>
      intro byte inside
      simp only [List.mem_append, ofText_start, ofText_dash] at inside
      rcases inside with ((first | digit) | dash) | word
      · exact (by decide +kernel : ∀ byte ∈ [97, 105, 45], IsAscii byte) byte first
      · exact IsWord.isAscii (.inl (allDigits byte digit))
      · exact (by decide +kernel : ∀ byte ∈ [45], IsAscii byte) byte dash
      · exact (allWords byte word).isAscii

theorem holds_digit_iff {byte : UInt8} :
    Pattern.CharSet.digit.holds (ascii byte) = true ↔ IsDigit byte := by
  simp [Pattern.CharSet.holds, Pattern.CharSet.digit, inRanges, IsDigit]

theorem holds_word_iff {byte : UInt8} :
    Pattern.CharSet.word.holds (ascii byte) = true ↔ IsWord byte := by
  simp [Pattern.CharSet.holds, Pattern.CharSet.word, inRanges, IsWord, IsDigit]
  omega

/-- A set of ASCII characters holds no others. -/
theorem toNat_lt_of_holds {set : Pattern.CharSet} (low : ∀ range ∈ set, range.2 < 128) {c : Char}
    (inside : set.holds c = true) : c.toNat < 128 := by
  obtain ⟨range, there, within⟩ := List.any_eq_true.mp inside
  have below := low range there
  simp only [Bool.and_eq_true, decide_eq_true_eq] at within
  omega

theorem exists_bytes_of_holds {set : Pattern.CharSet} (low : ∀ range ∈ set, range.2 < 128)
    {text : List Char} (inside : ∀ c ∈ text, set.holds c = true) :
    ∃ bytes : Bytes, text = bytes.map ascii := by
  apply Utf8.exists_map_ascii
  intro c member
  exact toNat_lt_of_holds low (inside c member)

/-- No word character is ahead in the bytes just when none is in what they are decoded to. -/
theorem noWordAhead_iff (rest : Bytes) :
    NoWordAhead rest ↔
      ∀ c ∈ (decodeLossy rest).head?, Pattern.CharSet.word.holds c = false := by
  cases rest with
  | nil => simp [NoWordAhead]
  | cons a rest =>
      by_cases low : IsAscii a
      · rw [Utf8.decodeLossy_cons_ascii low]
        simp [NoWordAhead, ← holds_word_iff]
      · obtain ⟨c, taken, after, beyond, -, -, same⟩ := Utf8.decodeLossy_cons_high low rest
        have noWord : ¬IsWord a := fun word => low word.isAscii
        rw [same]
        simp only [NoWordAhead, List.head?_cons, Option.mem_def, Option.some.injEq, forall_eq',
          noWord, not_false_eq_true, true_iff]
        by_contra word
        have below := toNat_lt_of_holds (by decide) (eq_true_of_ne_false word)
        omega

/-- The default pattern matches at the start of a decoded text what is an identifier at the start of
its bytes. -/
theorem matchLength_decodeLossy {before : Option Char} {bytes : Bytes} {n : Nat} :
    Pattern.matchLength Pattern.defaultTask before (decodeLossy bytes) = some n ↔
      ∃ found rest, bytes = found ++ rest ∧ IsIdentifier found ∧ NoWordAhead rest ∧
        n = found.length := by
  rw [Pattern.matchLength_defaultTask]
  constructor
  · rintro ⟨_, _, text, decoded, ⟨anyDigit, allDigits⟩, ⟨anyWord, allWords⟩, ends, rfl⟩
    obtain ⟨digits, rfl⟩ := exists_bytes_of_holds (by decide) allDigits
    obtain ⟨words, rfl⟩ := exists_bytes_of_holds (by decide) allWords
    have identifier : IsIdentifier (Bytes.ofText "ai-" ++ digits ++ Bytes.ofText "-" ++ words) := by
      refine .spelled (by simpa using anyDigit) ?_ (by simpa using anyWord) ?_
      · intro byte inside
        exact holds_digit_iff.mp (allDigits _ (List.mem_map_of_mem inside))
      · intro byte inside
        exact holds_word_iff.mp (allWords _ (List.mem_map_of_mem inside))
    have spelled : decodeLossy bytes =
        (Bytes.ofText "ai-" ++ digits ++ Bytes.ofText "-" ++ words).map ascii ++ text := by
      rw [decoded]
      simp only [List.map_append, List.append_assoc]
      rfl
    obtain ⟨rest, parts, rfl⟩ := Utf8.exists_of_decodeLossy_eq identifier.isAscii spelled
    refine ⟨_, rest, parts, identifier, (noWordAhead_iff rest).mpr ends, ?_⟩
    simp only [List.length_append, List.length_map, ofText_start, ofText_dash, List.length_cons,
      List.length_nil]
    omega
  · rintro ⟨_, rest, rfl, identifier, ends, rfl⟩
    rw [Utf8.decodeLossy_append identifier.isAscii]
    cases identifier with
    | @spelled digits words anyDigit allDigits anyWord allWords =>
        refine ⟨digits.map ascii, words.map ascii, decodeLossy rest, ?_,
          ⟨by simpa using anyDigit, ?_⟩, ⟨by simpa using anyWord, ?_⟩,
          (noWordAhead_iff rest).mp ends, ?_⟩
        · simp only [List.map_append, List.append_assoc]
          rfl
        · intro c inside
          obtain ⟨byte, member, rfl⟩ := List.mem_map.mp inside
          exact holds_digit_iff.mpr (allDigits byte member)
        · intro c inside
          obtain ⟨byte, member, rfl⟩ := List.mem_map.mp inside
          exact holds_word_iff.mpr (allWords byte member)
        · simp only [List.length_append, List.length_map, ofText_start, ofText_dash,
            List.length_cons, List.length_nil]
          omega

theorem matchLength_of_isIdentifier (before : Option Char) {found rest : Bytes}
    (identifier : IsIdentifier found) (ends : NoWordAhead rest) :
    Pattern.matchLength Pattern.defaultTask before (decodeLossy (found ++ rest)) =
      some found.length :=
  matchLength_decodeLossy.mpr ⟨found, rest, rfl, identifier, ends, rfl⟩

/-! ### The first identifier -/

theorem IsIdentifier.exists_cons {found : Bytes} (identifier : IsIdentifier found) :
    ∃ behind, found = 97 :: behind := by
  cases identifier with
  | spelled => exact ⟨_, by rw [ofText_start]; rfl⟩

/-- An identifier goes on as long as word characters follow. -/
theorem IsIdentifier.exists_longest {found : Bytes} (identifier : IsIdentifier found)
    (rest : Bytes) :
    ∃ longest ahead, found ++ rest = longest ++ ahead ∧ IsIdentifier longest ∧
      NoWordAhead ahead := by
  cases identifier with
  | @spelled digits words anyDigit allDigits anyWord allWords =>
      refine ⟨_, rest.dropWhile (IsWord ·), ?_,
        @IsIdentifier.spelled digits (words ++ rest.takeWhile (IsWord ·)) anyDigit allDigits ?_ ?_,
        ?_⟩
      · simp only [List.append_assoc, List.takeWhile_append_dropWhile]
      · simp [anyWord]
      · intro byte inside
        rcases List.mem_append.mp inside with own | more
        · exact allWords byte own
        · simpa using List.mem_takeWhile_imp more
      · intro byte head
        exact of_decide_eq_false (eq_false_of_mem_head?_dropWhile _ rest byte head)

/-- No identifier stands anywhere in the bytes. -/
def NoIdentifier (record : Bytes) : Prop :=
  ∀ before found rest, record = before ++ found ++ rest → ¬IsIdentifier found

/-- What is found in a record: nothing if there is no identifier, otherwise the first one. -/
inductive Finds (record : Bytes) : Option Bytes → Prop
  | none (free : NoIdentifier record) : Finds record none
  | some {found : Bytes} (first : FirstIdentifier record found) : Finds record (some found)

/-- A byte that no identifier starts with changes nothing in front of a record. -/
theorem Finds.cons {a : UInt8} {rest : Bytes} {found : Option Bytes} (finds : Finds rest found)
    (noStart : ∀ other more, a :: rest = other ++ more → ¬IsIdentifier other) :
    Finds (a :: rest) found := by
  cases finds with
  | none free =>
      refine .none ?_
      rintro (_ | ⟨first, before⟩) other more parts
      · exact noStart other more parts
      · exact free before other more (List.cons.inj parts).2
  | some first =>
      obtain ⟨identifier, before, behind, parts, ends, least⟩ := first
      refine .some ⟨identifier, a :: before, behind, ?_, ends, ?_⟩
      · rw [parts]
        rfl
      · rintro (_ | ⟨first, earlier⟩) other more parts' identifier'
        · exact absurd identifier' (noStart other more parts')
        · exact Nat.succ_le_succ (least earlier other more (List.cons.inj parts').2 identifier')

/-- Bytes beyond ASCII change nothing in front of a record. -/
theorem Finds.append {taken rest : Bytes} {found : Option Bytes} (finds : Finds rest found)
    (high : ∀ byte ∈ taken, ¬IsAscii byte) : Finds (taken ++ rest) found := by
  induction taken with
  | nil => exact finds
  | cons a taken ih =>
      obtain ⟨first, others⟩ := List.forall_mem_cons.mp high
      refine (ih others).cons ?_
      intro other more parts identifier
      obtain ⟨behind, rfl⟩ := identifier.exists_cons
      obtain ⟨rfl, -⟩ := List.cons.inj parts
      exact first (by decide +kernel)

/-- What is found behind the first unit of a record that no identifier starts. -/
theorem Finds.behind_unit {a : UInt8} {rest : Bytes} {found : Option Bytes}
    (finds : Finds (Utf8.next a rest).2 found)
    (noStart : ∀ other more, a :: rest = other ++ more → ¬IsIdentifier other) :
    Finds (a :: rest) found := by
  apply Finds.cons _ noStart
  by_cases low : IsAscii a
  · rwa [Utf8.next_ascii low] at finds
  · obtain ⟨⟨taken, parts, above⟩, -⟩ := Utf8.next_high low rest
    rw [parts]
    exact finds.append above

/-- A match at the start of the decoded record is what is found in the record. -/
theorem finds_of_matchLength {before : Option Char} {record : Bytes} {count : Nat}
    (matched : Pattern.matchLength Pattern.defaultTask before (decodeLossy record) = some count) :
    ∃ found, Finds record (some found) ∧ (decodeLossy record).take count = found.map ascii := by
  obtain ⟨found, rest, rfl, identifier, ends, rfl⟩ := matchLength_decodeLossy.mp matched
  refine ⟨found, .some ⟨identifier, [], rest, rfl, ends, ?_⟩, ?_⟩
  · intro earlier other more parts identifier'
    exact Nat.zero_le _
  · rw [Utf8.decodeLossy_append identifier.isAscii]
    exact List.take_left' (List.length_map _)

/-- Without a match at the start of the decoded record, no identifier starts the record. -/
theorem not_isIdentifier_of_matchLength {before : Option Char} {other more : Bytes}
    (unmatched :
      Pattern.matchLength Pattern.defaultTask before (decodeLossy (other ++ more)) = none) :
    ¬IsIdentifier other := by
  intro identifier
  obtain ⟨longest, ahead, parts, identifier, ends⟩ := identifier.exists_longest more
  rw [parts, matchLength_of_isIdentifier before identifier ends] at unmatched
  cases unmatched

/-- The search in the decoded text finds what is found in the bytes. -/
theorem findFrom_decodeLossy (before : Option Char) (record : Bytes) :
    ∃ found, Finds record found ∧
      Pattern.findFrom Pattern.defaultTask before (decodeLossy record) =
        found.map (List.map ascii) := by
  -- Character by character: a character of the text is a unit of the record.
  induction record using Utf8.units.induct generalizing before with
  | case1 =>
      have unmatched : Pattern.matchLength Pattern.defaultTask before [] = none := rfl
      refine ⟨none, .none ?_, ?_⟩
      · intro earlier other more parts identifier
        obtain ⟨behind, rfl⟩ := identifier.exists_cons
        simp at parts
      · rw [Utf8.decodeLossy_nil, Pattern.findFrom, unmatched]
        rfl
  | case2 a rest ih =>
      have text := Utf8.decodeLossy_cons a rest
      cases matched : Pattern.matchLength Pattern.defaultTask before (decodeLossy (a :: rest)) with
      | some count =>
          obtain ⟨found, finds, taken⟩ := finds_of_matchLength matched
          refine ⟨some found, finds, ?_⟩
          rw [text] at matched taken ⊢
          simp only [Pattern.findFrom, matched, taken, Option.map_some]
      | none =>
          obtain ⟨found, finds, searched⟩ := ih (some ((Utf8.next a rest).1.getD Utf8.replacement))
          refine ⟨found, finds.behind_unit ?_, ?_⟩
          · intro other more parts
            rw [parts] at matched
            exact not_isIdentifier_of_matchLength matched
          · rw [text] at matched ⊢
            simp only [Pattern.findFrom, matched, searched]

theorem FirstIdentifier.unique {record found found' : Bytes} (first : FirstIdentifier record found)
    (first' : FirstIdentifier record found') : found = found' := by
  obtain ⟨identifier, before, rest, parts, ends, least⟩ := first
  obtain ⟨identifier', before', rest', parts', ends', least'⟩ := first'
  have place : before.length = before'.length :=
    Nat.le_antisymm (least before' found' rest' parts' identifier')
      (least' before found rest parts identifier)
  have both : found ++ rest = found' ++ rest' := by
    rw [parts, List.append_assoc, List.append_assoc] at parts'
    exact (List.append_inj parts' place).2
  -- Both are the match at the start of the same bytes.
  have matched := matchLength_of_isIdentifier none identifier ends
  rw [both, matchLength_of_isIdentifier none identifier' ends'] at matched
  exact (List.append_inj both (Option.some.inj matched).symm).1

/-- The key that the default pattern makes is empty just when no identifier stands in the record.
Otherwise it is the first identifier, byte for byte, whether the record is UTF-8 or not. -/
theorem default_pattern_finds_first_identifier :
    ∃ extractor, Extractor.ofPattern defaultPattern = .ok extractor ∧
      ∀ record, ∃ key, extractor.key record = .ok key ∧
        (key = "" ↔ NoIdentifier record) ∧
        ∀ found, FirstIdentifier record found ↔ key ≠ "" ∧ Bytes.ofText key = found := by
  refine ⟨.pattern ⟨defaultPattern, Pattern.defaultTask⟩, ?_, ?_⟩
  · rw [Extractor.ofPattern, Pattern.ofText_defaultPattern]
  · intro record
    obtain ⟨result, finds, searched⟩ := findFrom_decodeLossy none record
    refine ⟨_, rfl, ?_⟩
    rw [Extractor.patternKey, Pattern.find?, searched]
    cases finds with
    | none free =>
        refine ⟨iff_of_true rfl free, ?_⟩
        intro found
        refine iff_of_false ?_ (fun kept => kept.1 rfl)
        rintro ⟨identifier, before, rest, parts, -⟩
        exact free before found rest parts identifier
    | @some found first =>
        have spelled : Bytes.ofText (String.ofList (found.map ascii)) = found :=
          Utf8.ofText_ascii first.identifier.isAscii
        have nonempty : String.ofList (found.map ascii) ≠ "" := by
          intro empty
          obtain ⟨behind, same⟩ := first.identifier.exists_cons
          rw [empty, same] at spelled
          cases spelled
        refine ⟨iff_of_false nonempty ?_, ?_⟩
        · intro free
          obtain ⟨before, rest, parts, -⟩ := first.place
          exact free before found rest parts first.identifier
        · intro found'
          constructor
          · intro first'
            exact ⟨nonempty, spelled.trans (first.unique first')⟩
          · rintro ⟨-, rfl⟩
            exact (congrArg (FirstIdentifier record) spelled).mpr first

/-- A character that breaks off and a false start stand in front of the identifier. -/
example :
    Extractor.patternKey ⟨defaultPattern, Pattern.defaultTask⟩
      ([0xE2, 0x82] ++ Bytes.ofText "ai-7ai-42-x_9-3") = "ai-42-x_9" := by
  cbv

end RecordStore
