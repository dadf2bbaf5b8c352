import RecordStore.Json.Lexeme
import RecordStore.Proofs.Characters

/-!
Texts between quotation marks and the characters that they spell.

`Spells` is the grammar of a text: characters that stand for themselves, in UTF-8, and escapes. A
reader looks at bytes and decodes only what it has gathered, so the bytes of a character might come
from different escapes; that they do not is seen from the bytes that begin a character and go on
with one (`Pieces.continues`). What is read is what is spelled, and every spelling is read
(`readText_eq_ok_iff`).
-/

namespace RecordStore.Json

open Utf8 (Continues exists_utf8EncodeChar utf8EncodeChar_append_inj)

/-! ### The grammar -/

/-- The byte is that hexadecimal digit. -/
inductive HexDigit : UInt8 → Nat → Prop
  | decimal {v : Nat} (small : v < 10) : HexDigit (UInt8.ofNat (48 + v)) v
  | lower {v : Nat} (small : v < 6) : HexDigit (UInt8.ofNat (97 + v)) (10 + v)
  | upper {v : Nat} (small : v < 6) : HexDigit (UInt8.ofNat (65 + v)) (10 + v)

/-- The bytes are the four hexadecimal digits of that number. -/
inductive HexDigits : Bytes → Nat → Prop
  | four {a b c d : UInt8} {v w x y : Nat} (first : HexDigit a v) (second : HexDigit b w)
      (third : HexDigit c x) (fourth : HexDigit d y) :
      HexDigits [a, b, c, d] (v * 4096 + w * 256 + x * 16 + y)

/-- The letter names that character behind a backslash. -/
inductive Names : UInt8 → Char → Prop
  | quote : Names 34 '"'
  | backslash : Names 92 '\\'
  | slash : Names 47 '/'
  | backspace : Names 98 '\x08'
  | formFeed : Names 102 '\x0c'
  | newline : Names 110 '\n'
  | carriageReturn : Names 114 '\r'
  | tab : Names 116 '\t'

/-- The bytes tell the number of a character: in four digits, or in two surrogates of four digits
each. -/
inductive CodePoint : Bytes → Nat → Prop
  | single {digits : Bytes} {n : Nat} (number : HexDigits digits n)
      (valid : n < 0xD800 ∨ 0xDFFF < n) : CodePoint digits n
  | pair {first second : Bytes} {high low : Nat} (firstNumber : HexDigits first high)
      (secondNumber : HexDigits second low) (isHigh : 0xD800 ≤ high ∧ high ≤ 0xDBFF)
      (isLow : 0xDC00 ≤ low ∧ low ≤ 0xDFFF) :
      CodePoint (first ++ 92 :: 117 :: second)
        ((high - 0xD800) * 1024 + (low - 0xDC00) + 0x10000)

/-- Behind a backslash the bytes stand for that character. -/
inductive Escaped : Bytes → Char → Prop
  | letter {b : UInt8} {c : Char} (named : Names b c) : Escaped [b] c
  | number {digits : Bytes} {n : Nat} (point : CodePoint digits n) :
      Escaped (117 :: digits) (Char.ofNat n)

/-- The bytes between two quotation marks spell these characters. -/
inductive Spells : Bytes → List Char → Prop
  | nil : Spells [] []
  | plain {c : Char} {raw : Bytes} {text : List Char} (visible : 32 ≤ c.toNat) (mark : c ≠ '"')
      (backslash : c ≠ '\\') (others : Spells raw text) :
      Spells (String.utf8EncodeChar c ++ raw) (c :: text)
  | escaped {escape raw : Bytes} {c : Char} {text : List Char} (first : Escaped escape c)
      (others : Spells raw text) : Spells (92 :: (escape ++ raw)) (c :: text)

/-! ### Escapes -/

theorem hexValue?_eq_some_iff {b : UInt8} {v : Nat} : hexValue? b = some v ↔ HexDigit b v := by
  constructor
  · intro read
    unfold hexValue? at read
    simp only [UInt8.le_iff_toNat_le, UInt8.reduceToNat] at read
    have own : UInt8.ofNat b.toNat = b := UInt8.ofNat_toNat
    split at read
    · obtain rfl := Option.some.inj read
      have form := HexDigit.decimal (v := b.toNat - 48) (by omega)
      rwa [show 48 + (b.toNat - 48) = b.toNat by omega, own] at form
    · split at read
      · obtain rfl := Option.some.inj read
        have form := HexDigit.lower (v := b.toNat - 97) (by omega)
        rwa [show 97 + (b.toNat - 97) = b.toNat by omega, own,
          show 10 + (b.toNat - 97) = b.toNat - 87 by omega] at form
      · split at read
        · obtain rfl := Option.some.inj read
          have form := HexDigit.upper (v := b.toNat - 65) (by omega)
          rwa [show 65 + (b.toNat - 65) = b.toNat by omega, own,
            show 10 + (b.toNat - 65) = b.toNat - 55 by omega] at form
        · cases read
  · intro form
    cases form with
    | decimal small =>
        interval_cases v <;> rfl
    | lower small =>
        rename_i w
        interval_cases w <;> rfl
    | upper small =>
        rename_i w
        interval_cases w <;> rfl

variable {bytes rest found : Bytes}

/-- Four hexadecimal digits are read as their number. -/
theorem hexEscape_eq_ok_iff {n : Nat} :
    hexEscape bytes = .ok (n, rest) ↔ ∃ digits, HexDigits digits n ∧ bytes = digits ++ rest := by
  constructor
  · intro read
    unfold hexEscape at read
    split at read
    · split at read
      · rename_i first second third fourth
        rw [hexValue?_eq_some_iff] at first second third fourth
        cases read
        exact ⟨_, .four first second third fourth, rfl⟩
      · cases read
    · cases read
  · rintro ⟨digits, ⟨first, second, third, fourth⟩, rfl⟩
    rw [← hexValue?_eq_some_iff] at first second third fourth
    simp only [hexEscape, List.cons_append, List.nil_append, first, second, third, fourth]

/-- The second half of a pair of surrogates is read behind its backslash. -/
theorem lowSurrogate_eq_ok_iff {high n : Nat} :
    lowSurrogate high bytes = .ok (n, rest) ↔
      ∃ second low, HexDigits second low ∧ (0xDC00 ≤ low ∧ low ≤ 0xDFFF) ∧
        bytes = 92 :: 117 :: (second ++ rest) ∧
        n = (high - 0xD800) * 1024 + (low - 0xDC00) + 0x10000 := by
  constructor
  · intro read
    unfold lowSurrogate at read
    split at read
    · cases read
    · rename_i b bytes
      by_cases backslash : b = 92
      · rw [if_neg (not_not_intro backslash)] at read
        split at read
        · cases read
        · rename_i c bytes
          by_cases letter : c = 117
          · rw [if_neg (not_not_intro letter)] at read
            split at read
            · cases read
            · rename_i low after digits
              obtain ⟨second, number, rfl⟩ := hexEscape_eq_ok_iff.mp digits
              by_cases outside : low < 0xDC00 ∨ 0xDFFF < low
              · rw [if_pos outside] at read
                cases read
              · rw [if_neg outside] at read
                cases read
                refine ⟨second, low, number, by omega, ?_, rfl⟩
                rw [backslash, letter]
          · rw [if_pos letter] at read
            cases read
      · rw [if_pos backslash] at read
        cases read
  · rintro ⟨second, low, number, isLow, rfl, rfl⟩
    have digits : hexEscape (second ++ rest) = .ok (low, rest) :=
      hexEscape_eq_ok_iff.mpr ⟨second, number, rfl⟩
    simp only [lowSurrogate, ne_eq, not_true_eq_false, if_false, digits]
    rw [if_neg (by omega)]

/-- The number of a character is read from its digits. -/
theorem codePointEscape_eq_ok_iff {n : Nat} :
    codePointEscape bytes = .ok (n, rest) ↔
      ∃ digits, CodePoint digits n ∧ bytes = digits ++ rest := by
  constructor
  · intro read
    unfold codePointEscape at read
    split at read
    · cases read
    · rename_i high after digits
      obtain ⟨first, number, rfl⟩ := hexEscape_eq_ok_iff.mp digits
      split at read
      · cases read
      · split at read
        · cases read
          exact ⟨first, .single number (by omega), rfl⟩
        · obtain ⟨second, low, lowNumber, isLow, rfl, rfl⟩ := lowSurrogate_eq_ok_iff.mp read
          refine ⟨_, .pair number lowNumber (by omega) isLow, ?_⟩
          rw [List.append_assoc, List.cons_append, List.cons_append]
  · rintro ⟨digits, point, rfl⟩
    cases point with
    | single number valid =>
        have read := hexEscape_eq_ok_iff.mpr ⟨digits, number, (rfl : digits ++ rest = _)⟩
        simp only [codePointEscape, read]
        rw [if_neg (by omega), if_pos (by omega)]
    | pair number lowNumber isHigh isLow =>
        rename_i first second high low
        have read := hexEscape_eq_ok_iff.mpr
          ⟨first, number, (rfl : first ++ 92 :: 117 :: (second ++ rest) = _)⟩
        rw [List.append_assoc, List.cons_append, List.cons_append]
        simp only [codePointEscape, read]
        rw [if_neg (by omega), if_neg (by omega)]
        exact lowSurrogate_eq_ok_iff.mpr ⟨second, low, lowNumber, isLow, rfl, rfl⟩

theorem names_iff {b : UInt8} {c : Char} :
    Names b c ↔ ∃ byte, letterEscape? b = some byte ∧ String.utf8EncodeChar c = [byte] := by
  constructor
  · intro named
    cases named <;> exact ⟨_, rfl, rfl⟩
  · rintro ⟨byte, letter, form⟩
    have is {d : Char} (same : String.utf8EncodeChar d = [byte]) : c = d := by
      have both : String.utf8EncodeChar c ++ [] = String.utf8EncodeChar d ++ [] := by
        rw [form, same]
      exact (utf8EncodeChar_append_inj both).1
    unfold letterEscape? at letter
    split_ifs at letter with quote backslash slash backspace formFeed newline carriageReturn tab
    all_goals
      obtain rfl := Option.some.inj letter
      subst b
    · exact is (d := '"') rfl ▸ .quote
    · exact is (d := '\\') rfl ▸ .backslash
    · exact is (d := '/') rfl ▸ .slash
    · exact is (d := '\x08') rfl ▸ .backspace
    · exact is (d := '\x0c') rfl ▸ .formFeed
    · exact is (d := '\n') rfl ▸ .newline
    · exact is (d := '\r') rfl ▸ .carriageReturn
    · exact is (d := '\t') rfl ▸ .tab

/-- What a letter names is an ASCII character. -/
theorem isAscii_of_letterEscape? {b byte : UInt8} (letter : letterEscape? b = some byte) :
    Utf8.IsAscii byte := by
  unfold letterEscape? at letter
  split_ifs at letter
  all_goals
    obtain rfl := Option.some.inj letter
    decide

/-- An escape is read as the form of the character that it stands for. -/
theorem escape_eq_ok_iff :
    escape bytes = .ok (found, rest) ↔
      ∃ raw c, Escaped raw c ∧ bytes = raw ++ rest ∧ found = String.utf8EncodeChar c := by
  constructor
  · intro read
    unfold escape at read
    split at read
    · cases read
    · rename_i b bytes
      split at read
      · rename_i byte letter
        cases read
        have form := Utf8.utf8EncodeChar_ascii (isAscii_of_letterEscape? letter)
        exact ⟨[b], _, .letter (names_iff.mpr ⟨byte, letter, form⟩), rfl, form.symm⟩
      · split at read
        · rename_i letter
          split at read
          · cases read
          · rename_i point
            cases read
            obtain ⟨digits, number, rfl⟩ := codePointEscape_eq_ok_iff.mp point
            exact ⟨117 :: digits, _, .number number, by rw [letter, List.cons_append], rfl⟩
        · cases read
  · rintro ⟨raw, c, escaped, rfl, rfl⟩
    cases escaped with
    | letter named =>
        obtain ⟨byte, letter, form⟩ := names_iff.mp named
        simp only [escape, List.cons_append, List.nil_append, letter, form]
    | number point =>
        rename_i digits n
        have read := codePointEscape_eq_ok_iff.mpr ⟨digits, point, (rfl : digits ++ rest = _)⟩
        have noLetter : letterEscape? 117 = none := rfl
        simp only [escape, List.cons_append, noLetter, if_pos, read]

/-! ### Texts -/

/-- The bytes between two quotation marks resolve to these bytes, escape by escape. -/
inductive Pieces : Bytes → Bytes → Prop
  | nil : Pieces [] []
  | plain {b : UInt8} {raw resolved : Bytes} (visible : ¬b < 32) (mark : b ≠ 34)
      (backslash : b ≠ 92) (others : Pieces raw resolved) : Pieces (b :: raw) (b :: resolved)
  | escaped {escape raw resolved : Bytes} {c : Char} (first : Escaped escape c)
      (others : Pieces raw resolved) :
      Pieces (92 :: (escape ++ raw)) (String.utf8EncodeChar c ++ resolved)

theorem stringBytes_mark (taken rest : Bytes) :
    stringBytes taken (34 :: rest) = .ok (taken.reverse, rest) := by
  rw [stringBytes, if_pos rfl]

theorem stringBytes_escape {taken after : Bytes} (escaped : escape bytes = .ok (found, after)) :
    stringBytes taken (92 :: bytes) = stringBytes (found.reverse ++ taken) after := by
  rw [stringBytes, if_neg (by decide), if_pos rfl]
  split
  · rename_i failed
    rw [escaped] at failed
    cases failed
  · rename_i again
    rw [escaped] at again
    cases again
    rfl

theorem stringBytes_plain {b : UInt8} (visible : ¬b < 32) (mark : b ≠ 34) (backslash : b ≠ 92)
    (taken bytes : Bytes) : stringBytes taken (b :: bytes) = stringBytes (b :: taken) bytes := by
  rw [stringBytes, if_neg mark, if_neg backslash, if_neg visible]

/-- What is read up to the closing mark is what the bytes before it resolve to. -/
theorem exists_pieces {taken : Bytes} (read : stringBytes taken bytes = .ok (found, rest)) :
    ∃ raw resolved, Pieces raw resolved ∧ bytes = raw ++ 34 :: rest ∧
      found = taken.reverse ++ resolved := by
  induction taken, bytes using stringBytes.induct with
  | case1 taken =>
      rw [stringBytes] at read
      cases read
  | case2 taken bytes =>
      rw [stringBytes_mark] at read
      cases read
      exact ⟨[], [], .nil, rfl, (List.append_nil _).symm⟩
  | case3 taken bytes fault failed =>
      rw [stringBytes, if_neg (by decide), if_pos rfl] at read
      split at read
      · cases read
      · rename_i escaped
        rw [failed] at escaped
        cases escaped
  | case4 taken bytes form after escaped _ ih =>
      rw [stringBytes_escape escaped] at read
      obtain ⟨first, c, stands, rfl, rfl⟩ := escape_eq_ok_iff.mp escaped
      obtain ⟨raw, resolved, pieces, rfl, rfl⟩ := ih read
      refine ⟨92 :: (first ++ raw), _, .escaped stands pieces, ?_, ?_⟩
      · rw [List.cons_append, List.append_assoc]
      · rw [List.reverse_append, List.reverse_reverse, List.append_assoc]
  | case5 taken b bytes mark backslash control =>
      rw [stringBytes, if_neg mark, if_neg backslash, if_pos control] at read
      cases read
  | case6 taken b bytes mark backslash visible ih =>
      rw [stringBytes_plain visible mark backslash] at read
      obtain ⟨raw, resolved, pieces, rfl, rfl⟩ := ih read
      refine ⟨b :: raw, b :: resolved, .plain visible mark backslash pieces, rfl, ?_⟩
      rw [List.reverse_cons, List.append_assoc, List.singleton_append]

/-- Bytes are read as what they resolve to. -/
theorem Pieces.read {raw resolved : Bytes} (pieces : Pieces raw resolved) (taken rest : Bytes) :
    stringBytes taken (raw ++ 34 :: rest) = .ok (taken.reverse ++ resolved, rest) := by
  induction pieces generalizing taken with
  | nil => rw [List.nil_append, stringBytes_mark, List.append_nil]
  | plain visible mark backslash _ ih =>
      rw [List.cons_append, stringBytes_plain visible mark backslash, ih, List.reverse_cons,
        List.append_assoc, List.singleton_append]
  | escaped first _ ih =>
      rename_i escape raw resolved c _
      have resolves := escape_eq_ok_iff.mpr
        ⟨escape, c, first, (rfl : escape ++ (raw ++ 34 :: rest) = _), rfl⟩
      rw [List.cons_append, List.append_assoc, stringBytes_escape resolves, ih, List.reverse_append,
        List.reverse_reverse, List.append_assoc]

/-- Bytes that go on with a character are not from an escape. -/
theorem Pieces.continues {raw more resolved : Bytes} (pieces : Pieces raw (more ++ resolved))
    (follow : ∀ byte ∈ more, Continues byte) :
    ∃ others, raw = more ++ others ∧ Pieces others resolved := by
  induction more generalizing raw with
  | nil => exact ⟨raw, rfl, pieces⟩
  | cons b more ih =>
      obtain ⟨first, others⟩ := List.forall_mem_cons.mp follow
      generalize resolves : b :: more ++ resolved = found at pieces
      cases pieces with
      | nil => cases resolves
      | plain _ _ _ behind =>
          obtain ⟨rfl, rfl⟩ := List.cons.inj resolves
          obtain ⟨left, rfl, rest⟩ := ih behind others
          exact ⟨left, rfl, rest⟩
      | escaped _ _ =>
          rename_i c _ _
          obtain ⟨a, tail, form, begins, -⟩ := exists_utf8EncodeChar c
          rw [form] at resolves
          exact absurd ((List.cons.inj resolves).1 ▸ first) begins

/-- A character stands for itself just when the byte that begins it does. -/
theorem plain_iff {c : Char} {a : UInt8} {more : Bytes}
    (form : String.utf8EncodeChar c = a :: more) :
    ¬a < 32 ∧ a ≠ 34 ∧ a ≠ 92 ↔ 32 ≤ c.toNat ∧ c ≠ '"' ∧ c ≠ '\\' := by
  obtain ⟨a', more', form', -, -, ascii, high⟩ := exists_utf8EncodeChar c
  rw [form] at form'
  obtain ⟨rfl, rfl⟩ := List.cons.inj form'
  have codes : c ≠ '"' ∧ c ≠ '\\' ↔ c.toNat ≠ 34 ∧ c.toNat ≠ 92 := by
    simp only [ne_eq, ← Char.toNat_inj]
    rfl
  rw [codes, UInt8.lt_iff_toNat_lt, ne_eq, ne_eq, ← UInt8.toNat_inj, ← UInt8.toNat_inj]
  simp only [UInt8.reduceToNat]
  by_cases low : c.toNat < 128
  · rw [(ascii low).1, UInt8.toNat_ofNat_of_lt' (Nat.lt_trans low (by decide))]
    omega
  · have := high (Nat.le_of_not_lt low)
    omega

/-- Bytes that resolve to the form of some characters spell them. -/
theorem Pieces.spells {raw : Bytes} {text : List Char}
    (pieces : Pieces raw (text.flatMap String.utf8EncodeChar)) : Spells raw text := by
  induction text generalizing raw with
  | nil =>
      generalize resolves : List.flatMap String.utf8EncodeChar [] = found at pieces
      cases pieces with
      | nil => exact .nil
      | plain _ _ _ _ => cases resolves
      | escaped _ _ =>
          rename_i c _ _
          obtain ⟨a, tail, form, -⟩ := exists_utf8EncodeChar c
          rw [form] at resolves
          cases resolves
  | cons c text ih =>
      obtain ⟨a, tail, form, -, follow, -⟩ := exists_utf8EncodeChar c
      rw [List.flatMap_cons] at pieces
      generalize resolves :
        String.utf8EncodeChar c ++ text.flatMap String.utf8EncodeChar = found at pieces
      cases pieces with
      | nil =>
          rw [form] at resolves
          cases resolves
      | plain visible mark backslash behind =>
          rename_i b raw resolved
          rw [form, List.cons_append] at resolves
          obtain ⟨rfl, rfl⟩ := List.cons.inj resolves
          obtain ⟨others, rfl, rest⟩ := behind.continues follow
          obtain ⟨visible, mark, backslash⟩ := (plain_iff form).mp ⟨visible, mark, backslash⟩
          rw [← List.cons_append, ← form]
          exact .plain visible mark backslash (ih rest)
      | escaped first behind =>
          obtain ⟨rfl, rfl⟩ := utf8EncodeChar_append_inj resolves
          exact .escaped first (ih behind)

/-- Bytes that go on with a character stand for themselves. -/
theorem Pieces.append {more raw resolved : Bytes} (follow : ∀ byte ∈ more, Continues byte)
    (pieces : Pieces raw resolved) : Pieces (more ++ raw) (more ++ resolved) := by
  induction more with
  | nil => exact pieces
  | cons b more ih =>
      obtain ⟨⟨high, -⟩, others⟩ := List.forall_mem_cons.mp follow
      refine .plain ?_ ?_ ?_ (ih others)
      · exact fun low => absurd (UInt8.lt_iff_toNat_lt.mp low) (Nat.not_lt.mpr
          (Nat.le_trans (by decide) high))
      · rintro rfl
        exact absurd high (by decide)
      · rintro rfl
        exact absurd high (by decide)

/-- What spells some characters resolves to their form. -/
theorem Spells.pieces {raw : Bytes} {text : List Char} (spells : Spells raw text) :
    Pieces raw (text.flatMap String.utf8EncodeChar) := by
  induction spells with
  | nil => exact .nil
  | plain visible mark backslash _ ih =>
      rename_i c raw text _
      obtain ⟨a, more, form, -, follow, -⟩ := exists_utf8EncodeChar c
      obtain ⟨visible, mark, backslash⟩ := (plain_iff form).mpr ⟨visible, mark, backslash⟩
      rw [List.flatMap_cons, form, List.cons_append, List.cons_append]
      exact .plain visible mark backslash (ih.append follow)
  | escaped first _ ih => exact .escaped first ih

/-- Between its marks a text is read just where it is spelled, and as what is spelled. -/
theorem readText_eq_ok_iff {text : String} :
    readText bytes = .ok (text, rest) ↔
      ∃ raw, Spells raw text.toList ∧ bytes = raw ++ 34 :: rest := by
  constructor
  · intro read
    unfold readText at read
    split at read
    · cases read
    · rename_i found after gathered
      obtain ⟨raw, resolved, pieces, rfl, rfl⟩ := exists_pieces gathered
      split at read
      · rename_i chars decoded
        cases read
        obtain rfl := Utf8.decode?_eq_some_iff.mp decoded
        exact ⟨raw, String.toList_ofList ▸ pieces.spells, rfl⟩
      · cases read
  · rintro ⟨raw, spells, rfl⟩
    have gathered := spells.pieces.read [] rest
    have decoded := Utf8.decode?_eq_some_iff.mpr
      (rfl : text.toList.flatMap String.utf8EncodeChar = _)
    rw [List.reverse_nil, List.nil_append] at gathered
    simp only [readText, gathered, decoded, String.ofList_toList]

end RecordStore.Json
