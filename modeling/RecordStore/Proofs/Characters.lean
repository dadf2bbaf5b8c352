import RecordStore.Proofs.Utf8

/-!
Characters and their UTF-8 forms.

What is read as a character is the form of that character, and the form of a character is read as
that character whatever follows (`next_eq_some_iff`). So a text is well formed just when it is made
of the forms of characters, and these characters are what it is decoded to
(`decode?_eq_some_iff`); two texts with one form are the same. In the form of a character the first
byte begins it and no other one could.
-/

namespace RecordStore.Utf8

/-! ### Forms of characters -/

/-- The byte goes on with a character that another one has begun. -/
def Continues (byte : UInt8) : Prop :=
  128 ≤ byte.toNat ∧ byte.toNat < 192

theorem toNat_cases (c : Char) : c.toNat < 0xD800 ∨ 0xDFFF < c.toNat ∧ c.toNat < 0x110000 :=
  c.valid

/-- The form of a character is a byte that begins it and bytes that go on with it. An ASCII
character is one byte, and all bytes of another one are beyond ASCII. -/
theorem exists_utf8EncodeChar (c : Char) :
    ∃ a more, String.utf8EncodeChar c = a :: more ∧ ¬Continues a ∧ (∀ byte ∈ more, Continues byte) ∧
      (c.toNat < 128 → a = UInt8.ofNat c.toNat ∧ more = []) ∧ (128 ≤ c.toNat → 128 ≤ a.toNat) := by
  have valid := toNat_cases c
  have code : c.val.toNat = c.toNat := rfl
  unfold String.utf8EncodeChar Continues
  dsimp only
  rw [code]
  repeat' split
  all_goals
    refine ⟨_, _, rfl, ?_⟩
    simp
    omega

/-- A code point and the bytes that a lead owes make the character. -/
theorem next_of_lead {a : UInt8} {code : Nat} {owed : List (UInt8 × UInt8)} {more : Bytes}
    {c : Char} (led : lead a = some (code, owed))
    (fits : List.Forall₂ (fun range byte => range.1 ≤ byte ∧ byte ≤ range.2) owed more)
    (whole : more.foldl (fun code byte => code * 64 + byte.toNat % 64) code = c.toNat)
    (rest : Bytes) : next a (more ++ rest) = (some c, rest) := by
  have followed : ∀ code, follow code owed (more ++ rest) =
      (some (more.foldl (fun code byte => code * 64 + byte.toNat % 64) code), rest) := by
    clear led whole
    induction fits with
    | nil => exact fun _ => rfl
    | cons within _ ih =>
        intro code
        rw [List.cons_append, follow, if_pos within, ih]
        rfl
  simp only [next, led, followed, whole, Option.map_some, Char.ofNat_toNat]

theorem lead_eq (a : UInt8) : lead a =
    if a.toNat < 0x80 then some (a.toNat, [])
    else if a.toNat < 0xC2 then none
    else if a.toNat < 0xE0 then some (a.toNat - 0xC0, [(0x80, 0xBF)])
    else if a.toNat = 0xE0 then some (0, [(0xA0, 0xBF), (0x80, 0xBF)])
    else if a.toNat = 0xED then some (0xD, [(0x80, 0x9F), (0x80, 0xBF)])
    else if a.toNat < 0xF0 then some (a.toNat - 0xE0, [(0x80, 0xBF), (0x80, 0xBF)])
    else if a.toNat = 0xF0 then some (0, [(0x90, 0xBF), (0x80, 0xBF), (0x80, 0xBF)])
    else if a.toNat < 0xF4 then some (a.toNat - 0xF0, [(0x80, 0xBF), (0x80, 0xBF), (0x80, 0xBF)])
    else if a.toNat = 0xF4 then some (4, [(0x80, 0x8F), (0x80, 0xBF), (0x80, 0xBF)])
    else none := by
  simp only [lead, UInt8.lt_iff_toNat_lt, ← UInt8.toNat_inj, UInt8.reduceToNat]

theorem lead_one {n : Nat} (low : n < 0x80) : lead (UInt8.ofNat n) = some (n, []) := by
  rw [lead_eq, UInt8.toNat_ofNat', if_pos (by omega)]
  simp
  omega

theorem lead_two {n : Nat} (long : 0x80 ≤ n) (short : n < 0x800) :
    lead (UInt8.ofNat (n / 64 % 32 + 192)) = some (n / 64, [(0x80, 0xBF)]) := by
  rw [lead_eq, UInt8.toNat_ofNat', if_neg (by omega), if_neg (by omega), if_pos (by omega)]
  simp
  omega

/-- The lead of three bytes owes a second one that keeps short forms and surrogates out. -/
theorem exists_lead_three {n : Nat} (long : 0x800 ≤ n) (short : n < 0x10000)
    (free : ¬(0xD800 ≤ n ∧ n < 0xE000)) :
    ∃ low high, lead (UInt8.ofNat (n / 4096 % 16 + 224)) =
        some (n / 4096, [(low, high), (0x80, 0xBF)]) ∧
      low.toNat ≤ n / 64 % 64 + 128 ∧ n / 64 % 64 + 128 ≤ high.toNat := by
  rw [lead_eq, UInt8.toNat_ofNat', if_neg (by omega), if_neg (by omega), if_neg (by omega)]
  by_cases first : n < 0x1000
  · refine ⟨0xA0, 0xBF, ?_, ?_⟩
    · rw [if_pos (by omega), show n / 4096 = 0 by omega]
    · simp
      omega
  · rw [if_neg (by omega)]
    by_cases surrogates : 0xD000 ≤ n ∧ n < 0xE000
    · refine ⟨0x80, 0x9F, ?_, ?_⟩
      · rw [if_pos (by omega), show n / 4096 = 0xD by omega]
      · simp
        omega
    · refine ⟨0x80, 0xBF, ?_, ?_⟩
      · rw [if_neg (by omega), if_pos (by omega)]
        simp
        omega
      · simp
        omega

/-- The lead of four bytes owes a second one that keeps short forms out, and what is beyond the last
code point. -/
theorem exists_lead_four {n : Nat} (long : 0x10000 ≤ n) (short : n < 0x110000) :
    ∃ low high, lead (UInt8.ofNat (n / 262144 % 8 + 240)) =
        some (n / 262144, [(low, high), (0x80, 0xBF), (0x80, 0xBF)]) ∧
      low.toNat ≤ n / 4096 % 64 + 128 ∧ n / 4096 % 64 + 128 ≤ high.toNat := by
  rw [lead_eq, UInt8.toNat_ofNat', if_neg (by omega), if_neg (by omega), if_neg (by omega),
    if_neg (by omega), if_neg (by omega), if_neg (by omega)]
  by_cases first : n < 0x40000
  · refine ⟨0x90, 0xBF, ?_, ?_⟩
    · rw [if_pos (by omega), show n / 262144 = 0 by omega]
    · simp
      omega
  · rw [if_neg (by omega)]
    by_cases last : 0x100000 ≤ n
    · refine ⟨0x80, 0x8F, ?_, ?_⟩
      · rw [if_neg (by omega), if_pos (by omega), show n / 262144 = 4 by omega]
      · simp
        omega
    · refine ⟨0x80, 0xBF, ?_, ?_⟩
      · rw [if_pos (by omega)]
        simp
        omega
      · simp
        omega

/-- The form of a character is read as that character. -/
theorem next_utf8EncodeChar {c : Char} {a : UInt8} {more : Bytes}
    (form : String.utf8EncodeChar c = a :: more) (rest : Bytes) :
    next a (more ++ rest) = (some c, rest) := by
  have valid := toNat_cases c
  have code : c.val.toNat = c.toNat := rfl
  unfold String.utf8EncodeChar at form
  dsimp only at form
  rw [code] at form
  -- One form after another: each lead is known, and the bytes behind it are in range.
  repeat' split at form
  all_goals obtain ⟨rfl, rfl⟩ := List.cons.inj form
  · exact next_of_lead (lead_one (by omega)) .nil rfl rest
  · refine next_of_lead (lead_two (by omega) (by omega)) (.cons ?_ .nil) ?_ rest
    all_goals
      simp [UInt8.le_iff_toNat_le]
      omega
  · obtain ⟨low, high, led, second⟩ :=
      exists_lead_three (show 0x800 ≤ c.toNat by omega) (by omega) (by omega)
    refine next_of_lead led (.cons ?_ (.cons ?_ .nil)) ?_ rest
    all_goals
      simp [UInt8.le_iff_toNat_le]
      omega
  · obtain ⟨low, high, led, second⟩ :=
      exists_lead_four (show 0x10000 ≤ c.toNat by omega) (by omega)
    refine next_of_lead led (.cons ?_ (.cons ?_ (.cons ?_ .nil))) ?_ rest
    all_goals
      simp [UInt8.le_iff_toNat_le]
      omega

/-- The bytes that a lead beyond ASCII owes complete the form of a character. -/
theorem utf8EncodeChar_of_lead {a : UInt8} (high : ¬IsAscii a) {code : Nat}
    {owed : List (UInt8 × UInt8)} (led : lead a = some (code, owed)) {taken : Bytes}
    (fits : List.Forall₂ (fun range byte => range.1 ≤ byte ∧ byte ≤ range.2) owed taken)
    {point : Nat}
    (whole : point = taken.foldl (fun code byte => code * 64 + byte.toNat % 64) code) :
    String.utf8EncodeChar (Char.ofNat point) = a :: taken := by
  have value : (Char.ofNat point).toNat = point := by
    rw [Char.toNat_ofNat, if_pos (whole ▸ (code_of_lead high led fits).2)]
  have same : (Char.ofNat point).val.toNat = point := value
  have small := a.toNat_lt
  unfold IsAscii at high
  unfold String.utf8EncodeChar
  dsimp only
  rw [same]
  rw [lead_eq] at led
  repeat' split at led
  all_goals try simp only [reduceCtorEq] at led
  all_goals obtain ⟨rfl, rfl⟩ := Prod.mk.inj (Option.some.inj led)
  all_goals rcases fits with _ | ⟨one, _ | ⟨two, _ | ⟨three, _ | _⟩⟩⟩
  all_goals
    simp only [UInt8.le_iff_toNat_le, UInt8.reduceToNat, List.foldl_cons, List.foldl_nil] at *
  -- How many bytes there are decides which form it is.
  all_goals repeat' split
  all_goals try omega
  all_goals
    simp only [List.cons.injEq, ← UInt8.toNat_inj, UInt8.toNat_ofNat', and_true]
    omega

/-- What is read as a character is the form of that character. -/
theorem utf8EncodeChar_of_next {a : UInt8} {rest after : Bytes} {c : Char}
    (read : next a rest = (some c, after)) : a :: rest = String.utf8EncodeChar c ++ after := by
  by_cases low : IsAscii a
  · rw [next_ascii low] at read
    cases read
    rw [utf8EncodeChar_ascii low]
    rfl
  · unfold next at read
    cases led : lead a with
    | none => simp [led] at read
    | some unit =>
        obtain ⟨code, owed⟩ := unit
        rw [led] at read
        dsimp only at read
        rcases followed : follow code owed rest with ⟨found, left⟩
        rw [followed] at read
        obtain ⟨made, rfl⟩ := Prod.mk.inj read
        obtain ⟨point, rfl, rfl⟩ := Option.map_eq_some_iff.mp made
        obtain ⟨taken, fits, rfl, whole⟩ := exists_of_follow followed
        rw [utf8EncodeChar_of_lead low led fits whole]
        rfl

/-- A unit is read as a character just when it is the form of that character. -/
theorem next_eq_some_iff {a : UInt8} {rest after : Bytes} {c : Char} :
    next a rest = (some c, after) ↔ a :: rest = String.utf8EncodeChar c ++ after := by
  constructor
  · exact utf8EncodeChar_of_next
  · intro form
    obtain ⟨b, more, parts, -⟩ := exists_utf8EncodeChar c
    rw [parts] at form
    obtain ⟨rfl, rfl⟩ := List.cons.inj form
    exact next_utf8EncodeChar parts after

/-- Which character stands first, and what follows it, is told by the bytes. -/
theorem utf8EncodeChar_append_inj {c d : Char} {rest after : Bytes}
    (same : String.utf8EncodeChar c ++ rest = String.utf8EncodeChar d ++ after) :
    c = d ∧ rest = after := by
  obtain ⟨a, more, parts, -⟩ := exists_utf8EncodeChar c
  have first := next_utf8EncodeChar parts rest
  rw [parts, List.cons_append] at same
  rw [next_eq_some_iff.mpr same] at first
  cases first
  exact ⟨rfl, rfl⟩

/-! ### Texts -/

@[simp] theorem decode?_nil : decode? [] = some [] := by
  simp [decode?, units]

theorem decode?_cons (a : UInt8) (rest : Bytes) :
    decode? (a :: rest) =
      (next a rest).1.bind fun c => (decode? (next a rest).2).map (c :: ·) := by
  rw [decode?, units, List.mapM_cons, decode?]
  cases (next a rest).1 with
  | none => rfl
  | some c =>
      show (List.mapM id (units (next a rest).2)).bind _ = _
      cases List.mapM id (units (next a rest).2) <;> rfl

/-- A text is well formed just when it is made of the forms of characters, which are those it is
decoded to. -/
theorem decode?_eq_some_iff {bytes : Bytes} {text : List Char} :
    decode? bytes = some text ↔ bytes = text.flatMap String.utf8EncodeChar := by
  constructor
  · intro decoded
    induction bytes using units.induct generalizing text with
    | case1 =>
        rw [decode?_nil] at decoded
        cases decoded
        rfl
    | case2 a rest ih =>
        rw [decode?_cons] at decoded
        obtain ⟨c, first, others⟩ := Option.bind_eq_some_iff.mp decoded
        obtain ⟨text, behind, rfl⟩ := Option.map_eq_some_iff.mp others
        rw [List.flatMap_cons, ← ih behind]
        exact utf8EncodeChar_of_next (Prod.ext first rfl)
  · rintro rfl
    induction text with
    | nil => exact decode?_nil
    | cons c text ih =>
        obtain ⟨a, more, parts, -⟩ := exists_utf8EncodeChar c
        rw [List.flatMap_cons, parts, List.cons_append, decode?_cons, next_utf8EncodeChar parts]
        simp [ih]

theorem flatMap_utf8EncodeChar_injective :
    Function.Injective (List.flatMap String.utf8EncodeChar) := by
  intro text other same
  have decoded := decode?_eq_some_iff.mpr (rfl : text.flatMap String.utf8EncodeChar = _)
  rw [decode?_eq_some_iff.mpr same] at decoded
  exact (Option.some.inj decoded).symm

end RecordStore.Utf8
