import RecordStore.Json.Printer
import RecordStore.Proofs.Json.Members

/-!
Values as they are printed.

What is printed is of the grammar that is read: a text with its escapes spells that text
(`scalarText_renderText`), a natural is its numeral (`scalarText_natural`), and an object is
its members between commas. An object that is put together from members in some order fills the
slots that these members have (`slotsText_of_entries`), and so does one that is printed
(`slotsText_render_object`).
-/

namespace RecordStore

theorem Bytes.ofText_append (left right : String) :
    ofText (left ++ right) = ofText left ++ ofText right := by
  simp only [ofText, String.toList_append, List.flatMap_append]

namespace Json

/-! ### Texts -/

theorem hexDigit_digitChar {v : Nat} (small : v < 16) :
    ∃ b, String.utf8EncodeChar (Nat.digitChar v) = [b] ∧ HexDigit b v := by
  by_cases decimal : v < 10
  · refine ⟨UInt8.ofNat (48 + v), ?_, .decimal decimal⟩
    interval_cases v <;> rfl
  · obtain ⟨w, rfl⟩ : ∃ w, v = 10 + w := ⟨v - 10, by omega⟩
    have letter : w < 6 := by omega
    refine ⟨UInt8.ofNat (97 + w), ?_, .lower letter⟩
    interval_cases w <;> rfl

/-- A control character is told by the digits of its number. -/
theorem escaped_control {c : Char} (control : c.toNat < 32) :
    ∃ escape, Escaped escape c ∧
      ['\\', 'u', '0', '0', Nat.digitChar (c.toNat / 16), Nat.digitChar (c.toNat % 16)].flatMap
        String.utf8EncodeChar = 92 :: escape := by
  obtain ⟨a, highForm, high⟩ := hexDigit_digitChar (v := c.toNat / 16) (by omega)
  obtain ⟨b, lowForm, low⟩ := hexDigit_digitChar (v := c.toNat % 16) (by omega)
  have zero : HexDigit 48 0 := .decimal (v := 0) (by decide)
  have number : HexDigits [48, 48, a, b] c.toNat := by
    have digits := HexDigits.four zero zero high low
    rwa [show 0 * 4096 + 0 * 256 + c.toNat / 16 * 16 + c.toNat % 16 = c.toNat by omega] at digits
  refine ⟨117 :: [48, 48, a, b], ?_, ?_⟩
  · rw [← Char.ofNat_toNat c]
    exact .number (.single (Char.ofNat_toNat c ▸ number) (.inl (by omega)))
  · simp only [List.flatMap_cons, List.flatMap_nil, highForm, lowForm]
    rfl

/-- A character is printed as itself or as an escape that stands for it. -/
theorem Spells.escapeChar {raw : Bytes} {text : List Char} (c : Char) (others : Spells raw text) :
    Spells ((Json.escapeChar c).flatMap String.utf8EncodeChar ++ raw) (c :: text) := by
  have named {b : UInt8} (letter : Names b c) : Spells (92 :: ([b] ++ raw)) (c :: text) :=
    .escaped (.letter letter) others
  unfold Json.escapeChar
  split_ifs with quote backslash newline return' tab backspace feed control
  · exact named (b := 34) (quote ▸ .quote)
  · exact named (b := 92) (backslash ▸ .backslash)
  · exact named (newline ▸ .newline)
  · exact named (return' ▸ .carriageReturn)
  · exact named (tab ▸ .tab)
  · exact named (backspace ▸ .backspace)
  · exact named (feed ▸ .formFeed)
  · obtain ⟨escape, stands, form⟩ := escaped_control control
    rw [form, List.cons_append]
    exact .escaped stands others
  · rw [List.flatMap_singleton]
    exact .plain (Nat.le_of_not_lt control) quote backslash others

/-- The bytes of a text between its marks, as it is printed. -/
def rawText (text : String) : Bytes :=
  (text.toList.flatMap escapeChar).flatMap String.utf8EncodeChar

theorem spells_rawText (text : String) : Spells (rawText text) text.toList := by
  unfold rawText
  induction text.toList with
  | nil => exact .nil
  | cons c text ih =>
      rw [List.flatMap_cons, List.flatMap_append]
      exact ih.escapeChar c

theorem ofText_renderText (text : String) :
    Bytes.ofText (renderText text) = 34 :: (rawText text ++ [34]) := by
  have mark : String.utf8EncodeChar '"' = [34] := rfl
  simp only [Bytes.ofText, renderText, String.toList_ofList, List.flatMap_append,
    List.flatMap_cons, List.flatMap_nil, mark]
  rfl

theorem scalarText_renderText (text : String) :
    ScalarText (Bytes.ofText (renderText text)) (.text text) := by
  rw [ofText_renderText]
  exact .text (spells_rawText text)

/-! ### Naturals -/

/-- The digits of a natural. -/
def decimalText (n : Nat) : Bytes :=
  (Nat.toDigits 10 n).flatMap String.utf8EncodeChar

theorem utf8EncodeChar_digitChar {v : Nat} (small : v < 10) :
    String.utf8EncodeChar (Nat.digitChar v) = [UInt8.ofNat (48 + v)] := by
  interval_cases v <;> rfl

theorem decimalText_of_lt {n : Nat} (small : n < 10) :
    decimalText n = [UInt8.ofNat (48 + n)] := by
  rw [decimalText, Nat.toDigits_of_lt_base small, List.flatMap_singleton,
    utf8EncodeChar_digitChar small]

theorem decimalText_of_le {n : Nat} (large : 10 ≤ n) :
    decimalText n = decimalText (n / 10) ++ [UInt8.ofNat (48 + n % 10)] := by
  rw [decimalText, Nat.toDigits_of_base_le (by decide) large, List.flatMap_append,
    List.flatMap_singleton, utf8EncodeChar_digitChar (Nat.mod_lt n (by decide)), decimalText]

theorem isDigit_ofNat {v : Nat} (small : v < 10) :
    isDigit (UInt8.ofNat (48 + v)) = true ∧ digitValue (UInt8.ofNat (48 + v)) = v := by
  interval_cases v <;> exact ⟨rfl, rfl⟩

/-- A natural is told by its digits, and only zero starts with one. -/
theorem isWhole_decimalText (n : Nat) :
    IsWhole (decimalText n) ∧ decimal 0 (decimalText n) = n := by
  induction n using Nat.strongRecOn with
  | ind n ih =>
      by_cases small : n < 10
      · obtain ⟨digit, value⟩ := isDigit_ofNat small
        rw [decimalText_of_lt small, decimal_zero_cons, value]
        refine ⟨?_, rfl⟩
        by_cases zero : n = 0
        · subst zero
          exact .zero
        · apply IsWhole.digits digit _ Digits.nil
          intro same
          rw [same] at value
          exact zero value.symm
      · have large : 10 ≤ n := Nat.le_of_not_lt small
        obtain ⟨whole, number⟩ := ih (n / 10) (by omega)
        obtain ⟨digit, value⟩ := isDigit_ofNat (Nat.mod_lt n (by decide : 0 < 10))
        rw [decimalText_of_le large]
        generalize decimalText (n / 10) = digits at whole number
        constructor
        -- What stands before the last digit is not zero, so it does not start with one either.
        · cases whole with
          | zero =>
              have : decimal 0 [48] = 0 := rfl
              omega
          | digits lead nonzero others =>
              refine .digits lead nonzero fun b here => ?_
              rcases List.mem_append.mp here with before | last
              · exact others b before
              · exact List.mem_singleton.mp last ▸ digit
        · have appended : decimal 0 (digits ++ [UInt8.ofNat (48 + n % 10)]) =
              decimal 0 digits * 10 + n % 10 := by
            rw [decimal, List.foldl_append, List.foldl_cons, List.foldl_nil, value, decimal]
          rw [appended, number]
          omega

theorem scalarText_natural {n : Nat} (small : n < 2 ^ 64) :
    ScalarText (Bytes.ofText (toString n)) (.number (.natural n)) := by
  obtain ⟨whole, number⟩ := isWhole_decimalText n
  have digits : Bytes.ofText (toString n) = decimalText n := by
    rw [Bytes.ofText, decimalText]
    exact congrArg (List.flatMap String.utf8EncodeChar) Nat.toList_repr
  have spelled : IntegerText (decimalText n) n := by
    have form := IntegerText.natural whole
    rwa [number] at form
  rw [digits, ← ofInt_natCast]
  exact .number (.integer spelled (by omega) (by omega))

/-! ### Objects -/

/-- A member that is put together from its name and the bytes of its value. -/
def memberText (member : String × Bytes) : Bytes :=
  34 :: (rawText member.1 ++ 34 :: 58 :: member.2)

/-- An object that is put together from its members. -/
def objectText (members : List (String × Bytes)) : Bytes :=
  123 :: ([44].intercalate (members.map memberText) ++ [125])

theorem intercalate_cons_eq_flatMap {α : Type} (mark : α) (first : List α)
    (others : List (List α)) :
    [mark].intercalate (first :: others) = first ++ others.flatMap (mark :: ·) := by
  induction others generalizing first with
  | nil => rw [List.intercalate_singleton, List.flatMap_nil, List.append_nil]
  | cons next others ih =>
      rw [List.intercalate_cons_cons, ih, List.flatMap_cons, List.append_assoc,
        List.singleton_append, List.cons_append]

/-- Entries between commas are listed up to the closing mark. -/
theorem listing_of_entries {α γ : Type} {mark : UInt8} {Entry : Bytes → α → Prop}
    {text : γ → Bytes} {value : γ → α} {entries : List γ}
    (stand : ∀ entry ∈ entries, Entry (text entry) (value entry)) :
    Listing mark Entry true ([44].intercalate (entries.map text) ++ [mark])
      (entries.map value) := by
  have behind : ∀ entries : List γ, (∀ entry ∈ entries, Entry (text entry) (value entry)) →
      Listing mark Entry false ((entries.map text).flatMap (44 :: ·) ++ [mark])
        (entries.map value) := by
    intro entries
    induction entries with
    | nil => exact fun _ => .close Blanks.nil
    | cons entry entries ih =>
        intro stand
        obtain ⟨stands, others⟩ := List.forall_mem_cons.mp stand
        have comma : Lead false ([] ++ 44 :: []) := .later Blanks.nil Blanks.nil
        have listed := Listing.entry comma stands (ih others)
        simpa only [List.map_cons, List.flatMap_cons, List.append_assoc, List.nil_append,
          List.cons_append] using listed
  cases entries with
  | nil => exact .close Blanks.nil
  | cons entry entries =>
      obtain ⟨stands, others⟩ := List.forall_mem_cons.mp stand
      have listed := Listing.entry (.first Blanks.nil) stands (behind entries others)
      rwa [List.nil_append, ← List.append_assoc, ← intercalate_cons_eq_flatMap] at listed

/-- An object fills the slots of its members, in whatever order they are put together. -/
theorem slotsText_of_entries {slots : List Slot} {Other : Bytes → Prop}
    {members : List (String × Bytes)}
    (stand : ∀ member ∈ members, formOf slots Other member.1 member.2)
    (counted : ∀ slot ∈ slots,
      (members.map (·.1)).count slot.name = if slot.given then 1 else 0) :
    SlotsText slots Other (objectText members) := by
  refine .members (listing_of_entries fun member here => ?_) counted
  exact .member (spells_rawText member.1) Blanks.nil Blanks.nil (stand member here)

theorem ofText_intercalate (texts : List String) :
    Bytes.ofText (",".intercalate texts) = [44].intercalate (texts.map Bytes.ofText) := by
  have comma : Bytes.ofText "," = [44] := rfl
  induction texts with
  | nil => rfl
  | cons first others ih =>
      cases others with
      | nil => rw [String.intercalate_singleton, List.map_singleton, List.intercalate_singleton]
      | cons next others =>
          rw [String.intercalate_cons_cons, Bytes.ofText_append, Bytes.ofText_append, comma, ih]
          rw [List.map_cons, List.map_cons, List.map_cons, List.intercalate_cons_cons]

theorem renderMembers_eq_map (members : Members) :
    renderMembers members = members.map fun (name, value) =>
      renderText name ++ ":" ++ value.render := by
  induction members with
  | nil => rfl
  | cons member members ih => rw [renderMembers, ih, List.map_cons]

/-- An object is printed from the names of its members and what their values are printed as. -/
theorem ofText_render_object (members : Members) :
    Bytes.ofText (Json.object members).render =
      objectText (members.map fun (name, value) => (name, Bytes.ofText value.render)) := by
  have opening : Bytes.ofText "\x7b" = [123] := rfl
  have closing : Bytes.ofText "\x7d" = [125] := rfl
  have colon : Bytes.ofText ":" = [58] := rfl
  have member (name : String) (value : Json) :
      Bytes.ofText (renderText name ++ ":" ++ value.render) =
        memberText (name, Bytes.ofText value.render) := by
    rw [Bytes.ofText_append, Bytes.ofText_append, ofText_renderText, colon, memberText]
    simp
  have texts : (members.map fun (name, value) => renderText name ++ ":" ++ value.render).map
      Bytes.ofText =
      (members.map fun (name, value) => (name, Bytes.ofText value.render)).map memberText := by
    rw [List.map_map, List.map_map]
    apply List.map_congr_left
    rintro ⟨name, value⟩ -
    rw [Function.comp_apply, Function.comp_apply, member]
  rw [render, Bytes.ofText_append, Bytes.ofText_append, ofText_intercalate, renderMembers_eq_map,
    opening, closing, objectText, texts, List.singleton_append, List.cons_append]

/-- What is printed for a member is what its slot asks for. -/
structure Shows (member : String × Json) (slot : Slot) : Prop where
  name_eq : member.1 = slot.name
  given : slot.given = true
  form : slot.Form (Bytes.ofText member.2.render)

theorem Shows.text (name text : String) :
    Shows (name, .text text) (.scalar name true (.text text)) :=
  ⟨rfl, rfl, scalarText_renderText text⟩

/-- An object fills the slots of its members when it is printed. -/
theorem slotsText_render_object {members : Members} {slots : List Slot} {Other : Bytes → Prop}
    (shows : List.Forall₂ Shows members slots) (distinct : (members.map (·.1)).Nodup) :
    SlotsText slots Other (Bytes.ofText (Json.object members).render) := by
  rw [ofText_render_object]
  apply slotsText_of_entries
  · intro entry here
    obtain ⟨member, member_mem, rfl⟩ := List.mem_map.mp here
    obtain ⟨none, -⟩ | ⟨other, slot, isOther, isSlot, fit⟩ :=
      find?_of_forall₂ shows (fun _ _ => Shows.name_eq) member.1
    · exact absurd (List.find?_eq_none.mp none member member_mem) (by simp)
    · have same : other = member :=
        List.inj_on_of_nodup_map distinct (List.mem_of_find?_eq_some isOther) member_mem
          (by simpa using List.find?_some isOther)
      simp only [formOf, isSlot]
      exact same ▸ fit.form
  · intro slot here
    obtain ⟨member, member_mem, fit⟩ := exists_of_forall₂ shows.flip slot here
    have names : (members.map fun (name, value) => (name, Bytes.ofText value.render)).map (·.1) =
        members.map (·.1) := List.map_map
    rw [names, if_pos fit.given, ← fit.name_eq]
    exact List.count_eq_one_of_mem distinct (List.mem_map_of_mem member_mem)

end Json

end RecordStore
