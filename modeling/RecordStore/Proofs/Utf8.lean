import RecordStore.Text.Utf8
import Mathlib

/-!
What lossy decoding leaves alone.

A byte below 128 is a unit of its own and stands for the character of that number, whatever
stands before it (`decodeLossy_cons_ascii`). A unit that starts with another byte takes such
bytes alone and comes to one character, which is not ASCII either (`decodeLossy_cons_high`),
even where the unit breaks off. So ASCII texts are found in what was decoded just where they
stand in the bytes (`exists_of_decodeLossy_eq`).
-/

namespace RecordStore.Utf8

/-- The character of an ASCII byte. -/
def ascii (byte : UInt8) : Char :=
  Char.ofNat byte.toNat

/-- The byte is below 128. -/
def IsAscii (byte : UInt8) : Prop :=
  byte.toNat < 128

instance (byte : UInt8) : Decidable (IsAscii byte) :=
  inferInstanceAs (Decidable (byte.toNat < 128))

@[simp] theorem toNat_ascii (byte : UInt8) : (ascii byte).toNat = byte.toNat := by
  have small := byte.toNat_lt
  have valid : byte.toNat.isValidChar := .inl (by omega)
  rw [ascii, Char.toNat_ofNat, if_pos valid]

theorem ascii_injective : Function.Injective ascii := by
  intro first second same
  have codes := congrArg Char.toNat same
  rw [toNat_ascii, toNat_ascii] at codes
  exact UInt8.toNat_inj.mp codes

/-- A text of ASCII characters is made of bytes. -/
theorem exists_map_ascii {text : List Char} (low : ∀ c ∈ text, c.toNat < 128) :
    ∃ bytes : Bytes, text = bytes.map ascii := by
  induction text with
  | nil => exact ⟨[], rfl⟩
  | cons c text ih =>
      obtain ⟨first, others⟩ := List.forall_mem_cons.mp low
      obtain ⟨bytes, rfl⟩ := ih others
      have same : ascii (UInt8.ofNat c.toNat) = c := by
        apply Char.toNat_inj.mp
        rw [toNat_ascii]
        exact UInt8.toNat_ofNat_of_lt' (Nat.lt_trans first (by decide))
      exact ⟨UInt8.ofNat c.toNat :: bytes, by rw [List.map_cons, same]⟩

/-! ### One unit -/

/-- The bytes that a unit owes, and the code point that they complete. -/
theorem exists_of_follow {code found : Nat} {owed : List (UInt8 × UInt8)} {rest after : Bytes}
    (read : follow code owed rest = (some found, after)) :
    ∃ taken, List.Forall₂ (fun range byte => range.1 ≤ byte ∧ byte ≤ range.2) owed taken ∧
      rest = taken ++ after ∧
      found = taken.foldl (fun code byte => code * 64 + byte.toNat % 64) code := by
  induction owed generalizing code rest with
  | nil =>
      cases read
      exact ⟨[], .nil, rfl, rfl⟩
  | cons range owed ih =>
      cases rest with
      | nil => cases read
      | cons byte rest =>
          rw [follow] at read
          split at read
          · rename_i within
            obtain ⟨taken, fits, rfl, whole⟩ := ih read
            exact ⟨byte :: taken, .cons within fits, rfl, whole⟩
          · cases read

/-- Whether a unit is completed or breaks off, the bytes that it took are in the ranges. -/
theorem exists_taken (code : Nat) {owed : List (UInt8 × UInt8)} (rest : Bytes)
    (high : ∀ range ∈ owed, 128 ≤ range.1.toNat) :
    ∃ taken, rest = taken ++ (follow code owed rest).2 ∧ ∀ byte ∈ taken, ¬IsAscii byte := by
  induction owed generalizing code rest with
  | nil => exact ⟨[], rfl, by simp⟩
  | cons range owed ih =>
      cases rest with
      | nil => exact ⟨[], rfl, by simp⟩
      | cons byte rest =>
          obtain ⟨first, others⟩ := List.forall_mem_cons.mp high
          rw [follow]
          split
          · rename_i within
            obtain ⟨taken, parts, above⟩ := ih (code * 64 + byte.toNat % 64) rest others
            have low := UInt8.le_iff_toNat_le.mp within.1
            refine ⟨byte :: taken, congrArg (byte :: ·) parts, ?_⟩
            refine List.forall_mem_cons.mpr ⟨?_, above⟩
            unfold IsAscii
            omega
          · exact ⟨[], rfl, by simp⟩

/-- What a lead byte other than ASCII owes is not ASCII. -/
theorem owed_of_lead {a : UInt8} {code : Nat} {owed : List (UInt8 × UInt8)}
    (led : lead a = some (code, owed)) : ∀ range ∈ owed, 128 ≤ range.1.toNat := by
  unfold lead at led
  repeat' split at led
  all_goals try simp only [reduceCtorEq] at led
  all_goals obtain ⟨rfl, rfl⟩ := Prod.mk.inj (Option.some.inj led)
  all_goals simp

/-- What a lead byte other than ASCII leads to is a character beyond ASCII. -/
theorem code_of_lead {a : UInt8} (high : ¬IsAscii a) {code : Nat} {owed : List (UInt8 × UInt8)}
    (led : lead a = some (code, owed)) {taken : Bytes}
    (fits : List.Forall₂ (fun range byte => range.1 ≤ byte ∧ byte ≤ range.2) owed taken) :
    128 ≤ taken.foldl (fun code byte => code * 64 + byte.toNat % 64) code ∧
      (taken.foldl (fun code byte => code * 64 + byte.toNat % 64) code).isValidChar := by
  unfold IsAscii at high
  unfold lead at led
  repeat' split at led
  all_goals try simp only [reduceCtorEq] at led
  all_goals obtain ⟨rfl, rfl⟩ := Prod.mk.inj (Option.some.inj led)
  all_goals rcases fits with _ | ⟨one, _ | ⟨two, _ | ⟨three, _ | _⟩⟩⟩
  all_goals
    simp only [UInt8.lt_iff_toNat_lt, UInt8.le_iff_toNat_le, UInt8.reduceToNat, List.foldl_cons,
      List.foldl_nil, Nat.isValidChar, ← UInt8.toNat_inj] at *
    omega

theorem next_ascii {a : UInt8} (low : IsAscii a) (rest : Bytes) :
    next a rest = (some (ascii a), rest) := by
  have below : a < 0x80 := UInt8.lt_iff_toNat_lt.mpr low
  have led : lead a = some (a.toNat, []) := if_pos below
  simp [next, led, follow, ascii]

/-- A unit that starts beyond ASCII is beyond ASCII throughout. -/
theorem next_high {a : UInt8} (high : ¬IsAscii a) (rest : Bytes) :
    (∃ taken, rest = taken ++ (next a rest).2 ∧ ∀ byte ∈ taken, ¬IsAscii byte) ∧
      ∀ c, (next a rest).1 = some c → 128 ≤ c.toNat := by
  unfold next
  cases led : lead a with
  | none => exact ⟨⟨[], rfl, by simp⟩, fun c found => by cases found⟩
  | some unit =>
      obtain ⟨code, owed⟩ := unit
      refine ⟨exists_taken code rest (owed_of_lead led), ?_⟩
      intro c found
      dsimp only at found
      obtain ⟨point, whole, rfl⟩ := Option.map_eq_some_iff.mp found
      obtain ⟨taken, fits, -, rfl⟩ := exists_of_follow (Prod.ext whole rfl)
      obtain ⟨above, valid⟩ := code_of_lead high led fits
      rwa [Char.toNat_ofNat, if_pos valid]

/-! ### Texts -/

@[simp] theorem decodeLossy_nil : decodeLossy [] = [] := by
  simp [decodeLossy, units]

theorem decodeLossy_cons (a : UInt8) (rest : Bytes) :
    decodeLossy (a :: rest) =
      (next a rest).1.getD replacement :: decodeLossy (next a rest).2 := by
  rw [decodeLossy, units, List.map_cons]
  rfl

/-- An ASCII byte stands for its character, and decoding goes on behind it. -/
theorem decodeLossy_cons_ascii {a : UInt8} (low : IsAscii a) (rest : Bytes) :
    decodeLossy (a :: rest) = ascii a :: decodeLossy rest := by
  rw [decodeLossy_cons, next_ascii low]
  rfl

/-- Another byte stands, with the bytes beyond ASCII that belong to it, for a character beyond
ASCII. -/
theorem decodeLossy_cons_high {a : UInt8} (high : ¬IsAscii a) (rest : Bytes) :
    ∃ c taken after, 128 ≤ c.toNat ∧ rest = taken ++ after ∧ (∀ byte ∈ taken, ¬IsAscii byte) ∧
      decodeLossy (a :: rest) = c :: decodeLossy after := by
  obtain ⟨⟨taken, parts, above⟩, beyond⟩ := next_high high rest
  refine ⟨_, taken, _, ?_, parts, above, decodeLossy_cons a rest⟩
  cases unit : (next a rest).1 with
  | none => decide
  | some c => exact beyond c unit

/-- An ASCII text in front is kept as it is. -/
theorem decodeLossy_append {found : Bytes} (low : ∀ byte ∈ found, IsAscii byte) (rest : Bytes) :
    decodeLossy (found ++ rest) = found.map ascii ++ decodeLossy rest := by
  induction found with
  | nil => rfl
  | cons a found ih =>
      obtain ⟨first, others⟩ := List.forall_mem_cons.mp low
      rw [List.cons_append, decodeLossy_cons_ascii first, ih others]
      rfl

/-- An ASCII text that is in front of what was decoded is in front of the bytes. -/
theorem exists_of_decodeLossy_eq {found bytes : Bytes} {text : List Char}
    (low : ∀ byte ∈ found, IsAscii byte)
    (decoded : decodeLossy bytes = found.map ascii ++ text) :
    ∃ rest, bytes = found ++ rest ∧ decodeLossy rest = text := by
  induction found generalizing bytes with
  | nil => exact ⟨bytes, rfl, decoded⟩
  | cons b found ih =>
      obtain ⟨first, others⟩ := List.forall_mem_cons.mp low
      cases bytes with
      | nil => simp at decoded
      | cons a rest =>
          by_cases ascii : IsAscii a
          · rw [decodeLossy_cons_ascii ascii] at decoded
            obtain ⟨same, behind⟩ := List.cons.inj decoded
            obtain ⟨rest', rfl, decoded'⟩ := ih others behind
            exact ⟨rest', by rw [ascii_injective same]; rfl, decoded'⟩
          · obtain ⟨c, taken, after, beyond, -, -, same⟩ := decodeLossy_cons_high ascii rest
            rw [same] at decoded
            rw [(List.cons.inj decoded).1, toNat_ascii] at beyond
            exact absurd first (Nat.not_lt.mpr beyond)

/-- An ASCII character is one byte in UTF-8. -/
theorem utf8EncodeChar_ascii {a : UInt8} (low : IsAscii a) :
    String.utf8EncodeChar (ascii a) = [a] := by
  have code : (ascii a).val.toNat = a.toNat := toNat_ascii a
  have point : a.toNat ≤ 127 := Nat.le_of_lt_succ low
  rw [String.utf8EncodeChar, code, if_pos point, UInt8.ofNat_toNat]

/-- The UTF-8 form of an ASCII text is made of its characters' bytes. -/
theorem ofText_ascii {found : Bytes} (low : ∀ byte ∈ found, IsAscii byte) :
    Bytes.ofText (String.ofList (found.map ascii)) = found := by
  rw [Bytes.ofText, String.toList_ofList, List.flatMap_map]
  calc found.flatMap (fun byte => String.utf8EncodeChar (ascii byte))
      _ = found.flatMap ([·]) := List.flatMap_congr fun byte inside =>
        utf8EncodeChar_ascii (low byte inside)
      _ = found := List.flatMap_singleton' found

end RecordStore.Utf8
