import RecordStore.Extractor
import RecordStore.Proofs.Json.Grammar

/-!
Keys that are members of records.

A record that is the text of an object has its key decided by the last of its outermost members
with the name that is looked for, and by nothing else: not by members of other names, by members of
inner objects, or by how the record is laid out (`key_field`). What is no object text has no key.
-/

namespace RecordStore

open Json

/-! ### The member that decides -/

/-- The value is that of the last member of that name. -/
def Json.Decides (name : String) (members : Members) (value : Json) : Prop :=
  ∃ before after, members = before ++ (name, value) :: after ∧ ∀ member ∈ after, member.1 ≠ name

/-- What a value makes of a record whose key it is to be. Numbers that are no integers of the 64-bit
ranges are left aside. -/
inductive Json.MakesKey (name : String) : Json → Except RecordStore.Error String → Prop
  | text (s : String) : MakesKey name (.text s) (.ok s)
  | integer {i : Int} (low : -2 ^ 63 ≤ i) (high : i < 2 ^ 64) :
      MakesKey name (.number (.ofInt i)) (.ok (toString i))
  | null : MakesKey name .null (.error (.unsupportedValue name .null))
  | bool (b : Bool) : MakesKey name (.bool b) (.error (.unsupportedValue name .bool))
  | array (items : List Json) :
      MakesKey name (.array items) (.error (.unsupportedValue name .array))
  | object (members : Members) :
      MakesKey name (.object members) (.error (.unsupportedValue name .object))

namespace Json

variable {name : String} {members others : Members} {value : Json}

theorem Members.find?_eq_some_iff :
    members.find? name = some value ↔ Decides name members value := by
  unfold Members.find?
  rw [Option.map_eq_some_iff]
  constructor
  · rintro ⟨⟨found, value⟩, first, rfl⟩
    obtain ⟨same, after, before, parts, different⟩ := List.find?_eq_some_iff_append.mp first
    obtain rfl : found = name := eq_of_beq same
    refine ⟨before.reverse, after.reverse, ?_, fun member here => ?_⟩
    · rw [← List.reverse_reverse members, parts]
      simp
    · simpa using different member (List.mem_reverse.mp here)
  · rintro ⟨before, after, rfl, different⟩
    refine ⟨(name, value), List.find?_eq_some_iff_append.mpr ⟨beq_self_eq_true name, ?_⟩, rfl⟩
    refine ⟨after.reverse, before.reverse, by simp, fun member here => ?_⟩
    simpa using different member (List.mem_reverse.mp here)

theorem Members.find?_eq_none_iff :
    members.find? name = none ↔ ∀ member ∈ members, member.1 ≠ name := by
  simp [Members.find?]

/-- Members of other names play no part. -/
theorem Members.find?_congr
    (same : (others.filter fun member => member.1 == name) =
      members.filter fun member => member.1 == name) : others.find? name = members.find? name := by
  unfold Members.find?
  rw [← List.head?_filter, ← List.head?_filter, List.filter_reverse, List.filter_reverse, same]

theorem toKey_eq {result : Except RecordStore.Error String} (makes : MakesKey name value result) :
    value.toKey name = result := by
  cases makes with
  | text s => rfl
  | integer low high =>
      rename_i i
      cases i with
      | ofNat n => rw [Int.ofNat_eq_natCast, ofInt_natCast]; rfl
      | negSucc n => rw [Int.negSucc_eq, ← Int.natCast_succ, ofInt_neg n.succ_pos]; rfl
  | null => rfl
  | bool b => rfl
  | array items => rfl
  | object members => rfl

end Json

/-! ### Keys -/

namespace Extractor

variable {name : String} {record : Bytes} {members : Members}

theorem key_of_objectText (object : ObjectText record members) :
    (Extractor.field name).key record =
      match members.find? name with
      | some value => value.toKey name
      | none =>
        .error (.keyNotFound name (String.ofList (Text.trimEnd (Utf8.decodeLossy record)))) := by
  have read := parseObject_eq_ok_iff.mpr object
  cases found : members.find? name with
  | none => simp [key, fieldKey, read, found]
  | some value => simp [key, fieldKey, read, found]

theorem key_of_decides {value : Json} {result : Except Error String}
    (object : ObjectText record members) (decides : Decides name members value)
    (makes : MakesKey name value result) : (Extractor.field name).key record = result := by
  have found := Members.find?_eq_some_iff.mpr decides
  rw [key_of_objectText object]
  simp only [found, toKey_eq makes]

theorem key_of_notObject (other : ∀ members, ¬ObjectText record members) :
    ∃ cause, (Extractor.field name).key record = .error (.parse cause) := by
  unfold key fieldKey
  cases read : parseObject record with
  | error cause => exact ⟨cause, rfl⟩
  | ok members => exact absurd (parseObject_eq_ok_iff.mp read) (other members)

/-- The key that is a member of a record. What is no object text cannot be read. Of an object text,
the last of the outermost members with that name decides, and there is no key without one; texts
stand for themselves, integers for their decimal numerals, so that different integers make different
keys, and other values are of no use. Objects whose members of that name are the same have the same
key, whatever else is in them. -/
theorem key_field (name : String) (record : Bytes) :
    ((∀ members, ¬ObjectText record members) →
      ∃ cause, (Extractor.field name).key record = .error (.parse cause)) ∧
    ∀ members, ObjectText record members →
      ((∀ member ∈ members, member.1 ≠ name) → (Extractor.field name).key record =
        .error (.keyNotFound name (String.ofList (Text.trimEnd (Utf8.decodeLossy record))))) ∧
      (∀ value result, Decides name members value → MakesKey name value result →
        (Extractor.field name).key record = result) ∧
      (∀ i j other others, ObjectText other others →
        Decides name members (.number (.ofInt i)) → Decides name others (.number (.ofInt j)) →
        -2 ^ 63 ≤ i → i < 2 ^ 64 → -2 ^ 63 ≤ j → j < 2 ^ 64 → i ≠ j →
        (Extractor.field name).key record ≠ (Extractor.field name).key other) ∧
      (∀ other others, ObjectText other others →
        (others.filter fun member => member.1 == name) =
          (members.filter fun member => member.1 == name) →
        ∀ found, (Extractor.field name).key record = .ok found →
          (Extractor.field name).key other = .ok found) := by
  constructor
  · exact key_of_notObject
  · intro members object
    refine ⟨?_, ?_, ?_, ?_⟩
    · intro absent
      have none := Members.find?_eq_none_iff.mpr absent
      rw [key_of_objectText object]
      simp only [none]
    · intro value result decides makes
      exact key_of_decides object decides makes
    · intro i j other others object' decides decides' low high low' high' different same
      rw [key_of_decides object decides (.integer low high),
        key_of_decides object' decides' (.integer low' high'), Except.ok.injEq] at same
      exact different (Int.repr_injective same)
    · intro other others object' same found key
      rw [key_of_objectText object', Members.find?_congr same, ← key]
      rw [key_of_objectText object] at key ⊢
      cases decides : members.find? name with
      | none => simp [decides] at key
      | some value => rfl

/-- The name stands here plainly, escaped, inside another object and in a dotted name; the last one
holds the least integer. -/
theorem key_field_last :
    ∃ record members, record = Bytes.ofText
      "\x7b\"id\":1, \"\\u0069d\":\x7b\"id\":2\x7d,\"a.id\":[],\"id\":-9223372036854775808\x7d\n" ∧
      ObjectText record members ∧ Decides "id" members (.number (.ofInt (-2 ^ 63))) ∧
      MakesKey "id" (.number (.ofInt (-2 ^ 63))) (.ok "-9223372036854775808") ∧
      (Extractor.field "id").key record = .ok "-9223372036854775808" := by
  have object : ObjectText (Bytes.ofText
      "\x7b\"id\":1, \"\\u0069d\":\x7b\"id\":2\x7d,\"a.id\":[],\"id\":-9223372036854775808\x7d\n")
      [("id", .number (.natural 1)), ("id", .object [("id", .number (.natural 2))]),
        ("a.id", .array []), ("id", .number (.negative (2 ^ 63)))] :=
    parseObject_eq_ok_iff.mp (by cbv)
  have decides : Decides "id" _ (.number (.ofInt (-2 ^ 63))) :=
    ⟨[("id", .number (.natural 1)), ("id", .object [("id", .number (.natural 2))]),
      ("a.id", .array [])], [], rfl, List.forall_mem_nil _⟩
  have makes : MakesKey "id" (.number (.ofInt (-2 ^ 63))) (.ok "-9223372036854775808") :=
    .integer (by decide) (by decide)
  exact ⟨_, _, rfl, object, decides, makes, ((key_field "id" _).2 _ object).2.1 _ _ decides makes⟩

end Extractor

end RecordStore
