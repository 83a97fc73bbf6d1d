import ShardedView.Proofs.Json.Nesting
import ShardedView.Proofs.Json.Printer
import ShardedView.Proofs.Topic.Key
import ShardedView.Topic.Value

/-!
Values as bytes and as text: which values a type takes and what they are written as, that they
are read back from it, and what else bytes are decoded to.
-/

namespace ShardedView

namespace Json

theorem eq_of_int64? {value : Json} {number : Int64} (read : value.int64? = some number) :
    value = .int number.toInt := by
  unfold int64? at read
  split at read
  · next integer =>
    split at read
    · next within =>
      rw [← Option.some.inj read, Int64.toInt_ofInt_of_le within.1 (by
        have greatest : Int64.maxValue.toInt = 2 ^ 63 - 1 := rfl
        omega)]
    · contradiction
  · contradiction

theorem int64?_toInt (number : Int64) : (int number.toInt).int64? = some number := by
  rw [int64?, if_pos ⟨number.minValue_le_toInt, number.toInt_le⟩, Int64.ofInt_toInt]

end Json

namespace DataType

/-- The bytes that values are written as: which values a type takes, and how. -/
inductive IsWrittenAs : DataType → Json → Bytes → Prop
  | string (text : String) : IsWrittenAs .string (.str text) (Utf8.encode text)
  | integer (number : Int32) :
    IsWrittenAs .integer (.int number.toInt) (Bytes.ofNatBig 4 number.toUInt32.toNat)
  | long (number : Int64) :
    IsWrittenAs .long (.int number.toInt) (Bytes.ofNatBig 8 number.toUInt64.toNat)
  /-- An integer is written as the floating-point number that is nearest to it. -/
  | whole (number : Int) :
    IsWrittenAs .double (.int number) (Bytes.ofNatBig 8 (Binary64.ofInt number).bits.toNat)
  | double (number : Finite64) :
    IsWrittenAs .double (.float number) (Bytes.ofNatBig 8 number.number.bits.toNat)
  | schema (members : List (String × Json)) :
    IsWrittenAs .schema (.obj members) (Utf8.encode (Json.obj members).print)

section Stored

variable {type : DataType} {value : Json} {bytes : Bytes}

theorem toText_int (number : Int) :
    toText (.int number) = String.ofList (Digits.ofInt number) := rfl

theorem toText_obj (members : List (String × Json)) :
    toText (.obj members) = (Json.obj members).print := rfl

/-- Values are written in these ways and no others; any other value is refused. -/
theorem encode_eq_ok_iff : type.encode value = .ok bytes ↔ IsWrittenAs type value bytes := by
  constructor
  · intro encoded
    unfold encode at encoded
    dsimp only at encoded
    split at encoded
    · next written same =>
      obtain rfl := Except.ok.inj encoded
      cases type with
      | string =>
        obtain ⟨text, given, rfl⟩ := Option.map_eq_some_iff.1 same
        cases value <;> cases given
        exact .string text
      | integer =>
        obtain ⟨wide, given, narrow⟩ := Option.bind_eq_some_iff.1 same
        split at narrow
        · next within =>
          obtain ⟨number, equal⟩ : ∃ number : Int32, number.toInt = wide.toInt := by
            have greatest : Int32.maxValue.toInt = 2 ^ 31 - 1 := rfl
            exact ⟨.ofInt wide.toInt, Int32.toInt_ofInt_of_le within.1 (by omega)⟩
          rw [Json.eq_of_int64? given, ← Option.some.inj narrow, ← equal, Int32.ofInt_toInt]
          exact .integer number
        · contradiction
      | long =>
        obtain ⟨number, given, rfl⟩ := Option.map_eq_some_iff.1 same
        rw [Json.eq_of_int64? given]
        exact .long number
      | double =>
        obtain ⟨number, given, rfl⟩ := Option.map_eq_some_iff.1 same
        cases value <;> cases given
        · exact .whole _
        · exact .double _
      | schema =>
        dsimp only at same
        split at same
        · next object =>
          obtain rfl := Option.some.inj same
          cases value <;> cases object
          exact .schema _
        · contradiction
    · contradiction
  · intro written
    cases written with
    | string text => rfl
    | integer number =>
      have wide : (Json.int number.toInt).int64? = some number.toInt64 := by
        rw [← Int32.toInt_toInt64]
        exact Json.int64?_toInt number.toInt64
      have within : Int32.minValue.toInt ≤ number.toInt ∧
          number.toInt ≤ Int32.maxValue.toInt := ⟨number.minValue_le_toInt, number.toInt_le⟩
      simp only [encode, wide, bind, Option.bind, Int32.toInt_toInt64, Int32.ofInt_toInt,
        if_pos within]
    | long number => simp only [encode, Json.int64?_toInt, Option.map_some]
    | whole number => rfl
    | double number => rfl
    | schema members => rfl

/-- The values that reading restores: of floating-point numbers those that are not given as
integers, and records without floating-point numbers that nest no deeper than documents may. -/
def IsLossless : DataType → Json → Prop
  | .double, value => ∃ number, value = .float number
  | .schema, value => value.IsCanonical ∧ value.IsPlain Json.greatestDepth
  | _, _ => True

/-- What is written for a value is read as this value, and so is its text, except that of a
floating-point number. -/
theorem stored_values_read_back (encoded : type.encode value = .ok bytes)
    (lossless : type.IsLossless value) :
    type.decode bytes = .ok value ∧
      (type ≠ .double → type.ofText (toText value) = .ok value) := by
  cases encode_eq_ok_iff.1 encoded with
  | string text =>
    rw [decode, Utf8.decode_encode]
    exact ⟨rfl, fun _ => rfl⟩
  | integer number =>
    constructor
    · rw [decode, if_pos (Bytes.length_ofNatBig ..), Bytes.int32_toNatBig]
    · intro _
      have read : Integer.read32 (Text.trim (toText (.int number.toInt))) = .ok number := by
        rw [toText_int, Text.trim_ofInt, Integer.read32_ofInt]
      rw [ofText, read]
  | long number =>
    constructor
    · rw [decode, if_pos (Bytes.length_ofNatBig ..), Bytes.int64_toNatBig]
    · intro _
      have read : Integer.read64 (Text.trim (toText (.int number.toInt))) = .ok number := by
        rw [toText_int, Text.trim_ofInt, Integer.read64_ofInt]
      rw [ofText, read]
  | whole number =>
    obtain ⟨number, ⟨⟩⟩ := lossless
  | double number =>
    have finite : (Binary64.mk number.number.bits).toFinite? = some number :=
      dif_pos number.isFinite
    rw [decode, if_pos (Bytes.length_ofNatBig ..), Bytes.uint64_toNatBig, finite]
    exact ⟨rfl, fun other => absurd rfl other⟩
  | schema members =>
    obtain ⟨canonical, plain⟩ := lossless
    have read := Json.ofBytes?_print_of_isPlain plain canonical
    constructor
    · rw [decode, read]
    · intro _
      rw [ofText, toText_obj, Json.ofText?_eq_ofBytes?, read]

/-- A record with lists, objects and characters that are escaped. -/
theorem stored_values_read_back_record :
    let record : Json :=
      .obj [("a", .arr [.int (-1), .str "\"\n", .null]), ("b", .obj [("c", .bool true)])]
    schema.IsLossless record ∧ ∃ bytes, schema.encode record = .ok bytes ∧
      schema.decode bytes = .ok record ∧ schema.ofText (toText record) = .ok record := by
  intro record
  have items : ∀ item ∈ [Json.int (-1), .str "\"\n", .null], item.IsCanonical ∧ item.IsPlain 0 :=
    List.forall_mem_cons.2 ⟨⟨.int (by decide) (by decide), .int _⟩,
      List.forall_mem_cons.2 ⟨⟨.str _, .str _⟩, List.forall_mem_singleton.2 ⟨.null, .null⟩⟩⟩
  have inner : ∀ member ∈ [("c", Json.bool true)], member.2.IsCanonical ∧ member.2.IsPlain 0 :=
    List.forall_mem_singleton.2 ⟨.bool true, .bool true⟩
  have members : ∀ member ∈ [("a", Json.arr [.int (-1), .str "\"\n", .null]),
      ("b", .obj [("c", .bool true)])], member.2.IsCanonical ∧ member.2.IsPlain 1 :=
    List.forall_mem_cons.2 ⟨⟨.arr fun item listed => (items item listed).1,
        .arr fun item listed => (items item listed).2⟩,
      List.forall_mem_singleton.2 ⟨.obj (List.pairwise_singleton ..) fun member listed =>
          (inner member listed).1,
        .obj fun member listed => (inner member listed).2⟩⟩
  have plain : record.IsPlain 2 := .obj fun member listed => (members member listed).2
  have lossless : schema.IsLossless record :=
    ⟨.obj (List.pairwise_pair.2 (by decide)) fun member listed => (members member listed).1,
      plain.mono (by decide)⟩
  have encoded : schema.encode record = .ok (Utf8.encode record.print) := rfl
  obtain ⟨decoded, read⟩ := stored_values_read_back encoded lossless
  exact ⟨lossless, _, encoded, decoded, read nofun⟩

end Stored

/-! ### What bytes are decoded to -/

theorem decode_print {value : Json} (plain : value.IsPlain Json.greatestDepth)
    (canonical : value.IsCanonical) :
    schema.decode (Utf8.encode value.print) = .ok value := by
  rw [decode, Json.ofBytes?_print_of_isPlain plain canonical]

theorem isCanonical_of_decode {type : DataType} {bytes : Bytes} {value : Json}
    (decoded : type.decode bytes = .ok value) : value.IsCanonical := by
  cases type with
  | string =>
    rw [decode] at decoded
    split at decoded
    · exact Except.ok.inj decoded ▸ .str _
    · contradiction
  | integer =>
    rw [decode] at decoded
    split at decoded
    · have least := (Int32.ofNat bytes.toNatBig).le_toInt
      have greatest := (Int32.ofNat bytes.toNatBig).toInt_lt
      have lower : Json.leastInteger = -0x8000000000000000 := rfl
      have upper : Json.greatestInteger = 0xFFFFFFFFFFFFFFFF := rfl
      exact Except.ok.inj decoded ▸ .int (by omega) (by omega)
    · contradiction
  | long =>
    rw [decode] at decoded
    split at decoded
    · have least := (Int64.ofNat bytes.toNatBig).le_toInt
      have greatest := (Int64.ofNat bytes.toNatBig).toInt_lt
      have lower : Json.leastInteger = -0x8000000000000000 := rfl
      have upper : Json.greatestInteger = 0xFFFFFFFFFFFFFFFF := rfl
      exact Except.ok.inj decoded ▸ .int (by omega) (by omega)
    · contradiction
  | double =>
    rw [decode] at decoded
    split at decoded
    · split at decoded
      · exact Except.ok.inj decoded ▸ .float _
      · contradiction
    · contradiction
  | schema =>
    rw [decode] at decoded
    split at decoded
    · next json read =>
      obtain ⟨document, -, done⟩ := Option.bind_eq_some_iff.1 read
      exact Except.ok.inj decoded ▸ Json.isCanonical_of_json? done
    · contradiction

theorem nests_of_decode {type : DataType} {bytes : Bytes} {value : Json}
    (decoded : type.decode bytes = .ok value) : value.Nests Json.greatestDepth := by
  cases type with
  | string =>
    rw [decode] at decoded
    split at decoded
    · exact Except.ok.inj decoded ▸ .str _
    · contradiction
  | integer | long =>
    rw [decode] at decoded
    split at decoded
    · exact Except.ok.inj decoded ▸ .int _
    · contradiction
  | double =>
    rw [decode] at decoded
    split at decoded
    · split at decoded
      · exact Except.ok.inj decoded ▸ .float _
      · contradiction
    · contradiction
  | schema =>
    rw [decode] at decoded
    split at decoded
    · next json read =>
      obtain ⟨document, -, done⟩ := Option.bind_eq_some_iff.1 read
      exact Except.ok.inj decoded ▸ Json.nests_of_json? done
    · contradiction

theorem kind_of_decode {type : DataType} {bytes : Bytes} {failure : Failure}
    (failed : type.decode bytes = .error failure) : failure.kind = .codec := by
  cases type with
  | string =>
    rw [decode] at failed
    split at failed
    · contradiction
    · exact Except.error.inj failed ▸ rfl
  | integer =>
    rw [decode] at failed
    split at failed
    · contradiction
    · exact Except.error.inj failed ▸ rfl
  | long =>
    rw [decode] at failed
    split at failed
    · contradiction
    · exact Except.error.inj failed ▸ rfl
  | double =>
    rw [decode] at failed
    split at failed
    · split at failed
      · contradiction
      · exact Except.error.inj failed ▸ rfl
    · exact Except.error.inj failed ▸ rfl
  | schema =>
    rw [decode] at failed
    split at failed
    · contradiction
    · exact Except.error.inj failed ▸ rfl

theorem exists_of_mapM_decode {type : DataType} {values : List Bytes} {items : List Json}
    (decoded : values.mapM type.decode = .ok items) :
    ∀ item ∈ items, ∃ value ∈ values, type.decode value = .ok item := by
  induction values generalizing items with
  | nil =>
    obtain rfl := Except.ok.inj decoded
    nofun
  | cons value rest ih =>
    rw [List.mapM_cons] at decoded
    cases first : type.decode value with
    | error failure => rw [first] at decoded; contradiction
    | ok own =>
      cases others : rest.mapM type.decode with
      | error failure => rw [first, others] at decoded; contradiction
      | ok later =>
        rw [first, others] at decoded
        obtain rfl := Except.ok.inj decoded
        intro item member
        rcases List.mem_cons.1 member with rfl | member
        · exact ⟨value, .head _, first⟩
        · obtain ⟨value, among, done⟩ := ih others item member
          exact ⟨value, .tail _ among, done⟩

theorem kind_of_mapM_decode {type : DataType} {values : List Bytes} {failure : Failure}
    (failed : values.mapM type.decode = .error failure) : failure.kind = .codec := by
  induction values with
  | nil => contradiction
  | cons value rest ih =>
    rw [List.mapM_cons] at failed
    cases first : type.decode value with
    | error other =>
      rw [first] at failed
      obtain rfl : other = failure := Except.error.inj failed
      exact kind_of_decode first
    | ok own =>
      cases others : rest.mapM type.decode with
      | error other =>
        rw [first, others] at failed
        obtain rfl : other = failure := Except.error.inj failed
        exact ih others
      | ok later =>
        rw [first, others] at failed
        contradiction

end DataType

end ShardedView
