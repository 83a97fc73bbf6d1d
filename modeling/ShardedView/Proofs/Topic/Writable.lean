import Mathlib
import ShardedView.Proofs.Topic.Value

/-!
What is read of a topic can be written to it again: of strings and numbers in the very bytes that
they were read from, of records as objects only. Reading takes any document for a record, and
writing refuses those that are none.
-/

namespace ShardedView

namespace Bytes

variable {bytes : Bytes}

/-! ### Bytes of a fixed number are those of the integer that they are decoded to -/

theorem ofNatBig_int32 (length : bytes.length = 4) :
    ofNatBig 4 (Int32.ofNat bytes.toNatBig).toUInt32.toNat = bytes :=
  @KeyType.encode_of_decode .integer bytes _ (if_pos length)

theorem ofNatBig_int64 (length : bytes.length = 8) :
    ofNatBig 8 (Int64.ofNat bytes.toNatBig).toUInt64.toNat = bytes :=
  @KeyType.encode_of_decode .long bytes _ (if_pos length)

theorem ofNatBig_uint64 (length : bytes.length = 8) :
    ofNatBig 8 (UInt64.ofNat bytes.toNatBig).toNat = bytes := by
  have bound := toNatBig_lt bytes
  rw [length] at bound
  rw [UInt64.toNat_ofNat_of_lt' bound, ← length, ofNatBig_toNatBig]

end Bytes

theorem Binary64.number_of_toFinite? {number : Binary64} {finite : Finite64}
    (read : number.toFinite? = some finite) : finite.number = number := by
  unfold toFinite? at read
  split at read
  · exact Option.some.inj read ▸ rfl
  · contradiction

namespace DataType

/-- A value is read as one of the type, from bytes or from a text. -/
inductive Reads (type : DataType) (value : Json) : Prop
  | bytes {bytes : Bytes} (decoded : type.decode bytes = .ok value)
  | text {text : String} (read : type.ofText text = .ok value)

section Reading

variable {type : DataType} {value : Json} {bytes : Bytes}

/-- Strings and numbers are decoded from what they are written as, and from nothing else. -/
theorem decode_eq_ok_iff_isWrittenAs (single : type ≠ .schema) :
    type.decode bytes = .ok value ↔ IsWrittenAs type value bytes ∧ type.IsLossless value := by
  constructor
  · intro decoded
    cases type with
    | string =>
      rw [decode] at decoded
      split at decoded
      · next text read =>
        rw [← Except.ok.inj decoded, ← Utf8.encode_of_decode read]
        exact ⟨.string text, trivial⟩
      · contradiction
    | integer =>
      rw [decode] at decoded
      split at decoded
      · next length =>
        obtain rfl := Except.ok.inj decoded
        have written := IsWrittenAs.integer (Int32.ofNat bytes.toNatBig)
        rw [Bytes.ofNatBig_int32 length] at written
        exact ⟨written, trivial⟩
      · contradiction
    | long =>
      rw [decode] at decoded
      split at decoded
      · next length =>
        obtain rfl := Except.ok.inj decoded
        have written := IsWrittenAs.long (Int64.ofNat bytes.toNatBig)
        rw [Bytes.ofNatBig_int64 length] at written
        exact ⟨written, trivial⟩
      · contradiction
    | double =>
      rw [decode] at decoded
      split at decoded
      · next length =>
        split at decoded
        · next number finite =>
          obtain rfl := Except.ok.inj decoded
          have written := IsWrittenAs.double number
          rw [Binary64.number_of_toFinite? finite, Bytes.ofNatBig_uint64 length] at written
          exact ⟨written, number, rfl⟩
        · contradiction
      · contradiction
    | schema => exact absurd rfl single
  · rintro ⟨written, lossless⟩
    cases written with
    | string text => rw [decode, Utf8.decode_encode]
    | integer number => rw [decode, if_pos (Bytes.length_ofNatBig ..), Bytes.int32_toNatBig]
    | long number => rw [decode, if_pos (Bytes.length_ofNatBig ..), Bytes.int64_toNatBig]
    | whole number =>
      obtain ⟨number, ⟨⟩⟩ := lossless
    | double number =>
      have finite : (Binary64.mk number.number.bits).toFinite? = some number :=
        dif_pos number.isFinite
      rw [decode, if_pos (Bytes.length_ofNatBig ..), Bytes.uint64_toNatBig, finite]
    | schema members => exact absurd rfl single

theorem exists_decode_of_ofText {text : String} (read : type.ofText text = .ok value) :
    ∃ bytes, type.decode bytes = .ok value := by
  cases type with
  | string =>
    obtain rfl := Except.ok.inj read
    exact ⟨_, (decode_eq_ok_iff_isWrittenAs (by decide)).2 ⟨.string text, trivial⟩⟩
  | integer =>
    rw [ofText] at read
    split at read
    · next number _ =>
      obtain rfl := Except.ok.inj read
      exact ⟨_, (decode_eq_ok_iff_isWrittenAs (by decide)).2 ⟨.integer number, trivial⟩⟩
    · contradiction
  | long =>
    rw [ofText] at read
    split at read
    · next number _ =>
      obtain rfl := Except.ok.inj read
      exact ⟨_, (decode_eq_ok_iff_isWrittenAs (by decide)).2 ⟨.long number, trivial⟩⟩
    · contradiction
  | double =>
    rw [ofText] at read
    split at read
    · contradiction
    · split at read
      · next number _ =>
        obtain rfl := Except.ok.inj read
        exact ⟨_, (decode_eq_ok_iff_isWrittenAs (by decide)).2 ⟨.double number, number, rfl⟩⟩
      · contradiction
  | schema =>
    refine ⟨Utf8.encode text, ?_⟩
    rw [ofText, Json.ofText?_eq_ofBytes?] at read
    exact read

theorem Reads.exists_decode (reads : type.Reads value) :
    ∃ bytes, type.decode bytes = .ok value := by
  cases reads with
  | bytes decoded => exact ⟨_, decoded⟩
  | text read => exact exists_decode_of_ofText read

theorem encode_of_not_isObject (other : value.isObject = false) :
    schema.encode value = .error (.codec (.mismatch value schema)) := by
  simp only [encode, other, Bool.false_eq_true, if_false]

/-- What is read as a value of the type is written, and read back from what it is written as; a
record only if it is an object. What is read as a record and is none is refused. -/
theorem read_values_are_writable (reads : type.Reads value)
    (floatless : type = .schema → value.IsFloatless) :
    ((type = .schema → value.isObject = true) →
      ∃ bytes, type.encode value = .ok bytes ∧ type.decode bytes = .ok value) ∧
    (type = .schema → value.isObject = false →
      type.encode value = .error (.codec (.mismatch value type))) := by
  obtain ⟨bytes, decoded⟩ := reads.exists_decode
  by_cases record : type = .schema
  · subst record
    refine ⟨fun object => ?_, fun _ other => encode_of_not_isObject other⟩
    have plain : value.IsPlain Json.greatestDepth :=
      (nests_of_decode decoded).isPlain (floatless rfl)
    obtain ⟨members, rfl⟩ : ∃ members, value = .obj members := by
      cases value <;> first | exact ⟨_, rfl⟩ | cases object rfl
    exact ⟨_, encode_eq_ok_iff.2 (.schema members),
      decode_print plain (isCanonical_of_decode decoded)⟩
  · obtain ⟨written, -⟩ := (decode_eq_ok_iff_isWrittenAs record).1 decoded
    exact ⟨fun _ => ⟨bytes, encode_eq_ok_iff.2 written, decoded⟩, fun same => absurd same record⟩

/-- A record with blanks between its tokens. -/
theorem read_values_are_writable_spaced :
    let text := " \x7b \"a\" : [ -1 , null ] \x7d "
    let record : Json := .obj [("a", .arr [.int (-1), .null])]
    schema.ofText text = .ok record ∧
      ∃ bytes, schema.encode record = .ok bytes ∧ schema.decode bytes = .ok record := by
  intro text record
  have read : schema.ofText text = .ok record := by cbv
  have items : ∀ item ∈ [Json.int (-1), .null], item.IsFloatless :=
    List.forall_mem_cons.2 ⟨.int (-1), List.forall_mem_singleton.2 .null⟩
  have floatless : record.IsFloatless := .obj (List.forall_mem_singleton.2 (.arr items))
  exact ⟨read, (read_values_are_writable (.text read) fun _ => floatless).1 fun _ => rfl⟩

/-- A list is read as a record, and refused where it is written. -/
theorem list_is_not_writable :
    let list : Json := .arr [.int 1, .int 2]
    schema.decode (Utf8.encode "[1,2]") = .ok list ∧ schema.ofText "[1,2]" = .ok list ∧
      list.IsFloatless ∧ schema.encode list = .error (.codec (.mismatch list .schema)) := by
  intro list
  have floatless : list.IsFloatless :=
    .arr (List.forall_mem_cons.2 ⟨.int 1, List.forall_mem_singleton.2 (.int 2)⟩)
  exact ⟨by cbv, by cbv, floatless, rfl⟩

end Reading

end DataType

end ShardedView
