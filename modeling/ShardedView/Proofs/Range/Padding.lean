import ShardedView.Proofs.Text.ByteOrder
import ShardedView.Proofs.Text.Digits
import ShardedView.Range.Padding

/-!
Padded integers: their order as bytes is that of the integers, each is read back, and what is
read besides them is known, a plus in place of a leading zero.
-/

namespace ShardedView

namespace RangeType

theorem size_le (type : RangeType) : type.size ≤ Nat.pow 10 type.width := by
  cases type <;> decide

theorem size_eq (type : RangeType) : type.size = 2 * type.offset := by
  cases type <;> rfl

theorem size_pos (type : RangeType) : 0 < type.size := by
  cases type <;> decide

theorem size_le_size64 (type : RangeType) : type.size ≤ UInt64.size := by
  cases type <;> decide

theorem one_lt_width (type : RangeType) : 1 < type.width := by
  cases type <;> decide

theorem fits_iff {type : RangeType} {value : Int64} :
    type.fits value = true ↔ -(type.offset : Int) ≤ value.toInt ∧ value.toInt < type.offset := by
  rw [fits, Bool.and_eq_true, decide_eq_true_iff, decide_eq_true_iff]

def rank (type : RangeType) (value : Int64) : Nat :=
  (value.toInt + type.offset).toNat

theorem rank_lt_rank_iff {type : RangeType} {left right : Int64} (leftFits : type.fits left = true)
    (rightFits : type.fits right = true) : type.rank left < type.rank right ↔ left < right := by
  rw [fits_iff] at leftFits rightFits
  rw [rank, rank, Int64.lt_iff_toInt_lt]
  omega

theorem rank_lt_size {type : RangeType} {value : Int64} (fits : type.fits value = true) :
    type.rank value < type.size := by
  rw [fits_iff] at fits
  rw [rank, size_eq]
  omega

theorem rank_lt {type : RangeType} {value : Int64} (fits : type.fits value = true) :
    type.rank value < Nat.pow 10 type.width :=
  Nat.lt_of_lt_of_le (rank_lt_size fits) type.size_le

theorem rank_ofInt {type : RangeType} {number : Nat} (within : number < type.size) :
    type.fits (.ofInt (number - type.offset)) = true ∧
      type.rank (.ofInt (number - type.offset)) = number := by
  have even := type.size_eq
  have limit := type.size_le_size64
  have size : UInt64.size = 18446744073709551616 := rfl
  have value : (Int64.ofInt (number - type.offset)).toInt = number - type.offset :=
    Int64.toInt_ofInt_of_le (by omega) (by omega)
  rw [fits_iff, rank, value]
  omega

theorem ofInt_rank {type : RangeType} {value : Int64} (fits : type.fits value = true) :
    Int64.ofInt (type.rank value - type.offset) = value := by
  rw [fits_iff] at fits
  have distance : ((type.rank value : Nat) : Int) - type.offset = value.toInt := by
    rw [rank]
    omega
  rw [distance, Int64.ofInt_toInt]

theorem pad_eq_ok_iff {type : RangeType} {value : Int64} {padded : String} :
    type.pad value = .ok padded ↔
      type.fits value = true ∧
        padded = String.ofList (Digits.fixed type.width (type.rank value)) := by
  unfold pad
  split
  · next fits =>
    rw [Except.ok.injEq, ← rank,
      Digits.padded_eq_fixed (by cases type <;> decide) (rank_lt fits)]
    exact ⟨fun equal => ⟨fits, equal.symm⟩, fun padded => padded.2.symm⟩
  · next unfit => exact ⟨nofun, fun padded => absurd padded.1 unfit⟩

theorem exists_pad {type : RangeType} {value : Int64} (fits : type.fits value = true) :
    ∃ padded, type.pad value = .ok padded :=
  ⟨_, pad_eq_ok_iff.2 ⟨fits, rfl⟩⟩

theorem lt_iff_of_pad {type : RangeType} {left right : Int64} {leftPadded rightPadded : String}
    (leftDone : type.pad left = .ok leftPadded) (rightDone : type.pad right = .ok rightPadded) :
    leftPadded < rightPadded ↔ left < right := by
  obtain ⟨leftFits, rfl⟩ := pad_eq_ok_iff.1 leftDone
  obtain ⟨rightFits, rfl⟩ := pad_eq_ok_iff.1 rightDone
  rw [String.lt_iff, String.toList_ofList, String.toList_ofList,
    Digits.fixed_lt_fixed_iff (rank_lt leftFits) (rank_lt rightFits),
    rank_lt_rank_iff leftFits rightFits]

theorem eq_of_pad {type : RangeType} {left right : Int64} {padded : String}
    (leftDone : type.pad left = .ok padded) (rightDone : type.pad right = .ok padded) :
    left = right := by
  apply Int64.le_antisymm
  · exact Int64.not_lt.1 fun less => Std.lt_irrefl ((lt_iff_of_pad rightDone leftDone).2 less)
  · exact Int64.not_lt.1 fun less => Std.lt_irrefl ((lt_iff_of_pad leftDone rightDone).2 less)

theorem padText_eq_ok_iff {type : RangeType} {text padded : String} :
    type.padText text = .ok padded ↔
      ∃ value, Integer.read64 (Text.trim text) = .ok value ∧ type.pad value = .ok padded := by
  unfold padText
  split
  · next value read =>
    constructor
    · exact fun done => ⟨value, read, done⟩
    · rintro ⟨other, same, done⟩
      rw [read] at same
      exact Except.ok.inj same ▸ done
  · next fault unread =>
    refine ⟨nofun, ?_⟩
    rintro ⟨value, read, -⟩
    rw [unread] at read
    contradiction

/-! ### Reading padded integers -/

section Reading

variable {type : RangeType} {value : Int64} {text : String} {digits : List Char}

theorem digits_of_pad (done : type.pad value = .ok text) :
    text.toList.length = type.width ∧ (∀ char ∈ text.toList, Digits.isDigit char = true) ∧
      Digits.valueFrom 0 text.toList = type.rank value := by
  obtain ⟨fits, rfl⟩ := pad_eq_ok_iff.1 done
  rw [String.toList_ofList]
  exact ⟨Digits.length_fixed .., fun char => Digits.isDigit_of_mem_fixed,
    Digits.valueFrom_fixed (rank_lt fits)⟩

/-- Digits at the width of the type are a padded integer, unless they spell too great a
number. -/
theorem pad_of_digits (all : ∀ char ∈ digits, Digits.isDigit char = true)
    (length : digits.length = type.width) (within : Digits.valueFrom 0 digits < type.size) :
    type.pad (.ofInt (Digits.valueFrom 0 digits - type.offset)) = .ok (String.ofList digits) := by
  obtain ⟨fits, rank⟩ := rank_ofInt within
  rw [pad_eq_ok_iff, rank, ← length, Digits.fixed_valueFrom all]
  exact ⟨fits, rfl⟩

theorem unpad_eq_ok_iff_read :
    type.unpad text = .ok value ↔ (Utf8.encode text).length = type.width ∧
      ∃ number, Integer.readUnsigned type.size text.toList = .ok number ∧
        Int64.ofInt (number - type.offset) = value := by
  unfold unpad
  split
  · next other => exact ⟨nofun, fun same => absurd same.1 other⟩
  · next same =>
    rw [and_iff_right (Decidable.of_not_not same)]
    split
    · next number read =>
      rw [read]
      constructor
      · exact fun done => ⟨number, rfl, Except.ok.inj done⟩
      · rintro ⟨other, same, rfl⟩
        rw [Except.ok.inj same]
    · next fault unread =>
      rw [unread]
      exact ⟨nofun, fun ⟨_, same, _⟩ => nomatch same⟩

/-- What is read are the digits of a number below the size of the type, at its width; a plus in
front takes the place of one of them. -/
theorem unpad_eq_ok_iff_digits :
    type.unpad text = .ok value ↔
      ∃ digits, (text.toList = digits ∧ digits.length = type.width ∨
          text.toList = '+' :: digits ∧ digits.length + 1 = type.width) ∧
        (∀ char ∈ digits, Digits.isDigit char = true) ∧
        Digits.valueFrom 0 digits < type.size ∧
        Int64.ofInt (Digits.valueFrom 0 digits - type.offset) = value := by
  have plain {digits : List Char} (all : ∀ char ∈ digits, Digits.isDigit char = true)
      (same : text.toList = digits) : (Utf8.encode text).length = digits.length := by
    rw [Utf8.encode, same, Utf8.length_flatMap_encodeChar_of_digits all]
  have marked {digits : List Char} (all : ∀ char ∈ digits, Digits.isDigit char = true)
      (same : text.toList = '+' :: digits) : (Utf8.encode text).length = digits.length + 1 := by
    have mark : Utf8.encodeChar '+' = [0x2B] := rfl
    rw [Utf8.encode, same, List.flatMap_cons, mark, List.singleton_append, List.length_cons,
      Utf8.length_flatMap_encodeChar_of_digits all]
  have wide := type.one_lt_width
  have inhabited := type.size_pos
  rw [unpad_eq_ok_iff_read]
  constructor
  · rintro ⟨length, number, read, rfl⟩
    obtain ⟨digits, same | same, -, all, rfl, within⟩ := Integer.readUnsigned_eq_ok_iff.1 read
    · exact ⟨digits, .inl ⟨same, plain all same ▸ length⟩, all, by omega, rfl⟩
    · exact ⟨digits, .inr ⟨same, marked all same ▸ length⟩, all, by omega, rfl⟩
  · rintro ⟨digits, ⟨same, length⟩ | ⟨same, length⟩, all, within, rfl⟩
    · have filled : digits ≠ [] := List.ne_nil_of_length_pos (by omega)
      refine ⟨(plain all same).trans length, _, ?_, rfl⟩
      exact Integer.readUnsigned_eq_ok_iff.2 ⟨digits, .inl same, filled, all, rfl, by omega⟩
    · have filled : digits ≠ [] := List.ne_nil_of_length_pos (by omega)
      refine ⟨(marked all same).trans length, _, ?_, rfl⟩
      exact Integer.readUnsigned_eq_ok_iff.2 ⟨digits, .inr same, filled, all, rfl, by omega⟩

/-- The integer of a padded text is read from it, and also from the text in which a plus stands
in place of a leading zero. No other text is read. -/
theorem unpad_eq_ok_iff :
    type.unpad text = .ok value ↔ type.pad value = .ok text ∨
      ∃ rest, text = "+" ++ rest ∧ type.pad value = .ok ("0" ++ rest) := by
  have zero (digits : List Char) :
      Digits.valueFrom 0 ('0' :: digits) = Digits.valueFrom 0 digits := rfl
  rw [unpad_eq_ok_iff_digits]
  constructor
  · rintro ⟨digits, ⟨same, length⟩ | ⟨same, length⟩, all, within, rfl⟩
    · left
      rw [pad_of_digits all length within, ← same, String.ofList_toList]
    · refine .inr ⟨String.ofList digits, ?_, ?_⟩
      · rw [← String.toList_inj, same]
        simp
      · have front : ∀ char ∈ '0' :: digits, Digits.isDigit char = true :=
          List.forall_mem_cons.2 ⟨rfl, all⟩
        rw [← zero, pad_of_digits front length within, Except.ok.injEq, ← String.toList_inj]
        simp
  · rintro (done | ⟨rest, rfl, done⟩)
    · obtain ⟨fits, -⟩ := pad_eq_ok_iff.1 done
      obtain ⟨length, all, spelt⟩ := digits_of_pad done
      refine ⟨text.toList, .inl ⟨rfl, length⟩, all, ?_, ?_⟩
      · exact spelt ▸ rank_lt_size fits
      · rw [spelt, ofInt_rank fits]
    · obtain ⟨fits, -⟩ := pad_eq_ok_iff.1 done
      obtain ⟨length, all, spelt⟩ := digits_of_pad done
      have zeroed : ("0" ++ rest).toList = '0' :: rest.toList := by simp
      rw [zeroed] at length all spelt
      refine ⟨rest.toList, .inr ⟨by simp, length⟩, (List.forall_mem_cons.1 all).2, ?_, ?_⟩
      · exact zero rest.toList ▸ spelt ▸ rank_lt_size fits
      · rw [← zero, spelt, ofInt_rank fits]

end Reading

/-- Padding is faithful: the bytes of padded integers are in the order of the integers, there is
one digit for each place of the type, and the integer is read back. What is read besides padded
integers begins with a plus in place of a zero. -/
theorem paddings_read_back {type : RangeType} {left right : Int64}
    (leftFits : type.fits left = true) (rightFits : type.fits right = true) :
    ∃ leftPadded rightPadded, type.pad left = .ok leftPadded ∧ type.pad right = .ok rightPadded ∧
      (left < right ↔ Utf8.encode leftPadded < Utf8.encode rightPadded) ∧
      leftPadded.toList.length = type.width ∧
      (∀ char ∈ leftPadded.toList, Digits.isDigit char = true) ∧
      type.unpad leftPadded = .ok left ∧
      ∀ text value, type.unpad text = .ok value ↔ type.pad value = .ok text ∨
        ∃ rest, text = "+" ++ rest ∧ type.pad value = .ok ("0" ++ rest) := by
  obtain ⟨leftPadded, leftDone⟩ := exists_pad leftFits
  obtain ⟨rightPadded, rightDone⟩ := exists_pad rightFits
  obtain ⟨length, digits, -⟩ := digits_of_pad leftDone
  refine ⟨leftPadded, rightPadded, leftDone, rightDone, ?_, length, digits,
    unpad_eq_ok_iff.2 (.inl leftDone), fun text value => unpad_eq_ok_iff⟩
  rw [Utf8.encode_lt_encode_iff, lt_iff_of_pad leftDone rightDone]

/-- Where the sign changes, the greatest negative integer stays right in front of zero. -/
theorem paddings_read_back_around_zero :
    int.fits (-1) = true ∧ int.fits 0 = true ∧
      int.pad (-1) = .ok "2147483647" ∧ int.pad 0 = .ok "2147483648" ∧
      Utf8.encode "2147483647" < Utf8.encode "2147483648" ∧ int.unpad "2147483647" = .ok (-1) := by
  have below : int.pad (-1) = .ok "2147483647" := by
    rw [pad_eq_ok_iff]
    decide
  have above : int.pad 0 = .ok "2147483648" := by
    rw [pad_eq_ok_iff]
    decide
  have leftFits : int.fits (-1) = true := by decide
  have rightFits : int.fits 0 = true := by decide
  obtain ⟨left, right, leftDone, rightDone, order, -, -, read, -⟩ :=
    paddings_read_back leftFits rightFits
  obtain rfl := Except.ok.inj (below.symm.trans leftDone)
  obtain rfl := Except.ok.inj (above.symm.trans rightDone)
  exact ⟨leftFits, rightFits, below, above, order.1 (by decide), read⟩

/-- A plus in place of a leading zero goes unnoticed, although no padded integer has one. -/
theorem unpad_of_plus :
    int.unpad "+123456789" = .ok (-2024026859) ∧ int.pad (-2024026859) = .ok "0123456789" ∧
      int.pad (-2024026859) ≠ .ok "+123456789" := by
  have padded : int.pad (-2024026859) = .ok "0123456789" := by
    rw [pad_eq_ok_iff]
    decide
  refine ⟨unpad_eq_ok_iff.2 (.inr ⟨"123456789", rfl, padded⟩), padded, fun same => ?_⟩
  exact absurd (Except.ok.inj (padded.symm.trans same)) (by decide)

end RangeType

end ShardedView
