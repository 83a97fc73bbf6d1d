import ShardedView.Proofs.Bytes
import ShardedView.Proofs.Text.Digits
import ShardedView.Proofs.Text.Utf8
import ShardedView.Topic.Key

/-!
Keys as bytes and as text are faithful: each key is read back from what it is
written as, and bytes that can be read are those of the key they stand for.
-/

namespace ShardedView

namespace Text

theorem isBlank_of_isDigit {char : Char} (digit : Digits.isDigit char = true) :
    isBlank char = false := by
  simp only [Digits.isDigit, Bool.and_eq_true, decide_eq_true_eq] at digit
  simp only [isBlank, Bool.or_eq_false_iff, Bool.and_eq_false_iff, decide_eq_false_iff_not,
    beq_eq_false_iff_ne]
  omega

theorem trimChars_of_forall_not_isBlank {chars : List Char}
    (solid : ∀ char ∈ chars, isBlank char = false) : trimChars chars = chars := by
  have kept : ∀ {chars : List Char}, (∀ char ∈ chars, isBlank char = false) →
      chars.dropWhile isBlank = chars := by
    intro chars solid
    cases chars with
    | nil => rfl
    | cons char rest => rw [List.dropWhile_cons, solid char (.head _)]; rfl
  rw [trimChars, kept solid, kept fun char member => solid char (List.mem_reverse.1 member),
    List.reverse_reverse]

theorem trim_ofInt (number : Int) :
    trim (String.ofList (Digits.ofInt number)) = String.ofList (Digits.ofInt number) := by
  rw [trim, String.toList_ofList, trimChars_of_forall_not_isBlank]
  intro char member
  rcases Digits.mem_ofInt member with rfl | digit
  · rfl
  · exact isBlank_of_isDigit digit

end Text

namespace KeyType

theorem decode_string (text : String) : string.decode (Utf8.encode text) = .ok text := by
  rw [decode, Utf8.decode_encode]
  rfl

theorem decode_integer (number : Int32) :
    integer.decode (Bytes.ofNatBig 4 number.toUInt32.toNat) = .ok number := by
  rw [decode, if_pos (Bytes.length_ofNatBig ..), Bytes.int32_toNatBig]

theorem decode_long (number : Int64) :
    long.decode (Bytes.ofNatBig 8 number.toUInt64.toNat) = .ok number := by
  rw [decode, if_pos (Bytes.length_ofNatBig ..), Bytes.int64_toNatBig]

theorem decode_encode (type : KeyType) (key : type.Key) :
    type.decode (type.encode key) = .ok key := by
  cases type with
  | string => exact decode_string key
  | integer => exact decode_integer key
  | long => exact decode_long key

theorem encode_of_decode {type : KeyType} {bytes : Bytes} {key : type.Key}
    (decoded : type.decode bytes = .ok key) : type.encode key = bytes := by
  cases type with
  | string =>
    rw [decode] at decoded
    cases read : Utf8.decode bytes with
    | error fault => rw [read] at decoded; contradiction
    | ok text =>
      rw [read] at decoded
      obtain rfl := Except.ok.inj decoded
      exact Utf8.encode_of_decode read
  | integer =>
    rw [decode] at decoded
    split at decoded
    · next length =>
      obtain rfl := Except.ok.inj decoded
      have bound := Bytes.toNatBig_lt bytes
      rw [length] at bound
      show Bytes.ofNatBig 4 (Int32.ofNat bytes.toNatBig).toUInt32.toNat = bytes
      rw [Int32.toUInt32_ofNat', UInt32.toNat_ofNat_of_lt' bound, ← length,
        Bytes.ofNatBig_toNatBig]
    · contradiction
  | long =>
    rw [decode] at decoded
    split at decoded
    · next length =>
      obtain rfl := Except.ok.inj decoded
      have bound := Bytes.toNatBig_lt bytes
      rw [length] at bound
      show Bytes.ofNatBig 8 (Int64.ofNat bytes.toNatBig).toUInt64.toNat = bytes
      rw [Int64.toUInt64_ofNat', UInt64.toNat_ofNat_of_lt' bound, ← length,
        Bytes.ofNatBig_toNatBig]
    · contradiction

theorem encode_injective {type : KeyType} {left right : type.Key}
    (equal : type.encode left = type.encode right) : left = right := by
  have decoded := type.decode_encode left
  rw [equal, decode_encode] at decoded
  exact (Except.ok.inj decoded).symm

theorem ofText_integer (number : Int32) :
    integer.ofText (String.ofList (Digits.ofInt number.toInt)) = .ok number := by
  rw [ofText, Text.trim_ofInt, Integer.read32_ofInt]
  rfl

theorem ofText_long (number : Int64) :
    long.ofText (String.ofList (Digits.ofInt number.toInt)) = .ok number := by
  rw [ofText, Text.trim_ofInt, Integer.read64_ofInt]
  rfl

theorem ofText_toText (type : KeyType) (key : type.Key) :
    type.ofText (type.toText key) = .ok key := by
  cases type with
  | string => rfl
  | integer => exact ofText_integer key
  | long => exact ofText_long key

theorem toText_injective {type : KeyType} {left right : type.Key}
    (equal : type.toText left = type.toText right) : left = right := by
  have read := type.ofText_toText left
  rw [equal, ofText_toText] at read
  exact (Except.ok.inj read).symm

end KeyType

end ShardedView
