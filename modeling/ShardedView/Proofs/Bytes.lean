import ShardedView.Bytes

/-!
Bytes against the numbers that they spell: each byte string is what its number is written as,
and numbers of a fixed width are read back.
-/

namespace ShardedView

namespace Bytes

theorem toNatLittle_lt (bytes : Bytes) : bytes.toNatLittle < Nat.pow 256 bytes.length := by
  induction bytes with
  | nil => exact Nat.one_pos
  | cons byte rest ih =>
    have bound := byte.toNat_lt
    have power : Nat.pow 256 (byte :: rest).length = Nat.pow 256 rest.length * 256 := rfl
    rw [toNatLittle]
    omega

theorem ofNatLittle_toNatLittle (bytes : Bytes) :
    ofNatLittle bytes.length bytes.toNatLittle = bytes := by
  induction bytes with
  | nil => rfl
  | cons byte rest ih =>
    have bound := byte.toNat_lt
    have quotient : (byte.toNat + 256 * toNatLittle rest) / 256 = toNatLittle rest := by omega
    have remainder : UInt8.ofNat (byte.toNat + 256 * toNatLittle rest) = byte := by
      apply UInt8.toNat_inj.1
      rw [UInt8.toNat_ofNat']
      omega
    rw [List.length_cons, toNatLittle, ofNatLittle, quotient, remainder, ih]

theorem ofNatBig_toNatBig (bytes : Bytes) : ofNatBig bytes.length bytes.toNatBig = bytes := by
  have reversed := ofNatLittle_toNatLittle bytes.reverse
  rw [List.length_reverse] at reversed
  rw [ofNatBig, toNatBig, reversed, List.reverse_reverse]

theorem toNatBig_lt (bytes : Bytes) : bytes.toNatBig < Nat.pow 256 bytes.length := by
  simpa [toNatBig] using toNatLittle_lt bytes.reverse

/-! ### Numbers that fit into their bytes -/

theorem int32_toNatBig (number : Int32) :
    Int32.ofNat (toNatBig (ofNatBig 4 number.toUInt32.toNat)) = number := by
  rw [toNatBig_ofNatBig, Nat.mod_eq_of_lt number.toUInt32.toNat_lt]
  exact Int32.toBitVec_inj.1 (by simp)

theorem int64_toNatBig (number : Int64) :
    Int64.ofNat (toNatBig (ofNatBig 8 number.toUInt64.toNat)) = number := by
  rw [toNatBig_ofNatBig, Nat.mod_eq_of_lt number.toUInt64.toNat_lt]
  exact Int64.toBitVec_inj.1 (by simp)

theorem uint64_toNatBig (number : UInt64) :
    UInt64.ofNat (toNatBig (ofNatBig 8 number.toNat)) = number := by
  rw [toNatBig_ofNatBig, Nat.mod_eq_of_lt number.toNat_lt, UInt64.ofNat_toNat]

end Bytes

end ShardedView
