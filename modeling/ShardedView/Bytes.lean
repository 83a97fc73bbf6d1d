/-!
Byte strings: fixed-width numbers in either byte order, and hexadecimal text.
-/

namespace ShardedView

abbrev Bytes := List UInt8

namespace Bytes

/-- The `width` low bytes of a number, least significant first. -/
def ofNatLittle : (width : Nat) → Nat → Bytes
  | 0, _ => []
  | width + 1, number => UInt8.ofNat number :: ofNatLittle width (number / 256)

def toNatLittle : Bytes → Nat
  | [] => 0
  | byte :: rest => byte.toNat + 256 * toNatLittle rest

/-- The `width` low bytes of a number, most significant first. -/
def ofNatBig (width : Nat) (number : Nat) : Bytes :=
  (ofNatLittle width number).reverse

def toNatBig (bytes : Bytes) : Nat :=
  toNatLittle bytes.reverse

@[simp]
theorem length_ofNatLittle (width number : Nat) :
    (ofNatLittle width number).length = width := by
  induction width generalizing number with
  | zero => rfl
  | succ width ih => simp [ofNatLittle, ih]

@[simp]
theorem length_ofNatBig (width number : Nat) :
    (ofNatBig width number).length = width := by
  simp [ofNatBig]

@[simp]
theorem toNatLittle_ofNatLittle (width number : Nat) :
    toNatLittle (ofNatLittle width number) = number % Nat.pow 256 width := by
  induction width generalizing number with
  | zero => simp [ofNatLittle, toNatLittle, Nat.mod_one]
  | succ width ih =>
    have split := Nat.mod_mul (x := number) (a := 256) (b := Nat.pow 256 width)
    have power : Nat.pow 256 (width + 1) = 256 * Nat.pow 256 width := Nat.mul_comm _ _
    simp only [ofNatLittle, toNatLittle, ih, UInt8.toNat_ofNat', power, split]

@[simp]
theorem toNatBig_ofNatBig (width number : Nat) :
    toNatBig (ofNatBig width number) = number % Nat.pow 256 width := by
  simp [toNatBig, ofNatBig]

def hexDigit (upper : Bool) (digit : Nat) : Char :=
  if digit < 10 then Char.ofNat (48 + digit)
  else Char.ofNat ((if upper then 55 else 87) + digit)

def hexValue? (char : Char) : Option Nat :=
  let code := char.toNat
  if 48 ≤ code ∧ code ≤ 57 then some (code - 48)
  else if 97 ≤ code ∧ code ≤ 102 then some (code - 87)
  else if 65 ≤ code ∧ code ≤ 70 then some (code - 55)
  else none

def toHex (bytes : Bytes) : String :=
  String.ofList (bytes.flatMap fun byte =>
    [hexDigit false (byte.toNat / 16), hexDigit false (byte.toNat % 16)])

def ofHexDigits? : List Char → Option Bytes
  | [] => some []
  | [_] => none
  | high :: low :: rest => do
    let high ← hexValue? high
    let low ← hexValue? low
    let bytes ← ofHexDigits? rest
    return UInt8.ofNat (16 * high + low) :: bytes

/-- Reads hexadecimal text; none if a digit is missing or foreign. -/
def ofHex? (text : String) : Option Bytes :=
  ofHexDigits? text.toList

end Bytes

end ShardedView
