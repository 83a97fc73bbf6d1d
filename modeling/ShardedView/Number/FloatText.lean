import ShardedView.Number.Binary64
import ShardedView.Text.Digits

/-!
Reading floating-point numbers from decimal text, correctly rounded.

A text is an optional sign, then digits with an optional point and exponent, or
a name of infinity or of the NaN in any case.
-/

namespace ShardedView

inductive FloatFault
  | empty
  | invalid
  deriving DecidableEq, Repr

def FloatFault.message : FloatFault → String
  | .empty => "cannot parse float from empty string"
  | .invalid => "invalid float literal"

namespace FloatText

structure Parts where
  whole : List Char
  fraction : List Char
  exponent : Int

/-- An optional sign: whether it is a minus, and what follows. -/
def splitSign : List Char → Bool × List Char
  | '-' :: rest => (true, rest)
  | '+' :: rest => (false, rest)
  | chars => (false, chars)

/-- An exponent up to the end of the text; none at the end means zero. -/
def readExponent? : List Char → Option Int
  | [] => some 0
  | mark :: rest =>
    let (negative, digits) := splitSign rest
    if (mark == 'e' || mark == 'E') && !digits.isEmpty && digits.all Digits.isDigit then
      let value := Digits.valueFrom 0 digits
      some (if negative then -value else value)
    else none

/-- Digits with an optional point, at least one in all, and an exponent. -/
def readParts? (chars : List Char) : Option Parts :=
  let whole := chars.takeWhile Digits.isDigit
  let rest := chars.dropWhile Digits.isDigit
  let (fraction, rest) :=
    match rest with
    | '.' :: rest => (rest.takeWhile Digits.isDigit, rest.dropWhile Digits.isDigit)
    | rest => ([], rest)
  if whole.isEmpty && fraction.isEmpty then none
  else (readExponent? rest).map fun exponent => ⟨whole, fraction, exponent⟩

/-- The number nearest to `digits * 10 ^ exponent`. Beyond four hundred places on
either side it is infinite or zero, whatever the digits. -/
def ofDecimal (negative : Bool) (digits : Nat) (exponent : Int) : Binary64 :=
  let leading := exponent + Digits.count digits
  if digits = 0 ∨ leading < -400 then .ofMagnitude negative 0
  else if 400 < leading then .ofMagnitude negative Binary64.infinityBits
  else .ofRatio negative (digits * Nat.pow 10 exponent.toNat)
    (Nat.pow 10 (-exponent).toNat)

def Parts.toBinary64 (negative : Bool) (parts : Parts) : Binary64 :=
  ofDecimal negative (Digits.valueFrom 0 (parts.whole ++ parts.fraction))
    (parts.exponent - parts.fraction.length)

def readName? (negative : Bool) (chars : List Char) : Option Binary64 :=
  let name := chars.map Char.toLower
  if name = "inf".toList ∨ name = "infinity".toList then
    some (.ofMagnitude negative Binary64.infinityBits)
  else if name = "nan".toList then
    some (.ofMagnitude negative (Binary64.infinityBits + Binary64.unit / 2))
  else none

/-- Reads a floating-point number; the result may be infinite or the NaN. -/
def read (text : String) : Except FloatFault Binary64 :=
  match text.toList with
  | [] => .error .empty
  | chars =>
    let (negative, rest) := splitSign chars
    match readParts? rest with
    | some parts => .ok (parts.toBinary64 negative)
    | none =>
      match readName? negative rest with
      | some number => .ok number
      | none => .error .invalid

end FloatText

end ShardedView
