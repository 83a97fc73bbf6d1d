import ShardedView.Json.Token
import ShardedView.Json.Value

/-!
What a written number denotes.

The digits are taken into a significand of 64 bits as long as they fit; the
others count only by their places. An integer whose digits all fit stays an
integer if it is within range. Anything else is the significand scaled by a
power of ten, rounded at each of these two steps.
-/

namespace ShardedView.Json.Numeral

/-- Takes digits into a significand while it fits into 64 bits: the result and the
digits that are left. -/
def takeDigits (significand : Nat) : List Char → Nat × List Char
  | [] => (significand, [])
  | char :: rest =>
    let next := significand * 10 + (char.toNat - 48)
    if next < UInt64.size then takeDigits next rest else (significand, char :: rest)

/-- The greatest power of ten that is finite. -/
def greatestPower : Nat := 308

/-- Scales a number by a power of ten; none if the result is infinite. -/
def scale? (number : Binary64) (exponent : Int) : Option Binary64 :=
  if 0 ≤ exponent then
    if exponent ≤ greatestPower then
      let scaled := number.mul (.powerOfTen exponent.toNat)
      if scaled.isFinite then some scaled else none
    else if number.isZero then some number
    else none
  else if -greatestPower ≤ exponent then
    some (number.div (.powerOfTen exponent.natAbs))
  else if number.isZero then some number
  else scale? (number.div (.powerOfTen greatestPower)) (exponent + greatestPower)
  termination_by (-exponent).toNat
  decreasing_by
    simp only [greatestPower] at *
    omega

/-- The greatest exponent that is added up; larger ones count as infinite. -/
def greatestExponent : Nat := 0x7FFFFFFF

/-- The magnitude of a significand at a place, with a written exponent. -/
def magnitude? (significand : Nat) (place : Int) :
    Option (Bool × List Char) → Option Binary64
  | none => scale? (.ofInt significand) place
  | some (negative, digits) =>
    let exponent := Digits.valueFrom 0 digits
    if greatestExponent < exponent then
      if significand ≠ 0 && !negative then none else some (.ofInt 0)
    else
      scale? (.ofInt significand)
        (if negative then place - exponent else place + exponent)

def signed? (negative : Bool) (magnitude : Binary64) : Option Json :=
  (if negative then magnitude.neg else magnitude).toFinite?.map .float

/-- An integer whose digits all fit. Negative zero and what is below the range
are floating-point numbers. -/
def integer? (negative : Bool) (significand : Nat) : Option Json :=
  if negative then
    if significand = 0 ∨ 0x8000000000000000 < significand then signed? true (.ofInt significand)
    else some (.int (-significand))
  else some (.int significand)

/-- What the number denotes; none if it is too large. -/
def json? (numeral : Numeral) : Option Json :=
  let (significand, left) := takeDigits 0 numeral.whole
  match numeral.fraction, numeral.exponent, left with
  | none, none, [] => integer? numeral.negative significand
  | none, exponent, left => do
    signed? numeral.negative (← magnitude? significand left.length exponent)
  | some digits, exponent, left => do
    let (significand, unused) := takeDigits significand digits
    let place := (left.length : Int) + unused.length - digits.length
    signed? numeral.negative (← magnitude? significand place exponent)

end ShardedView.Json.Numeral
