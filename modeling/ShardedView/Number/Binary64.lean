/-!
Binary floating-point numbers of 64 bits, as their bits.

Arithmetic is exact on natural numbers and rounds once, to the nearest number
and to the even one of two equally near.
-/

namespace ShardedView

/-- A floating-point number: a sign bit, eleven bits of exponent and fifty-two
bits of fraction. -/
structure Binary64 where
  bits : UInt64
  deriving DecidableEq, Repr

namespace Binary64

def unit : Nat := 0x10000000000000

def signWeight : Nat := 0x8000000000000000

/-- The bits of positive infinity, above those of every finite magnitude. -/
def infinityBits : Nat := 2047 * unit

def magnitudeBits (number : Binary64) : Nat :=
  number.bits.toNat % signWeight

def isNegative (number : Binary64) : Bool :=
  signWeight ≤ number.bits.toNat

def isFinite (number : Binary64) : Bool :=
  number.magnitudeBits < infinityBits

def isZero (number : Binary64) : Bool :=
  number.magnitudeBits == 0

def ofMagnitude (negative : Bool) (magnitude : Nat) : Binary64 :=
  ⟨UInt64.ofNat (if negative then signWeight + magnitude else magnitude)⟩

def neg (number : Binary64) : Binary64 :=
  ofMagnitude (!number.isNegative) number.magnitudeBits

/-- A finite magnitude is `significand * 2 ^ exponent`. -/
structure Magnitude where
  significand : Nat
  exponent : Int

def magnitude (number : Binary64) : Magnitude :=
  let field := number.magnitudeBits / unit
  let fraction := number.magnitudeBits % unit
  if field = 0 then ⟨fraction, -1074⟩ else ⟨unit + fraction, (field : Int) - 1075⟩

def Magnitude.numerator (value : Magnitude) : Nat :=
  value.significand <<< value.exponent.toNat

/-- The denominator of a finite magnitude as a fraction, a power of two. -/
def Magnitude.denominator (value : Magnitude) : Nat :=
  1 <<< (-value.exponent).toNat

/-- The nearest integer to a quotient, and the even one of two equally near. -/
def roundDiv (numerator denominator : Nat) : Nat :=
  let quotient := numerator / denominator
  let twice := 2 * (numerator % denominator)
  if twice < denominator then quotient
  else if denominator < twice then quotient + 1
  else quotient + quotient % 2

def leadingExponent (numerator denominator : Nat) : Int :=
  let guess := (numerator.log2 : Int) - denominator.log2
  if denominator <<< guess.toNat ≤ numerator <<< (-guess).toNat then guess
  else guess - 1

/-- The number nearest to a quotient, infinite where all finite ones are too
small. -/
def ofRatio (negative : Bool) (numerator denominator : Nat) : Binary64 :=
  if numerator = 0 then ofMagnitude negative 0
  else
    let exponent := max (leadingExponent numerator denominator - 52) (-1074)
    let significand :=
      roundDiv (numerator <<< (-exponent).toNat) (denominator <<< exponent.toNat)
    let bits := (exponent + 1074).toNat * unit + significand
    ofMagnitude negative (min bits infinityBits)

def ofInt (value : Int) : Binary64 :=
  ofRatio (value < 0) value.natAbs 1

def mul (left right : Binary64) : Binary64 :=
  let x := left.magnitude
  let y := right.magnitude
  ofRatio (left.isNegative != right.isNegative)
    (x.numerator * y.numerator) (x.denominator * y.denominator)

/-- The rounded quotient of finite numbers, the divisor not zero. -/
def div (left right : Binary64) : Binary64 :=
  let x := left.magnitude
  let y := right.magnitude
  ofRatio (left.isNegative != right.isNegative)
    (x.numerator * y.denominator) (x.denominator * y.numerator)

def powerOfTen (exponent : Nat) : Binary64 :=
  ofRatio false (Nat.pow 10 exponent) 1

end Binary64

structure Finite64 where
  number : Binary64
  isFinite : number.isFinite = true
  deriving DecidableEq, Repr

def Binary64.toFinite? (number : Binary64) : Option Finite64 :=
  if h : number.isFinite = true then some ⟨number, h⟩ else none

end ShardedView
