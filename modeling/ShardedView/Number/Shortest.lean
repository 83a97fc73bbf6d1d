import ShardedView.Number.Binary64
import ShardedView.Text.Digits

/-!
The shortest decimal text of a floating-point number: the fewest digits that
read back to it, and among those the nearest to it.
-/

namespace ShardedView

/-- A decimal `digits * 10 ^ exponent`. -/
structure Decimal where
  digits : Nat
  exponent : Int
  deriving DecidableEq, Repr

namespace Decimal

def numerator (decimal : Decimal) : Nat :=
  decimal.digits * Nat.pow 10 decimal.exponent.toNat

def denominator (decimal : Decimal) : Nat :=
  Nat.pow 10 (-decimal.exponent).toNat

end Decimal

namespace Shortest

/-- The reals that round to a finite number, in quarters of its last place: from
`lower` to `upper`, with the ends if the significand is even. -/
structure Interval where
  lower : Nat
  centre : Nat
  upper : Nat
  closed : Bool
  /-- A quarter of the last place is `2 ^ exponent`. -/
  exponent : Int

/-- The neighbour below a power of two is only half a place away. -/
def Interval.ofMagnitude (value : Binary64.Magnitude) : Interval where
  lower :=
    if value.significand = Binary64.unit ∧ -1074 < value.exponent then
      4 * value.significand - 1
    else 4 * value.significand - 2
  centre := 4 * value.significand
  upper := 4 * value.significand + 2
  closed := value.significand % 2 = 0
  exponent := value.exponent - 2

def Interval.contains (interval : Interval) (decimal : Decimal) : Bool :=
  let scale := decimal.denominator <<< interval.exponent.toNat
  let value := decimal.numerator <<< (-interval.exponent).toNat
  let low := interval.lower * scale
  let high := interval.upper * scale
  if interval.closed then low ≤ value && value ≤ high
  else low < value && value < high

/-- The distance of a decimal from the number, in a unit that depends only on
the decimal's exponent. -/
def Interval.distance (interval : Interval) (decimal : Decimal) : Nat :=
  let centre := interval.centre * (decimal.denominator <<< interval.exponent.toNat)
  let value := decimal.numerator <<< (-interval.exponent).toNat
  (centre - value) + (value - centre)

/-- The greatest multiple of `10 ^ exponent` that the number does not fall
short of. -/
def Interval.floor (interval : Interval) (exponent : Int) : Decimal :=
  let numerator := (interval.centre <<< interval.exponent.toNat) * Nat.pow 10 (-exponent).toNat
  let denominator := (1 <<< (-interval.exponent).toNat) * Nat.pow 10 exponent.toNat
  ⟨numerator / denominator, exponent⟩

/-- The better of the two multiples of `10 ^ exponent` around the number, if one
reads back. A tie goes to even digits. -/
def Interval.nearest? (interval : Interval) (exponent : Int) : Option Decimal :=
  let below := interval.floor exponent
  let above : Decimal := ⟨below.digits + 1, exponent⟩
  match interval.contains below, interval.contains above with
  | false, false => none
  | true, false => some below
  | false, true => some above
  | true, true =>
    let down := interval.distance below
    let up := interval.distance above
    if down < up ∨ (down = up ∧ below.digits % 2 = 0) then some below else some above

/-- Tries ever finer grids, `steps` of them below `10 ^ exponent`. -/
def search (interval : Interval) (exponent : Int) : (steps : Nat) → Decimal
  | 0 => interval.floor exponent
  | steps + 1 =>
    match interval.nearest? exponent with
    | some decimal => decimal
    | none => search interval (exponent - 1) steps

def stripZeros : (fuel : Nat) → Decimal → Decimal
  | 0, decimal => decimal
  | fuel + 1, decimal =>
    if decimal.digits ≠ 0 ∧ decimal.digits % 10 = 0 then
      stripZeros fuel ⟨decimal.digits / 10, decimal.exponent + 1⟩
    else decimal

/-- The exponent of the leading decimal digit of a positive number, or one
more. -/
def leadingDigit (value : Binary64.Magnitude) : Int :=
  let whole := value.numerator / value.denominator
  if whole = 0 then
    -((Digits.count (value.denominator / value.numerator) : Int) - 1)
  else (Digits.count whole : Int) - 1

/-- The fewest digits that read back to a finite magnitude. -/
def ofMagnitude (value : Binary64.Magnitude) : Decimal :=
  if value.significand = 0 then ⟨0, 0⟩
  else stripZeros 20 (search (.ofMagnitude value) (leadingDigit value) 20)

end Shortest

structure FloatFormat where
  /-- The least exponent of the leading digit that is written positionally. -/
  leastPositional : Int
  /-- The greatest exponent of the leading digit that is written positionally. -/
  greatestPositional : Int

/-- Positional from `0.00001` up to sixteen digits before the point, always with
a digit after it. -/
def FloatFormat.record : FloatFormat := ⟨-5, 15⟩

namespace FloatFormat

/-- A sign, then `d.ddd` with the exponent behind `e`. -/
def scientific (digits : List Char) (leading : Int) : List Char :=
  let mantissa :=
    match digits with
    | first :: second :: rest => first :: '.' :: second :: rest
    | digits => digits
  let sign := if leading < 0 then '-' else '+'
  mantissa ++ 'e' :: sign :: Digits.ofNat leading.natAbs

/-- The digits around a point, at least one on either side. -/
def positional (digits : List Char) (exponent : Int) : List Char :=
  if 0 ≤ exponent then
    digits ++ List.replicate exponent.toNat '0' ++ ['.', '0']
  else
    let places := exponent.natAbs
    let whole := digits.length - places
    if whole = 0 then
      '0' :: '.' :: List.replicate (places - digits.length) '0' ++ digits
    else digits.take whole ++ '.' :: digits.drop whole

def write (format : FloatFormat) (number : Finite64) : List Char :=
  let decimal := Shortest.ofMagnitude number.number.magnitude
  let digits := Digits.ofNat decimal.digits
  let leading := decimal.exponent + digits.length - 1
  let body :=
    if format.leastPositional ≤ leading ∧ leading ≤ format.greatestPositional then
      positional digits decimal.exponent
    else scientific digits leading
  if number.number.isNegative then '-' :: body else body

end FloatFormat

end ShardedView
