/-!
Decimal digits of natural numbers.
-/

namespace ShardedView.Digits

def toChar (digit : Nat) : Char :=
  Char.ofNat (48 + digit)

def ofChar? (char : Char) : Option Nat :=
  if 48 ≤ char.toNat ∧ char.toNat ≤ 57 then some (char.toNat - 48) else none

def isDigit (char : Char) : Bool :=
  48 ≤ char.toNat && char.toNat ≤ 57

/-- The `width` last digits, zeros included, before the digits in `tail`. -/
def fixedOnto : (width : Nat) → Nat → (tail : List Char) → List Char
  | 0, _, tail => tail
  | width + 1, number, tail =>
    fixedOnto width (number / 10) (toChar (number % 10) :: tail)

/-- Exactly `width` digits: the last ones, with zeros in front. -/
def fixed (width number : Nat) : List Char :=
  fixedOnto width number []

/-- How many digits a number has; zero has one. -/
def count (number : Nat) : Nat :=
  if number < 10 then 1 else count (number / 10) + 1
  termination_by number
  decreasing_by omega

def ofNat (number : Nat) : List Char :=
  fixed (count number) number

/-- At least `width` digits, with zeros in front where the number is shorter. -/
def padded (width number : Nat) : List Char :=
  fixed (max width (count number)) number

def ofInt : Int → List Char
  | .ofNat number => ofNat number
  | .negSucc number => '-' :: ofNat (number + 1)

/-- The number that a run of digits spells after `start`; other characters
count as the digits they would be. -/
def valueFrom (start : Nat) (chars : List Char) : Nat :=
  chars.foldl (fun value char => value * 10 + (char.toNat - 48)) start

end ShardedView.Digits
