import ShardedView.Text.Digits

/-!
Reading integers of a bounded range: an optional sign, then ASCII digits.

The digits are taken from the left, so the first character that is no digit is
reported only if no earlier digit leaves the range.
-/

namespace ShardedView

inductive IntegerFault
  | empty
  | invalidDigit
  | tooLarge
  | tooSmall
  deriving DecidableEq, Repr

def IntegerFault.message : IntegerFault → String
  | .empty => "cannot parse integer from empty string"
  | .invalidDigit => "invalid digit found in string"
  | .tooLarge => "number too large to fit in target type"
  | .tooSmall => "number too small to fit in target type"

namespace Integer

/-- Reads digits after `value`, refusing with `overflow` any value above `bound`. -/
def readDigits (bound : Nat) (overflow : IntegerFault) :
    (value : Nat) → List Char → Except IntegerFault Nat
  | value, [] => .ok value
  | value, char :: rest =>
    match Digits.ofChar? char with
    | none => .error .invalidDigit
    | some digit =>
      let next := value * 10 + digit
      if next ≤ bound then readDigits bound overflow next rest
      else .error overflow

def readMagnitude (bound : Nat) (overflow : IntegerFault) :
    List Char → Except IntegerFault Nat
  | [] => .error .invalidDigit
  | chars => readDigits bound overflow 0 chars

/-- Reads an integer from `-below` to `above`. A minus sign counts as a sign
only where negative numbers exist. -/
def read (below above : Nat) : List Char → Except IntegerFault Int
  | [] => .error .empty
  | '+' :: rest => (readMagnitude above .tooLarge rest).map Int.ofNat
  | '-' :: rest =>
    if below = 0 then .error .invalidDigit
    else (readMagnitude below .tooSmall rest).map fun value => -(value : Int)
  | chars => (readMagnitude above .tooLarge chars).map Int.ofNat

def read32 (text : String) : Except IntegerFault Int32 :=
  (read 0x80000000 0x7FFFFFFF text.toList).map Int32.ofInt

def read64 (text : String) : Except IntegerFault Int64 :=
  (read 0x8000000000000000 0x7FFFFFFFFFFFFFFF text.toList).map Int64.ofInt

def readUnsigned (size : Nat) (text : List Char) : Except IntegerFault Nat :=
  (read 0 (size - 1) text).map Int.toNat

end Integer

end ShardedView
