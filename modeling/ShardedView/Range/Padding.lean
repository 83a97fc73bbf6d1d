import ShardedView.Failure
import ShardedView.Text.Blank

/-!
Integers as digits of a fixed width whose order as text is their numeric order:
the least integer of the type is written as zero.
-/

namespace ShardedView

inductive RangeType
  | int
  | long
  deriving DecidableEq, Repr

namespace RangeType

def name : RangeType → String
  | int => "int"
  | long => "long"

def ofName? (name : String) : Option RangeType :=
  [int, long].find? (·.name = name)

def width : RangeType → Nat
  | int => 10
  | long => 20

def size : RangeType → Nat
  | int => UInt32.size
  | long => UInt64.size

def offset (type : RangeType) : Nat :=
  type.size / 2

def fits (type : RangeType) (value : Int64) : Bool :=
  -(type.offset : Int) ≤ value.toInt && value.toInt < type.offset

/-- The digits of an integer, counted from the least one. -/
def pad (type : RangeType) (value : Int64) : Except Failure String :=
  if type.fits value then
    .ok (String.ofList (Digits.padded type.width (value.toInt + type.offset).toNat))
  else .error (.rangeIndex (.notInt value))

def padText (type : RangeType) (text : String) : Except Failure String :=
  match Integer.read64 (Text.trim text) with
  | .ok value => type.pad value
  | .error _ => .error (.badArgument (.rangeBound text))

def unpad (type : RangeType) (text : String) : Except Failure Int64 :=
  if (Utf8.encode text).length ≠ type.width then .error (.rangeIndex (.notPadded text))
  else
    match Integer.readUnsigned type.size text.toList with
    | .ok number => .ok (Int64.ofInt ((number : Int) - type.offset))
    | .error _ => .error (.rangeIndex (.notPadded text))

end RangeType

end ShardedView
