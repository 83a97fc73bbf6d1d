import ShardedView.Failure
import ShardedView.Json.Reader
import ShardedView.Text.Blank

/-!
Values as bytes and as text: strings in UTF-8, numbers most significant byte
first, and records as JSON on one line.
-/

namespace ShardedView.DataType

def encode (type : DataType) (value : Json) : Except Failure Bytes :=
  let bytes? : Option Bytes :=
    match type with
    | string => value.text?.map Utf8.encode
    | integer => do
      let number := (← value.int64?).toInt
      if Int32.minValue.toInt ≤ number ∧ number ≤ Int32.maxValue.toInt then
        some (Bytes.ofNatBig 4 (Int32.ofInt number).toUInt32.toNat)
      else none
    | long => value.int64?.map fun number => Bytes.ofNatBig 8 number.toUInt64.toNat
    | double => value.binary64?.map fun number => Bytes.ofNatBig 8 number.bits.toNat
    | schema => if value.isObject then some (Utf8.encode value.print) else none
  match bytes? with
  | some bytes => .ok bytes
  | none => .error (.codec (.mismatch value type))

def decode (type : DataType) (bytes : Bytes) : Except Failure Json :=
  match type with
  | string =>
    match Utf8.decode bytes with
    | .ok text => .ok (.str text)
    | .error fault => .error (.codec (.notUtf8 fault))
  | integer =>
    if bytes.length = 4 then .ok (.int (Int32.ofNat bytes.toNatBig).toInt)
    else .error (.codec (.valueLength .integer 4))
  | long =>
    if bytes.length = 8 then .ok (.int (Int64.ofNat bytes.toNatBig).toInt)
    else .error (.codec (.valueLength .long 8))
  | double =>
    if bytes.length = 8 then
      match (Binary64.mk (UInt64.ofNat bytes.toNatBig)).toFinite? with
      | some number => .ok (.float number)
      | none => .error (.codec .notFinite)
    else .error (.codec (.valueLength .double 8))
  | schema =>
    match Json.ofBytes? bytes with
    | some value => .ok value
    | none => .error (.codec .notJson)

/-- The text of a value: a string as it is, anything else as JSON. -/
def toText : Json → String
  | .str text => text
  | value => value.print

/-- The value that a text stands for; blanks around a number count for
nothing. -/
def ofText (type : DataType) (text : String) : Except Failure Json :=
  match type with
  | string => .ok (.str text)
  | integer =>
    match Integer.read32 (Text.trim text) with
    | .ok number => .ok (.int number.toInt)
    | .error fault => .error (.badArgument (.integer fault))
  | long =>
    match Integer.read64 (Text.trim text) with
    | .ok number => .ok (.int number.toInt)
    | .error fault => .error (.badArgument (.integer fault))
  | double =>
    match FloatText.read (Text.trim text) with
    | .error fault => .error (.badArgument (.float fault))
    | .ok number =>
      match number.toFinite? with
      | some number => .ok (.float number)
      | none => .error (.badArgument .notFinite)
  | schema =>
    match Json.ofText? text with
    | some value => .ok value
    | none => .error (.codec .notJson)

end ShardedView.DataType
