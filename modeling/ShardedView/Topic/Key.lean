import ShardedView.Failure
import ShardedView.Text.Blank

/-!
Keys as bytes and as text: strings in UTF-8, numbers most significant byte
first and in decimal.
-/

namespace ShardedView.KeyType

def encode : (type : KeyType) → type.Key → Bytes
  | string, key => Utf8.encode key
  | integer, key => Bytes.ofNatBig 4 (Int32.toUInt32 key).toNat
  | long, key => Bytes.ofNatBig 8 (Int64.toUInt64 key).toNat

def decode : (type : KeyType) → Bytes → Except Failure type.Key
  | string, bytes => (Utf8.decode bytes).mapError fun fault => .codec (.notUtf8 fault)
  | integer, bytes =>
    if bytes.length = 4 then .ok (Int32.ofNat bytes.toNatBig)
    else .error (.codec (.keyLength .integer 4 bytes.length))
  | long, bytes =>
    if bytes.length = 8 then .ok (Int64.ofNat bytes.toNatBig)
    else .error (.codec (.keyLength .long 8 bytes.length))

def toText : (type : KeyType) → type.Key → String
  | string, key => key
  | integer, key => String.ofList (Digits.ofInt (Int32.toInt key))
  | long, key => String.ofList (Digits.ofInt (Int64.toInt key))

/-- The key that a text stands for; blanks around a number count for nothing. -/
def ofText : (type : KeyType) → String → Except Failure type.Key
  | string, text => .ok text
  | integer, text =>
    (Integer.read32 (Text.trim text)).mapError fun fault =>
      .badArgument (.keyText .integer text fault)
  | long, text =>
    (Integer.read64 (Text.trim text)).mapError fun fault =>
      .badArgument (.keyText .long text fault)

end ShardedView.KeyType
