import ShardedView.Range.Field
import ShardedView.Topic.Key

/-!
Index keys: the escaped text of a key, a separator, and the padded value of the
range field. All index keys of one key share a stem that no other key has, and
are in the order of their values.
-/

namespace ShardedView.RangeIndex

def separator : Char := '_'

/-- Frees a character of the separator; the percent sign marks what was
changed. -/
def escapeChar (char : Char) : List Char :=
  if char = '%' then ['%', '2', '5']
  else if char = separator then ['%', '5', 'F']
  else [char]

def escape (text : String) : String :=
  String.ofList (text.toList.flatMap escapeChar)

def stem (type : KeyType) (key : type.Key) : String :=
  (escape (type.toText key)).push separator

def compose (type : KeyType) (key : type.Key) (padded : String) : String :=
  stem type key ++ padded

/-- The escaped key and the padded value of an index key: what stands before and
after its last separator. -/
def split (index : String) : Except Failure (String × String) :=
  let reversed := index.toList.reverse
  if separator ∈ reversed then
    .ok (String.ofList ((reversed.dropWhile (· ≠ separator)).drop 1).reverse,
      String.ofList (reversed.takeWhile (· ≠ separator)).reverse)
  else .error (.rangeIndex (.noSeparator index))

end ShardedView.RangeIndex

namespace ShardedView

/-- The field by whose values the records of a key are kept in order. -/
structure RangeField where
  name : String
  type : RangeType
  deriving DecidableEq, Repr

namespace RangeField

def index (field : RangeField) (keyType : KeyType) (key : keyType.Key) (record : Json) :
    Except Failure String := do
  let value ← field.type.extract record field.name
  return RangeIndex.compose keyType key (← field.type.pad value)

def boundary (field : RangeField) (keyType : KeyType) (key : keyType.Key) (bound : String) :
    Except Failure String := do
  return RangeIndex.compose keyType key (← field.type.padText bound)

def bounds (field : RangeField) (keyType : KeyType) (key : keyType.Key)
    (lower upper : String) : Except Failure (String × String) := do
  let lower ← field.boundary keyType key lower
  let upper ← field.boundary keyType key upper
  return (lower, upper)

end RangeField

end ShardedView
