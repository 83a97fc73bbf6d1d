/-!
The types of the keys and values of a topic.
-/

namespace ShardedView

inductive DataType
  | string
  | integer
  | long
  | double
  | schema
  deriving DecidableEq, Repr

namespace DataType

def all : List DataType := [string, integer, long, double, schema]

def name : DataType → String
  | string => "string"
  | integer => "integer"
  | long => "long"
  | double => "double"
  | schema => "schema"

def label : DataType → String
  | string => "String"
  | integer => "Integer"
  | long => "Long"
  | double => "Double"
  | schema => "Schema"

def ofName? (name : String) : Option DataType :=
  all.find? (·.name = name)

end DataType

inductive KeyType
  | string
  | integer
  | long
  deriving DecidableEq, Repr

namespace KeyType

def Key : KeyType → Type
  | string => String
  | integer => Int32
  | long => Int64

instance : (type : KeyType) → DecidableEq type.Key
  | string => inferInstanceAs (DecidableEq String)
  | integer => inferInstanceAs (DecidableEq Int32)
  | long => inferInstanceAs (DecidableEq Int64)

def toDataType : KeyType → DataType
  | string => .string
  | integer => .integer
  | long => .long

/-- The type of keys that a type of data gives, if keys may have it. -/
def ofDataType? : DataType → Option KeyType
  | .string => some string
  | .integer => some integer
  | .long => some long
  | _ => none

end KeyType

end ShardedView
