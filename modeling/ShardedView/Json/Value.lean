import ShardedView.Number.Binary64
import ShardedView.SortedMap

/-!
JSON values, with integers apart from floating-point numbers and the members of
an object in increasing order of their names.
-/

namespace ShardedView

inductive Json
  | null
  | bool (value : Bool)
  | int (value : Int)
  | float (value : Finite64)
  | str (text : String)
  | arr (items : List Json)
  | obj (members : List (String × Json))
  deriving Repr, BEq, Inhabited

namespace Json

/-- The least integer that is not read as a floating-point number. -/
def leastInteger : Int := Int64.minValue.toInt

/-- The greatest integer that is not read as a floating-point number. -/
def greatestInteger : Int := 0xFFFFFFFFFFFFFFFF

/-- An object; of several members with one name the last counts. -/
def ofMembers (members : List (String × Json)) : Json :=
  .obj (members.foldl (fun sorted entry => insertEntry entry.1 entry.2 sorted) [])

def member? (json : Json) (name : String) : Option Json :=
  match json with
  | .obj members => (members.find? fun entry => entry.1 = name).map (·.2)
  | _ => none

def text? : Json → Option String
  | .str text => some text
  | _ => none

def items? : Json → Option (List Json)
  | .arr items => some items
  | _ => none

def int64? : Json → Option Int64
  | .int value =>
    if Int64.minValue.toInt ≤ value ∧ value ≤ Int64.maxValue.toInt then
      some (Int64.ofInt value)
    else none
  | _ => none

def binary64? : Json → Option Binary64
  | .int value => some (Binary64.ofInt value)
  | .float value => some value.number
  | _ => none

def isObject : Json → Bool
  | .obj _ => true
  | _ => false

end Json

end ShardedView
