import ShardedView.Range.Index
import ShardedView.Topic.Value

/-!
Topics: the types of their keys and values, and how their records are kept.
-/

namespace ShardedView

inductive WriteType
  | mutable
  | immutable
  deriving DecidableEq, Repr

namespace WriteType

def name : WriteType → String
  | mutable => "mutable"
  | immutable => "immutable"

def ofName? (name : String) : Option WriteType :=
  [mutable, immutable].find? (·.name = name)

end WriteType

/-- A stream of records that is kept as a view by key. -/
structure Topic where
  name : String
  keyType : KeyType
  valueType : DataType
  writeType : WriteType
  /-- The field by which ranges of a key are read, if there is one. -/
  rangeField : Option RangeField
  /-- After how many milliseconds a key is dropped, if ever. -/
  retention : Option Nat
  deriving DecidableEq, Repr

/-- The time before which keys have expired. Of a retention time a machine word counts. -/
def expiryLimit (retention now : Nat) : Nat :=
  now - retention % UInt64.size

theorem expiryLimit_eq {retention : Nat} (word : retention < UInt64.size) (now : Nat) :
    expiryLimit retention now = now - retention := by
  rw [expiryLimit, Nat.mod_eq_of_lt word]

theorem expiryLimit_mono (retention : Nat) {earlier later : Nat} (before : earlier ≤ later) :
    expiryLimit retention earlier ≤ expiryLimit retention later :=
  Nat.sub_le_sub_right before _

end ShardedView
