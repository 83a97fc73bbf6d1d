import ShardedView.Log.Basic
import ShardedView.SortedMap
import ShardedView.Topic.Basic

/-!
The content of one partition at a replica, built record by record.
-/

namespace ShardedView

/-- What the records of a partition leave behind. -/
structure Contents where
  /-- The value of each key. -/
  point : SortedMap Bytes Bytes
  /-- The values of each key by index key; earlier ones stay beside later ones. -/
  range : SortedMap String Bytes
  /-- When each key was given its value, if keys expire. -/
  inserted : SortedMap Bytes Nat

namespace Contents

def empty : Contents := ⟨.empty, .empty, .empty⟩

/-- Removes a key. The index keys stay if the key cannot be read. -/
def remove (contents : Contents) (topic : Topic) (key : Bytes) : Contents × Option Failure :=
  let contents :=
    { contents with
      point := contents.point.erase key
      inserted := contents.inserted.erase key }
  match topic.rangeField with
  | none => (contents, none)
  | some _ =>
    match topic.keyType.decode key with
    | .error failure => (contents, some failure)
    | .ok key =>
      ({ contents with range := contents.range.eraseStem (RangeIndex.stem topic.keyType key) },
        none)

def index (contents : Contents) (topic : Topic) (key value : Bytes) :
    Except Failure (SortedMap String Bytes) :=
  match topic.rangeField with
  | none => .ok contents.range
  | some field => do
    let decodedKey ← topic.keyType.decode key
    let record ← topic.valueType.decode value
    let indexKey ← field.index topic.keyType decodedKey record
    return contents.range.insert indexKey value

/-- Gives a key a value. On an immutable topic a key keeps the one it has. -/
def store (contents : Contents) (topic : Topic) (key value : Bytes) (timestamp : Nat) :
    Contents × Option Failure :=
  if topic.writeType = .immutable && contents.point.contains key then (contents, none)
  else
    match contents.index topic key value with
    | .error failure => (contents, some failure)
    | .ok range =>
      ({ point := contents.point.insert key value
         range
         inserted :=
          if topic.retention.isSome then contents.inserted.insert key timestamp
          else contents.inserted },
        none)

/-- Takes in a record. A failure tells why it was skipped. -/
def process (contents : Contents) (topic : Topic) (record : Record) :
    Contents × Option Failure :=
  match record.value with
  | none => contents.remove topic record.key
  | some value => contents.store topic record.key value record.timestamp

/-- Takes in records one after another, skipping the faulty ones. -/
def processAll (contents : Contents) (topic : Topic) (records : List Record) : Contents :=
  records.foldl (fun contents record => (contents.process topic record).1) contents

def expired (contents : Contents) (cutoff : Nat) : List Bytes :=
  (contents.inserted.filter fun _ time => time < cutoff).keys

/-- Removes keys one after another; fails at the first that cannot be read. -/
def removeAll (contents : Contents) (topic : Topic) : List Bytes → Except Failure Contents
  | [] => .ok contents
  | key :: rest =>
    match contents.remove topic key with
    | (_, some failure) => .error failure
    | (contents, none) => contents.removeAll topic rest

end Contents

/-- The copy of a partition at a replica. -/
structure Shard where
  contents : Contents
  /-- How many records of the partition it has seen. -/
  offset : Nat
  /-- Whether it has reached the end of the log once, so that it may be read. -/
  restored : Bool

namespace Shard

def fresh : Shard := ⟨.empty, 0, false⟩

def catchUp (shard : Shard) (topic : Topic) (log : Log) (partition : Nat) : Shard :=
  let records := log.readFrom partition shard.offset
  { contents := shard.contents.processAll topic records
    offset := shard.offset + records.length
    restored := true }

end Shard

end ShardedView
