import ShardedView.Partition.Finder

/-!
The log of a topic: records in the order in which they were appended, each in
the partition of its key.
-/

namespace ShardedView

/-- A value for a key, or its removal. -/
structure Record where
  key : Bytes
  value : Option Bytes
  /-- In milliseconds. -/
  timestamp : Nat
  deriving DecidableEq, Repr

structure Log where
  partitions : Nat
  finder : Finder
  records : List Record

namespace Log

def empty (partitions : Nat) (finder : Finder) : Log := ⟨partitions, finder, []⟩

def place (log : Log) (key : Bytes) : Nat :=
  log.finder.place key log.partitions

/-- The records of a partition; the offset of a record is its position here. -/
def partition (log : Log) (number : Nat) : List Record :=
  log.records.filter fun record => log.place record.key = number

def endOffset (log : Log) (number : Nat) : Nat :=
  (log.partition number).length

def readFrom (log : Log) (number offset : Nat) : List Record :=
  (log.partition number).drop offset

def append (log : Log) (record : Record) : Log :=
  { log with records := log.records ++ [record] }

/-- Where the next record with a key goes: its partition and its offset. -/
def position (log : Log) (key : Bytes) : Nat × Nat :=
  (log.place key, log.endOffset (log.place key))

end Log

end ShardedView
