import ShardedView.Replica.Shard

/-!
A shard against the records of its partition: what it has taken in is always a
front part of them, each record once and in order.
-/

namespace ShardedView

namespace Log

@[simp]
theorem place_append (log : Log) (record : Record) : (log.append record).place = log.place := rfl

theorem partition_append (log : Log) (record : Record) (number : Nat) :
    (log.append record).partition number =
      log.partition number ++ if log.place record.key = number then [record] else [] := by
  rw [partition, place_append, append, List.filter_append, ← partition]
  by_cases same : log.place record.key = number <;> simp [same]

theorem filter_partition (log : Log) (key : Bytes) :
    (log.partition (log.place key)).filter (fun record => record.key = key) =
      log.records.filter fun record => record.key = key := by
  rw [partition, List.filter_filter]
  congr 1
  funext record
  by_cases same : record.key = key <;> simp [same]

end Log

namespace Contents

theorem processAll_append (contents : Contents) (topic : Topic) (first second : List Record) :
    contents.processAll topic (first ++ second) =
      (contents.processAll topic first).processAll topic second :=
  List.foldl_append

end Contents

namespace Shard

/-- A shard that has taken in a front part of the records of its partition. -/
structure Follows (shard : Shard) (topic : Topic) (records : List Record) : Prop where
  offset : shard.offset ≤ records.length
  contents : shard.contents = Contents.empty.processAll topic (records.take shard.offset)

/-- A shard that may be read and has taken in all records of its partition. -/
structure IsCurrent (shard : Shard) (topic : Topic) (log : Log) (partition : Nat) : Prop where
  restored : shard.restored = true
  offset : shard.offset = log.endOffset partition
  contents : shard.contents = Contents.empty.processAll topic (log.partition partition)

theorem fresh_follows (topic : Topic) (records : List Record) : fresh.Follows topic records :=
  ⟨Nat.zero_le _, rfl⟩

theorem Follows.append {shard : Shard} {topic : Topic} {records : List Record}
    (follows : shard.Follows topic records) (later : List Record) :
    shard.Follows topic (records ++ later) where
  offset := Nat.le_trans follows.offset (by simp)
  contents := by rw [follows.contents, List.take_append_of_le_length follows.offset]

/-- A shard at the end of its partition has the content that a single pass gives. -/
theorem Follows.contents_of_offset {shard : Shard} {topic : Topic} {log : Log} {partition : Nat}
    (follows : shard.Follows topic (log.partition partition))
    (consumed : shard.offset = log.endOffset partition) :
    shard.contents = Contents.empty.processAll topic (log.partition partition) := by
  rw [follows.contents, consumed, Log.endOffset, List.take_length]

/-- Catching up twice reads no record twice. -/
theorem catchUp_catchUp (shard : Shard) (topic : Topic) (log : Log) (partition : Nat) :
    (shard.catchUp topic log partition).catchUp topic log partition =
      shard.catchUp topic log partition := by
  have nothing : log.readFrom partition
      (shard.offset + (log.readFrom partition shard.offset).length) = [] := by
    simp only [Log.readFrom, List.length_drop, List.drop_eq_nil_iff]
    omega
  simp [catchUp, nothing, Contents.processAll]

theorem Follows.catchUp {shard : Shard} {topic : Topic} {log : Log} {partition : Nat}
    (follows : shard.Follows topic (log.partition partition)) :
    (shard.catchUp topic log partition).IsCurrent topic log partition where
  restored := rfl
  offset := by
    simp only [Shard.catchUp, Log.readFrom, Log.endOffset, List.length_drop]
    exact Nat.add_sub_cancel' follows.offset
  contents := by
    rw [Shard.catchUp, Log.readFrom, follows.contents, ← Contents.processAll_append,
      List.take_append_drop]

theorem IsCurrent.follows {shard : Shard} {topic : Topic} {log : Log} {partition : Nat}
    (current : shard.IsCurrent topic log partition) :
    shard.Follows topic (log.partition partition) where
  offset := Nat.le_of_eq current.offset
  contents := by rw [current.contents, current.offset, Log.endOffset, List.take_length]

end Shard

end ShardedView
