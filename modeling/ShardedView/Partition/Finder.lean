import ShardedView.Partition.Murmur

/-!
Ways to give keys partitions. Whoever appends records and whoever looks for them must use the
same one.
-/

namespace ShardedView

structure Finder where
  place : Bytes → (partitions : Nat) → Nat
  place_lt : ∀ key {partitions}, 0 < partitions → place key partitions < partitions

theorem Murmur.partition_lt (key : Bytes) {count : Nat} (filled : 0 < count) :
    partition key count < count := by
  rw [partition, if_neg (Nat.ne_of_gt filled)]
  exact Nat.mod_lt _ filled

/-- The one of the producers: by the hash of a key. -/
def Finder.murmur : Finder where
  place := Murmur.partition
  place_lt := Murmur.partition_lt

end ShardedView
