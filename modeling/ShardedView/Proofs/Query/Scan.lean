import ShardedView.Proofs.Client.Routing
import ShardedView.Proofs.Failure
import ShardedView.Proofs.Grouping
import ShardedView.Proofs.Query.Transparency

/-!
The scans of replicas that agree on their members: each gives the values of the partitions
that it is the active host of, so that together they give the value of each key once.
-/

namespace ShardedView

/-- The value that bytes stand for; null if they stand for none. -/
def DataType.shown (type : DataType) (bytes : Bytes) : Json :=
  (type.decode bytes).toOption.getD .null

theorem DataType.mapM_decode {type : DataType} {stored : List Bytes}
    (readable : ∀ bytes ∈ stored, ∃ value, type.decode bytes = .ok value) :
    stored.mapM type.decode = .ok (stored.map type.shown) := by
  rw [Failure.mapM_eq_ok_iff, List.map_map]
  refine List.map_congr_left fun bytes member => ?_
  obtain ⟨value, decoded⟩ := readable bytes member
  rw [Function.comp_apply, shown, decoded]
  rfl

namespace Log

/-- The values that the records of a log leave behind, one for each key that has one. -/
def values (log : Log) (topic : Topic) : List Bytes :=
  (Contents.empty.processAll topic log.records).point.values

def valuesIn (log : Log) (topic : Topic) (partition : Nat) : List Bytes :=
  (Contents.empty.processAll topic (log.partition partition)).point.values

theorem valuesIn_eq (log : Log) (topic : Topic) (partition : Nat) :
    log.valuesIn topic partition =
      ((Contents.empty.processAll topic log.records).point.entries.filter fun entry =>
        log.place entry.1 = partition).map (·.2) := by
  rw [valuesIn, Contents.point_processAll_partition]
  rfl

theorem mem_values_of_mem_valuesIn {log : Log} {topic : Topic} {partition : Nat} {bytes : Bytes}
    (stored : bytes ∈ log.valuesIn topic partition) : bytes ∈ log.values topic := by
  rw [valuesIn_eq] at stored
  obtain ⟨entry, member, rfl⟩ := List.mem_map.1 stored
  exact List.mem_map_of_mem (List.mem_filter.1 member).1

/-- The partitions together have the value of each key once. -/
theorem perm_valuesIn (log : Log) (topic : Topic) (split : 0 < log.partitions) :
    ((List.range log.partitions).flatMap (log.valuesIn topic)).Perm (log.values topic) := by
  rw [show log.valuesIn topic = _ from funext (log.valuesIn_eq topic), ← List.map_flatMap]
  refine (perm_flatMap_filter (fun entry : Bytes × Bytes => log.place entry.1)
    List.nodup_range fun entry _ => ?_).map _
  exact List.mem_range.2 (log.finder.place_lt entry.1 split)

/-- All values that are there can be read, and sent in an envelope. -/
def IsReadable (log : Log) (topic : Topic) : Prop :=
  ∀ bytes ∈ log.values topic, ∃ value, topic.valueType.decode bytes = .ok value ∧
    value.IsPlain 125

end Log

/-- The values of the partitions that a host is active for, as the members of a replica
have it. -/
def Replica.valuesAt (replica : Replica) (log : Log)
    (owned : replica.layout.HasOwners replica.view) (host : String) : List Json :=
  ((List.range replica.layout.partitions).filter fun partition =>
    replica.activeHost owned partition = host).flatMap fun partition =>
      (log.valuesIn replica.topic partition).map replica.topic.valueType.shown

namespace Cluster

variable {cluster : Cluster} {replicas : List Replica} {log : Log} {replica told : Replica}

theorem Agrees.exists_replica_of_activeHost (agrees : cluster.Agrees replicas)
    (among : told ∈ replicas) (owned : told.layout.HasOwners told.view) (partition : Nat) :
    ∃ replica ∈ replicas, replica.host = told.activeHost owned partition := by
  have alive := Layout.mem_of_mem_owners (List.head_mem (owned.owners_ne_nil partition))
  obtain ⟨replica, member, -, host⟩ := agrees.members told among _ alive
  exact ⟨replica, member, host⟩

namespace IsUniform

/-- All replicas name the same active host. -/
theorem activeHost_eq (uniform : cluster.IsUniform replicas log) (member : replica ∈ replicas)
    (among : told ∈ replicas) (owned : told.layout.HasOwners told.view)
    (own : replica.layout.HasOwners replica.view) {partition : Nat}
    (within : partition < told.layout.partitions) :
    told.activeHost owned partition = replica.activeHost own partition := by
  have same := congrArg (·.find? partition) (uniform.owners_eq member among)
  have layouts := uniform.layouts replica member told among
  simp only [(uniform.isCurrent member).owners, (uniform.isCurrent among).owners,
    Replica.desiredOwners, Layout.find?_ownerTable, layouts, within, if_true] at same
  have heads := congrArg List.head? (Option.some.inj same)
  rw [Replica.head?_owners owned, ← layouts, Replica.head?_owners own] at heads
  exact (Option.some.inj heads).symm

/-- The partitions that a replica is active for are those that it is named for. -/
theorem keys_active (uniform : cluster.IsUniform replicas log) (member : replica ∈ replicas)
    (among : told ∈ replicas) (owned : told.layout.HasOwners told.view) :
    replica.assignment.active.keys = (List.range told.layout.partitions).filter fun partition =>
      told.activeHost owned partition = replica.host := by
  rw [(uniform.isCurrent member).assignment, Replica.desired, Layout.keys_active,
    uniform.layouts replica member told among]
  refine List.filter_congr fun partition within => ?_
  have own := uniform.hasOwners among member owned
  rw [uniform.activeHost_eq member among owned own (List.mem_range.1 within),
    ← uniform.layouts replica member told among, Replica.activeHost,
    List.head?_eq_some_head (own.owners_ne_nil partition), Option.any_some,
    Bool.eq_iff_iff, decide_eq_true_eq, decide_eq_true_eq]
  generalize chosen : (replica.layout.owners replica.view partition).head _ = owner
  have alive : owner ∈ replica.view.alive :=
    Layout.mem_of_mem_owners (chosen ▸ List.head_mem _)
  obtain ⟨other, there, id, host⟩ := uniform.members replica member owner alive
  constructor
  · intro same
    rw [← host, uniform.ids other there replica member (id.trans same)]
  · intro same
    rw [← id, uniform.eq_of_host there member (host.trans same)]

theorem getAll_eq (uniform : cluster.IsUniform replicas log) (member : replica ∈ replicas)
    (among : told ∈ replicas) (owned : told.layout.HasOwners told.view)
    (readable : log.IsReadable told.topic) :
    replica.getAll = .ok ⟨told.valuesAt log owned replica.host, false⟩ := by
  have current := uniform.isCurrent member
  have topics := uniform.topics replica member told among
  rw [Replica.valuesAt, ← uniform.keys_active member among owned, ← topics]
  rw [← topics] at readable
  have shards : ∀ partition ∈ replica.assignment.active.keys, ∃ shard,
      replica.readable partition = .ok shard ∧
        shard.contents.point.values = log.valuesIn replica.topic partition := by
    intro partition active
    have held : replica.assignment.contains partition = true := by
      rw [Assignment.contains, SortedMap.contains_eq_true_iff.2 active]
      rfl
    obtain ⟨shard, read, known⟩ := current.exists_readable held
    exact ⟨shard, read, by rw [known.contents]; rfl⟩
  obtain ⟨held, read, values⟩ := Failure.exists_mapM_eq shards
  have all : replica.readAll =
      .ok (replica.assignment.active.keys.flatMap (log.valuesIn replica.topic)) := by
    rw [Replica.readAll, Replica.ensureRunning, current.running]
    simp only [bind, Except.bind, read, pure, Except.pure, List.flatMap_def, values]
  have decodable : ∀ bytes ∈ replica.assignment.active.keys.flatMap (log.valuesIn replica.topic),
      ∃ value, replica.topic.valueType.decode bytes = .ok value := by
    intro bytes stored
    obtain ⟨partition, -, inside⟩ := List.mem_flatMap.1 stored
    obtain ⟨value, decoded, -⟩ := readable bytes (Log.mem_values_of_mem_valuesIn inside)
    exact ⟨value, decoded⟩
  rw [Replica.getAll, all]
  simp only [bind, Except.bind, DataType.mapM_decode decodable, List.map_flatMap]
  rfl

end IsUniform

end Cluster

end ShardedView
