import Mathlib.Data.List.Perm.Subperm
import ShardedView.Proofs.Client.Routing

/-!
Which keys a routing table has a host for. The number of partitions is taken from the greatest one
that is listed, so that a table with as many hosts as partitions has one for each of them, and a
key is left without a host only if its partition is not listed.
-/

namespace ShardedView

section Numbers

variable {numbers : List Nat} {count : Nat}

theorem eq_range_of_perm (sorted : numbers.Pairwise (· < ·))
    (permuted : numbers.Perm (List.range count)) : numbers = List.range count := by
  refine permuted.eq_of_pairwise ?_ sorted List.pairwise_lt_range
  intro left right _ _ less greater
  exact absurd less (Nat.lt_asymm greater)

/-- Of numbers below a bound, each listed once, there are as many as the bound only if none is
missing. -/
theorem eq_range_of_length_eq (sorted : numbers.Pairwise (· < ·))
    (below : ∀ number ∈ numbers, number < count) (length : numbers.length = count) :
    numbers = List.range count := by
  have within : numbers ⊆ List.range count := fun number listed =>
    List.mem_range.2 (below number listed)
  have distinct := List.subperm_of_subset (sorted.imp Nat.ne_of_lt) within
  exact eq_range_of_perm sorted (distinct.perm_of_length_le (by simp [length]))

theorem eq_range_of_covers (sorted : numbers.Pairwise (· < ·))
    (below : ∀ number ∈ numbers, number < count) (covers : ∀ number < count, number ∈ numbers) :
    numbers = List.range count := by
  apply eq_range_of_perm sorted
  rw [List.perm_ext_iff_of_nodup (sorted.imp Nat.ne_of_lt) List.nodup_range]
  exact fun number => ⟨fun listed => List.mem_range.2 (below number listed),
    fun within => covers number (List.mem_range.1 within)⟩

end Numbers

namespace RoutingTable

variable {table : RoutingTable}

theorem sorted_keys (table : RoutingTable) : table.hosts.keys.Pairwise (· < ·) :=
  List.pairwise_map.2 table.hosts.sorted

theorem partitions_le_iff {bound : Nat} :
    table.partitions ≤ bound ↔ ∀ partition ∈ table.hosts.keys, partition < bound := by
  rw [partitions]
  have sorted := table.sorted_keys
  generalize table.hosts.keys = keys at sorted
  cases last : keys.getLast? with
  | none =>
    obtain rfl := List.getLast?_eq_none_iff.1 last
    exact ⟨fun _ _ listed => absurd listed List.not_mem_nil, fun _ => Nat.zero_le bound⟩
  | some greatest =>
    obtain ⟨before, rfl⟩ := List.getLast?_eq_some_iff.1 last
    have below := (List.pairwise_append.1 sorted).2.2
    constructor
    · intro less partition listed
      rcases List.mem_append.1 listed with earlier | own
      · exact Nat.lt_trans (below partition earlier greatest (.head _)) less
      · exact List.mem_singleton.1 own ▸ less
    · exact fun all => all greatest (List.mem_append_right _ (.head _))

theorem lt_partitions {partition : Nat} (listed : partition ∈ table.hosts.keys) :
    partition < table.partitions :=
  partitions_le_iff.1 (Nat.le_refl _) partition listed

theorem isComplete_iff_keys :
    table.isComplete = true ↔ table.hosts.keys = List.range table.partitions := by
  refine ⟨fun complete => ?_, isComplete_of_keys⟩
  apply eq_range_of_length_eq table.sorted_keys fun _ => lt_partitions
  rw [SortedMap.keys, List.length_map]
  exact of_decide_eq_true complete

theorem isComplete_iff : table.isComplete = true ↔
    ∀ partition < table.partitions, table.hosts.contains partition = true := by
  rw [isComplete_iff_keys]
  constructor
  · intro keys partition within
    rw [SortedMap.contains_eq_true_iff, keys]
    exact List.mem_range.2 within
  · intro covers
    exact eq_range_of_covers table.sorted_keys (fun _ => lt_partitions) fun partition within =>
      SortedMap.contains_eq_true_iff.1 (covers partition within)

theorem partitions_pos (filled : table.isEmpty = false) : 0 < table.partitions := by
  obtain ⟨entry, listed⟩ := List.exists_mem_of_ne_nil _ (List.isEmpty_eq_false_iff.1 filled)
  exact Nat.zero_lt_of_lt (lt_partitions (List.mem_map_of_mem listed))

theorem isEmpty_of_not_isComplete (gapped : table.isComplete = false) : table.isEmpty = false := by
  rw [← Bool.not_eq_true, isComplete_iff] at gapped
  obtain ⟨partition, missing⟩ := not_forall.1 gapped
  obtain ⟨within, -⟩ := Classical.not_imp.1 missing
  cases empty : table.isEmpty with
  | false => rfl
  | true =>
    have count : table.partitions ≤ 0 := by
      rw [partitions_le_iff, SortedMap.keys, List.isEmpty_iff.1 empty]
      exact fun _ listed => absurd listed List.not_mem_nil
    omega

def partitionOf (table : RoutingTable) (finder : Finder) (type : KeyType) (key : type.Key) : Nat :=
  finder.place (type.encode key) table.partitions

/-- Where a table has hosts, a key fails to be found only for want of the host of its partition. -/
theorem find_eq_noHostForPartition_iff (filled : table.isEmpty = false) (finder : Finder)
    (type : KeyType) (key : type.Key) :
    table.find finder type key =
        .error (.noHostForPartition (table.partitionOf finder type key)) ↔
      table.hosts.contains (table.partitionOf finder type key) = false := by
  rw [SortedMap.contains, Option.isSome_eq_false_iff, Option.isNone_iff_eq_none]
  cases listed : table.hosts.find? (table.partitionOf finder type key) with
  | some host =>
    rw [find_eq listed]
    exact iff_of_false (fun failed => by cases failed) (Option.some_ne_none host)
  | none =>
    have missing : table.host? (finder.place (type.encode key) table.partitions) = none :=
      Option.map_eq_none_iff.2 listed
    refine iff_of_true ?_ rfl
    rw [find, filled, if_neg Bool.false_ne_true]
    simp only [missing, partitionOf]

theorem host_endpoints (table : RoutingTable) :
    table.endpoints.map Endpoint.host = table.distinctHosts := by
  rw [endpoints_eq, List.map_map]
  exact List.map_id _

theorem mem_endpoints {endpoint : Endpoint} :
    endpoint ∈ table.endpoints ↔ ∃ partition, table.host? partition = some endpoint := by
  rw [endpoints_eq, List.mem_map]
  constructor
  · rintro ⟨host, known, rfl⟩
    obtain ⟨⟨partition, _⟩, listed, rfl⟩ := List.mem_map.1 (mem_distinctHosts.1 known)
    exact ⟨partition, congrArg _ (SortedMap.find?_eq_some_iff.2 listed)⟩
  · rintro ⟨partition, found⟩
    obtain ⟨host, listed, rfl⟩ := Option.map_eq_some_iff.1 found
    exact ⟨host, mem_distinctHosts.2
      (List.mem_map_of_mem (SortedMap.find?_eq_some_iff.1 listed)), rfl⟩

/-- A complete table has no gaps. The table of a document counts partitions up to the greatest one
that the document lists; it is complete if and only if the document lists them all, and then it
has a host for each key. Its hosts are those of the listed partitions, each once. An incomplete
table fails for exactly those keys whose partition is not listed. -/
theorem complete_tables_have_no_gaps (document : SortedMap Nat String) :
    let table : RoutingTable := ⟨document⟩
    (∀ bound, table.partitions ≤ bound ↔ ∀ partition ∈ document.keys, partition < bound) ∧
    (table.isComplete = true ↔
      ∀ partition < table.partitions, document.contains partition = true) ∧
    (table.isComplete = true → table.isEmpty = false →
      ∀ (finder : Finder) (type : KeyType) (key : type.Key), ∃ host,
        document.find? (table.partitionOf finder type key) = some host ∧
        table.find finder type key = .ok (.direct host)) ∧
    (table.endpoints.map Endpoint.host).Nodup ∧
    (∀ endpoint, endpoint ∈ table.endpoints ↔
      ∃ partition host, document.find? partition = some host ∧ endpoint = .direct host) ∧
    (table.isComplete = false → ∀ (finder : Finder) (type : KeyType) (key : type.Key),
      let partition := table.partitionOf finder type key
      partition < table.partitions ∧
      (table.find finder type key = .error (.noHostForPartition partition) ↔
        document.contains partition = false)) := by
  intro table
  have within : table.isEmpty = false → ∀ (finder : Finder) (type : KeyType) (key : type.Key),
      table.partitionOf finder type key < table.partitions :=
    fun filled finder type key => finder.place_lt _ (partitions_pos filled)
  refine ⟨fun bound => partitions_le_iff, isComplete_iff,
    fun complete filled finder type key => ?_, ?_, fun endpoint => ?_,
    fun gapped finder type key => ?_⟩
  · have listed := isComplete_iff.1 complete _ (within filled finder type key)
    obtain ⟨host, found⟩ := Option.isSome_iff_exists.1 listed
    exact ⟨host, found, find_eq found⟩
  · rw [host_endpoints]
    exact table.nodup_distinctHosts
  · simp only [mem_endpoints, host?, Option.map_eq_some_iff, eq_comm (a := endpoint)]
    rfl
  · have filled := isEmpty_of_not_isComplete gapped
    exact ⟨within filled finder type key, find_eq_noHostForPartition_iff filled finder type key⟩

/-- A table that lists two partitions of three, and one that lists the third as well. -/
theorem complete_tables_have_no_gaps_filled :
    let gapped : RoutingTable := ⟨.ofList [(2, "b:1"), (0, "a:1")]⟩
    let filled : RoutingTable := ⟨.ofList [(2, "b:1"), (0, "a:1"), (1, "b:1")]⟩
    gapped.isComplete = false ∧
      gapped.find .murmur .string "key" = .error (.noHostForPartition 1) ∧
      filled.isComplete = true ∧ filled.find .murmur .string "key" = .ok (.direct "b:1") := by
  intro gapped filled
  obtain ⟨-, -, -, -, -, missing⟩ := complete_tables_have_no_gaps gapped.hosts
  obtain ⟨-, -, found, -⟩ := complete_tables_have_no_gaps filled.hosts
  have incomplete : gapped.isComplete = false := by decide +kernel
  have complete : filled.isComplete = true := by decide +kernel
  have left : gapped.partitionOf .murmur .string "key" = 1 := by decide +kernel
  refine ⟨incomplete, ?_, complete, ?_⟩
  · obtain ⟨-, fails⟩ := missing incomplete .murmur .string "key"
    rw [← left]
    exact fails.2 (by decide +kernel)
  · obtain ⟨host, listed, tells⟩ := found complete (by decide +kernel) .murmur .string "key"
    have known : filled.hosts.find? (filled.partitionOf .murmur .string "key") = some "b:1" := by
      decide +kernel
    rw [show host = "b:1" from Option.some.inj (listed.symm.trans known)] at tells
    exact tells

end RoutingTable

end ShardedView
