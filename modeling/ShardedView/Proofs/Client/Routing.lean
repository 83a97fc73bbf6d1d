import ShardedView.Client.Routing
import ShardedView.Proofs.Grouping
import ShardedView.Proofs.Json.Numbered
import ShardedView.Proofs.Partition.Owners
import ShardedView.Proofs.Query.Reply
import ShardedView.Proofs.Replica.Run

/-!
Routing against placement: where a client looks for a key, by the partition map of a
replica, is where the replica has the key from, and where the log puts it.

The log, the replica and the client each work out the partition of a key for themselves.
The client knows how many partitions there are by the greatest one in the map only.
-/

namespace ShardedView

open Http (Reply)

namespace RoutingTable

def ofBody? (body : Bytes) : Option RoutingTable :=
  ((Json.Document.ofBytes? body).bind Json.Document.numberedTexts?).map mk

variable {table : RoutingTable} {count : Nat}

/-- With all partitions up to the greatest one, that one tells how many there are. -/
theorem partitions_of_keys (keys : table.hosts.keys = List.range count) :
    table.partitions = count := by
  rw [partitions, keys, List.getLast?_range]
  split
  · next empty => exact empty.symm
  · next filled => exact Nat.succ_pred_eq_of_ne_zero filled

theorem isComplete_of_keys (keys : table.hosts.keys = List.range count) :
    table.isComplete = true := by
  have size := congrArg List.length keys
  rw [SortedMap.keys, List.length_map, List.length_range] at size
  rw [isComplete, decide_eq_true_eq, partitions_of_keys keys]
  exact size

theorem find_eq {finder : Finder} {type : KeyType} {key : type.Key} {host : String}
    (found : table.hosts.find? (finder.place (type.encode key) table.partitions) = some host) :
    table.find finder type key = .ok (.direct host) := by
  have filled : table.isEmpty = false := by
    rw [isEmpty, List.isEmpty_eq_false_iff]
    exact List.ne_nil_of_mem (SortedMap.find?_eq_some_iff.1 found)
  rw [find, filled]
  simp only [Bool.false_eq_true, if_false, host?, found, Option.map_some]

/-! ### The hosts of a table -/

def distinctHosts (table : RoutingTable) : List String :=
  table.hosts.values.foldl (fun hosts host => if host ∈ hosts then hosts else hosts ++ [host]) []

theorem endpoints_eq (table : RoutingTable) :
    table.endpoints = table.distinctHosts.map Endpoint.direct := rfl

theorem nodup_distinctHosts (table : RoutingTable) : table.distinctHosts.Nodup :=
  nodup_foldl_first .nil

theorem mem_distinctHosts {table : RoutingTable} {host : String} :
    host ∈ table.distinctHosts ↔ host ∈ table.hosts.values :=
  mem_foldl_first.trans (or_iff_right List.not_mem_nil)

theorem eq_of_host {table : RoutingTable} {left right : Endpoint} (leftIn : left ∈ table.endpoints)
    (rightIn : right ∈ table.endpoints) (same : left.host = right.host) : left = right := by
  rw [endpoints_eq] at leftIn rightIn
  obtain ⟨host, -, rfl⟩ := List.mem_map.1 leftIn
  obtain ⟨other, -, rfl⟩ := List.mem_map.1 rightIn
  exact congrArg Endpoint.direct same

theorem mem_endpoints_of_find {table : RoutingTable} {finder : Finder} {type : KeyType}
    {key : type.Key} {endpoint : Endpoint} (found : table.find finder type key = .ok endpoint) :
    endpoint ∈ table.endpoints := by
  unfold find at found
  split at found
  · cases found
  · dsimp only at found
    split at found
    · next other known =>
      obtain rfl : other = endpoint := Except.ok.inj found
      obtain ⟨host, listed, rfl⟩ := Option.map_eq_some_iff.1 known
      rw [endpoints_eq]
      apply List.mem_map_of_mem
      rw [mem_distinctHosts]
      exact List.mem_map.2 ⟨_, SortedMap.find?_eq_some_iff.1 listed, rfl⟩
    · cases found

end RoutingTable

namespace Replica

variable {replica : Replica}

/-- The active host of a partition, as the members of a replica have it. -/
def activeHost (replica : Replica) (owned : replica.layout.HasOwners replica.view)
    (partition : Nat) : String :=
  ((replica.layout.owners replica.view partition).head (owned.owners_ne_nil partition)).host

theorem head?_owners (owned : replica.layout.HasOwners replica.view) (partition : Nat) :
    ((replica.layout.owners replica.view partition).map Member.host).head? =
      some (replica.activeHost owned partition) := by
  rw [List.head?_map, List.head?_eq_some_head (owned.owners_ne_nil partition)]
  rfl

theorem partitionMap_eq (owners : replica.owners = replica.desiredOwners)
    (owned : replica.layout.HasOwners replica.view) :
    replica.partitionMap = (List.range replica.layout.partitions).map fun partition =>
      (partition, replica.activeHost owned partition) := by
  rw [partitionMap, owners, desiredOwners, Layout.entries_ownerTable, List.filterMap_map]
  refine Eq.trans ?_ (congrFun List.filterMap_eq_map _)
  congr 1
  funext partition
  simp only [Function.comp_apply, head?_owners owned, Option.map_some]

theorem keys_of_partitionMap (owners : replica.owners = replica.desiredOwners)
    (owned : replica.layout.HasOwners replica.view) :
    replica.partitionMap.map (·.1) = List.range replica.layout.partitions := by
  rw [partitionMap_eq owners owned, List.map_map]
  exact List.map_id _

theorem partitionMap_of_uncopied (owners : replica.owners = replica.desiredOwners)
    (uncopied : replica.layout.copies = 0) : replica.partitionMap = [] := by
  rw [partitionMap, owners, desiredOwners, Layout.entries_ownerTable, List.filterMap_map,
    List.filterMap_eq_nil_iff]
  intro partition _
  rw [Function.comp_apply, Layout.owners_of_uncopied uncopied]
  rfl

def activeHosts (replica : Replica) : SortedMap Nat String where
  entries := replica.partitionMap
  sorted := by
    refine replica.owners.sorted.filterMap _ fun left right ahead leftHost leftIn rightHost
      rightIn => ?_
    obtain ⟨_, -, rfl⟩ := Option.map_eq_some_iff.1 leftIn
    obtain ⟨_, -, rfl⟩ := Option.map_eq_some_iff.1 rightIn
    exact ahead

theorem find?_activeHosts (owners : replica.owners = replica.desiredOwners)
    (owned : replica.layout.HasOwners replica.view) {partition : Nat}
    (within : partition < replica.layout.partitions) :
    replica.activeHosts.find? partition = some (replica.activeHost owned partition) := by
  rw [SortedMap.find?_eq_some_iff]
  show _ ∈ replica.partitionMap
  rw [partitionMap_eq owners owned]
  exact List.mem_map.2 ⟨partition, List.mem_range.2 within, rfl⟩

theorem ofBody?_partitionMap (owners : replica.owners = replica.desiredOwners)
    (small : replica.layout.partitions ≤ UInt32.size) :
    RoutingTable.ofBody? (Reply.ofPartitionMap replica.partitionMap).body =
      some ⟨replica.activeHosts⟩ := by
  have numbers : ∀ entry ∈ replica.activeHosts.entries, entry.1 < UInt32.size := by
    intro entry listed
    obtain ⟨⟨partition, hosts⟩, among, named⟩ := List.mem_filterMap.1 listed
    obtain ⟨_, -, rfl⟩ := Option.map_eq_some_iff.1 named
    rw [owners, desiredOwners, Layout.entries_ownerTable] at among
    obtain ⟨_, within, same⟩ := List.mem_map.1 among
    cases same
    exact Nat.lt_of_lt_of_le (List.mem_range.1 within) small
  exact congrArg (Option.map RoutingTable.mk) (Json.Document.numberedTexts?_print numbers)

theorem locate_eq (running : replica.phase = .running)
    (owners : replica.owners = replica.desiredOwners)
    (owned : replica.layout.HasOwners replica.view) {key : Bytes}
    (within : replica.place key < replica.layout.partitions) :
    ∃ standbys, replica.locate key =
      .ok ⟨replica.place key, replica.activeHost owned (replica.place key), standbys⟩ := by
  cases own : replica.layout.owners replica.view (replica.place key) with
  | nil => exact absurd own (owned.owners_ne_nil _)
  | cons active standbys =>
    refine ⟨standbys.map Member.host, ?_⟩
    have found : replica.owners.find? (replica.place key) =
        some (replica.activeHost owned (replica.place key) :: standbys.map Member.host) := by
      rw [owners, desiredOwners, Layout.find?_ownerTable, if_pos within, activeHost]
      simp only [own, List.map_cons, List.head_cons]
    rw [locate, ensureRunning, running]
    simp only [bind, Except.bind, found]
    rfl

theorem locate_of_uncopied (running : replica.phase = .running)
    (owners : replica.owners = replica.desiredOwners) (uncopied : replica.layout.copies = 0)
    {key : Bytes} (within : replica.place key < replica.layout.partitions) :
    replica.locate key = .error .storeNotAvailable := by
  have found : replica.owners.find? (replica.place key) = some [] := by
    rw [owners, desiredOwners, Layout.find?_ownerTable, if_pos within,
      Layout.owners_of_uncopied uncopied, List.map_nil]
  rw [locate, ensureRunning, running]
  simp only [bind, Except.bind, found]
  rfl

/-- Whatever a replica was like, behind a step it runs with the owners that its members
give. -/
theorem step_running (replica : Replica) (log : Log) (going : replica.phase ≠ .stopped) :
    (replica.step log).phase = .running ∧ (replica.step log).view = replica.view ∧
      (replica.step log).layout = replica.layout ∧
      (replica.step log).owners = (replica.step log).desiredOwners := by
  rcases replica.stepAmid_cases log (.steady replica.view.alive) with
    ⟨stopped, -⟩ | ⟨-, shards, same⟩
  · contradiction
  · rw [step, same]
    exact ⟨rfl, rfl, rfl, rfl⟩

/-- Behind a step of a replica, the routing table that is read from its partition map has
all partitions, and sends the client for each key to the host that the replica itself takes
for the active one, of the partition that a log appends records of the key to. But if one more
than the standbys is beyond a machine word, the table is empty, and no key has a host. -/
theorem routing_agrees_with_placement (replica : Replica) (seen log : Log)
    (going : replica.phase ≠ .stopped) (listed : replica.view.alive ≠ [])
    (split : 0 < replica.layout.partitions) (numbered : replica.layout.partitions < UInt32.size)
    (same : log.partitions = replica.layout.partitions)
    (alike : log.finder = replica.layout.finder) :
    let after := replica.step seen
    ∃ table, RoutingTable.ofBody? (Reply.ofPartitionMap after.partitionMap).body = some table ∧
      (replica.layout.standbys.toNat + 1 ≠ UInt64.size →
        table.partitions = replica.layout.partitions ∧ table.isComplete = true ∧
        ∀ (discovery : Option Endpoint) (type : KeyType) (key : type.Key) (value : Option Bytes)
          (timestamp : Nat),
          let router : Router := ⟨discovery, replica.layout.finder, table⟩
          let record : Record := ⟨type.encode key, value, timestamp⟩
          ∃ location, after.locate record.key = .ok location ∧
            router.find type key = .ok (.direct location.active) ∧
            log.position record.key = (location.partition, log.endOffset location.partition) ∧
            ∀ number, (log.append record).partition number =
              log.partition number ++ if number = location.partition then [record] else []) ∧
      (replica.layout.standbys.toNat + 1 = UInt64.size → table = .empty ∧
        ∀ key, after.locate key = .error .storeNotAvailable) := by
  intro after
  obtain ⟨running, view, layout, owners⟩ := replica.step_running seen going
  replace listed : after.view.alive ≠ [] := view ▸ listed
  rw [← layout] at split numbered same alike ⊢
  refine ⟨_, ofBody?_partitionMap owners (Nat.le_of_lt numbered), fun word => ?_,
    fun beyond => ?_⟩
  · have owned : after.layout.HasOwners after.view := ⟨mt Layout.copies_eq_zero_iff.1 word, listed⟩
    have keys := keys_of_partitionMap owners owned
    have count := @RoutingTable.partitions_of_keys ⟨after.activeHosts⟩ _ keys
    refine ⟨count, RoutingTable.isComplete_of_keys keys,
      fun discovery type key value timestamp => ?_⟩
    intro router record
    have within : after.place record.key < after.layout.partitions :=
      after.layout.finder.place_lt _ split
    have place : log.place record.key = after.place record.key := by
      rw [Log.place, same, alike]
      rfl
    obtain ⟨standbys, located⟩ := locate_eq running owners owned within
    refine ⟨_, located, RoutingTable.find_eq ?_, ?_, fun number => ?_⟩
    · rw [count]
      exact find?_activeHosts owners owned within
    · rw [Log.position, place]
    · rw [Log.partition_append, place]
      simp only [eq_comm (b := number)]
      rfl
  · have uncopied : after.layout.copies = 0 := Layout.copies_eq_zero_iff.2 beyond
    refine ⟨congrArg RoutingTable.mk (SortedMap.ext (partitionMap_of_uncopied owners uncopied)),
      fun key => ?_⟩
    exact locate_of_uncopied running owners uncopied (after.layout.finder.place_lt _ split)

/-- Two members share three partitions: the key is looked for at the one that has its
partition. -/
theorem routing_agrees_with_placement_shared :
    let left := Member.fixed "a" ⟨.v4 0x7F000001, 8001, 0⟩
    let right := Member.fixed "b" ⟨.v4 0x7F000001, 8002, 0⟩
    let created := create ⟨"t", .string, .string, .mutable, none, none⟩ ⟨3, 1, .murmur⟩
      ⟨left, [right, left]⟩
    let after := created.step (.empty 3 .murmur)
    ∃ table, RoutingTable.ofBody? (Reply.ofPartitionMap after.partitionMap).body = some table ∧
      table.partitions = 3 ∧
      (Router.mk none .murmur table).find .string "key" = .ok (.direct right.host) := by
  intro left right created after
  obtain ⟨table, read, agrees, -⟩ := routing_agrees_with_placement created (.empty 3 .murmur)
    (.empty 3 .murmur) nofun nofun (by decide) (by decide) rfl rfl
  obtain ⟨count, -, agrees⟩ := agrees (by decide)
  obtain ⟨location, located, found, -⟩ := agrees none .string "key" none 0
  have active : (after.locate (Utf8.encode "key")).toOption.map KeyLocation.active =
      some right.host := by decide +kernel
  rw [show after.locate (Utf8.encode "key") = .ok location from located] at active
  exact ⟨table, read, count, Option.some.inj active ▸ found⟩

/-- Asked for as many standbys as a machine word can count, a replica publishes a map from which
no key finds a host, although it runs and counts on itself. -/
theorem unrouted_beyond_word :
    let self := Member.fixed "a" ⟨.v4 0x7F000001, 8001, 0⟩
    let created := create ⟨"t", .string, .string, .mutable, none, none⟩
      ⟨1, 18446744073709551615, .murmur⟩ ⟨self, [self]⟩
    let after := created.step (.empty 1 .murmur)
    ∃ table, RoutingTable.ofBody? (Reply.ofPartitionMap after.partitionMap).body = some table ∧
      table.partitions ≠ 1 ∧
      (Router.mk none .murmur table).find .string "key" = .error .routerNotInitialized := by
  intro self created after
  obtain ⟨-, -, layout, owners⟩ := created.step_running (.empty 1 .murmur) nofun
  have uncopied : after.layout.copies = 0 :=
    (congrArg Layout.copies layout).trans (by decide : (1 + 18446744073709551615 : UInt64) = 0)
  have empty : after.activeHosts = .empty :=
    SortedMap.ext (partitionMap_of_uncopied owners uncopied)
  refine ⟨_, ofBody?_partitionMap owners (by decide), ?_, ?_⟩ <;> rw [empty]
  · decide
  · rfl

end Replica

end ShardedView
