import ShardedView.Proofs.Client.Partitioned
import ShardedView.Proofs.Query.Scan

/-!
The scan of a client that knows the hosts of all partitions: it asks each host once, and
puts together the value of each key, once.
-/

namespace ShardedView

open Errand (isFallback isUnreachable)
open Http (Reply Traced)
open Http.Exchange (outcome outcome_bind outcome_lift)

namespace Routes

variable {type : KeyType}

/-- The scan of a client, if each host replies with values that it has itself. -/
theorem result_getAll (routes : Routes type) (send : Sender) (known : routes.hosts ≠ [])
    (valuesAt : Endpoint → List Json)
    (asked : ∀ host ∈ routes.hosts, ∃ received,
      (do send (← host.allUrl) : Http.Exchange Received).outcome = .ok received ∧
        received.isFallback = false ∧ received.values = .ok (valuesAt host)) :
    (routes.getAll send).result = ⟨.ok (routes.hosts.flatMap valuesAt), false⟩ := by
  have filled : routes.hosts.isEmpty = false := List.isEmpty_eq_false_iff.2 known
  let request := fun host : Endpoint => (do Errand.send (← host.allUrl) : Errand type Received).run
  have told : ∀ host, routes.conclusion send (request host) =
      (do send (← host.allUrl) : Http.Exchange Received).outcome := by
    intro host
    rw [conclusion_errand, outcome_bind]
    rfl
  have quiet : ∀ host, routes.isOutdated send (request host) = false := by
    intro host
    rw [isOutdated_errand]
    cases host.allUrl <;> rfl
  have replies : routes.conclusion send (routes.hosts.mapM request) =
      routes.hosts.map fun host => (do send (← host.allUrl) : Http.Exchange Received).outcome := by
    rw [conclusion_mapM]
    exact List.map_congr_left fun host _ => told host
  have silent : routes.isOutdated send (routes.hosts.mapM request) = false := by
    rw [isOutdated_mapM, List.any_eq_false]
    exact fun host _ => Bool.not_eq_true _ ▸ quiet host
  have primary : (routes.hosts.map fun host =>
      (do send (← host.allUrl) : Http.Exchange Received).outcome).any
        (fun reply => isFallback reply || isUnreachable reply) = false := by
    rw [List.any_map, List.any_eq_false]
    intro host member
    obtain ⟨received, replied, primary, -⟩ := asked host member
    rw [Function.comp_apply, replied]
    simp only [isFallback, isUnreachable, primary, Bool.or_self, Bool.false_eq_true,
      not_false_eq_true]
  have listed : routes.conclusion send Errand.hosts.run = .ok routes.hosts := rfl
  rw [getAll, Errand.getAll, result_run_bind routes send listed rfl, filled,
    if_neg Bool.false_ne_true]
  rw [result_run_bind routes send ((routes.conclusion_lift send _).trans (congrArg _ replies))
    ((routes.isOutdated_lift send _).trans silent), primary,
    result_run_bind routes send (routes.conclusion_heed send false) rfl]
  refine congrArg (Verdict.mk · false) (collect_eq fun host member => ?_)
  obtain ⟨received, replied, -, values⟩ := asked host member
  exact (congrArg (· >>= Received.values) replied).trans values

end Routes

namespace Cluster.IsUniform

variable {cluster : Cluster} {replicas : List Replica} {log : Log} {replica told : Replica}

theorem outcome_allUrl (uniform : cluster.IsUniform replicas log) (member : replica ∈ replicas)
    (hops : Nat) :
    (do (cluster.network (hops + 1)).sender (← (Endpoint.direct replica.host).allUrl) :
        Http.Exchange Received).outcome = Received.ofReply (.ofValues replica.getAll) := by
  obtain ⟨url, name, known, found, reached⟩ := uniform.delivers replica member
  obtain ⟨allUrl, built, server, reply⟩ :=
    Endpoint.allUrl_eq (show (Endpoint.direct replica.view.self.host).url "/" = _ from known)
  rw [← server] at found reached
  rw [outcome_bind, outcome_lift,
    Failure.bind_of_ok (show (Endpoint.direct replica.host).allUrl = _ from built),
    outcome_sender_of_found found reached, answer, reply]
  rfl

/-- The replica at the host of a partition replies with the values of all partitions that
are looked for there. -/
theorem exists_received (uniform : cluster.IsUniform replicas log) (among : told ∈ replicas)
    (owned : told.layout.HasOwners told.view) (readable : log.IsReadable told.topic)
    (partition hops : Nat) :
    let host := told.activeHost owned partition
    ∃ received, (do (cluster.network (hops + 1)).sender (← (Endpoint.direct host).allUrl) :
        Http.Exchange Received).outcome = .ok received ∧
      received.isFallback = false ∧ received.values = .ok (told.valuesAt log owned host) := by
  intro host
  obtain ⟨replica, member, same⟩ :=
    uniform.agrees.exists_replica_of_activeHost among owned partition
  have sendable : ∀ value ∈ told.valuesAt log owned host,
      value.IsPlain 125 ∧ value.IsCanonical := by
    intro value found
    obtain ⟨number, -, inside⟩ := List.mem_flatMap.1 found
    obtain ⟨bytes, stored, rfl⟩ := List.mem_map.1 inside
    obtain ⟨value, decoded, plain⟩ := readable bytes (Log.mem_values_of_mem_valuesIn stored)
    rw [DataType.shown, decoded]
    exact ⟨plain, DataType.isCanonical_of_decode decoded⟩
  have replied := uniform.outcome_allUrl member hops
  rw [uniform.getAll_eq member among owned readable, same] at replied
  rw [show host = _ from rfl, replied]
  exact Received.ofReply_ofValues false (fun value found => (sendable value found).1)
    fun value found => (sendable value found).2

end Cluster.IsUniform

/-- What is found at the hosts of all partitions is the value of each key, once. -/
theorem Replica.perm_valuesAt (told : Replica) (log : Log)
    (owned : told.layout.HasOwners told.view)
    (same : told.layout.partitions = log.partitions) (split : 0 < log.partitions)
    {hosts : List String} (distinct : hosts.Nodup)
    (covered : ∀ partition < told.layout.partitions, told.activeHost owned partition ∈ hosts) :
    (hosts.flatMap (told.valuesAt log owned)).Perm
      ((log.values told.topic).map told.topic.valueType.shown) := by
  have grouped := perm_flatMap_filter (told.activeHost owned) distinct
    fun partition member => covered partition (List.mem_range.1 member)
  have values := (log.perm_valuesIn told.topic split).map told.topic.valueType.shown
  rw [List.map_flatMap, ← same] at values
  have regrouped : hosts.flatMap (told.valuesAt log owned) = (hosts.flatMap fun host =>
      (List.range told.layout.partitions).filter fun partition =>
        told.activeHost owned partition = host).flatMap fun partition =>
          (log.valuesIn told.topic partition).map told.topic.valueType.shown :=
    List.flatMap_assoc.symm
  rw [regrouped]
  exact (grouped.flatMap_right _).trans values

/-- In a cluster whose replicas agree on their members, of whom there are some, and on
partitions, of which there are some, a client that has the partition map of any replica scans
the value of each key once, and has no cause to ask for another map. One more than the standbys
must not be beyond a machine word. -/
theorem Router.scan_whole_log (cluster : Cluster) (replicas : List Replica) (log : Log)
    (uniform : cluster.IsUniform replicas log) (told : Replica) (among : told ∈ replicas)
    (listed : told.view.alive ≠ []) (word : told.layout.standbys.toNat + 1 ≠ UInt64.size)
    (split : 0 < told.layout.partitions)
    (numbered : told.layout.partitions < UInt32.size) (readable : log.IsReadable told.topic) :
    ∃ table, RoutingTable.ofBody? (Reply.ofPartitionMap told.partitionMap).body = some table ∧
      ∃ values, (log.values told.topic).mapM told.topic.valueType.decode = .ok values ∧
        ∀ (discovery fallback : Option Endpoint) (draw hops : Nat),
          let network := cluster.network (hops + 1)
          let router : Router := ⟨discovery, told.layout.finder, table⟩
          let scan := (Routes.ofRouter told.topic.keyType router fallback draw).getAll
            network.sender
          ∃ found, scan.result = ⟨.ok found, false⟩ ∧ found.Perm values ∧
            router.call network scan = ⟨(router, .ok found), scan.sent⟩ := by
  have owned : told.layout.HasOwners told.view := ⟨mt Layout.copies_eq_zero_iff.1 word, listed⟩
  have owners := (uniform.isCurrent among).owners
  have same := (uniform.shares told among).partitions
  have decodable : ∀ bytes ∈ log.values told.topic, ∃ value,
      told.topic.valueType.decode bytes = .ok value := fun bytes stored =>
    let ⟨value, decoded, _⟩ := readable bytes stored
    ⟨value, decoded⟩
  let table : RoutingTable := ⟨told.activeHosts⟩
  have hosts : ∀ host, host ∈ table.distinctHosts ↔
      ∃ partition < told.layout.partitions, told.activeHost owned partition = host := by
    intro host
    have values : table.hosts.values =
        (List.range told.layout.partitions).map (told.activeHost owned) := by
      show told.partitionMap.map (·.2) = _
      rw [Replica.partitionMap_eq owners owned, List.map_map]
      rfl
    rw [RoutingTable.mem_distinctHosts, values, List.mem_map]
    simp only [List.mem_range]
  refine ⟨table, Replica.ofBody?_partitionMap owners (Nat.le_of_lt numbered),
    _, DataType.mapM_decode decodable, fun discovery fallback draw hops => ?_⟩
  intro network router scan
  have known : table.endpoints ≠ [] := by
    rw [RoutingTable.endpoints_eq, Ne, List.map_eq_nil_iff]
    exact List.ne_nil_of_mem ((hosts _).2 ⟨0, split, rfl⟩)
  have scanned : scan.result =
      ⟨.ok (table.distinctHosts.flatMap (told.valuesAt log owned)), false⟩ := by
    refine (Routes.result_getAll _ network.sender known
      (fun endpoint => told.valuesAt log owned endpoint.host) fun endpoint member => ?_).trans ?_
    · obtain ⟨host, found, rfl⟩ := List.mem_map.1 member
      obtain ⟨partition, -, rfl⟩ := (hosts host).1 found
      exact uniform.exists_received among owned readable partition hops
    · rw [Routes.ofRouter, RoutingTable.endpoints_eq, List.flatMap_map]
      rfl
  refine ⟨_, scanned, told.perm_valuesAt log owned same (same ▸ split) table.nodup_distinctHosts
    fun partition within => (hosts _).2 ⟨partition, within, rfl⟩, ?_⟩
  rw [call_of_current (by rw [scanned]), scanned]

/-- One of two replicas has the only partition, and the other one's map leads there. -/
theorem Router.scan_whole_log_counting :
    let left := Member.fixed "a" ⟨.v4 0x7F000001, 8001, 0⟩
    let right := Member.fixed "b" ⟨.v4 0x7F000001, 8002, 0⟩
    let owner := (Replica.counting left [left, right]).replica
    let other := (Replica.counting right [right, left]).replica
    let cluster : Cluster :=
      ⟨[(left.host, .replica owner), (right.host, .replica other)], fun _ => true⟩
    ∃ table, RoutingTable.ofBody? (Reply.ofPartitionMap other.partitionMap).body = some table ∧
      ((Routes.ofRouter other.topic.keyType ⟨none, .murmur, table⟩ none 0).getAll
        (cluster.network 1).sender).result = ⟨.ok [.str "v"], false⟩ := by
  intro left right owner other cluster
  let log : Log := ⟨1, .murmur, [⟨Utf8.encode "k", some (Utf8.encode "v"), 0⟩]⟩
  have topic : other.topic = ⟨"t", .string, .string, .mutable, none, none⟩ :=
    Replica.topic_counting ..
  have layout : other.layout = ⟨1, 0, .murmur⟩ := Replica.layout_counting ..
  have stored : log.values other.topic = [Utf8.encode "v"] := by
    rw [topic]
    decide +kernel
  have decoded : other.topic.valueType.decode (Utf8.encode "v") = .ok (.str "v") := by
    rw [topic]
    rfl
  have readable : log.IsReadable other.topic := by
    intro bytes member
    rw [stored, List.mem_singleton] at member
    exact ⟨.str "v", member ▸ decoded, .str "v"⟩
  obtain ⟨table, read, values, expected, scans⟩ := scan_whole_log cluster [owner, other] log
    Replica.isUniform_counting other (.tail _ (.head _)) (by rw [Replica.view_counting]; nofun)
    (by rw [layout]; decide) (by rw [layout]; decide) (by rw [layout]; decide) readable
  obtain ⟨found, scanned, permuted, -⟩ := scans none none 0 0
  rw [layout] at scanned
  rw [stored, List.mapM_cons, decoded] at expected
  obtain rfl := Except.ok.inj expected
  rw [List.perm_singleton.1 permuted] at scanned
  exact ⟨table, read, scanned⟩

/-! ### Without partitions or members -/

theorem Routes.getAll_of_no_hosts {type : KeyType} {routes : Routes type}
    (nobody : routes.hosts = []) (send : Sender) :
    (routes.getAll send).result = .failed .routerNotInitialized := by
  have listed : routes.conclusion send Errand.hosts.run = .ok [] := congrArg _ nobody
  rw [getAll, Errand.getAll, result_run_bind routes send listed rfl]
  rfl

theorem RoutingTable.ofBody?_nil : ofBody? (Reply.ofPartitionMap []).body = some .empty :=
  congrArg (Option.map mk) (@Json.Document.numberedTexts?_print .empty nofun)

namespace Replica

def idle (self : Member) (layout : Layout) (alive : List Member) : Site :=
  (Site.start ⟨"t", .string, .string, .mutable, none, none⟩ layout ⟨self, []⟩
    layout.partitions).run ([.members alive] ++ [.step])

theorem view_idle (self : Member) (layout : Layout) (alive : List Member) :
    (idle self layout alive).replica.view = ⟨self, alive⟩ := by
  rw [idle, Site.run_append]
  exact view_stepAmid _ _ _

theorem isUniform_idle {self : Member} {layout : Layout} {alive : List Member}
    (own : ∀ member ∈ alive, member = self) (name : String) (host : self.host = name)
    (known : ((Endpoint.direct name).url "/").toOption.map
      (fun url => String.ofList url.server) = some name) :
    let site := idle self layout alive
    Cluster.IsUniform ⟨[(name, .replica site.replica)], fun _ => true⟩ [site.replica] site.log := by
  intro site
  have view : site.replica.view = ⟨self, alive⟩ := view_idle self layout alive
  have shares : site.replica.Shares site.log :=
    shares_after_step _ layout _ [.members alive] rfl (by simp)
  have alone : ∀ {property : Replica → Prop}, property site.replica →
      ∀ replica ∈ [site.replica], property replica :=
    fun holds replica member => List.mem_singleton.1 member ▸ holds
  refine ⟨⟨alone (alone fun _ => rfl), alone (alone rfl),
    alone (alone fun member listed => ⟨member, listed, rfl⟩), alone fun member listed => ?_,
    alone ?_⟩, alone shares, alone ?_, alone (alone rfl)⟩
  · rw [view] at listed
    refine ⟨site.replica, .head _, ?_⟩
    rw [own member listed, Replica.host, view]
    exact ⟨rfl, rfl⟩
  · refine Cluster.delivers_of_found name ?_ (by simp) rfl
    rw [Replica.host, view, host, known]
  · exact (Site.isCurrent_after_step _ layout _ _ [.members alive] rfl (by simp)).isSettled

/-- Although the replicas agree and there is nothing to be found, a scan fails if there are no
partitions, and if there are no members. -/
theorem scan_of_idle :
    let self := Member.fixed "a" ⟨.v4 0x7F000001, 8001, 0⟩
    ∀ site ∈ [idle self ⟨0, 0, .murmur⟩ [self], idle self ⟨1, 0, .murmur⟩ []],
      let cluster : Cluster := ⟨[("127.0.0.1:8001", .replica site.replica)], fun _ => true⟩
      cluster.IsUniform [site.replica] site.log ∧ site.log.values site.replica.topic = [] ∧
        ∃ table, RoutingTable.ofBody? (Reply.ofPartitionMap site.replica.partitionMap).body =
            some table ∧
          ∀ discovery fallback draw hops,
            let router : Router := ⟨discovery, site.replica.layout.finder, table⟩
            ((Routes.ofRouter site.replica.topic.keyType router fallback draw).getAll
              (cluster.network hops).sender).result = .failed .routerNotInitialized := by
  intro self site member cluster
  have uniform : cluster.IsUniform [site.replica] site.log := by
    have host : self.host = "127.0.0.1:8001" := by decide +kernel
    rcases member with _ | ⟨_, _ | ⟨_, member⟩⟩
    · exact isUniform_idle (fun _ => List.mem_singleton.1) _ host (by decide +kernel)
    · exact @isUniform_idle self ⟨1, 0, .murmur⟩ [] nofun _ host (by decide +kernel)
    · contradiction
  have empty : site.log.records = [] ∧ site.replica.partitionMap = [] := by
    rcases member with _ | ⟨_, _ | ⟨_, member⟩⟩
    · exact ⟨rfl, by decide +kernel⟩
    · exact ⟨rfl, by decide +kernel⟩
    · contradiction
  refine ⟨uniform, ?_, .empty, ?_,
    fun discovery fallback draw hops => Routes.getAll_of_no_hosts rfl _⟩
  · rw [Log.values, empty.1]
    rfl
  · rw [empty.2, RoutingTable.ofBody?_nil]

end Replica

end ShardedView
