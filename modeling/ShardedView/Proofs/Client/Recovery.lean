import ShardedView.Proofs.Client.Call
import ShardedView.Proofs.Query.Scan

/-!
How a client with a wrong routing table finds its way in a cluster whose replicas agree: the first
reply that is marked makes it take over the partition map of a replica, and from then on it asks
for each key at the active host of its partition, which answers at first hand.
-/

namespace ShardedView

open Errand (isFallback isUnreachable)
open Http (Network Reply Url)
open Http.Exchange (outcome)

variable {type : KeyType}

namespace Received

theorem isUnreachable_ofReply (reply : Reply) : isUnreachable (ofReply reply) = false := by
  cases received : ofReply reply with
  | ok received => rfl
  | error failure =>
    cases failure with
    | unreachable host reason =>
      exact absurd received (Routes.not_unreachable_of_reply reply host reason)
    | _ => rfl

theorem stale_of_isFallback {reply : Reply} (marked : Errand.isFallback (ofReply reply) = true) :
    reply.stale = true := by
  cases stale : reply.stale with
  | true => rfl
  | false =>
    simp only [ofReply, stale, Bool.false_eq_true, if_false] at marked
    split at marked
    · cases marked
    · split at marked <;> cases marked

end Received

/-- A key of another type that is written in the same way has the same bytes. -/
theorem KeyType.encode_eq_of_ofText {left right : KeyType} (same : left = right) {key : right.Key}
    {twin : left.Key} (read : left.ofText (right.toText key) = .ok twin) :
    left.encode twin = right.encode key := by
  subst same
  rw [ofText_toText] at read
  rw [Except.ok.inj read]

/-- Whether the texts of all keys that an operation names stand for themselves. -/
def Operation.IsVerbatim (operation : Operation type) : Prop :=
  type = .string → ∀ key ∈ operation.keys, ShardedView.IsVerbatim (type.toText key)

theorem Operation.IsVerbatim.isVerbatim {operation : Operation type}
    (verbatim : operation.IsVerbatim) {key : type.Key} (named : key ∈ operation.keys) :
    ShardedView.IsVerbatim (type.toText key) := by
  by_cases string : type = .string
  · exact verbatim string key named
  · exact KeyType.isVerbatim_toText string key

theorem flatMap_cons_eq_map {α β : Type} {list : List α} {first : α → β} {rest : α → List β}
    (alone : ∀ item ∈ list, rest item = []) :
    (list.flatMap fun item => first item :: rest item) = list.map first := by
  induction list with
  | nil => rfl
  | cons item others ih =>
    rw [List.flatMap_cons, alone item (.head _),
      ih fun other listed => alone other (.tail _ listed)]
    rfl

/-- Whether a newer routing is not asked for in a call, and no server sends anything for it. -/
structure Call.IsFirstHand (call : Call type) (network : Network) (router : Router) : Prop where
  quiet : Event.refreshes (call.events network router) = 0
  sent : (call.perform network router).sent =
    (Event.requests (call.events network router)).map (·.1)

def Router.behind (network : Network) (router : Router) (calls : List (Call type)) : Router :=
  calls.foldl (fun router call => (call.perform network router).result.1) router

theorem Router.behind_nil (network : Network) (router : Router) :
    router.behind network ([] : List (Call type)) = router :=
  rfl

theorem Router.behind_eq {network : Network} {router : Router} {calls : List (Call type)}
    (firstHand : ∀ call ∈ calls, call.IsFirstHand network router) :
    router.behind network calls = router := by
  induction calls with
  | nil => rfl
  | cons call rest ih =>
    have same : (call.perform network router).result.1 = router := by
      rw [Call.router_perform, if_pos (firstHand call (.head _)).quiet]
    rw [behind, List.foldl_cons, same]
    exact ih fun call listed => firstHand call (.tail _ listed)

theorem Router.isFirstHand_behind {network : Network} {router : Router} {later : List (Call type)}
    (firstHand : ∀ call ∈ later, call.IsFirstHand network router)
    {earlier : List (Call type)} {next : Call type} (within : earlier ++ [next] <+: later) :
    next.IsFirstHand network (router.behind network earlier) := by
  have inside := within.subset
  rw [behind_eq fun call listed => firstHand call (inside (List.mem_append_left _ listed))]
  exact firstHand next (inside (List.mem_append_right _ (.head _)))

def RoutingTable.NamesOnly (table : RoutingTable) (replicas : List Replica) : Prop :=
  ∀ host ∈ table.hosts.values, ∃ replica ∈ replicas, replica.host = host

theorem RoutingTable.NamesOnly.exists_replica {table : RoutingTable} {replicas : List Replica}
    (names : table.NamesOnly replicas) {endpoint : Endpoint} (listed : endpoint ∈ table.endpoints) :
    ∃ replica ∈ replicas, endpoint = .direct replica.host := by
  rw [endpoints_eq] at listed
  obtain ⟨host, among, rfl⟩ := List.mem_map.1 listed
  obtain ⟨replica, member, rfl⟩ := names host (mem_distinctHosts.1 among)
  exact ⟨replica, member, rfl⟩

/-- Whether a router finds each key at a replica that asks nobody else for it. -/
structure Router.IsRight (type : KeyType) (router : Router) (replicas : List Replica) :
    Prop where
  names : router.table.NamesOnly replicas
  keeps : ∀ (key : type.Key), ∀ replica ∈ replicas,
    router.find type key = .ok (.direct replica.host) → replica.Keeps (type.encode key)

namespace Cluster

variable {cluster : Cluster} {replicas : List Replica} {replica told : Replica}

/-- Whoever is asked under a host for its partition map, a replica gives its own. -/
def Publishes (cluster : Cluster) (endpoint : Endpoint) (replica : Replica) : Prop :=
  ∃ url, endpoint.partitionsUrl = .ok url ∧ ∀ hops,
    (cluster.network (hops + 1) url).result = some (.ofPartitionMap replica.partitionMap)

theorem publishes_of_delivers (delivers : cluster.Delivers replica) :
    cluster.Publishes (.direct replica.host) replica := by
  obtain ⟨base, name, known, found, reached⟩ := delivers
  obtain ⟨url, built, server, reply⟩ :=
    Endpoint.partitionsUrl_eq (show (Endpoint.direct replica.view.self.host).url "/" = _ from known)
  rw [← server] at found reached
  refine ⟨url, built, fun hops => ?_⟩
  rw [network_of_found found reached, answer, reply]
  rfl

theorem network_of_contact (delivers : cluster.Delivers replica) {contact : Contact}
    {texts : List String} (asks : contact.IsFor texts)
    (direct : contact.endpoint = .direct replica.host) (hops : Nat) :
    let reply := replica.reply (cluster.network hops).sender (.ofUrl contact.url)
    cluster.network (hops + 1) contact.url = ⟨some reply.result, reply.sent⟩ := by
  obtain ⟨base, name, known, found, reached⟩ := delivers
  have server := asks.server direct known
  rw [← server] at found reached
  exact network_of_found found reached hops

namespace Agrees

theorem isReached (agrees : cluster.Agrees replicas) {table : RoutingTable}
    (names : table.NamesOnly replicas) (hops : Nat) :
    Call.IsReached (cluster.network (hops + 1)) table where
  wellFormed endpoint listed := by
    obtain ⟨replica, member, rfl⟩ := names.exists_replica listed
    obtain ⟨url, -, known, -⟩ := agrees.delivers replica member
    exact ⟨url, known⟩
  reached contact texts listed asks := by
    obtain ⟨replica, member, direct⟩ := names.exists_replica listed
    rw [Network.outcome_sender, network_of_contact (agrees.delivers replica member) asks direct]
    exact Received.isUnreachable_ofReply _

theorem exists_owner_of_marked (agrees : cluster.Agrees replicas) {router : Router}
    (names : router.table.NamesOnly replicas) {operation : Operation type} {contact : Contact}
    (suits : Call.Suits contact operation router) {hops : Nat}
    (marked : isFallback ((cluster.network (hops + 1)).sender contact.url).outcome = true) :
    ∃ replica ∈ replicas, ∃ key active standbys,
      replica.owners.find? (replica.place key) = some (active :: standbys) := by
  obtain ⟨replica, member, direct⟩ := names.exists_replica suits.listed
  obtain ⟨keys, asks, -⟩ := suits.asks
  rw [Network.outcome_sender, network_of_contact (agrees.delivers replica member) asks direct]
    at marked
  refine ⟨replica, member, ?_⟩
  refine Classical.byContradiction fun nobody => ?_
  have keeps : ∀ key, replica.Keeps key := fun key active standbys found =>
    absurd ⟨key, active, standbys, found⟩ nobody
  have unmarked := (Replica.isFirstHand_reply fun text _ key _ => keeps _ :
    Reply.IsFirstHand (replica.reply (cluster.network hops).sender (.ofUrl contact.url))).unmarked
  rw [Received.stale_of_isFallback marked] at unmarked
  cases unmarked

theorem isFirstHand_contact (agrees : cluster.Agrees replicas) {router : Router}
    (right : router.IsRight type replicas)
    (keyed : ∀ replica ∈ replicas, replica.topic.keyType = type) {operation : Operation type}
    (verbatim : operation.IsVerbatim) {contact : Contact}
    (suits : Call.Suits contact operation router) (hops : Nat) :
    let network := cluster.network (hops + 1)
    isFallback (network.sender contact.url).outcome = false ∧ (network contact.url).sent = [] := by
  intro network
  obtain ⟨replica, member, host⟩ := right.names.exists_replica suits.listed
  obtain ⟨keys, asks, here⟩ := suits.asks
  have own : ∀ text ∈ keys.map type.toText, ShardedView.IsVerbatim text := by
    intro text named
    obtain ⟨key, among, rfl⟩ := List.mem_map.1 named
    exact verbatim.isVerbatim (here key among).1
  have keeps : replica.KeepsTexts (keys.map type.toText) := by
    intro text named twin read
    obtain ⟨key, among, rfl⟩ := List.mem_map.1 named
    rw [KeyType.encode_eq_of_ofText (keyed replica member) read]
    exact right.keeps key replica member (host ▸ (here key among).2)
  have delivers := agrees.delivers replica member
  obtain ⟨base, -, known, -⟩ := id delivers
  have firstHand := asks.isFirstHand host known own keeps (cluster.network hops).sender
  rw [Network.outcome_sender, show network contact.url = _ from
    network_of_contact delivers asks host hops]
  refine ⟨?_, firstHand.sent⟩
  rw [← Bool.not_eq_true]
  intro marked
  have stale := Received.stale_of_isFallback marked
  rw [firstHand.unmarked] at stale
  cases stale

theorem isFirstHand_call (agrees : cluster.Agrees replicas) {router : Router}
    (right : router.IsRight type replicas)
    (keyed : ∀ replica ∈ replicas, replica.topic.keyType = type) (call : Call type)
    (verbatim : call.operation.IsVerbatim) (hops : Nat) :
    call.IsFirstHand (cluster.network (hops + 1)) router := by
  let network := cluster.network (hops + 1)
  obtain ⟨contacts, direct⟩ := call.exists_direct (agrees.isReached right.names hops)
  have unmarked : (contacts.any fun contact => isFallback contact.answer) = false := by
    rw [List.any_eq_false]
    intro contact listed
    have answer : contact.answer = (network.sender contact.url).outcome :=
      Call.answer_of_mem_requests
        (direct.requests ▸ List.mem_map_of_mem listed : contact.request ∈ _)
    have suits := direct.suits contact listed
    rw [answer, (agrees.isFirstHand_contact right keyed verbatim suits hops).1]
    exact Bool.false_ne_true
  have quiet : Event.refreshes (call.events network router) = 0 := by
    rw [direct.refreshes, unmarked]
    rfl
  refine ⟨quiet, (Call.sent_perform quiet).trans (flatMap_cons_eq_map fun request listed => ?_)⟩
  rw [direct.requests] at listed
  obtain ⟨contact, member, rfl⟩ := List.mem_map.1 listed
  exact (agrees.isFirstHand_contact right keyed verbatim (direct.suits contact member) hops).2

theorem namesOnly_activeHosts (agrees : cluster.Agrees replicas) (among : told ∈ replicas)
    (owned : told.layout.HasOwners told.view) :
    RoutingTable.NamesOnly ⟨told.activeHosts⟩ replicas := by
  intro host member
  replace member : host ∈ told.partitionMap.map (·.2) := member
  rw [Replica.partitionMap_eq (agrees.owners told among) owned, List.map_map] at member
  obtain ⟨partition, -, rfl⟩ := List.mem_map.1 member
  exact agrees.exists_replica_of_activeHost among owned partition

/-- In the partition map of a replica each key is found where all replicas locate it. -/
theorem find_activeHosts (agrees : cluster.Agrees replicas) (among : told ∈ replicas)
    (owned : told.layout.HasOwners told.view) (split : 0 < told.layout.partitions)
    (key : type.Key) :
    ∃ location, RoutingTable.find ⟨told.activeHosts⟩ told.layout.finder type key =
        .ok (.direct location.active) ∧
      ∀ replica ∈ replicas, replica.locate (type.encode key) = .ok location := by
  have owners := agrees.owners told among
  have within : told.place (type.encode key) < told.layout.partitions :=
    told.layout.finder.place_lt _ split
  obtain ⟨standbys, located⟩ :=
    Replica.locate_eq (agrees.running told among) owners owned within
  refine ⟨_, RoutingTable.find_eq ?_, fun replica member =>
    (agrees.locate_eq member among _).trans located⟩
  have keys := Replica.keys_of_partitionMap owners owned
  rw [@RoutingTable.partitions_of_keys ⟨told.activeHosts⟩ _ keys]
  exact Replica.find?_activeHosts owners owned within

/-- The partition map of a replica makes a router right that places keys as the replica does. -/
theorem isRight_activeHosts (agrees : cluster.Agrees replicas) (among : told ∈ replicas)
    (owned : told.layout.HasOwners told.view) (split : 0 < told.layout.partitions)
    (discovery : Option Endpoint) :
    Router.IsRight type ⟨discovery, told.layout.finder, ⟨told.activeHosts⟩⟩ replicas where
  names := agrees.namesOnly_activeHosts among owned
  keeps := by
    intro key replica member found
    obtain ⟨location, active, located⟩ := agrees.find_activeHosts among owned split key
    have same : location.active = replica.host :=
      congrArg Endpoint.host (Except.ok.inj (active.symm.trans found))
    obtain ⟨-, owners, -⟩ :=
      Replica.eq_of_locateHere (Failure.bind_of_ok (located replica member) _)
    intro other standbys known
    rw [owners] at known
    obtain ⟨rfl, -⟩ := List.cons.inj (Option.some.inj known)
    exact same ▸ List.mem_cons_self

/-- The first host that a router asks is that of a replica, or one that publishes its map. -/
theorem exists_candidate (agrees : cluster.Agrees replicas) {router : Router}
    (names : router.table.NamesOnly replicas)
    (discovery : ∀ endpoint ∈ router.discovery, ∃ told ∈ replicas, cluster.Publishes endpoint told)
    (filled : router.table.endpoints ≠ []) :
    ∃ endpoint rest, router.candidates = endpoint :: rest ∧
      ∃ told ∈ replicas, cluster.Publishes endpoint told := by
  cases known : router.discovery with
  | some endpoint => exact ⟨_, _, Router.candidates_of_some known, discovery endpoint known⟩
  | none =>
    obtain ⟨endpoint, rest, listed⟩ := List.exists_cons_of_ne_nil filled
    have asked := (Router.candidates_of_none known).trans listed
    obtain ⟨replica, member, rfl⟩ := names.exists_replica (listed ▸ List.mem_cons_self)
    exact ⟨_, rest, asked, replica, member, publishes_of_delivers (agrees.delivers replica member)⟩

theorem exists_refreshed (agrees : cluster.Agrees replicas) {router : Router}
    (names : router.table.NamesOnly replicas)
    (discovery : ∀ endpoint ∈ router.discovery, ∃ told ∈ replicas, cluster.Publishes endpoint told)
    (filled : router.table.endpoints ≠ [])
    (numbered : ∀ replica ∈ replicas, replica.layout.partitions < UInt32.size) (hops : Nat) :
    ∃ told ∈ replicas, router.refreshed (cluster.network (hops + 1)) =
      { router with table := ⟨told.activeHosts⟩ } := by
  obtain ⟨endpoint, rest, asked, told, among, url, built, replies⟩ :=
    agrees.exists_candidate names discovery filled
  refine ⟨told, among, Router.refreshed_of_first asked ?_⟩
  exact Router.outcome_fetch built (replies hops) rfl (Replica.ofBody?_partitionMap
    (agrees.owners told among) (Nat.le_of_lt (numbered told among)))

theorem exists_taken (agrees : cluster.Agrees replicas) {router : Router}
    (names : router.table.NamesOnly replicas)
    (discovery : ∀ endpoint ∈ router.discovery, ∃ told ∈ replicas, cluster.Publishes endpoint told)
    (numbered : ∀ replica ∈ replicas, replica.layout.partitions < UInt32.size)
    (call : Call type) (hops : Nat)
    (marked : ∃ request ∈ Event.requests (call.events (cluster.network (hops + 1)) router),
      isFallback request.2 = true) :
    let network := cluster.network (hops + 1)
    Event.refreshes (call.events network router) = 1 ∧
      ∃ told ∈ replicas, told.layout.HasOwners told.view ∧ 0 < told.layout.partitions ∧
        (call.perform network router).result.1 =
          { router with table := ⟨told.activeHosts⟩ } := by
  intro network
  obtain ⟨contacts, direct⟩ := call.exists_direct (agrees.isReached names hops)
  obtain ⟨request, asked, fallback⟩ := marked
  have answer := Call.answer_of_mem_requests asked
  rw [direct.requests] at asked
  obtain ⟨contact, member, rfl⟩ := List.mem_map.1 asked
  have suits := direct.suits contact member
  have once : Event.refreshes (call.events network router) = 1 := by
    rw [direct.refreshes, if_pos (List.any_eq_true.2 ⟨contact, member, fallback⟩)]
  rw [answer] at fallback
  obtain ⟨owner, among, key, active, standbys, found⟩ :=
    agrees.exists_owner_of_marked names suits fallback
  obtain ⟨told, inside, refreshed⟩ := agrees.exists_refreshed names discovery
    (List.ne_nil_of_mem suits.listed) numbered hops
  obtain ⟨owned, split⟩ := agrees.hasOwners_of_found among found told inside
  refine ⟨once, told, inside, owned, split, ?_⟩
  rw [← refreshed, call.router_perform, once]
  rfl

end Agrees

end Cluster

/-- Whatever a client with a wrong table asks replicas that agree, the first marked reply makes it
take over the right table: it finds each key at its active host then, and as long as the replicas
stay as they are, its calls neither ask for a newer routing again, nor make replicas send requests
to each other. -/
theorem Router.recovers (cluster : Cluster) (replicas : List Replica)
    (agrees : cluster.Agrees replicas)
    (keyed : ∀ replica ∈ replicas, replica.topic.keyType = type)
    (numbered : ∀ replica ∈ replicas, replica.layout.partitions < UInt32.size)
    (router : Router) (alike : ∀ replica ∈ replicas, replica.layout.finder = router.finder)
    (names : router.table.NamesOnly replicas)
    (discovery : ∀ endpoint ∈ router.discovery, ∃ told ∈ replicas, cluster.Publishes endpoint told)
    (call : Call type) (hops : Nat)
    (marked : ∃ request ∈ Event.requests (call.events (cluster.network (hops + 1)) router),
      isFallback request.2 = true) :
    let network := cluster.network (hops + 1)
    let recovered := (call.perform network router).result.1
    Event.refreshes (call.events network router) = 1 ∧
    (∀ key, ∃ location, recovered.find type key = .ok (.direct location.active) ∧
      ∀ replica ∈ replicas, replica.locate (type.encode key) = .ok location) ∧
    ∀ later : List (Call type), (∀ call ∈ later, call.operation.IsVerbatim) →
      ∀ earlier next, earlier ++ [next] <+: later →
        let events := next.events network (recovered.behind network earlier)
        Event.refreshes events = 0 ∧
          (next.perform network (recovered.behind network earlier)).sent =
            (Event.requests events).map (·.1) := by
  intro network recovered
  obtain ⟨once, told, among, owned, split, taken⟩ :=
    agrees.exists_taken names discovery numbered call hops marked
  have same : recovered = ⟨router.discovery, told.layout.finder, ⟨told.activeHosts⟩⟩ := by
    rw [alike told among]
    exact taken
  refine ⟨once, ?_, fun later verbatim earlier next within => ?_⟩
  · rw [same]
    exact agrees.find_activeHosts among owned split
  · have firstHand : ∀ call ∈ later, call.IsFirstHand network recovered := by
      rw [same]
      exact fun call inside => agrees.isFirstHand_call
        (agrees.isRight_activeHosts among owned split _) keyed call (verbatim call inside) hops
    have own := Router.isFirstHand_behind firstHand within
    exact ⟨own.quiet, own.sent⟩

/-- A client that has the wrong host of two for the only partition. -/
theorem Router.recovers_counting :
    let left := Member.fixed "a" ⟨.v4 0x7F000001, 8001, 0⟩
    let right := Member.fixed "b" ⟨.v4 0x7F000001, 8002, 0⟩
    let owner := (Replica.counting left [left, right]).replica
    let other := (Replica.counting right [right, left]).replica
    let cluster : Cluster :=
      ⟨[(left.host, .replica owner), (right.host, .replica other)], fun _ => true⟩
    let router : Router := ⟨none, .murmur, ⟨.ofList [(0, "127.0.0.1:8002")]⟩⟩
    let call : Call .string := ⟨.get "k", none, 0⟩
    let network := cluster.network 2
    let recovered := (call.perform network router).result.1
    Event.refreshes (call.events network router) = 1 ∧
      recovered.find .string "k" = .ok (.direct "127.0.0.1:8001") ∧
      Event.refreshes (call.events network recovered) = 0 ∧
      (call.perform network recovered).sent =
        (Event.requests (call.events network recovered)).map (·.1) := by
  intro left right owner other cluster router call
  have agrees : cluster.Agrees [owner, other] := Replica.isUniform_counting.agrees
  have both : ∀ {property : Replica → Prop}, property owner → property other →
      ∀ replica ∈ [owner, other], property replica := by
    rintro property first second replica (_ | ⟨_, _ | ⟨_, member⟩⟩)
    · exact first
    · exact second
    · cases member
  have layouts : ∀ replica ∈ [owner, other], replica.layout = ⟨1, 0, .murmur⟩ :=
    both (Replica.layout_counting ..) (Replica.layout_counting ..)
  have host : other.host = "127.0.0.1:8002" := by
    rw [Replica.host, show other.view = _ from Replica.view_counting ..]
    decide +kernel
  have names : router.table.NamesOnly [owner, other] := by
    intro named listed
    obtain rfl := List.mem_singleton.1 (listed : named ∈ ["127.0.0.1:8002"])
    exact ⟨other, .tail _ (.head _), host⟩
  have located : (owner.locate (Utf8.encode "k")).toOption.map KeyLocation.active =
      some "127.0.0.1:8001" := by decide +kernel
  have marked : ((Event.requests (call.events (cluster.network 2) router)).any fun request =>
      isFallback request.2) = true := by decide +kernel
  have discovery : ∀ endpoint ∈ router.discovery, ∃ told ∈ [owner, other],
      cluster.Publishes endpoint told := by
    intro endpoint known
    cases known
  have recovers := Router.recovers cluster [owner, other] agrees
    (both (congrArg Topic.keyType (Replica.topic_counting ..))
      (congrArg Topic.keyType (Replica.topic_counting ..)))
    (fun replica member => by rw [layouts replica member]; decide) router
    (fun replica member => by rw [layouts replica member]) names discovery call 1
    (List.any_eq_true.1 marked)
  rw [show 1 + 1 = 2 from rfl] at recovers
  obtain ⟨once, finds, later⟩ := recovers
  obtain ⟨location, found, everywhere⟩ := finds "k"
  rw [show owner.locate (Utf8.encode "k") = _ from everywhere owner (.head _)] at located
  have verbatim : ∀ next ∈ [call], next.operation.IsVerbatim := by
    intro next listed _ key named
    obtain rfl := List.mem_singleton.1 listed
    obtain rfl := List.mem_singleton.1 named
    exact ⟨by decide, by decide⟩
  have direct := later [call] verbatim [] call (List.prefix_refl _)
  rw [Router.behind_nil] at direct
  rw [Option.some.inj located] at found
  exact ⟨once, found, direct⟩

end ShardedView
