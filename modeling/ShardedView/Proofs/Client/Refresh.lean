import ShardedView.Proofs.Client.Inquiry
import ShardedView.Proofs.Query.Status

/-!
What refreshes leave of a router. A table that is fetched replaces the old one as a whole, also
where it is empty: a replica publishes an empty partition map until it is assigned partitions.
Whoever knows no discovery host then has nobody left to ask.
-/

namespace ShardedView

open Http (Network Reply)
open Http.Exchange (outcome)

/-! ### Bodies that are tables -/

namespace Json.Document

theorem number32?_field : number32? (pieces Envelope.field) = none := rfl

theorem entries_ne_nil_of_numberedTexts? {members : List (List Piece × Document)}
    {map : SortedMap Nat String} (read : numberedTexts? (.object members) = some map)
    (filled : members ≠ []) : map.entries ≠ [] := by
  rw [numberedTexts?_object] at read
  obtain ⟨entries, done, rfl⟩ := Option.map_eq_some_iff.1 read
  have listed : entries ≠ [] := by
    rintro rfl
    exact filled (List.map_eq_nil_iff.1 (mapM_eq_some_iff.1 done))
  rw [SortedMap.entries_ofList]
  exact SortedMap.foldl_insertEntry_ne_nil (.inr listed)

end Json.Document

namespace RoutingTable

theorem ofBody?_write (value : Json) : ofBody? (Envelope.write value) = none := by
  rw [ofBody?, Envelope.ofBytes?_write]
  simp [Json.Document.numberedTexts?, Json.Document.number32?_field]

theorem isEmpty_of_ofBody? {map : List (Nat × String)} {table : RoutingTable}
    (read : ofBody? (Reply.ofPartitionMap map).body = some table) (filled : map ≠ []) :
    table.isEmpty = false := by
  obtain ⟨hosts, found, rfl⟩ := Option.map_eq_some_iff.1 read
  have listed : map.map Json.numbered ≠ [] := by simpa using filled
  have members : (map.map Json.numbered).foldl
      (fun sorted entry => insertEntry entry.1 entry.2 sorted) [] ≠ [] :=
    SortedMap.foldl_insertEntry_ne_nil (.inr listed)
  have printed : (Json.Document.ofBytes? (Reply.ofPartitionMap map).body) =
      some (Json.ofMembers (map.map Json.numbered)).tree := Json.ofBytes?_print _
  rw [printed, Option.bind_some, Json.ofMembers, Json.tree] at found
  apply List.isEmpty_eq_false_iff.2
  apply Json.Document.entries_ne_nil_of_numberedTexts? found
  intro nothing
  apply members
  generalize List.foldl _ _ _ = sorted at nothing
  cases sorted with
  | nil => rfl
  | cons member rest => exact absurd nothing (List.cons_ne_nil _ _)

end RoutingTable

namespace Router

def refreshed (router : Router) (network : Network) : Router :=
  (router.refresh network).result.1

theorem refreshed_eq (router : Router) (network : Network) :
    router.refreshed network =
      match (fetchFirst network .routerNotInitialized router.candidates).outcome with
      | .ok table => { router with table }
      | .error _ => router := by
  rw [refreshed, result_refresh]
  cases (fetchFirst network .routerNotInitialized router.candidates).outcome <;> rfl

theorem refreshed_of_first {router : Router} {network : Network} {endpoint : Endpoint}
    {rest : List Endpoint} {table : RoutingTable} (asked : router.candidates = endpoint :: rest)
    (fetched : (fetch network endpoint).outcome = .ok table) :
    router.refreshed network = { router with table } := by
  rw [refreshed_eq, asked, outcome_fetchFirst_cons, fetched]

/-- A refresh leaves the router alone, or gives it the table of one of the hosts that it asks. -/
theorem refreshed_cases (router : Router) (network : Network) :
    router.refreshed network = router ∨
      ∃ endpoint ∈ router.candidates, ∃ table, (fetch network endpoint).outcome = .ok table ∧
        router.refreshed network = { router with table } := by
  rw [refreshed_eq]
  rcases fetchFirst_cases network .routerNotInitialized router.candidates with
    ⟨earlier, endpoint, later, table, listed, -, tells, came, -⟩ | ⟨failure, -, -, -, came, -⟩
  · have asked : endpoint ∈ router.candidates := listed ▸ List.mem_append_right _ (.head _)
    exact .inr ⟨endpoint, asked, table, outcome_fetch_eq_iff.2 tells, by rw [came]⟩
  · exact .inl (by rw [came])

/-- Nobody is left to be asked only if there is neither a discovery host nor a table. -/
theorem candidates_ne_nil_iff (router : Router) :
    router.candidates ≠ [] ↔ router.discovery ≠ none ∨ router.table.isEmpty = false := by
  cases known : router.discovery with
  | some discovery => simp [candidates_of_some known]
  | none =>
    have hosts : router.table.distinctHosts ≠ [] ↔ router.table.hosts.entries ≠ [] := by
      constructor
      · intro known
        obtain ⟨host, member⟩ := List.exists_mem_of_ne_nil _ known
        obtain ⟨entry, listed, -⟩ := List.mem_map.1 (RoutingTable.mem_distinctHosts.1 member)
        exact List.ne_nil_of_mem listed
      · intro filled
        obtain ⟨entry, listed⟩ := List.exists_mem_of_ne_nil _ filled
        exact List.ne_nil_of_mem
          (RoutingTable.mem_distinctHosts.2 (List.mem_map_of_mem listed))
    rw [candidates_of_none known, RoutingTable.endpoints_eq, Ne, List.map_eq_nil_iff,
      RoutingTable.isEmpty, List.isEmpty_eq_false_iff, or_iff_right (fun known => known rfl)]
    exact hosts

end Router

/-! ### Refreshes one after another -/

/-- Whatever a replica is asked for, a table in the body of a successful reply is its partition
map. -/
theorem Replica.isEmpty_of_reply {replica : Replica} {network : Network} {target : List Char}
    {reply : Reply} {table : RoutingTable}
    (replied : (replica.reply network.sender (.ofTarget "GET" target)).result = reply)
    (success : 200 ≤ reply.status ∧ reply.status < 300)
    (read : RoutingTable.ofBody? reply.body = some table) (filled : replica.partitionMap ≠ []) :
    table.isEmpty = false := by
  have cases := replica.reply_cases network target
  simp only [replied] at cases
  rcases cases with (failed | ⟨answer, answered⟩) | listed
  · exact absurd success failed
  · rw [answered, Reply.body_ofAnswer, RoutingTable.ofBody?_write] at read
    cases read
  · exact RoutingTable.isEmpty_of_ofBody? (listed ▸ read) filled

/-- Where a host is asked for its partition map, nobody is reached, or a replica that names an
active host for some partition. -/
def Cluster.IsAssigned (cluster : Cluster) (endpoint : Endpoint) : Prop :=
  ∀ url, endpoint.partitionsUrl = .ok url → cluster.reaches (String.ofList url.server) = true →
    ∀ server, (String.ofList url.server, server) ∈ cluster.servers →
      ∃ replica : Replica, server = .replica replica ∧ replica.partitionMap ≠ []

/-- What is fetched from such a replica is no empty table, whatever the host is written like. -/
theorem Cluster.IsAssigned.isEmpty_of_fetch {cluster : Cluster} {endpoint : Endpoint}
    (assigned : cluster.IsAssigned endpoint) {hops : Nat} {table : RoutingTable}
    (fetched : (Router.fetch (cluster.network hops) endpoint).outcome = .ok table) :
    table.isEmpty = false := by
  cases Router.outcome_fetch_eq_iff.1 fetched with
  | @told url reply _ named replied success body =>
    have read := RoutingTable.ofBody?_eq_some_iff.2 body
    cases hops with
    | zero => cases replied
    | succ hops =>
      rw [result_network] at replied
      split at replied
      · next name server found =>
        split at replied
        · next reached =>
          have same : name = String.ofList url.server := by simpa using List.find?_some found
          have listed := List.mem_of_find?_eq_some found
          rw [same] at listed
          obtain ⟨replica, rfl, filled⟩ := assigned url named reached server listed
          exact Replica.isEmpty_of_reply (Option.some.inj replied) success read filled
        · cases replied
      · cases replied

namespace Router

/-- The router after refreshes one after another, each with the cluster as it is then. -/
def refreshedBy (router : Router) (calls : List (Cluster × Nat)) : Router :=
  calls.foldl (fun router call => router.refreshed (call.1.network call.2)) router

theorem isEmpty_refreshed {router : Router} {cluster : Cluster}
    (assigned : ∀ endpoint ∈ router.candidates, cluster.IsAssigned endpoint) (hops : Nat)
    (filled : router.table.isEmpty = false) :
    (router.refreshed (cluster.network hops)).table.isEmpty = false := by
  rcases router.refreshed_cases (cluster.network hops) with
    same | ⟨endpoint, asked, table, fetched, same⟩
  · rw [same]
    exact filled
  · rw [same]
    exact (assigned endpoint asked).isEmpty_of_fetch fetched

theorem discovery_refreshed (router : Router) (network : Network) :
    (router.refreshed network).discovery = router.discovery := by
  rcases router.refreshed_cases network with same | ⟨endpoint, -, table, -, same⟩ <;> rw [same]

theorem discovery_refreshedBy (router : Router) (calls : List (Cluster × Nat)) :
    (router.refreshedBy calls).discovery = router.discovery := by
  induction calls generalizing router with
  | nil => rfl
  | cons call rest ih => exact (ih _).trans (router.discovery_refreshed _)

/-- At each call, the hosts that the router asks then are replicas with partitions, or cannot be
reached. -/
def AsksAssigned (router : Router) (calls : List (Cluster × Nat)) : Prop :=
  ∀ earlier call, earlier ++ [call] <+: calls →
    ∀ endpoint ∈ (router.refreshedBy earlier).candidates, call.1.IsAssigned endpoint

theorem AsksAssigned.mono {router : Router} {calls earlier : List (Cluster × Nat)}
    (assigned : router.AsksAssigned calls) (before : earlier <+: calls) :
    router.AsksAssigned earlier :=
  fun first call within => assigned first call (within.trans before)

theorem isEmpty_refreshedBy {calls : List (Cluster × Nat)} {router : Router}
    (assigned : router.AsksAssigned calls) (filled : router.table.isEmpty = false) :
    (router.refreshedBy calls).table.isEmpty = false := by
  induction calls generalizing router with
  | nil => exact filled
  | cons call rest ih =>
    have first := assigned [] call ⟨rest, rfl⟩
    apply ih _ (isEmpty_refreshed first call.2 filled)
    intro earlier next within
    exact assigned (call :: earlier) next ((List.prefix_cons_inj call).2 within)

/-- Refreshes do not strand a router that has a table: after each of them it knows hosts to ask
at the next one, and without a discovery host it finds hosts for keys, too. Without one it takes
that no replica is asked that has not been assigned partitions yet. -/
theorem refreshes_leave_candidates (router : Router) (calls : List (Cluster × Nat))
    (filled : router.table.isEmpty = false)
    (assigned : router.discovery = none → router.AsksAssigned calls)
    (earlier : List (Cluster × Nat)) (before : earlier <+: calls) :
    let after := router.refreshedBy earlier
    after.candidates ≠ [] ∧ (router.discovery = none →
      ∀ (type : KeyType) (key : type.Key),
        after.find type key ≠ .error .routerNotInitialized) := by
  intro after
  have kept : router.discovery = none → after.table.isEmpty = false := fun alone =>
    isEmpty_refreshedBy ((assigned alone).mono before) filled
  constructor
  · rw [candidates_ne_nil_iff, discovery_refreshedBy]
    by_cases alone : router.discovery = none
    · exact .inr (kept alone)
    · exact .inl alone
  · intro alone type key
    rw [find, RoutingTable.find, kept alone]
    simp only [Bool.false_eq_true, if_false]
    split <;> (intro same; cases same)

/-- A replica that stopped after it had been assigned partitions, and then a network on which
nobody is reached. -/
theorem refreshes_leave_candidates_stopped :
    let self := Member.fixed "a" ⟨.v4 0x7F000001, 8001, 0⟩
    let stopped := (Replica.counting self [self]).replica.stop
    let servers := [("127.0.0.1:8001", Server.replica stopped)]
    let router : Router :=
      ⟨none, .murmur, ⟨.ofList [(0, "127.0.0.1:8001"), (1, "127.0.0.1:8002")]⟩⟩
    let after := router.refreshedBy [(⟨servers, fun _ => true⟩, 1), (⟨servers, fun _ => false⟩, 1)]
    stopped.phase = .stopped ∧ after.candidates ≠ [] ∧
      after.find .string "k" ≠ .error .routerNotInitialized := by
  intro self stopped servers router after
  have phase : stopped.phase = .stopped := rfl
  have filled : stopped.partitionMap ≠ [] := by decide +kernel
  clear_value stopped
  have assigned : ∀ call ∈ [((⟨servers, fun _ => true⟩ : Cluster), 1),
      (⟨servers, fun _ => false⟩, 1)], ∀ endpoint, call.1.IsAssigned endpoint := by
    intro call member endpoint url built reached server listed
    simp only [List.mem_cons, List.not_mem_nil, or_false] at member
    rcases member with rfl | rfl
    · exact ⟨stopped, (Prod.mk.inj (List.mem_singleton.1 listed)).2, filled⟩
    · exact absurd reached Bool.false_ne_true
  obtain ⟨left, found⟩ := router.refreshes_leave_candidates _ (by decide +kernel)
    (fun _ earlier call within endpoint _ =>
      assigned call (within.subset (List.mem_append_right _ (.head _))) endpoint)
    _ (List.prefix_refl _)
  exact ⟨phase, left, found rfl .string "k"⟩

/-- A replica that answers requests, but has not been assigned partitions yet. -/
def unassigned : Replica :=
  let self := Member.fixed "a" ⟨.v4 0x7F000001, 8001, 0⟩
  .create ⟨"t", .string, .string, .mutable, none, none⟩ ⟨1, 0, .murmur⟩ ⟨self, [self]⟩

theorem refresh_of_nobody {router : Router} (nobody : router.candidates = []) (network : Network) :
    (router.refresh network).result = (router, .error .routerNotInitialized) := by
  rw [refresh, nobody]
  rfl

/-- With the host of such a replica alone, a router takes over its empty map: no host is left to
be asked, and no key is found any more. -/
theorem refresh_leaves_nobody :
    let cluster : Cluster := ⟨[("127.0.0.1:8001", .replica unassigned)], fun _ => true⟩
    let router : Router := ⟨none, .murmur, ⟨.ofList [(0, "127.0.0.1:8001")]⟩⟩
    let after := router.refreshed (cluster.network 1)
    router.table.isEmpty = false ∧ after.candidates = [] ∧
      (∀ (type : KeyType) (key : type.Key),
        after.find type key = .error .routerNotInitialized) ∧
      ∀ network : Network,
        (after.refresh network).result = (after, .error .routerNotInitialized) := by
  intro cluster router after
  have nobody : after.candidates = [] := by decide +kernel
  have empty : after.table.isEmpty = true := by decide +kernel
  clear_value after
  refine ⟨rfl, nobody, fun type key => ?_, refresh_of_nobody nobody⟩
  rw [find, RoutingTable.find, if_pos empty]

end Router

end ShardedView
