import ShardedView.Proofs.Client.Routing
import ShardedView.Proofs.Query.Hops
import ShardedView.Proofs.Query.Remote

/-!
How a router looks for a newer table: it asks one host after another, up to the first that tells
one. The table of that host is taken over as it is; without such a host the router keeps its own,
and fails as the host that it asked last.
-/

namespace ShardedView

open Http (Network Reply Url)
open Http.Exchange (outcome outcome_bind outcome_lift sent sent_bind sent_lift)

namespace RoutingTable

def IsOf (table : RoutingTable) (body : Bytes) : Prop :=
  ∃ document, Json.Document.ofBytes? body = some document ∧ document.Lists table.hosts

theorem ofBody?_eq_some_iff {body : Bytes} {table : RoutingTable} :
    ofBody? body = some table ↔ table.IsOf body := by
  obtain ⟨hosts⟩ := table
  simp only [ofBody?, IsOf, Option.map_eq_some_iff, Option.bind_eq_some_iff,
    Json.Document.numberedTexts?_eq_some_iff, mk.injEq, exists_eq_right]

def Precedes (table : RoutingTable) (left right : String) : Prop :=
  ∀ partition, table.hosts.find? partition = some right →
    ∃ earlier < partition, table.hosts.find? earlier = some left

theorem pairwise_distinctHosts (table : RoutingTable) :
    table.distinctHosts.Pairwise table.Precedes := by
  refine (pairwise_foldl_first table.hosts.values).imp fun {left right} ordered partition found => ?_
  obtain ⟨before, after, listed⟩ := List.append_of_mem (SortedMap.find?_eq_some_iff.1 found)
  have front : left ∈ before.map (·.2) := by
    apply ordered
    refine ⟨after.map (·.2), ?_⟩
    rw [SortedMap.values, listed, List.map_append, List.map_cons, List.append_assoc]
    rfl
  obtain ⟨⟨earlier, host⟩, member, rfl⟩ := List.mem_map.1 front
  have sorted := table.hosts.sorted
  rw [listed] at sorted
  refine ⟨earlier, (List.pairwise_append.1 sorted).2.2 _ member _ (.head _), ?_⟩
  rw [SortedMap.find?_eq_some_iff, listed]
  exact List.mem_append_left _ member

end RoutingTable

namespace Router

/-! ### One host -/

/-- What comes of asking a host: there is no such host, nobody is reached, the reply tells of a
failure, its body is no table, or a table is told. -/
inductive Hears (network : Network) (endpoint : Endpoint) : Except Failure RoutingTable → Prop
  | misnamed {failure : Failure} (named : endpoint.partitionsUrl = .error failure) :
    Hears network endpoint (.error failure)
  | unreached {url : Url} (named : endpoint.partitionsUrl = .ok url)
    (lost : (network url).result = none) :
    Hears network endpoint (.error (.unreachable endpoint.address "no connection"))
  | refused {url : Url} {reply : Reply} (named : endpoint.partitionsUrl = .ok url)
    (replied : (network url).result = some reply)
    (status : ¬ (200 ≤ reply.status ∧ reply.status < 300)) :
    Hears network endpoint (.error (.ofReply reply.status reply.body))
  | malformed {url : Url} {reply : Reply} (named : endpoint.partitionsUrl = .ok url)
    (replied : (network url).result = some reply)
    (status : 200 ≤ reply.status ∧ reply.status < 300)
    (body : ∀ table : RoutingTable, ¬ table.IsOf reply.body) :
    Hears network endpoint (.error (.codec .notJson))
  | told {url : Url} {reply : Reply} {table : RoutingTable}
    (named : endpoint.partitionsUrl = .ok url) (replied : (network url).result = some reply)
    (status : 200 ≤ reply.status ∧ reply.status < 300) (body : table.IsOf reply.body) :
    Hears network endpoint (.ok table)

/-- The request that asks a host, if there is one, and those that the host sends for it. -/
def inquiries (network : Network) (endpoint : Endpoint) : List Url :=
  match endpoint.partitionsUrl with
  | .ok url => url :: (network url).sent
  | .error _ => []

def heard (endpoint : Endpoint) : Option Reply → Except Failure RoutingTable
  | none => .error (.unreachable endpoint.address "no connection")
  | some reply =>
    if 200 ≤ reply.status ∧ reply.status < 300 then
      match RoutingTable.ofBody? reply.body with
      | some table => .ok table
      | none => .error (.codec .notJson)
    else .error (.ofReply reply.status reply.body)

variable {network : Network} {endpoint : Endpoint}

theorem fetch_eq (network : Network) (endpoint : Endpoint) :
    fetch network endpoint = (do
      let url ← endpoint.partitionsUrl
      let answer ← (network.send url : Http.Traced (Option Reply))
      heard endpoint answer) := by
  rw [fetch]
  congr 1
  funext url
  congr 1
  funext answer
  cases answer with
  | none => rfl
  | some reply =>
    simp only [heard, RoutingTable.ofBody?]
    split
    · cases (Json.Document.ofBytes? reply.body).bind Json.Document.numberedTexts? <;> rfl
    · rfl

theorem sent_fetch (network : Network) (endpoint : Endpoint) :
    (fetch network endpoint).sent = inquiries network endpoint := by
  rw [fetch_eq, sent_bind, sent_lift, outcome_lift, List.nil_append, inquiries]
  cases endpoint.partitionsUrl with
  | error failure => rfl
  | ok url =>
    dsimp only
    rw [sent_bind, Network.outcome_send, Network.sent_send]
    exact List.append_nil _

theorem outcome_fetch_eq_heard (network : Network) (endpoint : Endpoint) :
    (fetch network endpoint).outcome =
      (endpoint.partitionsUrl >>= fun url => heard endpoint (network url).result) := by
  rw [fetch_eq, outcome_bind, outcome_lift]
  rfl

theorem outcome_fetch_eq_iff {result : Except Failure RoutingTable} :
    (fetch network endpoint).outcome = result ↔ Hears network endpoint result := by
  rw [outcome_fetch_eq_heard]
  constructor
  · rintro rfl
    cases named : endpoint.partitionsUrl with
    | error failure => exact .misnamed named
    | ok url =>
      rw [Failure.bind_of_ok rfl]
      cases replied : (network url).result with
      | none => exact .unreached named replied
      | some reply =>
        dsimp only [heard]
        split
        · next status =>
          split
          · next table read =>
            exact .told named replied status (RoutingTable.ofBody?_eq_some_iff.1 read)
          · next read =>
            refine .malformed named replied status fun table body => ?_
            rw [RoutingTable.ofBody?_eq_some_iff.2 body] at read
            cases read
        · next status => exact .refused named replied status
  · intro hears
    cases hears with
    | misnamed named => exact Failure.bind_of_error named _
    | unreached named lost => rw [Failure.bind_of_ok named, lost, heard]
    | refused named replied status =>
      rw [Failure.bind_of_ok named, replied, heard, if_neg status]
    | @malformed _ reply named replied status body =>
      have read : RoutingTable.ofBody? reply.body = none :=
        Option.eq_none_iff_forall_ne_some.2 fun table read =>
          body table (RoutingTable.ofBody?_eq_some_iff.1 read)
      rw [Failure.bind_of_ok named, replied, heard, if_pos status, read]
    | told named replied status body =>
      rw [Failure.bind_of_ok named, replied, heard, if_pos status,
        RoutingTable.ofBody?_eq_some_iff.2 body]

theorem outcome_fetch {url : Url} {reply : Reply} {table : RoutingTable}
    (named : endpoint.partitionsUrl = .ok url) (replied : (network url).result = some reply)
    (status : reply.status = 200) (read : RoutingTable.ofBody? reply.body = some table) :
    (fetch network endpoint).outcome = .ok table := by
  have success : 200 ≤ reply.status ∧ reply.status < 300 := by
    rw [status]
    decide
  exact outcome_fetch_eq_iff.2
    (.told named replied success (RoutingTable.ofBody?_eq_some_iff.1 read))

/-! ### One host after another -/

theorem outcome_fetchFirst_cons (network : Network) (last : Failure) (endpoint : Endpoint)
    (rest : List Endpoint) :
    (fetchFirst network last (endpoint :: rest)).outcome =
      match (fetch network endpoint).outcome with
      | .ok table => .ok table
      | .error failure => (fetchFirst network failure rest).outcome := by
  show Http.Traced.result (_ >>= _ : Http.Traced (Except Failure RoutingTable)) = _
  rw [Http.Traced.result_bind, outcome]
  cases (fetch network endpoint).run.result <;> rfl

theorem sent_fetchFirst_cons (network : Network) (last : Failure) (endpoint : Endpoint)
    (rest : List Endpoint) :
    (fetchFirst network last (endpoint :: rest)).sent = inquiries network endpoint ++
      match (fetch network endpoint).outcome with
      | .ok _ => []
      | .error failure => (fetchFirst network failure rest).sent := by
  rw [← sent_fetch, outcome]
  show Http.Traced.sent (_ >>= _ : Http.Traced (Except Failure RoutingTable)) = _
  rw [Http.Traced.sent_bind]
  cases (fetch network endpoint).run.result <;> rfl

/-- Hosts are asked in turn up to the first that tells a table, or else all of them. -/
theorem fetchFirst_cases (network : Network) (last : Failure) (endpoints : List Endpoint) :
    (∃ earlier endpoint later table, endpoints = earlier ++ endpoint :: later ∧
      (∀ other ∈ earlier, ∃ failure, Hears network other (.error failure)) ∧
      Hears network endpoint (.ok table) ∧
      (fetchFirst network last endpoints).outcome = .ok table ∧
      (fetchFirst network last endpoints).sent =
        (earlier ++ [endpoint]).flatMap (inquiries network)) ∨
    ∃ failure, (∀ endpoint ∈ endpoints, ∃ failure, Hears network endpoint (.error failure)) ∧
      (endpoints = [] → failure = last) ∧
      (∀ final ∈ endpoints.getLast?, Hears network final (.error failure)) ∧
      (fetchFirst network last endpoints).outcome = .error failure ∧
      (fetchFirst network last endpoints).sent = endpoints.flatMap (inquiries network) := by
  induction endpoints generalizing last with
  | nil => exact .inr ⟨last, nofun, fun _ => rfl, nofun, rfl, rfl⟩
  | cons endpoint rest ih =>
    rw [outcome_fetchFirst_cons, sent_fetchFirst_cons]
    cases own : (fetch network endpoint).outcome with
    | ok table =>
      refine .inl ⟨[], endpoint, rest, table, rfl, nofun, outcome_fetch_eq_iff.1 own, rfl, ?_⟩
      rfl
    | error failure =>
      have hears := outcome_fetch_eq_iff.1 own
      rcases ih failure with ⟨earlier, teller, later, table, split, silent, tells, came, sent⟩ |
        ⟨final, silent, nobody, fails, came, sent⟩
      · refine .inl ⟨endpoint :: earlier, teller, later, table, congrArg _ split, ?_, tells, came,
          ?_⟩
        · rintro other (_ | ⟨_, listed⟩)
          · exact ⟨failure, hears⟩
          · exact silent other listed
        · exact congrArg (_ ++ ·) sent
      · refine .inr ⟨final, ?_, nofun, ?_, came, congrArg (_ ++ ·) sent⟩
        · rintro other (_ | ⟨_, listed⟩)
          · exact ⟨failure, hears⟩
          · exact silent other listed
        · cases rest with
          | nil =>
            rintro other ⟨⟩
            exact nobody rfl ▸ hears
          | cons next others => exact fails

theorem result_refresh (router : Router) (network : Network) :
    (router.refresh network).result =
      match (fetchFirst network .routerNotInitialized router.candidates).outcome with
      | .ok table => ({ router with table }, .ok ())
      | .error failure => (router, .error failure) := by
  rw [refresh, Http.Traced.result_bind, outcome]
  cases (fetchFirst network .routerNotInitialized router.candidates).run.result <;> rfl

theorem sent_refresh (router : Router) (network : Network) :
    (router.refresh network).sent =
      (fetchFirst network .routerNotInitialized router.candidates).sent := by
  rw [refresh, Http.Traced.sent_bind]
  cases (fetchFirst network .routerNotInitialized router.candidates).run.result <;>
    exact List.append_nil _

/-! ### The hosts that are asked -/

def others (router : Router) : List String :=
  router.table.distinctHosts.filter fun host =>
    !router.discovery.any fun discovery => host = discovery.host

theorem candidates_eq (router : Router) :
    router.candidates = router.discovery.toList ++ router.others.map Endpoint.direct := by
  rw [candidates, RoutingTable.endpoints_eq, List.filter_map]
  rfl

theorem candidates_of_some {router : Router} {discovery : Endpoint}
    (known : router.discovery = some discovery) :
    router.candidates = discovery :: router.others.map Endpoint.direct := by
  rw [candidates_eq, known]
  rfl

theorem candidates_of_none {router : Router} (alone : router.discovery = none) :
    router.candidates = router.table.endpoints := by
  simp [candidates, alone]

theorem mem_others {router : Router} {host : String} :
    host ∈ router.others ↔ host ∈ router.table.hosts.values ∧
      ∀ discovery ∈ router.discovery, discovery.host ≠ host := by
  rw [others, List.mem_filter, RoutingTable.mem_distinctHosts]
  cases router.discovery with
  | none => simp
  | some discovery => simp [@eq_comm _ host]

theorem nodup_candidates (router : Router) : (router.candidates.map Endpoint.host).Nodup := by
  have distinct : router.others.Nodup := router.table.nodup_distinctHosts.filter _
  have same : (router.others.map Endpoint.direct).map Endpoint.host = router.others := by
    rw [List.map_map]
    exact List.map_id _
  rw [candidates_eq, List.map_append, same]
  refine List.nodup_append.2 ⟨?_, distinct, ?_⟩
  · cases router.discovery <;> simp
  · intro host known other listed
    obtain ⟨discovery, own, rfl⟩ := List.mem_map.1 known
    exact fun equal => (mem_others.1 listed).2 discovery (Option.mem_toList.1 own) equal

example :
    let table : RoutingTable := ⟨.ofList [(0, "a:1"), (1, "b:1"), (2, "c:1"), (3, "a:1")]⟩
    (Router.mk (some ⟨"b:1", some "mirror-"⟩) .murmur table).candidates =
      [⟨"b:1", some "mirror-"⟩, .direct "a:1", .direct "c:1"] := by decide

/-- A refresh asks the discovery host and then each other host of the table, in the order of their
partitions, up to the first that tells a table. It takes over this table and nothing else, or
nothing at all. -/
theorem refresh_is_all_or_nothing (router : Router) (network : Network) :
    let after := router.refresh network
    (∃ known : List String,
      router.candidates = router.discovery.toList ++ known.map Endpoint.direct ∧
      (∀ host, host ∈ known ↔ host ∈ router.table.hosts.values ∧
        ∀ discovery ∈ router.discovery, discovery.host ≠ host) ∧
      known.Pairwise router.table.Precedes) ∧
    (router.candidates.map Endpoint.host).Nodup ∧
    ((∃ earlier endpoint later table, router.candidates = earlier ++ endpoint :: later ∧
        (∀ other ∈ earlier, ∃ failure, Hears network other (.error failure)) ∧
        Hears network endpoint (.ok table) ∧
        after.sent = (earlier ++ [endpoint]).flatMap (inquiries network) ∧
        after.result = ({ router with table }, .ok ())) ∨
      ∃ failure,
        (∀ endpoint ∈ router.candidates, ∃ failure, Hears network endpoint (.error failure)) ∧
        (router.candidates = [] → failure = .routerNotInitialized) ∧
        (∀ last ∈ router.candidates.getLast?, Hears network last (.error failure)) ∧
        after.sent = router.candidates.flatMap (inquiries network) ∧
        after.result = (router, .error failure)) := by
  intro after
  have ordered := router.table.pairwise_distinctHosts.filter fun host =>
    !router.discovery.any fun discovery => host = discovery.host
  refine ⟨⟨router.others, router.candidates_eq, fun host => mem_others, ordered⟩,
    router.nodup_candidates, ?_⟩
  simp only [after, result_refresh, sent_refresh]
  rcases fetchFirst_cases network .routerNotInitialized router.candidates with
    ⟨earlier, endpoint, later, table, split, silent, tells, came, sent⟩ |
      ⟨failure, silent, nobody, fails, came, sent⟩
  · exact .inl ⟨earlier, endpoint, later, table, split, silent, tells, sent, by rw [came]⟩
  · exact .inr ⟨failure, silent, nobody, fails, sent, by rw [came]⟩

end Router

end ShardedView
