import ShardedView.Proofs.Client.Contact
import ShardedView.Proofs.Client.Effort
import ShardedView.Proofs.Client.Refresh

/-!
Calls of a client that knows several hosts, one after another, with a router and a network that
answer. Where every host of the routing table is reached, a call asks each host for keys that the
table places there, and asks it once.
-/

namespace ShardedView

open Errand (isFallback isUnreachable)
open Http (Network Traced Url)
open Http.Exchange (outcome)

inductive Operation (type : KeyType)
  | get (key : type.Key)
  | getRange (key : type.Key) (lower upper : String)
  | getMany (keys : List type.Key)
  | getAll

namespace Operation

variable {type : KeyType}

abbrev Result : Operation type → Type
  | get _ => Option Json
  | getRange _ _ _ => List Json
  | getMany _ => List Json
  | getAll => List Json

def errand (fallback : Option Endpoint) :
    (operation : Operation type) → Errand type operation.Result
  | get key => Errand.get fallback key
  | getRange key lower upper => Errand.getRange fallback key lower upper
  | getMany keys => Errand.getMany fallback keys
  | getAll => Errand.getAll

def ask (routes : Routes type) (send : Sender) :
    (operation : Operation type) → Traced (Verdict operation.Result)
  | get key => routes.get send key
  | getRange key lower upper => routes.getRange send key lower upper
  | getMany keys => routes.getMany send keys
  | getAll => routes.getAll send

theorem ask_eq_run (routes : Routes type) (send : Sender) (operation : Operation type) :
    operation.ask routes send = routes.run send (operation.errand routes.fallback) := by
  cases operation <;> rfl

def keys : Operation type → List type.Key
  | get key => [key]
  | getRange key _ _ => [key]
  | getMany keys => keys
  | getAll => []

end Operation

/-- What a client is asked for, and what it does if a host cannot be reached. -/
structure Call (type : KeyType) where
  operation : Operation type
  fallback : Option Endpoint
  draw : Nat

namespace Call

variable {type : KeyType} (call : Call type) (network : Network) (router : Router)

def routes : Routes type :=
  .ofRouter type router call.fallback call.draw

/-- Carries out a call, with the router as it is then. -/
def perform : Traced (Router × Except Failure call.operation.Result) :=
  router.call network (call.operation.ask (call.routes router) network.sender)

def events : List (Event type) :=
  (call.routes router).events network.sender (call.operation.errand call.fallback).run

theorem runs_events : ∃ result,
    (call.operation.errand call.fallback).run.Runs (call.events network router) result :=
  ⟨_, (call.routes router).runs_events network.sender _⟩

theorem ask_eq : call.operation.ask (call.routes router) network.sender =
    (call.routes router).run network.sender (call.operation.errand call.fallback) :=
  Operation.ask_eq_run ..

theorem isOutdated_iff :
    (call.operation.ask (call.routes router) network.sender).result.isOutdated = true ↔
      Event.refreshes (call.events network router) ≠ 0 := by
  rw [ask_eq, Routes.result_run, Routes.isOutdated_eq_any, Event.refreshes,
    ← Nat.pos_iff_ne_zero, List.countP_pos_iff, List.any_eq_true]
  rfl

theorem router_perform : (call.perform network router).result.1 =
    if Event.refreshes (call.events network router) = 0 then router
    else router.refreshed network := by
  have outdated := call.isOutdated_iff network router
  show (router.follow network _).result = _
  rw [Router.follow]
  split
  · next refreshed =>
    rw [if_neg (outdated.1 refreshed)]
    rfl
  · next current =>
    rw [if_pos (Decidable.not_not.1 (mt outdated.2 current))]
    rfl

variable {call network router}

theorem answer_of_mem_requests {request : Url × Except Failure Received}
    (listed : request ∈ Event.requests (call.events network router)) :
    request.2 = (network.sender request.1).outcome := by
  obtain ⟨⟨question, answer⟩, member, same⟩ := List.mem_filterMap.1 listed
  have answered := Routes.answer_of_mem_events _ _ member
  cases question with
  | send url =>
    obtain rfl := Option.some.inj same
    exact answered
  | _ => cases same

theorem find_of_mem_lookups {key : type.Key} {answer : Except Failure Endpoint}
    (listed : (key, answer) ∈ Event.lookups (call.events network router)) :
    router.find type key = answer := by
  obtain ⟨⟨question, given⟩, member, same⟩ := List.mem_filterMap.1 listed
  have answered := Routes.answer_of_mem_events _ _ member
  cases question with
  | find other =>
    obtain ⟨rfl, rfl⟩ := Prod.mk.inj (Option.some.inj same)
    exact answered.symm
  | _ => cases same

theorem mem_endpoints_of_mem_events {event : Event type} {endpoint : Endpoint}
    (listed : event ∈ call.events network router) (told : endpoint ∈ event.endpoints) :
    endpoint ∈ router.table.endpoints := by
  have answered := Routes.answer_of_mem_events _ _ listed
  obtain ⟨question, answer⟩ := event
  cases question with
  | find key =>
    cases answer with
    | ok found =>
      obtain rfl := List.mem_singleton.1 told
      exact RoutingTable.mem_endpoints_of_find answered.symm
    | error failure => cases told
  | hosts =>
    obtain rfl : answer = .ok router.table.endpoints := answered
    exact told
  | _ => cases told

/-- If no newer routing is asked for, what is sent are the requests of the call, and what servers
send for them. -/
theorem sent_perform (current : Event.refreshes (call.events network router) = 0) :
    (call.perform network router).sent =
      (Event.requests (call.events network router)).flatMap fun request =>
        request.1 :: (network request.1).sent := by
  have verdict : (call.operation.ask (call.routes router) network.sender).result.isOutdated =
      false := by
    rw [← Bool.not_eq_true, isOutdated_iff]
    exact fun outdated => outdated current
  have trace : ∀ events : List (Event type),
      (events.flatMap fun event =>
        ((call.routes router).answer network.sender event.question).sent) =
      (Event.requests events).flatMap fun request => request.1 :: (network request.1).sent := by
    intro events
    induction events with
    | nil => rfl
    | cons event rest ih =>
      obtain ⟨question, answer⟩ := event
      rw [List.flatMap_cons, ih]
      cases question with
      | send url =>
        refine congrArg (· ++ _) ?_
        exact network.sent_sender url
      | _ => rfl
  rw [perform, Router.call_of_current verdict, ask_eq]
  refine Eq.trans ?_ ((Routes.sent_hear ..).trans (trace _))
  exact List.append_nil _

/-! ### Where every host is reached -/

/-- A contact with a host of the table, for keys of an operation that the table places there. -/
structure Suits (contact : Contact) (operation : Operation type) (router : Router) :
    Prop where
  listed : contact.endpoint ∈ router.table.endpoints
  asks : ∃ keys : List type.Key, contact.IsFor (keys.map type.toText) ∧
    ∀ key ∈ keys, key ∈ operation.keys ∧ router.find type key = .ok contact.endpoint

/-- Whether hosts can be written in URLs, and are reached by all requests for keys. -/
structure IsReached (network : Network) (table : RoutingTable) : Prop where
  wellFormed : ∀ endpoint ∈ table.endpoints, endpoint.IsWellFormed
  reached : ∀ (contact : Contact) (texts : List String), contact.endpoint ∈ table.endpoints →
    contact.IsFor texts → isUnreachable (network.sender contact.url).outcome = false

/-- What is asked in a call where every host is reached: each contact is with a host of the
table, and a newer routing is asked for once if a reply is marked. -/
structure IsDirect (call : Call type) (network : Network) (router : Router)
    (contacts : List Contact) : Prop where
  requests : Event.requests (call.events network router) = contacts.map Contact.request
  refreshes : Event.refreshes (call.events network router) =
    if contacts.any fun contact => isFallback contact.answer then 1 else 0
  suits : ∀ contact ∈ contacts, Suits contact call.operation router

theorem wellFormed_events (reached : IsReached network router.table) :
    ∀ event ∈ call.events network router, ∀ other ∈ event.endpoints, other.IsWellFormed :=
  fun _ listed other told => reached.wellFormed other (mem_endpoints_of_mem_events listed told)

theorem second_eq_none (reached : IsReached network router.table) {attempt : Attempt}
    {build : Endpoint → Except Failure Url} (lawful : attempt.IsLawful build)
    (suits : Suits attempt.first call.operation router)
    (listed : attempt.first.request ∈ Event.requests (call.events network router)) :
    attempt.second = none := by
  cases repeated : attempt.second with
  | none => rfl
  | some again =>
    obtain ⟨keys, asks, -⟩ := suits.asks
    have answer : attempt.first.answer = (network.sender attempt.first.url).outcome :=
      answer_of_mem_requests listed
    have unreachable := (lawful.second again repeated).1
    rw [answer, reached.reached _ _ suits.listed asks] at unreachable
    cases unreachable

theorem contacts_of_alone {attempts : List Attempt}
    (alone : ∀ attempt ∈ attempts, attempt.second = none) :
    attempts.flatMap Attempt.requests = (attempts.map Attempt.first).map Contact.request ∧
      attempts.any Attempt.isMarked =
        (attempts.map Attempt.first).any fun contact => isFallback contact.answer := by
  induction attempts with
  | nil => exact ⟨rfl, rfl⟩
  | cons attempt rest ih =>
    obtain ⟨first, second⟩ := attempt
    obtain rfl : second = none := alone _ (.head _)
    obtain ⟨later, marked⟩ := ih fun attempt listed => alone attempt (.tail _ listed)
    rw [List.flatMap_cons, List.any_cons, later, marked]
    exact ⟨rfl, rfl⟩

theorem isDirect_of_attempts (reached : IsReached network router.table) {attempts : List Attempt}
    (requests : Event.requests (call.events network router) = attempts.flatMap Attempt.requests)
    (refreshes : Event.refreshes (call.events network router) =
      if attempts.any Attempt.isMarked then 1 else 0)
    (each : ∀ attempt ∈ attempts, (∃ build, attempt.IsLawful build) ∧
      Suits attempt.first call.operation router) :
    IsDirect call network router (attempts.map Attempt.first) := by
  have alone : ∀ attempt ∈ attempts, attempt.second = none := by
    intro attempt listed
    obtain ⟨⟨build, lawful⟩, suits⟩ := each attempt listed
    refine second_eq_none reached lawful suits ?_
    rw [requests]
    exact List.mem_flatMap.2 ⟨attempt, listed, .head _⟩
  obtain ⟨whole, marked⟩ := contacts_of_alone alone
  refine ⟨requests.trans whole, by rw [refreshes, marked], fun contact listed => ?_⟩
  obtain ⟨attempt, member, rfl⟩ := List.mem_map.1 listed
  exact (each attempt member).2

theorem exists_direct_of_one (reached : IsReached network router.table) {key : type.Key}
    {build : Endpoint → Except Failure Url} (own : key ∈ call.operation.keys)
    (asks : ∀ contact : Contact, build contact.endpoint = .ok contact.url →
      contact.IsFor [type.toText key])
    (one : Event.AsksForOne (call.events network router) key build) :
    ∃ contacts, IsDirect call network router contacts := by
  obtain ⟨-, -, silent, quiet⟩ | ⟨attempt, lawful, looked, requests, refreshes⟩ := one
  · exact ⟨[], silent, quiet, List.forall_mem_nil _⟩
  · have listed : (key, .ok attempt.first.endpoint) ∈ Event.lookups (call.events network router) :=
      looked ▸ List.mem_singleton.2 rfl
    have found := find_of_mem_lookups listed
    refine ⟨_, @isDirect_of_attempts _ _ _ _ reached [attempt] ?_ ?_ ?_⟩
    · rw [requests, List.flatMap_singleton]
    · rw [refreshes, List.any_cons, List.any_nil, Bool.or_false]
    · intro other listed
      obtain rfl := List.mem_singleton.1 listed
      refine ⟨⟨build, lawful⟩, RoutingTable.mem_endpoints_of_find found, [key],
        asks _ lawful.first, fun other one => ?_⟩
      obtain rfl := List.mem_singleton.1 one
      exact ⟨own, found⟩

theorem exists_direct_of_many (reached : IsReached network router.table)
    (many : Event.AsksForMany (call.events network router) call.operation.keys) :
    ∃ contacts, IsDirect call network router contacts := by
  obtain ⟨-, -, -, -, silent, quiet⟩ | ⟨targets, batches, singles, own, looked, distributed⟩ := many
  · exact ⟨[], silent, quiet, List.forall_mem_nil _⟩
  have found : ∀ target ∈ targets, target.1 ∈ call.operation.keys ∧
      router.find type target.1 = .ok target.2 := fun target listed =>
    ⟨own ▸ List.mem_map_of_mem listed,
      find_of_mem_lookups (looked ▸ List.mem_map_of_mem listed)⟩
  refine ⟨_, isDirect_of_attempts reached distributed.requests distributed.refreshes ?_⟩
  intro attempt listed
  rcases List.mem_append.1 listed with together | alone
  · obtain ⟨batch, member, rfl⟩ := List.mem_map.1 together
    have lawful := distributed.batch batch member
    obtain ⟨first, among, same⟩ := distributed.found batch member
    have endpoint := RoutingTable.mem_endpoints_of_find (same ▸ (found first among).2)
    let here := targets.filter fun target =>
      target.2.host = batch.2.first.endpoint.host && isBatchable (type.toText target.1)
    refine ⟨⟨_, lawful⟩, endpoint, here.map (·.1), ?_, fun key listed => ?_⟩
    · refine .many batch.1 (fun text listed => ?_) lawful.first
      rw [distributed.texts batch member] at listed
      obtain ⟨target, kept, rfl⟩ := List.mem_map.1 listed
      have whole := (List.mem_filter.1 kept).2
      rw [Bool.and_eq_true] at whole
      exact ⟨List.mem_map_of_mem (List.mem_map_of_mem kept), whole.2⟩
    · obtain ⟨target, kept, rfl⟩ := List.mem_map.1 listed
      obtain ⟨member, whole⟩ := List.mem_filter.1 kept
      rw [Bool.and_eq_true, decide_eq_true_eq] at whole
      obtain ⟨own, told⟩ := found target member
      refine ⟨own, told.trans (congrArg Except.ok ?_)⟩
      exact RoutingTable.eq_of_host (RoutingTable.mem_endpoints_of_find told) endpoint whole.1
  · obtain ⟨single, member, rfl⟩ := List.mem_map.1 alone
    have lawful := distributed.single single member
    have named : (single.2.first.endpoint, single.1) ∈ singles.map fun single =>
        (single.2.first.endpoint, single.1) := List.mem_map_of_mem member
    rw [distributed.alone] at named
    obtain ⟨target, kept, same⟩ := List.mem_map.1 named
    obtain ⟨endpoint, text⟩ := Prod.mk.inj same
    obtain ⟨own, told⟩ := found target (List.mem_filter.1 kept).1
    rw [endpoint] at told
    refine ⟨⟨_, lawful⟩, RoutingTable.mem_endpoints_of_find told, [target.1], ?_,
      fun key listed => ?_⟩
    · exact .point single.1 (text ▸ List.mem_singleton.2 rfl) lawful.first
    · obtain rfl := List.mem_singleton.1 listed
      exact ⟨own, told⟩

theorem exists_direct_of_all (reached : IsReached network router.table)
    (every : Event.AsksEachHost (call.events network router)) :
    ∃ contacts, IsDirect call network router contacts := by
  obtain ⟨listing, rest, contacts, split, hosts, built, requests, refreshes⟩ := every
  have known : listing = .ok router.table.endpoints := by
    have listed : ⟨.hosts, listing⟩ ∈ call.events network router := split ▸ List.mem_cons_self
    exact Routes.answer_of_mem_events _ _ listed
  have suits : ∀ contact ∈ contacts, Suits contact call.operation router := by
    intro contact listed
    refine ⟨?_, [], .all (built contact listed), List.forall_mem_nil _⟩
    have among : contact.endpoint ∈ contacts.map Contact.endpoint := List.mem_map_of_mem listed
    rw [hosts, known] at among
    exact among
  refine ⟨contacts, requests, ?_, suits⟩
  rw [refreshes]
  have reachable : ∀ contact ∈ contacts, isUnreachable contact.answer = false := by
    intro contact listed
    have answer : contact.answer = (network.sender contact.url).outcome :=
      answer_of_mem_requests (requests ▸ List.mem_map_of_mem listed : contact.request ∈ _)
    obtain ⟨keys, asks, -⟩ := (suits contact listed).asks
    rw [answer]
    exact reached.reached _ _ (suits contact listed).listed asks
  have same : (contacts.any fun contact =>
      isFallback contact.answer || isUnreachable contact.answer) =
        contacts.any fun contact => isFallback contact.answer := by
    rw [Bool.eq_iff_iff, List.any_eq_true, List.any_eq_true]
    refine exists_congr fun contact => and_congr_right fun listed => ?_
    rw [reachable contact listed, Bool.or_false]
  rw [same]

theorem exists_direct (call : Call type) (reached : IsReached network router.table) :
    ∃ contacts, IsDirect call network router contacts := by
  have wellFormed := @wellFormed_events _ call _ _ reached
  obtain ⟨result, runs⟩ := call.runs_events network router
  obtain ⟨operation, fallback, draw⟩ := call
  cases operation with
  | get key =>
    exact exists_direct_of_one reached (.head _) (fun _ built => .point _ (.head _) built)
      (Errand.asksForOne_of_runs runs fun event listed other told =>
        (wellFormed event listed other told).exists_keyUrl _)
  | getRange key lower upper =>
    exact exists_direct_of_one reached (.head _)
      (fun _ built => .range _ lower upper (.head _) built)
      (Errand.asksForOne_of_runs runs fun event listed other told =>
        (wellFormed event listed other told).exists_rangeUrl ..)
  | getMany keys =>
    have found : ∀ key endpoint, (key, .ok endpoint) ∈ Event.lookups _ → endpoint.IsWellFormed :=
      fun _ _ => Event.isWellFormed_of_mem_lookups wellFormed
    exact exists_direct_of_many reached (Errand.asksForMany_of_runs runs found)
  | getAll =>
    exact exists_direct_of_all reached (Errand.asksEachHost_of_runs runs wellFormed)

end Call

end ShardedView
