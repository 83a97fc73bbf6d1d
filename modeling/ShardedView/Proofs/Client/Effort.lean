import ShardedView.Proofs.Client.Attempt

/-!
How much a call asks of hosts and of the router, whatever they answer: each host is asked once,
and another one in its place if it cannot be reached; a newer routing is asked for once, if a
reply came from elsewhere than expected.
-/

namespace ShardedView

open Errand (byHost isFallback isUnreachable)
open Http (Url)

variable {type : KeyType}

/-! ### One key -/

/-- What is asked for one key: nothing but its host if there is none, or else one lawful attempt
there, and a newer routing if the reply is marked. -/
def Event.AsksForOne (events : List (Event type)) (key : type.Key)
    (build : Endpoint → Except Failure Url) : Prop :=
  (∃ failure, lookups events = [(key, .error failure)] ∧ requests events = [] ∧
    refreshes events = 0) ∨
  ∃ attempt : Attempt, attempt.IsLawful build ∧
    lookups events = [(key, .ok attempt.first.endpoint)] ∧
    requests events = attempt.requests ∧
    refreshes events = if attempt.isMarked then 1 else 0

namespace Errand

open Event (requests lookups refreshes)

variable {events : List (Event type)} {fallback : Option Endpoint}
  {build : Endpoint → Except Failure Url}

theorem asksForOne_or {α : Type} {key : type.Key} {read : Received → Except Failure α}
    {result : Except Failure α}
    (runs : (do
      let endpoint ← find key
      let received ← request fallback build endpoint
      heed received.isFallback
      liftM (read received) : Errand type α).run.Runs events result) :
    (∃ endpoint failure, build endpoint = .error failure ∧
      (key, .ok endpoint) ∈ lookups events ∧ requests events = []) ∨
      Event.AsksForOne events key build := by
  obtain ⟨failure, rfl⟩ |
    ⟨endpoint, asked, rest, outcome, rfl, requested, silent, unasked, refreshed⟩ := runs_one runs
  · exact .inr (.inl ⟨failure, rfl, rfl, rfl⟩)
  cases built : build endpoint with
  | error failure =>
    obtain ⟨rfl, rfl⟩ := runs_request_of_error requested built
    exact .inl ⟨endpoint, failure, built, .head _, silent⟩
  | ok url =>
    obtain ⟨attempt, lawful, rfl, comprised, marked⟩ := exists_attempt requested built
    refine .inr (.inr ⟨attempt, lawful, ?_, ?_, ?_⟩)
    · rw [Event.lookups_append, Event.lookups_append, comprised.lookups, unasked]
      rfl
    · rw [Event.requests_append, Event.requests_append, comprised.requests, silent,
        List.append_nil, List.flatMap_singleton]
      rfl
    · rw [Event.refreshes_append, Event.refreshes_append, comprised.refreshes, refreshed, ← marked,
        Nat.zero_add]
      exact Nat.zero_add _

theorem asksForOne_of_runs {α : Type} {key : type.Key} {read : Received → Except Failure α}
    {result : Except Failure α}
    (runs : (do
      let endpoint ← find key
      let received ← request fallback build endpoint
      heed received.isFallback
      liftM (read received) : Errand type α).run.Runs events result)
    (builds : ∀ event ∈ events, ∀ other ∈ event.endpoints, ∃ url, build other = .ok url) :
    Event.AsksForOne events key build := by
  obtain ⟨endpoint, failure, failed, found, -⟩ | asks := asksForOne_or runs
  · obtain ⟨event, among, told⟩ := Event.exists_of_mem_lookups key found
    obtain ⟨url, built⟩ := builds event among endpoint told
    cases built.symm.trans failed
  · exact asks

end Errand

/-! ### The texts of each host -/

/-- Whether requests are listed by hosts, each host once, with all of its own texts. -/
structure Errand.IsByHost (requests : List (Endpoint × String))
    (groups : List (Endpoint × List String)) : Prop where
  distinct : (groups.map (·.1.host)).Nodup
  hosts : ∀ host, host ∈ groups.map (·.1.host) ↔ host ∈ requests.map (·.1.host)
  named : ∀ group ∈ groups, ∃ request ∈ requests, request.1 = group.1
  texts : ∀ group ∈ groups,
    group.2 = (requests.filter (·.1.host = group.1.host)).map (·.2)

namespace Errand

theorem hosts_addTo (endpoint : Endpoint) (text : String)
    (groups : List (Endpoint × List String)) :
    (addTo endpoint text groups).map (·.1.host) =
      if endpoint.host ∈ groups.map (·.1.host) then groups.map (·.1.host)
      else groups.map (·.1.host) ++ [endpoint.host] := by
  induction groups with
  | nil => rfl
  | cons group rest ih =>
    rw [addTo]
    by_cases same : endpoint.isSameHost group.1 = true
    · have own : endpoint.host = group.1.host := of_decide_eq_true same
      simp [same, own]
    · have other : endpoint.host ≠ group.1.host := fun own => same (decide_eq_true own)
      rw [if_neg same, List.map_cons, ih]
      by_cases later : endpoint.host ∈ rest.map (·.1.host)
      · rw [if_pos later, List.map_cons, if_pos (List.mem_cons_of_mem _ later)]
      · rw [if_neg later, List.map_cons, if_neg]
        · rfl
        · rw [List.mem_cons]
          exact fun listed => listed.elim other later

theorem mem_addTo {endpoint : Endpoint} {text : String} {groups : List (Endpoint × List String)}
    (distinct : (groups.map (·.1.host)).Nodup) {group : Endpoint × List String}
    (listed : group ∈ addTo endpoint text groups) :
    (group ∈ groups ∧ group.1.host ≠ endpoint.host) ∨
      (∃ texts, (group.1, texts) ∈ groups ∧ group.1.host = endpoint.host ∧
        group.2 = texts ++ [text]) ∨
      (endpoint.host ∉ groups.map (·.1.host) ∧ group = (endpoint, [text])) := by
  induction groups with
  | nil => exact .inr (.inr ⟨List.not_mem_nil, List.mem_singleton.1 listed⟩)
  | cons first rest ih =>
    obtain ⟨foreign, distinct⟩ := List.nodup_cons.1 distinct
    rw [addTo] at listed
    by_cases same : endpoint.isSameHost first.1 = true
    · have own : endpoint.host = first.1.host := of_decide_eq_true same
      rw [if_pos same] at listed
      rcases List.mem_cons.1 listed with rfl | later
      · exact .inr (.inl ⟨first.2, .head _, own.symm, rfl⟩)
      · refine .inl ⟨.tail _ later, fun equal => foreign ?_⟩
        exact List.mem_map.2 ⟨group, later, equal.trans own⟩
    · have other : endpoint.host ≠ first.1.host := fun own => same (decide_eq_true own)
      rw [if_neg same] at listed
      rcases List.mem_cons.1 listed with rfl | later
      · exact .inl ⟨.head _, other.symm⟩
      · rcases ih distinct later with ⟨among, apart⟩ | ⟨texts, among, rest⟩ | ⟨absent, new⟩
        · exact .inl ⟨.tail _ among, apart⟩
        · exact .inr (.inl ⟨texts, .tail _ among, rest⟩)
        · refine .inr (.inr ⟨fun among => ?_, new⟩)
          exact (List.mem_cons.1 among).elim other absent

theorem IsByHost.addTo {requests : List (Endpoint × String)}
    {groups : List (Endpoint × List String)} (byHost : IsByHost requests groups)
    (request : Endpoint × String) :
    IsByHost (requests ++ [request]) (addTo request.1 request.2 groups) := by
  have hosts := hosts_addTo request.1 request.2 groups
  constructor
  · rw [hosts]
    split
    · exact byHost.distinct
    · next absent =>
      refine List.nodup_append.2 ⟨byHost.distinct, List.pairwise_singleton .., ?_⟩
      rintro host listed _ (_ | ⟨_, ⟨⟩⟩) rfl
      exact absent listed
  · intro host
    rw [hosts, List.map_append, List.mem_append, ← byHost.hosts, List.map_singleton,
      List.mem_singleton]
    split
    · next among => exact ⟨.inl, fun named => named.elim id fun own => own ▸ among⟩
    · rw [List.mem_append, List.mem_singleton]
  · intro group listed
    rcases mem_addTo byHost.distinct listed with ⟨among, -⟩ | ⟨texts, among, -⟩ | ⟨-, rfl⟩
    · obtain ⟨earlier, member, same⟩ := byHost.named group among
      exact ⟨earlier, List.mem_append_left _ member, same⟩
    · obtain ⟨earlier, member, same⟩ := byHost.named _ among
      exact ⟨earlier, List.mem_append_left _ member, same⟩
    · exact ⟨request, List.mem_append_right _ (.head _), rfl⟩
  · intro group listed
    rw [List.filter_append, List.map_append]
    rcases mem_addTo byHost.distinct listed with
      ⟨among, apart⟩ | ⟨texts, among, own, rest⟩ | ⟨absent, rfl⟩
    · rw [← byHost.texts group among, List.filter_cons_of_neg (by simpa using apart.symm)]
      exact (List.append_nil _).symm
    · rw [← byHost.texts _ among, rest, List.filter_cons_of_pos (by simpa using own.symm)]
      rfl
    · have nobody : requests.filter (·.1.host = request.1.host) = [] := by
        rw [List.filter_eq_nil_iff]
        intro other member same
        exact absent ((byHost.hosts _).2 (of_decide_eq_true same ▸ List.mem_map_of_mem member))
      rw [nobody, List.filter_cons_of_pos (by simp)]
      rfl

theorem isByHost_byHost (requests : List (Endpoint × String)) :
    IsByHost requests (byHost requests) := by
  have run : ∀ {later before : List (Endpoint × String)} {groups : List (Endpoint × List String)},
      IsByHost before groups → IsByHost (before ++ later)
        (later.foldl (fun groups request => Errand.addTo request.1 request.2 groups) groups) := by
    intro later
    induction later with
    | nil =>
      intro before groups grouped
      rwa [List.append_nil]
    | cons request rest ih =>
      intro before groups grouped
      rw [List.append_cons]
      exact ih (grouped.addTo request)
  exact run (⟨.nil, fun _ => .rfl, nofun, nofun⟩ : IsByHost [] [])

end Errand

/-! ### Several keys -/

/-- Whether requests for keys at their hosts are one lawful attempt at each host, for all of its
texts that may be asked for together, and one for each other occurrence of a text; and whether a
newer routing is asked for once if some reply is marked. -/
structure Event.Distributes (events : List (Event type)) (targets : List (type.Key × Endpoint))
    (batches : List (List String × Attempt)) (singles : List (String × Attempt)) : Prop where
  distinct : (batches.map (·.2.first.endpoint.host)).Nodup
  hosts : ∀ host, host ∈ batches.map (·.2.first.endpoint.host) ↔
    ∃ target ∈ targets, isBatchable (type.toText target.1) = true ∧ target.2.host = host
  found : ∀ batch ∈ batches, ∃ target ∈ targets, target.2 = batch.2.first.endpoint
  texts : ∀ batch ∈ batches, batch.1 = (targets.filter fun target =>
    target.2.host = batch.2.first.endpoint.host && isBatchable (type.toText target.1)).map
      fun target => type.toText target.1
  batch : ∀ batch ∈ batches, batch.2.IsLawful (·.keysUrl batch.1)
  alone : singles.map (fun single => (single.2.first.endpoint, single.1)) =
    (targets.filter fun target => !isBatchable (type.toText target.1)).map
      fun target => (target.2, type.toText target.1)
  single : ∀ single ∈ singles, single.2.IsLawful (·.keyUrl single.1)
  requests : requests events =
    (batches.map (·.2) ++ singles.map (·.2)).flatMap Attempt.requests
  refreshes : refreshes events =
    if (batches.map (·.2) ++ singles.map (·.2)).any Attempt.isMarked then 1 else 0

theorem Event.isWellFormed_of_mem_lookups {events : List (Event type)}
    (wellFormed : ∀ event ∈ events, ∀ other ∈ event.endpoints, other.IsWellFormed) {key : type.Key}
    {endpoint : Endpoint} (found : (key, .ok endpoint) ∈ lookups events) :
    endpoint.IsWellFormed := by
  obtain ⟨event, listed, told⟩ := exists_of_mem_lookups key found
  exact wellFormed event listed endpoint told

/-- What is asked for several keys: nothing but hosts if one key has none, or else requests that
are distributed to the hosts of all keys. -/
def Event.AsksForMany (events : List (Event type)) (keys : List type.Key) : Prop :=
  (∃ key ∈ keys, ∃ failure, (key, .error failure) ∈ lookups events ∧ requests events = [] ∧
    refreshes events = 0) ∨
  ∃ targets batches singles, targets.map (·.1) = keys ∧
    lookups events = targets.map (fun target => (target.1, .ok target.2)) ∧
    Distributes events targets batches singles

namespace Errand

open Event (requests lookups refreshes)

variable {events : List (Event type)} {fallback : Option Endpoint}

theorem runs_target {key : type.Key} {result : Except Failure (Endpoint × String)}
    (runs : (do return (← find key, type.toText key) : Errand type _).run.Runs events result) :
    ∃ answer, events = [⟨.find key, answer⟩] ∧
      result = answer.map fun endpoint => (endpoint, type.toText key) := by
  obtain ⟨answer, rest, rfl, later⟩ := runs
  cases answer with
  | error failure =>
    obtain ⟨rfl, rfl⟩ := later
    exact ⟨_, rfl, rfl⟩
  | ok endpoint =>
    obtain ⟨rfl, rfl⟩ := later
    exact ⟨_, rfl, rfl⟩

theorem runs_targets {keys : List type.Key} {result : Except Failure (List (Endpoint × String))}
    (runs : (targets keys).run.Runs events result) :
    requests events = [] ∧ refreshes events = 0 ∧
      ((∃ key ∈ keys, ∃ failure, (key, .error failure) ∈ lookups events ∧
          result = .error failure) ∨
        ∃ found : List (type.Key × Endpoint), found.map (·.1) = keys ∧
          lookups events = found.map (fun target => (target.1, .ok target.2)) ∧
          result = .ok (found.map fun target => (target.2, type.toText target.1))) := by
  induction keys generalizing events result with
  | nil =>
    obtain ⟨rfl, rfl⟩ := runs
    exact ⟨rfl, rfl, .inr ⟨[], rfl, rfl, rfl⟩⟩
  | cons key rest ih =>
    rw [targets, List.mapM_cons] at runs
    obtain ⟨failure, rfl, first⟩ | ⟨before, after, target, rfl, first, later⟩ := runs_bind runs
    · obtain ⟨answer, rfl, same⟩ := runs_target first
      cases answer with
      | ok endpoint => cases same
      | error reason =>
        cases same
        exact ⟨rfl, rfl, .inl ⟨key, .head _, failure, .head _, rfl⟩⟩
    · obtain ⟨answer, rfl, same⟩ := runs_target first
      cases answer with
      | error reason => cases same
      | ok endpoint =>
        cases same
        clear runs
        obtain ⟨failure, rfl, others⟩ | ⟨before, last, found, rfl, others, rfl, rfl⟩ :=
          runs_bind later
        · obtain ⟨silent, quiet, ⟨other, listed, reason, failed, same⟩ | ⟨found, -, -, same⟩⟩ :=
            ih others
          · cases same
            refine ⟨?_, ?_, .inl ⟨other, .tail _ listed, failure, .tail _ failed, rfl⟩⟩
            · exact silent
            · exact quiet
          · cases same
        · obtain ⟨silent, quiet, ⟨other, -, reason, -, same⟩ | ⟨known, keys, asked, same⟩⟩ :=
            ih others
          · cases same
          · cases same
            rw [List.append_nil]
            refine ⟨silent, quiet, .inr ⟨(key, endpoint) :: known, ?_, ?_, rfl⟩⟩
            · rw [List.map_cons, keys]
            · rw [List.map_cons, ← asked]
              rfl

theorem exists_attempts {α : Type} {items : List α} (build : α → Endpoint → Except Failure Url)
    (host : α → Endpoint) {results : List (Except Failure Received)}
    (runs : (items.mapM fun item => (request fallback (build item) (host item)).run :
      Dialogue type _).Runs events results)
    (builds : ∀ item ∈ items, ∃ url, build item (host item) = .ok url) :
    ∃ attempts : List (α × Attempt), attempts.map (·.1) = items ∧
      (∀ done ∈ attempts, done.2.IsLawful (build done.1) ∧
        done.2.first.endpoint = host done.1) ∧
      Event.Comprises events (attempts.map (·.2)) ∧
      results.any isFallback = (attempts.map (·.2)).any Attempt.isMarked := by
  induction items generalizing events results with
  | nil =>
    obtain ⟨rfl, rfl⟩ := runs
    exact ⟨[], rfl, List.forall_mem_nil _, ⟨rfl, rfl, rfl⟩, rfl⟩
  | cons item rest ih =>
    obtain ⟨before, after, result, later, rfl, rfl, first, others⟩ := Dialogue.runs_mapM_cons runs
    obtain ⟨url, built⟩ := builds item (.head _)
    obtain ⟨attempt, lawful, own, comprised, marked⟩ := exists_attempt first built
    obtain ⟨attempts, same, each, comprisedLater, markedLater⟩ := ih others
      fun item among => builds item (.tail _ among)
    refine ⟨(item, attempt) :: attempts, by rw [List.map_cons, same], ?_,
      comprised.append comprisedLater, ?_⟩
    · rintro done (_ | ⟨_, listed⟩)
      · exact ⟨lawful, own⟩
      · exact each done listed
    · rw [List.any_cons, marked, markedLater, List.map_cons, List.any_cons]

/-- Several keys are asked for in four parts: their hosts, the texts that are put together by
host, the other texts, and a newer routing if need be. -/
theorem runs_getMany {keys : List type.Key} {result : Except Failure (List Json)}
    (runs : (getMany fallback keys).run.Runs events result) :
    (∃ key ∈ keys, ∃ failure, (key, .error failure) ∈ lookups events ∧ requests events = [] ∧
      refreshes events = 0) ∨
    ∃ (targets : List (type.Key × Endpoint)) (together alone : List (Event type))
      (lists values : List (Except Failure Received)),
      let pairs := targets.map fun target => (target.2, type.toText target.1)
      targets.map (·.1) = keys ∧
      ((byHost (pairs.filter fun request => isBatchable request.2)).mapM fun group =>
        (request fallback (·.keysUrl group.2) group.1).run : Dialogue type _).Runs together lists ∧
      ((pairs.filter fun request => !isBatchable request.2).mapM fun single =>
        (request fallback (·.keyUrl single.2) single.1).run : Dialogue type _).Runs alone values ∧
      lookups events = targets.map (fun target => (target.1, .ok target.2)) ++
        (lookups together ++ lookups alone) ∧
      requests events = requests together ++ requests alone ∧
      refreshes events = refreshes together + refreshes alone +
        if lists.any isFallback || values.any isFallback then 1 else 0 := by
  rw [getMany] at runs
  obtain ⟨failure, rfl, asked⟩ | ⟨before, after, requests, rfl, asked, later⟩ := runs_bind runs
  · obtain ⟨silent, quiet, ⟨key, listed, reason, failed, same⟩ | ⟨found, own, asked, same⟩⟩ :=
      runs_targets asked
    · exact .inl ⟨key, listed, reason, failed, silent, quiet⟩
    · cases same
  clear runs
  obtain ⟨silent, quiet, ⟨key, listed, reason, failed, same⟩ | ⟨targets, own, found, same⟩⟩ :=
    runs_targets asked
  · cases same
  cases same
  dsimp only at later
  obtain ⟨together, after, lists, rfl, batched, later⟩ := runs_bind_lift later
  obtain ⟨alone, after, values, rfl, single, later⟩ := runs_bind_lift later
  obtain ⟨silentLast, noneLast, refreshed⟩ := runs_settle later
  refine .inr ⟨targets, together, alone, lists, values, own, batched, single, ?_, ?_, ?_⟩
  · simp only [Event.lookups_append, found, noneLast, List.append_nil]
  · simp only [Event.requests_append, silent, silentLast, List.nil_append, List.append_nil]
  · simp only [Event.refreshes_append, quiet, refreshed, Nat.zero_add, Nat.add_assoc]

/-- Attempts for the texts of each host and for each other text distribute the keys. -/
theorem distributes_of_attempts {targets : List (type.Key × Endpoint)}
    {batches : List ((Endpoint × List String) × Attempt)}
    {singles : List ((Endpoint × String) × Attempt)}
    (sameBatches : batches.map (·.1) = byHost ((targets.map fun target =>
      (target.2, type.toText target.1)).filter fun request => isBatchable request.2))
    (eachBatch : ∀ done ∈ batches, done.2.IsLawful (·.keysUrl done.1.2) ∧
      done.2.first.endpoint = done.1.1)
    (sameSingles : singles.map (·.1) = (targets.map fun target =>
      (target.2, type.toText target.1)).filter fun request => !isBatchable request.2)
    (eachSingle : ∀ done ∈ singles, done.2.IsLawful (·.keyUrl done.1.2) ∧
      done.2.first.endpoint = done.1.1)
    (sent : requests events =
      (batches.map (·.2) ++ singles.map (·.2)).flatMap Attempt.requests)
    (refreshed : refreshes events =
      if (batches.map (·.2) ++ singles.map (·.2)).any Attempt.isMarked then 1 else 0) :
    Event.Distributes events targets (batches.map fun done => (done.1.2, done.2))
      (singles.map fun done => (done.1.2, done.2)) := by
  have grouped := isByHost_byHost ((targets.map fun target =>
    (target.2, type.toText target.1)).filter fun request => isBatchable request.2)
  have hosts : (batches.map fun done => (done.1.2, done.2)).map (·.2.first.endpoint.host) =
      (batches.map (·.1)).map (·.1.host) := by
    rw [List.map_map, List.map_map]
    exact List.map_congr_left fun done listed => congrArg _ (eachBatch done listed).2
  rw [sameBatches] at hosts
  constructor
  case distinct =>
    rw [hosts]
    exact grouped.distinct
  case hosts =>
    intro host
    rw [hosts, grouped.hosts, List.mem_map]
    constructor
    · rintro ⟨pair, listed, rfl⟩
      obtain ⟨member, whole⟩ := List.mem_filter.1 listed
      obtain ⟨target, among, rfl⟩ := List.mem_map.1 member
      exact ⟨target, among, whole, rfl⟩
    · rintro ⟨target, among, whole, rfl⟩
      exact ⟨_, List.mem_filter.2 ⟨List.mem_map_of_mem among, whole⟩, rfl⟩
  case found =>
    intro batch listed
    obtain ⟨done, member, rfl⟩ := List.mem_map.1 listed
    obtain ⟨pair, among, same⟩ := grouped.named done.1 (sameBatches ▸ List.mem_map_of_mem member)
    obtain ⟨target, told, rfl⟩ := List.mem_map.1 (List.mem_filter.1 among).1
    exact ⟨target, told, same.trans (eachBatch done member).2.symm⟩
  case texts =>
    intro batch listed
    obtain ⟨done, member, rfl⟩ := List.mem_map.1 listed
    have texts := grouped.texts done.1 (sameBatches ▸ List.mem_map_of_mem member)
    rw [List.filter_filter, List.filter_map, List.map_map] at texts
    rw [texts, (eachBatch done member).2]
    rfl
  case batch =>
    intro batch listed
    obtain ⟨done, member, rfl⟩ := List.mem_map.1 listed
    exact (eachBatch done member).1
  case alone =>
    have pairs : (singles.map fun done => (done.1.2, done.2)).map
        (fun single => (single.2.first.endpoint, single.1)) = singles.map (·.1) := by
      rw [List.map_map]
      exact List.map_congr_left fun done listed =>
        congrArg (·, done.1.2) (eachSingle done listed).2
    rw [pairs, sameSingles, List.filter_map]
    rfl
  case single =>
    intro single listed
    obtain ⟨done, member, rfl⟩ := List.mem_map.1 listed
    exact (eachSingle done member).1
  case requests =>
    rw [sent, List.map_map, List.map_map]
    rfl
  case refreshes =>
    rw [refreshed, List.map_map, List.map_map]
    rfl

theorem asksForMany_of_runs {keys : List type.Key} {result : Except Failure (List Json)}
    (runs : (getMany fallback keys).run.Runs events result)
    (wellFormed : ∀ key endpoint, (key, .ok endpoint) ∈ lookups events → endpoint.IsWellFormed) :
    Event.AsksForMany events keys := by
  obtain without | ⟨targets, together, alone, lists, values, own, batched, single, looked, sent,
    refreshed⟩ := runs_getMany runs
  · exact .inl without
  right
  have named : ∀ pair ∈ targets.map fun target => (target.2, type.toText target.1),
      pair.1.IsWellFormed := by
    intro pair listed
    obtain ⟨target, member, rfl⟩ := List.mem_map.1 listed
    exact wellFormed target.1 _ (looked ▸ List.mem_append_left _ (List.mem_map_of_mem member))
  have batchBuilds : ∀ group ∈ byHost ((targets.map fun target =>
      (target.2, type.toText target.1)).filter fun request => isBatchable request.2),
      ∃ url, group.1.keysUrl group.2 = .ok url := by
    intro group listed
    obtain ⟨request, among, same⟩ := (isByHost_byHost _).named group listed
    exact same ▸ (named request (List.mem_filter.1 among).1).exists_keysUrl _
  have singleBuilds : ∀ single ∈ (targets.map fun target =>
      (target.2, type.toText target.1)).filter fun request => !isBatchable request.2,
      ∃ url, single.1.keyUrl single.2 = .ok url :=
    fun single listed => (named single (List.mem_filter.1 listed).1).exists_keyUrl _
  obtain ⟨batches, sameBatches, eachBatch, comprised, marked⟩ := exists_attempts
    (fun (group : Endpoint × List String) other => other.keysUrl group.2) (·.1) batched batchBuilds
  obtain ⟨singles, sameSingles, eachSingle, comprisedAlone, markedAlone⟩ := exists_attempts
    (fun (single : Endpoint × String) other => other.keyUrl single.2) (·.1) single singleBuilds
  have whole := comprised.append comprisedAlone
  refine ⟨targets, _, _, own, ?_, distributes_of_attempts sameBatches eachBatch sameSingles
    eachSingle ?_ ?_⟩
  · rw [looked, comprised.lookups, comprisedAlone.lookups, List.append_nil, List.append_nil]
  · rw [sent, ← Event.requests_append, whole.requests]
  · rw [refreshed, ← Event.refreshes_append, whole.refreshes, marked, markedAlone, List.any_append,
      Nat.zero_add]

end Errand

/-! ### All hosts -/

/-- What is asked for all values: each host that is known, once, and a newer routing once if some
host is not reached or some reply is marked. -/
def Event.AsksEachHost (events : List (Event type)) : Prop :=
  ∃ (listing : Except Failure (List Endpoint)) (rest : List (Event type))
    (contacts : List Contact),
    events = ⟨.hosts, listing⟩ :: rest ∧
    contacts.map Contact.endpoint = listing.toOption.getD [] ∧
    (∀ contact ∈ contacts, contact.endpoint.allUrl = .ok contact.url) ∧
    requests events = contacts.map Contact.request ∧
    refreshes events =
      if contacts.any fun contact => isFallback contact.answer || isUnreachable contact.answer
      then 1 else 0

namespace Errand

open Event (requests lookups refreshes)

variable {events : List (Event type)} {fallback : Option Endpoint}

theorem exists_contacts (build : Endpoint → Except Failure Url) {hosts : List Endpoint}
    {replies : List (Except Failure Received)}
    (runs : (hosts.mapM fun host => (do send (← build host) : Errand type Received).run :
      Dialogue type _).Runs events replies)
    (builds : ∀ host ∈ hosts, ∃ url, build host = .ok url) :
    ∃ contacts : List Contact, contacts.map Contact.endpoint = hosts ∧
      (∀ contact ∈ contacts, build contact.endpoint = .ok contact.url) ∧
      requests events = contacts.map Contact.request ∧ refreshes events = 0 ∧
      replies = contacts.map Contact.answer := by
  induction hosts generalizing events replies with
  | nil =>
    obtain ⟨rfl, rfl⟩ := runs
    exact ⟨[], rfl, List.forall_mem_nil _, rfl, rfl, rfl⟩
  | cons host rest ih =>
    obtain ⟨before, after, reply, later, rfl, rfl, first, others⟩ := Dialogue.runs_mapM_cons runs
    obtain ⟨url, built⟩ := builds host (.head _)
    rw [built, ok_bind] at first
    obtain rfl := runs_send first
    obtain ⟨contacts, same, lawful, sent, quiet, replies⟩ := ih others
      fun other listed => builds other (.tail _ listed)
    refine ⟨⟨host, url, reply⟩ :: contacts, by rw [List.map_cons, same], ?_, ?_, ?_, ?_⟩
    · rintro contact (_ | ⟨_, listed⟩)
      · exact built
      · exact lawful contact listed
    · rw [List.map_cons, ← sent]
      rfl
    · exact quiet
    · rw [List.map_cons, replies]

theorem runs_hosts {result : Except Failure (List Endpoint)}
    (runs : (hosts : Errand type _).run.Runs events result) : events = [⟨.hosts, result⟩] := by
  obtain ⟨answer, rest, rfl, rfl, rfl⟩ := runs
  rfl

theorem asksEachHost_of_runs {result : Except Failure (List Json)}
    (runs : (getAll : Errand type _).run.Runs events result)
    (wellFormed : ∀ event ∈ events, ∀ other ∈ event.endpoints, other.IsWellFormed) :
    Event.AsksEachHost events := by
  unfold getAll at runs
  obtain ⟨failure, rfl, told⟩ | ⟨before, after, hosts, rfl, told, later⟩ := runs_bind runs <;>
    obtain rfl := runs_hosts told
  · exact ⟨.error failure, [], [], rfl, rfl, List.forall_mem_nil _, rfl, rfl⟩
  clear runs
  refine ⟨.ok hosts, after, ?_⟩
  split at later
  · next empty =>
    obtain ⟨rfl, rfl⟩ := later
    rw [List.isEmpty_iff.1 empty]
    exact ⟨[], rfl, rfl, List.forall_mem_nil _, rfl, rfl⟩
  · obtain ⟨asking, last, replies, rfl, asked, settled⟩ := runs_bind_lift later
    obtain ⟨contacts, same, lawful, sent, quiet, rfl⟩ := exists_contacts Endpoint.allUrl asked
      fun host listed => (wellFormed _ (.head _) host listed).exists_allUrl
    obtain ⟨silent, -, refreshed⟩ := runs_settle settled
    refine ⟨contacts, rfl, same, lawful, ?_, ?_⟩
    · rw [Event.requests_append, Event.requests_append, sent, silent, List.append_nil]
      rfl
    · rw [Event.refreshes_append, Event.refreshes_append, quiet, refreshed, List.any_map,
        Nat.zero_add]
      exact Nat.zero_add _

end Errand

/-! ### All operations -/

/-- Whatever hosts and the router answer in the course of a call, as long as requests to all hosts
that the router tells of can be written: it asks for one key, several keys and all values as often
as it must, and for a newer routing at most once. -/
theorem effort_of_calls (fallback : Option Endpoint) (events : List (Event type))
    (wellFormed : ∀ event ∈ events, ∀ other ∈ event.endpoints, other.IsWellFormed) :
    (∀ key result, (Errand.get fallback key).run.Runs events result →
      Event.AsksForOne events key (·.keyUrl (type.toText key))) ∧
    (∀ key lower upper result, (Errand.getRange fallback key lower upper).run.Runs events result →
      Event.AsksForOne events key (·.rangeUrl (type.toText key) lower upper)) ∧
    (∀ keys result, (Errand.getMany fallback keys).run.Runs events result →
      Event.AsksForMany events keys) ∧
    ∀ result, (Errand.getAll : Errand type _).run.Runs events result →
      Event.AsksEachHost events :=
  ⟨fun _ _ runs => Errand.asksForOne_of_runs runs fun event listed other told =>
      (wellFormed event listed other told).exists_keyUrl _,
    fun _ _ _ _ runs => Errand.asksForOne_of_runs runs fun event listed other told =>
      (wellFormed event listed other told).exists_rangeUrl ..,
    fun _ _ runs => Errand.asksForMany_of_runs runs fun _ _ =>
      Event.isWellFormed_of_mem_lookups wellFormed,
    fun _ runs => Errand.asksEachHost_of_runs runs wellFormed⟩

/-! ### A request that is repeated -/

section Repeated

variable {near far : Endpoint} {build : Endpoint → Except Failure Url} {first second : Url}

/-- The course of a request to a host that is not reached, where one other host is known. -/
def Event.repeated (near far : Endpoint) (first second : Url) (answer : Except Failure Received) :
    List (Event type) :=
  [⟨.send first, .error (.unreachable near.host "no connection")⟩, ⟨.hosts, .ok [near, far]⟩,
    ⟨.draw, 0⟩, ⟨.send second, answer⟩]

theorem Errand.runs_repeated (apart : far.isSameHost near = false)
    (builtFirst : build near = .ok first) (builtSecond : build far = .ok second)
    (answer : Except Failure Received) :
    (request none build near : Errand type Received).run.Runs
      (Event.repeated near far first second answer) (answer.map Received.asFallback) := by
  have others : [near, far].filter (!·.isSameHost near) = [far] := by
    simp [Endpoint.isSameHost] at apart ⊢
    exact apart
  have alternative : (alternative? none near : Errand type _).run.Runs
      [⟨.hosts, .ok [near, far]⟩, ⟨.draw, 0⟩] (.ok (some far)) :=
    ⟨_, _, rfl, _, _, rfl, rfl, by rw [others]; rfl⟩
  have again : (elsewhere none build near (.unreachable near.host "no connection") :
      Errand type _).run.Runs
      [⟨.hosts, .ok [near, far]⟩, ⟨.draw, 0⟩, ⟨.send second, answer⟩]
      (answer.map Received.asFallback) := by
    unfold elsewhere
    refine runs_bind_of_ok alternative ?_ rfl
    dsimp only
    rw [builtSecond, ok_bind]
    cases answer <;> exact ⟨_, _, rfl, rfl, rfl⟩
  rw [request, builtFirst, ok_bind]
  exact ⟨_, _, rfl, again⟩

/-- If the other host has something to say for a key, a newer routing is asked for before the call
ends. -/
theorem Errand.runs_repeated_of_ok (apart : far.isSameHost near = false)
    (builtFirst : build near = .ok first) (builtSecond : build far = .ok second) {α : Type}
    (key : type.Key) (read : Received → Except Failure α) (received : Received) :
    (do
      let endpoint ← find key
      let received ← request none build endpoint
      heed received.isFallback
      liftM (read received) : Errand type α).run.Runs
      (⟨.find key, .ok near⟩ :: (Event.repeated near far first second (.ok received) ++
        [⟨.refresh, ()⟩])) (read received.asFallback) := by
  have found : (find key).run.Runs [⟨.find key, .ok near⟩] (.ok near) := ⟨_, _, rfl, rfl, rfl⟩
  have asked : (request none build near : Errand type _).run.Runs
      (Event.repeated near far first second (.ok received)) (.ok received.asFallback) :=
    runs_repeated apart builtFirst builtSecond (.ok received)
  have heeded : (heed true : Errand type _).run.Runs [⟨.refresh, ()⟩] (.ok ()) :=
    ⟨_, _, rfl, rfl, rfl⟩
  have last : (liftM (read received.asFallback) : Errand type _).run.Runs []
      (read received.asFallback) := ⟨rfl, rfl⟩
  refine runs_bind_of_ok found ?_ rfl
  refine runs_bind_of_ok asked ?_ rfl
  exact runs_bind_of_ok heeded last rfl

/-- A lookup where the host of the key is not reached, and the only other host answers. -/
theorem Errand.exists_get_repeated (key : type.Key) (apart : far.isSameHost near = false)
    (wellFormed : near.IsWellFormed ∧ far.IsWellFormed) (received : Received) :
    ∃ events, (get none key).run.Runs events received.value? ∧
      (Event.requests events).length = 2 ∧ Event.refreshes events = 1 ∧
      ∀ event ∈ events, ∀ other ∈ event.endpoints, other = near ∨ other = far := by
  obtain ⟨first, builtFirst⟩ := wellFormed.1.exists_keyUrl (type.toText key)
  obtain ⟨second, builtSecond⟩ := wellFormed.2.exists_keyUrl (type.toText key)
  let build := fun endpoint : Endpoint => endpoint.keyUrl (type.toText key)
  refine ⟨_, @runs_repeated_of_ok type _ _ build _ _ apart builtFirst builtSecond _ key
    Received.value? received, rfl, rfl, fun event listed other told => ?_⟩
  simp only [Event.repeated, List.mem_cons, List.mem_append, List.not_mem_nil, or_false] at listed
  rcases listed with rfl | (rfl | rfl | rfl | rfl) | rfl
  · exact .inl (List.mem_singleton.1 told)
  · cases told
  · simpa [Event.endpoints] using told
  · cases told
  · cases told
  · cases told

end Repeated

/-- One host is not reached, and the other one has no value. -/
theorem effort_of_calls_repeated :
    let near := Endpoint.direct "127.0.0.1:8001"
    let far := Endpoint.direct "127.0.0.1:8002"
    near.IsWellFormed ∧ far.IsWellFormed ∧
      ∃ events : List (Event .string), (@Errand.get .string none "k").run.Runs events (.ok none) ∧
        (Event.requests events).length = 2 ∧ Event.refreshes events = 1 ∧
        Event.AsksForOne events "k" (·.keyUrl (KeyType.toText .string "k")) := by
  intro near far
  have wellFormed : near.IsWellFormed ∧ far.IsWellFormed := by decide +kernel
  have apart : far.isSameHost near = false := by decide +kernel
  obtain ⟨events, runs, twice, once, named⟩ :=
    @Errand.exists_get_repeated .string _ _ "k" apart wellFormed ⟨none, .primary⟩
  refine ⟨wellFormed.1, wellFormed.2, events, runs, twice, once,
    (effort_of_calls none events fun event listed other told => ?_).1 "k" _ runs⟩
  rcases named event listed other told with rfl | rfl
  · exact wellFormed.1
  · exact wellFormed.2

end ShardedView
