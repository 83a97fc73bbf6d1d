import ShardedView.Proofs.Client.Dialogue
import ShardedView.Proofs.Failure
import ShardedView.Proofs.Grouping
import ShardedView.Proofs.Query.Reply

/-!
How a client that knows several hosts asks them: a host that replies is the only one that is
asked, each host gets the texts of its own keys together, and the values of all replies are put
together.
-/

namespace ShardedView

open Errand (addTo byHost collect)
open Http (Reply Traced Url)
open Http.Exchange (outcome)

def Endpoint.told (send : Sender) (url : Except Failure Url) : Except Failure Received := do
  (send (← url)).outcome

namespace Routes

variable {type : KeyType}

theorem not_unreachable_of_reply (reply : Reply) (host reason : String) :
    Received.ofReply reply ≠ .error (.unreachable host reason) := by
  unfold Received.ofReply
  dsimp only
  repeat' split
  case isFalse.isFalse =>
    unfold Failure.ofReply
    dsimp only
    repeat' split
    all_goals exact fun same => nomatch same
  all_goals exact fun same => nomatch same

/-- What becomes of a request to a host, or to another one if it cannot be reached. -/
def ask (routes : Routes type) (send : Sender) (build : Endpoint → Except Failure Url)
    (endpoint : Endpoint) : Except Failure Received :=
  routes.conclusion send (Errand.request routes.fallback build endpoint).run

theorem ask_of_told (routes : Routes type) {send : Sender}
    (build : Endpoint → Except Failure Url) (endpoint : Endpoint) {reply : Reply}
    (reached : Endpoint.told send (build endpoint) = Received.ofReply reply) :
    routes.ask send build endpoint = Received.ofReply reply := by
  rw [ask, Errand.request, conclusion_errand]
  cases built : build endpoint with
  | error failure =>
    rw [built] at reached
    exact reached
  | ok url =>
    rw [built] at reached
    show routes.conclusion send ((Errand.send url).run >>= _) = _
    rw [conclusion_bind, show routes.conclusion send (Errand.send url).run = _ from reached]
    cases answer : Received.ofReply reply with
    | ok received => rfl
    | error failure =>
      have other : failure.kind ≠ .unreachable := by
        intro same
        cases failure with
        | unreachable host reason => exact not_unreachable_of_reply reply host reason answer
        | _ => cases same
      dsimp only
      rw [if_neg other]
      rfl

/-- What a client gets for a key is read from the reply of a host that it finds for the key. -/
theorem exists_of_get {routes : Routes type} {send : Sender} {key : type.Key}
    {value : Option Json} (done : (routes.get send key).result.result = .ok value) :
    ∃ endpoint, routes.find key = .ok endpoint ∧
      (routes.ask send (·.keyUrl (type.toText key)) endpoint >>= Received.value?) =
        .ok value := by
  rw [get, result_run, Errand.get, conclusion_errand] at done
  obtain ⟨endpoint, found, done⟩ := Failure.exists_of_bind done
  rw [conclusion_errand] at done
  obtain ⟨received, replied, done⟩ := Failure.exists_of_bind done
  rw [conclusion_errand, Failure.bind_of_ok (routes.conclusion_heed send _)] at done
  exact ⟨endpoint, found, (Failure.bind_of_ok replied _).trans done⟩

theorem collect_eq {α : Type} {read : Received → Except Failure (List Json)} {items : List α}
    {reply : α → Except Failure Received} {values : α → List Json}
    (each : ∀ item ∈ items, (reply item >>= read) = .ok (values item)) :
    collect read (items.map reply) = .ok (items.flatMap values) := by
  have collected : (items.map reply).mapM (fun reply => reply.bind read) =
      .ok (items.map values) := by
    rw [Failure.mapM_eq_ok_iff, List.map_map, List.map_map]
    exact List.map_congr_left each
  rw [collect, collected]
  rfl

/-! ### The texts of each host -/

def ofGroups (groups : List (Endpoint × List String)) : List (Endpoint × String) :=
  groups.flatMap fun group => group.2.map (Prod.mk group.1)

theorem ofGroups_cons (endpoint : Endpoint) (texts : List String)
    (rest : List (Endpoint × List String)) :
    ofGroups ((endpoint, texts) :: rest) = texts.map (Prod.mk endpoint) ++ ofGroups rest :=
  List.flatMap_cons

theorem flatMap_filterMap_eq {β : Type} (known : String → Option β)
    (groups : List (Endpoint × List String)) :
    groups.flatMap (fun group => group.2.filterMap known) =
      (ofGroups groups).filterMap fun request => known request.2 := by
  induction groups with
  | nil => rfl
  | cons group rest ih =>
    rw [List.flatMap_cons, ih, ofGroups_cons, List.filterMap_append, List.filterMap_map]
    rfl

/-- A text is listed once more, where there are no hosts that differ by their leads only. -/
theorem perm_addTo {endpoint : Endpoint} (direct : endpoint.lead = none) (text : String)
    {groups : List (Endpoint × List String)} (others : ∀ group ∈ groups, group.1.lead = none) :
    (ofGroups (addTo endpoint text groups)).Perm ((endpoint, text) :: ofGroups groups) := by
  induction groups with
  | nil => exact .refl _
  | cons group rest ih =>
    obtain ⟨other, texts⟩ := group
    rw [addTo, ofGroups_cons]
    by_cases same : endpoint.isSameHost other = true
    · obtain rfl : endpoint = other := by
        have lead := direct.trans (others _ (.head _)).symm
        cases endpoint
        cases other
        exact Endpoint.mk.injEq .. ▸ ⟨of_decide_eq_true same, lead⟩
      rw [if_pos same, ofGroups_cons, List.map_append, List.append_assoc]
      exact List.perm_middle
    · rw [if_neg same, ofGroups_cons]
      have later := ih fun group listed => others group (.tail _ listed)
      exact (later.append_left _).trans List.perm_middle

theorem host_of_mem_addTo {endpoint : Endpoint} {text : String}
    {groups : List (Endpoint × List String)} {group : Endpoint × List String}
    (listed : group ∈ addTo endpoint text groups) :
    group.1 = endpoint ∨ ∃ other ∈ groups, group.1 = other.1 := by
  induction groups with
  | nil => exact .inl (congrArg Prod.fst (List.mem_singleton.1 listed))
  | cons first rest ih =>
    obtain ⟨other, texts⟩ := first
    rw [addTo] at listed
    split at listed
    · rcases List.mem_cons.1 listed with rfl | member
      · exact .inr ⟨_, .head _, rfl⟩
      · exact .inr ⟨group, .tail _ member, rfl⟩
    · rcases List.mem_cons.1 listed with rfl | member
      · exact .inr ⟨_, .head _, rfl⟩
      · rcases ih member with own | ⟨other, among, same⟩
        · exact .inl own
        · exact .inr ⟨other, .tail _ among, same⟩

/-- Whether requests are listed under their hosts, each as often as it occurs. -/
structure Gathers (requests : List (Endpoint × String)) (groups : List (Endpoint × List String)) :
    Prop where
  perm : (ofGroups groups).Perm requests
  hosts : ∀ group ∈ groups, ∃ request ∈ requests, group.1 = request.1

theorem Gathers.addTo {requests : List (Endpoint × String)}
    {groups : List (Endpoint × List String)} (gathers : Gathers requests groups)
    {request : Endpoint × String}
    (direct : ∀ other ∈ requests ++ [request], other.1.lead = none) :
    Gathers (requests ++ [request]) (addTo request.1 request.2 groups) := by
  have own := direct request (List.mem_append_right _ (.head _))
  constructor
  · refine (perm_addTo own request.2 fun group listed => ?_).trans
      ((gathers.perm.cons _).trans (List.perm_append_singleton ..).symm)
    obtain ⟨other, among, same⟩ := gathers.hosts group listed
    exact same ▸ direct other (List.mem_append_left _ among)
  · intro group listed
    rcases host_of_mem_addTo listed with same | ⟨other, among, same⟩
    · exact ⟨request, List.mem_append_right _ (.head _), same⟩
    · obtain ⟨earlier, member, equal⟩ := gathers.hosts other among
      exact ⟨earlier, List.mem_append_left _ member, same.trans equal⟩

theorem gathers_byHost {requests : List (Endpoint × String)}
    (direct : ∀ request ∈ requests, request.1.lead = none) :
    Gathers requests (byHost requests) := by
  have run : ∀ {later before : List (Endpoint × String)} {groups : List (Endpoint × List String)},
      Gathers before groups → (∀ request ∈ before ++ later, request.1.lead = none) →
        Gathers (before ++ later)
          (later.foldl (fun groups request => Errand.addTo request.1 request.2 groups) groups) := by
    intro later
    induction later with
    | nil =>
      intro before groups gathers _
      rwa [List.append_nil]
    | cons request rest ih =>
      intro before groups gathers direct
      rw [List.append_cons] at direct ⊢
      refine ih (gathers.addTo fun other member => ?_) direct
      exact direct other (List.mem_append_left _ member)
  have nothing : Gathers [] [] := by
    refine ⟨.refl _, fun group listed => ?_⟩
    cases listed
  exact run nothing direct

/-! ### Several keys -/

/-- What a client that knows the hosts of keys gets for them, if every host replies with the
values of its own. -/
theorem result_getMany (routes : Routes type) (send : Sender) {keys : List type.Key}
    {requests : List (Endpoint × String)} {known : String → Option Json}
    (found : (keys.mapM fun key => (routes.find key).map fun host => (host, type.toText key)) =
      .ok requests)
    (batch : ∀ group ∈ byHost (requests.filter fun request => isBatchable request.2),
      (routes.ask send (·.keysUrl group.2) group.1 >>= Received.values) =
        .ok (group.2.filterMap known))
    (single : ∀ request ∈ requests.filter fun request => !isBatchable request.2,
      (routes.ask send (·.keyUrl request.2) request.1 >>= Received.value?) =
        .ok (known request.2)) :
    (routes.getMany send keys).result.result =
      .ok ((byHost (requests.filter fun request => isBatchable request.2)).flatMap
          (fun group => group.2.filterMap known) ++
        (requests.filter fun request => !isBatchable request.2).filterMap
          fun request => known request.2) := by
  have singles : ∀ request ∈ requests.filter fun request => !isBatchable request.2,
      (routes.ask send (·.keyUrl request.2) request.1 >>=
        fun received => received.value?.map Option.toList) = .ok (known request.2).toList := by
    intro request listed
    obtain ⟨received, replied, value⟩ := Failure.exists_of_bind (single request listed)
    rw [Failure.bind_of_ok replied, value]
    rfl
  have asked : routes.conclusion send (Errand.targets keys).run = .ok requests := by
    rw [Errand.targets, conclusion_errand_mapM, ← found]
    refine congrArg (keys.mapM ·) (funext fun key => ?_)
    rw [conclusion_errand]
    rfl
  rw [getMany, result_run, Errand.getMany, conclusion_errand, Failure.bind_of_ok asked]
  dsimp only
  rw [conclusion_errand, conclusion_lift, conclusion_mapM]
  refine (Failure.bind_of_ok rfl _).trans ?_
  rw [conclusion_errand, conclusion_lift, conclusion_mapM]
  refine (Failure.bind_of_ok rfl _).trans ?_
  rw [conclusion_errand, Failure.bind_of_ok (conclusion_heed ..), ← flatMap_toList]
  exact (Failure.bind_of_ok (collect_eq batch) _).trans
    (Failure.bind_of_ok (collect_eq singles) _)

end Routes

/-- An operation whose replies came from where they were expected leaves the router as it
is, and sends nothing beyond itself. -/
theorem Router.call_of_current {α : Type} {network : Http.Network} {router : Router}
    {operation : Traced (Verdict α)} (current : operation.result.isOutdated = false) :
    router.call network operation = ⟨(router, operation.result.result), operation.sent⟩ := by
  have followed : router.follow network operation.result = pure router := by
    rw [follow, current]
    rfl
  refine Traced.ext ?_ ?_
  · rw [call, Traced.result_bind, followed]
    rfl
  · rw [call, Traced.sent_bind, followed]
    exact List.append_nil _

end ShardedView
