import ShardedView.Cluster
import ShardedView.Proofs.Failure
import ShardedView.Proofs.Http.Traced
import ShardedView.Proofs.Partition.Owners
import ShardedView.Proofs.Query.Internal
import ShardedView.Proofs.Query.Local

/-!
The requests that one request causes: at most one for each key that it names, to the
active host of the key, and none if it comes from another replica.

Replicas may contradict each other about who holds a key. What keeps them from passing a
request on and on is its path alone: whatever the text of the key, the path that a replica
asks for is one behind which nobody asks further.
-/

namespace ShardedView

open Http (Url Traced)
open Http.Exchange (outcome)

namespace Http.Exchange

variable {α β : Type}

def sent (exchange : Exchange α) : List Url :=
  exchange.run.sent

theorem sent_bind (first : Exchange α) (next : α → Exchange β) :
    (first >>= next).sent = first.sent ++
      match first.outcome with
      | .ok value => (next value).sent
      | .error _ => [] := by
  show first.run.sent ++ Traced.sent (ExceptT.bindCont next first.run.result) = _
  unfold outcome sent
  cases first.run.result <;> rfl

theorem sent_lift (result : Except Failure α) : (liftM result : Exchange α).sent = [] := rfl

end Http.Exchange

open Http.Exchange (sent_bind sent_lift outcome_lift)

namespace Replica

variable {replica : Replica} {send : Sender}

theorem sent_replyTo_of_isInternal {route : Route} (internal : route.isInternal = true)
    (query : Bytes) : (replica.replyTo send query route).sent = [] := by
  cases route with
  | internalPoint segment => rfl
  | internalRange segment => rfl
  | _ => contradiction

/-- What a reply makes a replica send is what the route of the request makes it send, or
nothing. -/
theorem sent_reply_cases (replica : Replica) (send : Sender) (request : Request) :
    (replica.reply send request).sent = [] ∨
      ∃ route, Route.ofPath? request.path = some route ∧
        (replica.reply send request).sent = (replica.replyTo send request.query route).sent := by
  unfold reply
  cases named : Route.ofPath? request.path with
  | none => exact .inl rfl
  | some route =>
    dsimp only
    split
    · exact .inr ⟨route, rfl, rfl⟩
    · split
      · exact .inr ⟨route, rfl, List.append_nil _⟩
      · exact .inl rfl

end Replica

/-- A request of one replica to another causes no further one, whichever server it
reaches. -/
theorem Cluster.sent_network_of_internal (cluster : Cluster) {host : String} {url : Url}
    (internal : Endpoint.Internal host url) (hops : Nat) :
    (cluster.network hops url).sent = [] := by
  cases hops with
  | zero => rfl
  | succ hops =>
    simp only [network]
    split
    · next name server found =>
      split
      · cases server with
        | replica replica =>
          show (replica.reply _ _).sent ++ [] = []
          rw [List.append_nil]
          rcases replica.sent_reply_cases (cluster.network hops).sender
            (.ofTarget "GET" url.target) with nothing | ⟨route, named, same⟩
          · exact nothing
          · rw [same]
            exact Replica.sent_replyTo_of_isInternal (internal.isInternal_route named) _
        | fixed replies =>
          simp only [answer]
          split <;> rfl
      · rfl
    · rfl

theorem Http.Network.sent_send (network : Network) (url : Url) :
    (liftM (network.send url) : Exchange (Option Reply)).sent = url :: (network url).sent :=
  List.append_nil _

/-- A sender sends the request itself and what the server sends for it. -/
theorem Http.Network.sent_sender (network : Network) (url : Url) :
    (network.sender url).sent = url :: (network url).sent := by
  rw [sender, sent_bind, sent_send]
  cases outcome (liftM (network.send url) : Exchange (Option Reply)) with
  | error failure => exact List.append_nil _
  | ok reply => cases reply <;> exact List.append_nil _

namespace Replica

/-- A request for a key to the active host of its partition, as the replica knows it. -/
def Forwards (replica : Replica) (key : Bytes) (url : Url) : Prop :=
  ∃ active standbys, replica.owners.find? (replica.place key) = some (active :: standbys) ∧
    Endpoint.Internal active url

variable (replica : Replica) (cluster : Cluster) (hops : Nat)

/-- Asking a host once and looking at what it says takes one request, if there is a URL
for it. -/
theorem sent_ask_cases {α : Type} {host : String} {build : Except Failure Url}
    {use : Received → Http.Exchange α}
    (internal : ∀ url, build = .ok url → Endpoint.Internal host url)
    (silent : ∀ received, (use received).sent = []) :
    let asked : Http.Exchange α := do use (← (cluster.network hops).sender (← build))
    asked.sent = [] ∨ ∃ url, asked.sent = [url] ∧ Endpoint.Internal host url := by
  intro asked
  cases built : build with
  | error failure =>
    left
    simp only [asked, built, sent_bind, sent_lift, outcome_lift, List.append_nil]
  | ok url =>
    right
    refine ⟨url, ?_, internal url built⟩
    simp only [asked, built, sent_bind, sent_lift, outcome_lift, Http.Network.sent_sender,
      cluster.sent_network_of_internal (internal url built), List.nil_append]
    split
    · rw [silent]
      rfl
    · rfl

theorem sent_get_cases (key : replica.topic.keyType.Key) :
    let sent := (replica.get (cluster.network hops).sender key).sent
    sent = [] ∨ ∃ url, sent = [url] ∧ replica.Forwards (replica.topic.keyType.encode key) url := by
  intro sent
  simp only [sent, get, sent_bind, sent_lift, outcome_lift, List.nil_append]
  cases located : replica.locateHere (replica.topic.keyType.encode key) with
  | error failure => exact .inl rfl
  | ok found =>
    obtain ⟨location, here⟩ := found
    cases here with
    | true =>
      left
      simp only [if_true, sent_bind, sent_lift, List.nil_append]
      split <;> rfl
    | false =>
      simp only [Bool.false_eq_true, if_false]
      refine (sent_ask_cases cluster hops
        (fun url built => Endpoint.internal_of_internalKeyUrl built)
        fun received => ?_).imp_right fun ⟨url, one, internal⟩ =>
          ⟨url, one, _, _, (eq_of_locateHere located).2.1, internal⟩
      rw [sent_bind, sent_lift]
      cases outcome (liftM received.value? : Http.Exchange (Option Json)) with
      | error failure => rfl
      | ok value => cases value <;> rfl

/-- Reading a range of a key takes no request, or one to the active host of the key. -/
theorem sent_getRange_cases (key : replica.topic.keyType.Key) (lower upper : String) :
    let sent := (replica.getRange (cluster.network hops).sender key lower upper).sent
    sent = [] ∨ ∃ url, sent = [url] ∧ replica.Forwards (replica.topic.keyType.encode key) url := by
  intro sent
  simp only [sent, getRange, sent_bind, sent_lift, outcome_lift, List.nil_append]
  cases replica.rangeBounds key lower upper with
  | error failure => exact .inl rfl
  | ok bounds =>
    dsimp only
    cases located : replica.locateHere (replica.topic.keyType.encode key) with
    | error failure => exact .inl rfl
    | ok found =>
      obtain ⟨location, here⟩ := found
      cases here with
      | true =>
        left
        simp only [if_true, sent_bind, sent_lift, List.nil_append]
        split <;> rfl
      | false =>
        simp only [Bool.false_eq_true, if_false]
        refine (sent_ask_cases cluster hops
          (fun url built => Endpoint.internal_of_internalRangeUrl built)
          fun received => ?_).imp_right fun ⟨url, one, internal⟩ =>
            ⟨url, one, _, _, (eq_of_locateHere located).2.1, internal⟩
        rw [sent_bind, sent_lift]
        cases outcome (liftM received.values : Http.Exchange (List Json)) <;> rfl

theorem sent_getMany (send : Sender) (keys : List replica.topic.keyType.Key) :
    (replica.getMany send keys).sent = keys.flatMap fun key => (replica.get send key).sent := by
  have own : (liftM (keys.mapM fun key => (replica.get send key).run : Traced _) :
      Http.Exchange _).sent = keys.flatMap fun key => (replica.get send key).sent :=
    (List.append_nil _).trans (Traced.sent_mapM ..)
  rw [getMany, sent_bind, own]
  cases outcome (liftM (keys.mapM fun key => (replica.get send key).run : Traced _) :
      Http.Exchange _) <;> exact List.append_nil _

end Replica

/-- The texts of the keys that a request asks for, unless it comes from another replica. -/
def Request.publicTexts (request : Request) : List String :=
  match Route.ofPath? request.path with
  | some (.point segment) | some (.range segment) => (keyText segment).toOption.toList
  | some .many => (keyTexts request.query).toOption.getD []
  | _ => []

namespace Replica

variable (replica : Replica) (cluster : Cluster) (hops : Nat)

/-- A request for the key of a text to the active host of its partition, as the replica
knows it. -/
def ForwardsText (text : String) (url : Url) : Prop :=
  ∃ key, replica.topic.keyType.ofText text = .ok key ∧
    replica.Forwards (replica.topic.keyType.encode key) url

/-- At most one request for each text, and each for one of the texts. -/
structure Within (texts : List String) (sent : List Url) : Prop where
  length : sent.length ≤ texts.length
  forwards : ∀ url ∈ sent, ∃ text ∈ texts, replica.ForwardsText text url

theorem within_nil (texts : List String) : replica.Within texts [] :=
  ⟨Nat.zero_le _, nofun⟩

theorem within_of_cases {text : String} {key : replica.topic.keyType.Key} {sent : List Url}
    (read : replica.topic.keyType.ofText text = .ok key)
    (cases : sent = [] ∨ ∃ url, sent = [url] ∧
      replica.Forwards (replica.topic.keyType.encode key) url) : replica.Within [text] sent := by
  rcases cases with rfl | ⟨url, rfl, forwards⟩
  · exact replica.within_nil [text]
  · refine ⟨Nat.le_refl 1, fun other member => ⟨text, .head _, key, read, ?_⟩⟩
    rw [List.mem_singleton.1 member]
    exact forwards

theorem within_replyPoint (segment : Bytes) :
    replica.Within (Request.keyText segment).toOption.toList
      (replica.replyPoint (cluster.network hops).sender segment).sent := by
  unfold replyPoint
  cases Request.keyText segment with
  | error fault => exact replica.within_nil _
  | ok text =>
    dsimp only
    cases read : replica.topic.keyType.ofText text with
    | error failure => exact replica.within_nil _
    | ok key =>
      dsimp only
      rw [Traced.sent_map]
      exact replica.within_of_cases read (replica.sent_get_cases cluster hops key)

theorem keyText_of_rangeArguments {segment query : Bytes} {text lower upper : String}
    (found : rangeArguments segment query = .ok (text, lower, upper)) :
    Request.keyText segment = .ok text := by
  unfold rangeArguments at found
  simp only [bind, Except.bind, pure, Except.pure] at found
  split at found
  · contradiction
  · next own same =>
    split at found
    · contradiction
    · rw [same, (Prod.mk.inj (Except.ok.inj found)).1]

theorem within_replyRange (segment query : Bytes) :
    replica.Within (Request.keyText segment).toOption.toList
      (replica.replyRange (cluster.network hops).sender segment query).sent := by
  unfold replyRange
  cases found : rangeArguments segment query with
  | error fault => exact replica.within_nil _
  | ok arguments =>
    obtain ⟨text, lower, upper⟩ := arguments
    rw [keyText_of_rangeArguments found]
    dsimp only
    cases read : replica.topic.keyType.ofText text with
    | error failure => exact replica.within_nil _
    | ok key =>
      dsimp only
      rw [Traced.sent_map]
      exact replica.within_of_cases read (replica.sent_getRange_cases cluster hops key lower upper)

theorem within_replyMany (query : Bytes) :
    replica.Within ((Request.keyTexts query).toOption.getD [])
      (replica.replyMany (cluster.network hops).sender query).sent := by
  unfold replyMany
  cases Request.keyTexts query with
  | error fault => exact replica.within_nil _
  | ok texts =>
    dsimp only [Except.toOption, Option.getD_some]
    cases read : texts.mapM replica.topic.keyType.ofText with
    | error failure => exact replica.within_nil _
    | ok keys =>
      dsimp only
      rw [Traced.sent_map, show Traced.sent _ = _ from replica.sent_getMany _ keys]
      have each := replica.sent_get_cases cluster hops
      constructor
      · rw [← Failure.length_of_mapM read]
        clear read
        induction keys with
        | nil => exact Nat.le_refl 0
        | cons key rest ih =>
          rw [List.flatMap_cons, List.length_append, List.length_cons]
          rcases each key with nothing | ⟨url, one, -⟩
          · rw [nothing]
            exact Nat.le_succ_of_le ((Nat.zero_add _).symm ▸ ih)
          · rw [one, List.length_singleton]
            omega
      · intro url member
        obtain ⟨key, among, member⟩ := List.mem_flatMap.1 member
        obtain ⟨text, listed, own⟩ := Failure.exists_of_mem_mapM read among
        rcases each key with nothing | ⟨other, one, forwards⟩
        · rw [nothing] at member
          contradiction
        · rw [one] at member
          exact ⟨text, listed, key, own, List.mem_singleton.1 member ▸ forwards⟩

/-- A request makes a replica send at most one request for each key that it asks for, and
nothing if it comes from another replica. -/
theorem within_reply (request : Request) :
    replica.Within request.publicTexts
      (replica.reply (cluster.network hops).sender request).sent := by
  rcases replica.sent_reply_cases (cluster.network hops).sender request with
    nothing | ⟨route, named, same⟩
  · rw [nothing]
    exact replica.within_nil _
  · rw [same, Request.publicTexts, named]
    cases route with
    | all => exact replica.within_nil _
    | partitions => exact replica.within_nil _
    | internalPoint segment => exact replica.within_nil _
    | internalRange segment => exact replica.within_nil _
    | many => exact replica.within_replyMany cluster hops request.query
    | point segment => exact replica.within_replyPoint cluster hops segment
    | range segment => exact replica.within_replyRange cluster hops segment request.query

/-- Whatever the replicas of a cluster believe, one request for a key or for a range of it
causes at most one other in the whole cluster, one for several keys at most one for each,
and one between replicas none. What is asked for is a key of the request, and what is asked
is the active host of its partition, under a path for requests between replicas. -/
theorem sent_for_request (cluster : Cluster) (hops : Nat) (asked : Replica) (request : Request) :
    let sent := (asked.reply (cluster.network hops).sender request).sent
    (match Route.ofPath? request.path with
      | some (.point _) | some (.range _) => sent.length ≤ 1
      | some .many => sent.length ≤ request.publicTexts.length
      | _ => sent = []) ∧
    ∀ url ∈ sent, ∃ text ∈ request.publicTexts, ∃ key active standbys,
      asked.topic.keyType.ofText text = .ok key ∧
      asked.owners.find? (asked.place (asked.topic.keyType.encode key)) =
        some (active :: standbys) ∧
      Endpoint.Internal active url := by
  intro sent
  obtain ⟨length, forwards⟩ := asked.within_reply cluster hops request
  constructor
  · have single : ∀ segment, (Request.keyText segment).toOption.toList.length ≤ 1 := by
      intro segment
      cases Request.keyText segment with
      | error fault => exact Nat.zero_le 1
      | ok text => exact Nat.le_refl 1
    rw [Request.publicTexts] at length
    cases named : Route.ofPath? request.path with
    | none =>
      rw [named] at length
      exact List.length_eq_zero_iff.1 (Nat.le_zero.1 length)
    | some route =>
      rw [named] at length
      cases route with
      | point segment => exact Nat.le_trans length (single segment)
      | range segment => exact Nat.le_trans length (single segment)
      | many =>
        rw [Request.publicTexts, named]
        exact length
      | _ => exact List.length_eq_zero_iff.1 (Nat.le_zero.1 length)
  · intro url member
    obtain ⟨text, listed, key, read, active, standbys, found, internal⟩ := forwards url member
    exact ⟨text, listed, key, active, standbys, read, found, internal⟩

/-- Two replicas count on each other for the only partition: the request for a key is passed
on once and not back. -/
theorem sent_for_request_disputed :
    let left := Member.fixed "a" ⟨.v4 0x7F000001, 8001, 0⟩
    let right := Member.fixed "b" ⟨.v4 0x7F000001, 8002, 0⟩
    let other := (counting left [right]).replica
    let asked := (counting right [left]).replica
    let cluster : Cluster :=
      ⟨[(left.host, .replica other), (right.host, .replica asked)], fun _ => true⟩
    let sent := (asked.reply (cluster.network 3).sender
      (.ofTarget "GET" "/mirror/k".toList)).sent
    other.owners.find? 0 = some [right.host] ∧ asked.owners.find? 0 = some [left.host] ∧
      sent.length = 1 ∧ ∀ url ∈ sent, Endpoint.Internal left.host url := by
  intro left right other asked cluster sent
  have named : Route.ofPath? (Request.ofTarget "GET" "/mirror/k".toList).path =
      some (.point (Utf8.encode "k")) := by decide +kernel
  obtain ⟨bound, forwards⟩ :=
    sent_for_request cluster 3 asked (.ofTarget "GET" "/mirror/k".toList)
  rw [named] at bound
  have counted : asked.owners.find? 0 = some [left.host] := by decide +kernel
  have nonempty : 0 < sent.length := by decide +kernel
  refine ⟨by decide +kernel, counted, Nat.le_antisymm bound nonempty, fun url member => ?_⟩
  obtain ⟨text, -, key, active, standbys, -, found, internal⟩ := forwards url member
  have place : asked.place (asked.topic.keyType.encode key) = 0 := by
    rw [place, layout_counting]
    exact Nat.lt_one_iff.1 (Murmur.partition_lt _ Nat.one_pos)
  rw [place, counted] at found
  obtain ⟨rfl, -⟩ := List.cons.inj (Option.some.inj found)
  exact internal

end Replica

end ShardedView
