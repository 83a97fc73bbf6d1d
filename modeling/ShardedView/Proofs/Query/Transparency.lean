import ShardedView.Proofs.Query.Agreement

/-!
Replicas that agree on their members: it makes no difference to an answer which of them
is asked, but for the mark on answers that had to be fetched.
-/

namespace ShardedView

/-- Running replicas of one topic that have taken in one log, and what their members assign to
them. -/
structure Cluster.IsUniform (cluster : Cluster) (replicas : List Replica) (log : Log) : Prop
    extends cluster.IsClosed replicas where
  shares : ∀ replica ∈ replicas, replica.Shares log
  settled : ∀ replica ∈ replicas, replica.isSettled = true
  topics : ∀ left ∈ replicas, ∀ right ∈ replicas, left.topic = right.topic

/-- A result, given that the replica knows an owner of the partition. -/
def Replica.ifOwned {α : Type} (replica : Replica) (partition : Nat) (result : Except Failure α) :
    Except Failure α :=
  match replica.owners.find? partition with
  | some (_ :: _) => result
  | _ => .error .storeNotAvailable

namespace Cluster.IsUniform

variable {cluster : Cluster} {replicas : List Replica} {log : Log} {replica left right : Replica}

theorem isCurrent (uniform : cluster.IsUniform replicas log) (member : replica ∈ replicas) :
    replica.IsCurrent log := by
  have shares := uniform.shares replica member
  exact shares.reached.isCurrent shares.lasting shares.caughtUp (uniform.settled replica member)

theorem agrees (uniform : cluster.IsUniform replicas log) : cluster.Agrees replicas where
  toIsClosed := uniform.toIsClosed
  running _ member := (uniform.isCurrent member).running
  owners _ member := (uniform.isCurrent member).owners

theorem owners_eq (uniform : cluster.IsUniform replicas log) (leftMember : left ∈ replicas)
    (rightMember : right ∈ replicas) : left.owners = right.owners :=
  uniform.agrees.owners_eq leftMember rightMember

/-- A replica is among the hosts of a partition if the partition is assigned to it. -/
theorem host_mem_iff (uniform : cluster.IsUniform replicas log) (member : replica ∈ replicas)
    {partition : Nat} {hosts : List String}
    (found : replica.owners.find? partition = some hosts) :
    replica.host ∈ hosts ↔ replica.assignment.contains partition = true := by
  have current := uniform.isCurrent member
  rw [current.owners, Replica.desiredOwners, Layout.find?_ownerTable] at found
  split at found
  case isFalse outside => contradiction
  case isTrue within =>
    obtain rfl := Option.some.inj found
    rw [current.assignment, Replica.desired, Layout.contains_assignment_iff, List.mem_map]
    -- Hosts name replicas as ids do: a host by the delivery of requests, an id by itself.
    constructor
    · rintro ⟨owner, owns, same⟩
      refine ⟨within, owner, owns, ?_⟩
      obtain ⟨other, among, id, host⟩ :=
        uniform.members replica member owner (Layout.mem_of_mem_owners owns)
      rw [← id, uniform.eq_of_host among member (host.trans same)]
    · rintro ⟨-, owner, owns, same⟩
      refine ⟨owner, owns, ?_⟩
      obtain ⟨other, among, id, host⟩ :=
        uniform.members replica member owner (Layout.mem_of_mem_owners owns)
      rw [← host, uniform.ids other among replica member (id.trans same)]

theorem exists_owner (uniform : cluster.IsUniform replicas log) (member : replica ∈ replicas)
    {partition : Nat} {hosts : List String}
    (found : replica.owners.find? partition = some hosts) {host : String} (listed : host ∈ hosts) :
    ∃ owner ∈ replicas, owner.host = host ∧ owner.assignment.contains partition = true := by
  have known := found
  rw [(uniform.isCurrent member).owners, Replica.desiredOwners, Layout.find?_ownerTable] at known
  split at known
  case isFalse outside => contradiction
  case isTrue within =>
    obtain rfl := Option.some.inj known
    obtain ⟨named, owns, rfl⟩ := List.mem_map.1 listed
    obtain ⟨owner, among, -, same⟩ :=
      uniform.members replica member named (Layout.mem_of_mem_owners owns)
    refine ⟨owner, among, same, ?_⟩
    rw [uniform.owners_eq member among] at found
    rw [← uniform.host_mem_iff among found, same]
    exact List.mem_map_of_mem owns

theorem route_of_held {α : Type} (uniform : cluster.IsUniform replicas log)
    (member : replica ∈ replicas) {key : Bytes}
    (held : replica.assignment.contains (replica.place key) = true)
    (read : Nat → Except Failure α) (ask : String → Except Failure α) :
    replica.route key read ask =
      (read (replica.place key)).map fun value => ⟨value, false⟩ := by
  have current := uniform.isCurrent member
  have within := held
  rw [current.assignment, Replica.desired, Layout.contains_assignment_iff] at within
  obtain ⟨hosts, found⟩ : ∃ hosts, replica.owners.find? (replica.place key) = some hosts := by
    rw [current.owners, Replica.desiredOwners, Layout.find?_ownerTable, if_pos within.1]
    exact ⟨_, rfl⟩
  have listed := (uniform.host_mem_iff member found).2 held
  rw [Replica.route_of_running current.running, found]
  cases hosts with
  | nil => contradiction
  | cons active standbys => simp only [if_pos listed]

/-- Wherever a replica reads, what it tells is the same, and it marks what it had to
fetch. -/
theorem told_route {α : Type} (uniform : cluster.IsUniform replicas log)
    (member : replica ∈ replicas) {key : Bytes} {truth : Except Failure α}
    {read : Nat → Except Failure α} {ask : String → Except Failure α}
    (reads : replica.assignment.contains (replica.place key) = true →
      read (replica.place key) = truth)
    (asks : ∀ owner ∈ replicas, owner.assignment.contains (replica.place key) = true →
      Failure.told (ask owner.host) = Failure.told truth) :
    Failure.told ((replica.route key read ask).map Answer.value) =
        Failure.told (replica.ifOwned (replica.place key) truth) ∧
      ∀ answer, replica.route key read ask = .ok answer →
        (answer.stale = false ↔ replica.assignment.contains (replica.place key) = true) := by
  rw [Replica.route_of_running (uniform.isCurrent member).running, Replica.ifOwned]
  cases found : replica.owners.find? (replica.place key) with
  | none => exact ⟨rfl, nofun⟩
  | some hosts =>
    cases hosts with
    | nil => exact ⟨rfl, nofun⟩
    | cons active standbys =>
      have located := uniform.host_mem_iff member found
      by_cases here : replica.host ∈ active :: standbys
      · simp only [if_pos here, reads (located.1 here)]
        cases truth with
        | error failure => exact ⟨rfl, nofun⟩
        | ok value =>
          refine ⟨rfl, fun answer same => ?_⟩
          obtain rfl := Except.ok.inj same
          exact iff_of_true rfl (located.1 here)
      -- The active host is that of a replica that holds the partition.
      · obtain ⟨owner, among, same, holds⟩ := uniform.exists_owner member found (.head _)
        have learnt := asks owner among holds
        rw [same] at learnt
        simp only [if_neg here, ← learnt]
        cases ask active with
        | error failure => exact ⟨rfl, nofun⟩
        | ok value =>
          refine ⟨rfl, fun answer marked => ?_⟩
          obtain rfl := Except.ok.inj marked
          exact iff_of_false Bool.noConfusion fun held => here (located.2 held)

theorem lookup_of_held (uniform : cluster.IsUniform replicas log) (member : replica ∈ replicas)
    {key : replica.topic.keyType.Key}
    (held : replica.assignment.contains (replica.place (replica.topic.keyType.encode key)) = true) :
    replica.lookup (replica.place (replica.topic.keyType.encode key)) key =
      log.answer replica.topic key := by
  obtain ⟨shard, read, current⟩ := (uniform.isCurrent member).exists_readable held
  rw [(uniform.shares replica member).place_eq] at read current ⊢
  exact Replica.lookup_eq read current

theorem lookupRange_of_held (uniform : cluster.IsUniform replicas log)
    (member : replica ∈ replicas) {key : Bytes}
    (held : replica.assignment.contains (replica.place key) = true) (bounds : String × String) :
    replica.lookupRange (replica.place key) bounds = log.answers replica.topic key bounds := by
  obtain ⟨shard, read, current⟩ := (uniform.isCurrent member).exists_readable held
  rw [(uniform.shares replica member).place_eq] at read current ⊢
  exact Replica.lookupRange_eq_answers read current bounds

theorem told_askKey (uniform : cluster.IsUniform replicas log) (member : replica ∈ replicas)
    (plain : log.IsPlain replica.topic) {key : replica.topic.keyType.Key}
    (addressable : Http.Url.IsAddressable (replica.topic.keyType.toText key))
    (held : replica.assignment.contains (replica.place (replica.topic.keyType.encode key)) = true)
    (hops : Nat) :
    Failure.told (Replica.askKey (cluster.network (hops + 1)).sender
        (replica.topic.keyType.toText key) replica.host) =
      Failure.told (log.answer replica.topic key) := by
  obtain ⟨url, name, known, found, reached⟩ := uniform.delivers replica member
  obtain ⟨keyUrl, built, server, reply⟩ :=
    Endpoint.internalKeyUrl_eq
      (show (Endpoint.direct replica.view.self.host).url "/" = _ from known) addressable
  rw [← server] at found reached
  have replied := outcome_sender_of_found found reached hops
  rw [answer, reply] at replied
  refine ((uniform.shares replica member).told_askKey plain key built replied).trans ?_
  rw [Replica.getHere_eq, uniform.route_of_held member held, uniform.lookup_of_held member held]
  cases log.answer replica.topic key <;> rfl

/-- Who asks a replica for a range of a key that it holds learns what the log says. -/
theorem told_askRange (uniform : cluster.IsUniform replicas log) (member : replica ∈ replicas)
    (plain : log.IsPlain replica.topic) {key : replica.topic.keyType.Key}
    (addressable : Http.Url.IsAddressable (replica.topic.keyType.toText key))
    (held : replica.assignment.contains (replica.place (replica.topic.keyType.encode key)) = true)
    {lower upper : String} {bounds : String × String}
    (bounded : replica.rangeBounds key lower upper = .ok bounds) (hops : Nat) :
    Failure.told (Replica.askRange (cluster.network (hops + 1)).sender
        (replica.topic.keyType.toText key) lower upper replica.host) =
      Failure.told (log.answers replica.topic (replica.topic.keyType.encode key) bounds) := by
  obtain ⟨url, name, known, found, reached⟩ := uniform.delivers replica member
  obtain ⟨rangeUrl, built, server, reply⟩ :=
    Endpoint.internalRangeUrl_eq lower upper
      (show (Endpoint.direct replica.view.self.host).url "/" = _ from known) addressable
  rw [← server] at found reached
  have replied := outcome_sender_of_found found reached hops
  rw [answer, reply] at replied
  have read := replica.getRangeHere_eq key lower upper
  rw [Failure.bind_of_ok bounded, uniform.route_of_held member held,
    uniform.lookupRange_of_held member held] at read
  exact Replica.told_askRange plain read built replied

/-- As long as there are members, copies and partitions, every key has an owner. -/
theorem ifOwned_of_members {α : Type} (uniform : cluster.IsUniform replicas log)
    (member : replica ∈ replicas) (owned : replica.layout.HasOwners replica.view)
    (split : 0 < replica.layout.partitions) (key : Bytes) (result : Except Failure α) :
    replica.ifOwned (replica.place key) result = result := by
  have within : replica.place key < replica.layout.partitions :=
    replica.layout.finder.place_lt key split
  rw [Replica.ifOwned, (uniform.isCurrent member).owners, Replica.desiredOwners,
    Layout.find?_ownerTable, if_pos within]
  cases owners : replica.layout.owners replica.view (replica.place key) with
  | nil => exact absurd owners (owned.owners_ne_nil _)
  | cons owner rest => rfl

/-- What a replica tells of a key: what the log says, if the key has an owner. -/
theorem told_get (uniform : cluster.IsUniform replicas log) (member : replica ∈ replicas)
    (plain : log.IsPlain replica.topic) {key : replica.topic.keyType.Key}
    (addressable : Http.Url.IsAddressable (replica.topic.keyType.toText key)) (hops : Nat) :
    let place := replica.place (replica.topic.keyType.encode key)
    let outcome := (replica.get (cluster.network (hops + 1)).sender key).outcome
    Failure.told (outcome.map Answer.value) =
        Failure.told (replica.ifOwned place (log.answer replica.topic key)) ∧
      ∀ answer, outcome = .ok answer →
        (answer.stale = false ↔ replica.assignment.contains place = true) := by
  intro place outcome
  rw [show outcome = _ from replica.outcome_get _ key]
  refine uniform.told_route member (uniform.lookup_of_held member) fun owner among held => ?_
  have topics := uniform.topics replica member owner among
  obtain ⟨twin, text⟩ := Topic.exists_same_key topics key
  rw [(uniform.shares replica member).place_eq, ← (uniform.shares owner among).place_eq,
    Topic.encode_eq_of_toText topics text] at held
  rw [text] at addressable ⊢
  rw [Topic.answer_eq_of_toText topics text]
  exact uniform.told_askKey among (topics ▸ plain) addressable held hops

/-- What a replica tells of a range of a key: what the log says, if the bounds are right
and the key has an owner. -/
theorem told_getRange (uniform : cluster.IsUniform replicas log) (member : replica ∈ replicas)
    (plain : log.IsPlain replica.topic) {key : replica.topic.keyType.Key}
    (addressable : Http.Url.IsAddressable (replica.topic.keyType.toText key))
    (lower upper : String) (hops : Nat) :
    let bytes := replica.topic.keyType.encode key
    let place := replica.place bytes
    let outcome := (replica.getRange (cluster.network (hops + 1)).sender key lower upper).outcome
    Failure.told (outcome.map Answer.value) =
        Failure.told (do
          let bounds ← replica.rangeBounds key lower upper
          replica.ifOwned place (log.answers replica.topic bytes bounds)) ∧
      ∀ answer, outcome = .ok answer →
        (answer.stale = false ↔ replica.assignment.contains place = true) := by
  intro bytes place outcome
  rw [show outcome = _ from replica.outcome_getRange _ key lower upper]
  cases bounded : replica.rangeBounds key lower upper with
  | error failure => exact ⟨rfl, nofun⟩
  | ok bounds =>
    rw [Failure.bind_of_ok rfl, Failure.bind_of_ok rfl]
    refine uniform.told_route member (fun held => uniform.lookupRange_of_held member held bounds)
      fun owner among held => ?_
    have topics := uniform.topics replica member owner among
    obtain ⟨twin, text⟩ := Topic.exists_same_key topics key
    have same := Topic.encode_eq_of_toText topics text
    rw [(uniform.shares replica member).place_eq, ← (uniform.shares owner among).place_eq,
      same] at held
    rw [Replica.rangeBounds_eq_of_toText topics text] at bounded
    rw [text] at addressable ⊢
    rw [show bytes = _ from same, topics]
    exact uniform.told_askRange among (topics ▸ plain) addressable held bounded hops

end Cluster.IsUniform

namespace Replica

theorem ifOwned_eq {left right : Replica} (same : left.owners = right.owners) {α : Type}
    (partition : Nat) (result : Except Failure α) :
    left.ifOwned partition result = right.ifOwned partition result := by
  rw [ifOwned, ifOwned, same]

/-- Whichever replica is asked for a key or for a range of it, the values are the same or
the failures are of one kind, and an answer is marked if the replica that gives it does
not hold the partition of the key. What all of them tell is what the log says, as long as
there are members, copies and partitions. -/
theorem ask_anywhere (cluster : Cluster) (replicas : List Replica) (log : Log)
    (uniform : cluster.IsUniform replicas log) (left right : Replica)
    (leftMember : left ∈ replicas) (rightMember : right ∈ replicas)
    (plain : log.IsPlain left.topic)
    (key : left.topic.keyType.Key) (twin : right.topic.keyType.Key)
    (text : left.topic.keyType.toText key = right.topic.keyType.toText twin)
    (addressable : Http.Url.IsAddressable (left.topic.keyType.toText key))
    (lower upper : String) (hops : Nat) :
    let send := (cluster.network (hops + 1)).sender
    let held := left.assignment.contains (left.place (left.topic.keyType.encode key)) = true
    Failure.told ((left.get send key).outcome.map Answer.value) =
        Failure.told ((right.get send twin).outcome.map Answer.value) ∧
      Failure.told ((left.getRange send key lower upper).outcome.map Answer.value) =
        Failure.told ((right.getRange send twin lower upper).outcome.map Answer.value) ∧
      (∀ answer, (left.get send key).outcome = .ok answer → (answer.stale = false ↔ held)) ∧
      (∀ answer, (left.getRange send key lower upper).outcome = .ok answer →
        (answer.stale = false ↔ held)) ∧
      (left.layout.HasOwners left.view → 0 < left.layout.partitions →
        Failure.told ((left.get send key).outcome.map Answer.value) =
            Failure.told (log.answer left.topic key) ∧
          Failure.told ((left.getRange send key lower upper).outcome.map Answer.value) =
            Failure.told (left.rangeBounds key lower upper >>=
              log.answers left.topic (left.topic.keyType.encode key))) := by
  intro send held
  have topics := uniform.topics left leftMember right rightMember
  have owners := uniform.owners_eq leftMember rightMember
  have places : left.place (left.topic.keyType.encode key) =
      right.place (right.topic.keyType.encode twin) := by
    rw [(uniform.shares left leftMember).place_eq, Topic.encode_eq_of_toText topics text,
      (uniform.shares right rightMember).place_eq]
  have rightPlain : log.IsPlain right.topic := topics ▸ plain
  have rightAddressable := text ▸ addressable
  have point := uniform.told_get leftMember plain addressable hops
  have range := uniform.told_getRange leftMember plain addressable lower upper hops
  refine ⟨?_, ?_, point.2, range.2, fun owned split => ⟨?_, ?_⟩⟩
  · rw [point.1, (uniform.told_get rightMember rightPlain rightAddressable hops).1,
      Topic.answer_eq_of_toText topics text, places, ifOwned_eq owners]
  · rw [range.1, (uniform.told_getRange rightMember rightPlain rightAddressable lower upper hops).1,
      rangeBounds_eq_of_toText topics text, places, Topic.encode_eq_of_toText topics text, topics]
    simp only [ifOwned_eq owners]
  · rw [point.1, uniform.ifOwned_of_members leftMember owned split]
  · rw [range.1]
    simp only [uniform.ifOwned_of_members leftMember owned split]

theorem isUniform_counting :
    let left := Member.fixed "a" ⟨.v4 0x7F000001, 8001, 0⟩
    let right := Member.fixed "b" ⟨.v4 0x7F000001, 8002, 0⟩
    let owner := (counting left [left, right]).replica
    let other := (counting right [right, left]).replica
    Cluster.IsUniform ⟨[(left.host, .replica owner), (right.host, .replica other)], fun _ => true⟩
      [owner, other] ⟨1, .murmur, [⟨Utf8.encode "k", some (Utf8.encode "v"), 0⟩]⟩ := by
  intro left right owner other
  have both : ∀ {property : Replica → Prop}, property owner → property other →
      ∀ replica ∈ [owner, other], property replica := by
    intro property first second replica member
    rcases member with _ | ⟨_, _ | ⟨_, member⟩⟩
    · exact first
    · exact second
    · contradiction
  have leftHost : left.host = "127.0.0.1:8001" := by decide +kernel
  have rightHost : right.host = "127.0.0.1:8002" := by decide +kernel
  have ownerView : owner.view = ⟨left, [left, right]⟩ := view_counting ..
  have otherView : other.view = ⟨right, [right, left]⟩ := view_counting ..
  have topics : ∀ replica ∈ [owner, other], replica.topic =
      ⟨"t", .string, .string, .mutable, none, none⟩ := both (topic_counting ..) (topic_counting ..)
  have layouts : ∀ replica ∈ [owner, other], replica.layout = ⟨1, 0, .murmur⟩ :=
    both (layout_counting ..) (layout_counting ..)
  have alive : ∀ replica ∈ [owner, other], ∀ member,
      member ∈ replica.view.alive ↔ member = left ∨ member = right := by
    refine both ?_ ?_ <;> intro member
    · simp only [ownerView, List.mem_cons, List.not_mem_nil, or_false]
    · simp only [otherView, List.mem_cons, List.not_mem_nil, or_false]
      exact or_comm
  refine ⟨⟨?_, ?_, ?_, ?_, ?_⟩, both (shares_counting ..) (shares_counting ..),
    both (isSettled_counting ..) (isSettled_counting ..),
    fun first among second within => (topics first among).trans (topics second within).symm⟩
  · refine both (both (fun _ => rfl) ?_) (both ?_ fun _ => rfl) <;>
      rw [ownerView, otherView] <;> exact fun same => absurd same (by decide)
  · exact fun first among second within =>
      (layouts first among).trans (layouts second within).symm
  · intro first among second within member listed
    exact ⟨member, (alive second within member).2 ((alive first among member).1 listed), rfl⟩
  · intro replica among member listed
    rcases (alive replica among member).1 listed with rfl | rfl
    · exact ⟨owner, .head _, by rw [ownerView], by rw [host, ownerView]⟩
    · exact ⟨other, .tail _ (.head _), by rw [otherView], by rw [host, otherView]⟩
  · refine both ?_ ?_
    · refine Cluster.delivers_of_found "127.0.0.1:8001" ?_ (by simp [leftHost]) rfl
      rw [host, ownerView, leftHost]
      decide +kernel
    · refine Cluster.delivers_of_found "127.0.0.1:8002" ?_ (by simp [leftHost, rightHost]) rfl
      rw [host, otherView, rightHost]
      decide +kernel

/-- One of two replicas holds the only partition. -/
theorem ask_anywhere_counting :
    let left := Member.fixed "a" ⟨.v4 0x7F000001, 8001, 0⟩
    let right := Member.fixed "b" ⟨.v4 0x7F000001, 8002, 0⟩
    let owner := (counting left [left, right]).replica
    let other := (counting right [right, left]).replica
    let log : Log := ⟨1, .murmur, [⟨Utf8.encode "k", some (Utf8.encode "v"), 0⟩]⟩
    let cluster : Cluster :=
      ⟨[(left.host, .replica owner), (right.host, .replica other)], fun _ => true⟩
    let send := (cluster.network 1).sender
    owner.assignment.contains 0 = true ∧ other.assignment.contains 0 = false ∧
      ∃ key twin, other.topic.keyType.encode key = Utf8.encode "k" ∧
        owner.topic.keyType.encode twin = Utf8.encode "k" ∧
        Failure.told ((other.get send key).outcome.map Answer.value) =
          Failure.told ((owner.get send twin).outcome.map Answer.value) ∧
        Failure.told ((other.get send key).outcome.map Answer.value) =
          Failure.told (log.answer other.topic key) ∧
        ∀ answer, (other.get send key).outcome = .ok answer → answer.stale = true := by
  intro left right owner other log cluster send
  have otherView : other.view = ⟨right, [right, left]⟩ := view_counting ..
  have otherTopic : other.topic = ⟨"t", .string, .string, .mutable, none, none⟩ :=
    topic_counting ..
  have otherLayout : other.layout = ⟨1, 0, .murmur⟩ := layout_counting ..
  have uniform : cluster.IsUniform [owner, other] log := isUniform_counting
  obtain ⟨key, written, text⟩ : ∃ key, other.topic.keyType.encode key = Utf8.encode "k" ∧
      other.topic.keyType.toText key = "k" := by
    rw [otherTopic]
    exact ⟨"k", rfl, rfl⟩
  have topic := uniform.topics other (.tail _ (.head _)) owner (.head _)
  obtain ⟨twin, same⟩ := Topic.exists_same_key topic key
  have nowhere : other.assignment.contains 0 = false := by decide +kernel
  have place : other.place (other.topic.keyType.encode key) = 0 := by
    rw [written, Replica.place, otherLayout]
    decide +kernel
  obtain ⟨told, -, marked, -, said⟩ := ask_anywhere cluster [owner, other] log uniform other owner
    (.tail _ (.head _)) (.head _)
    (Log.isPlain_of_valueType (by rw [otherTopic]; exact .head _) log)
    key twin same (by rw [text]; decide) "" "" 0
  have partitioned : 0 < other.layout.partitions := by
    rw [otherLayout]
    exact Nat.one_pos
  have owned : other.layout.HasOwners other.view :=
    ⟨by rw [otherLayout]; decide, by rw [otherView]; nofun⟩
  refine ⟨by decide +kernel, nowhere, key, twin, written, ?_, told,
    (said owned partitioned).1, fun answer answered => ?_⟩
  · rw [← Topic.encode_eq_of_toText topic same, written]
  · rw [← Bool.not_eq_false, marked answer answered, place, nowhere]
    exact Bool.false_ne_true

end Replica

end ShardedView
