import ShardedView.Proofs.Query.Remote

/-!
Replicas whose views of the members differ: each answers with what the log says, or
not at all.

Who holds a key is decided twice, by the replica that is asked and by the one that it
asks in turn. Neither has to be right: a replica reads only from shards that it holds,
and these have taken in the whole log.
-/

namespace ShardedView

namespace Failure.Kind

def ofAbsence : List Kind :=
  ofStore ++ [.unreachable, .badArgument]

end Failure.Kind

/-- Every server of a cluster is a replica of a topic that shares a log. -/
def Cluster.Serves (cluster : Cluster) (topic : Topic) (log : Log) : Prop :=
  ∀ entry ∈ cluster.servers, ∃ replica : Replica,
    entry.2 = .replica replica ∧ replica.topic = topic ∧ replica.Shares log

/-- Whichever member is asked, what is learnt is what the log says, or nothing. -/
theorem Cluster.Serves.told_askKey_cases {cluster : Cluster} {topic : Topic} {log : Log}
    (serves : cluster.Serves topic log) (plain : log.IsPlain topic) (key : topic.keyType.Key)
    (addressable : Http.Url.IsAddressable (topic.keyType.toText key)) (hops : Nat)
    (member : Member) :
    let asked := Replica.askKey (cluster.network hops).sender (topic.keyType.toText key) member.host
    Failure.told asked = Failure.told (log.answer topic key) ∨
      ∃ kind ∈ Failure.Kind.ofAbsence, Failure.told asked = .error kind := by
  intro asked
  cases known : (Endpoint.direct member.host).url "/" with
  | error failure =>
    have refused : asked = .error failure :=
      Failure.bind_of_error (Failure.bind_of_error known _) _
    refine .inr ⟨.badArgument, by decide, ?_⟩
    rw [refused, ← Endpoint.kind_of_url known]
    rfl
  | ok url =>
    -- Which server answers is left open; any of them reads from the same log.
    obtain ⟨keyUrl, built, -, reply⟩ := Endpoint.internalKeyUrl_eq known addressable
    rcases cluster.outcome_sender_cases hops keyUrl with
      ⟨failure, lost, kind⟩ | ⟨name, server, network, found, replied⟩
    · refine .inr ⟨.unreachable, by decide, ?_⟩
      rw [show asked = .error failure from
        (Failure.bind_of_ok built _).trans (Failure.bind_of_error lost _), ← kind]
      rfl
    · obtain ⟨replica, same, sameTopic, shares⟩ := serves _ (List.mem_of_find?_eq_some found)
      obtain rfl : server = .replica replica := same
      obtain ⟨twin, text⟩ := Topic.exists_same_key sameTopic.symm key
      rw [show answer network keyUrl (.replica replica) =
        replica.reply network.sender (.ofTarget "GET" keyUrl.target) from rfl, reply,
        text] at replied
      rw [text] at built
      have told := shares.told_askKey (sameTopic ▸ plain) twin built replied
      rw [← text] at told
      rw [show Failure.told asked = _ from told]
      rcases shares.getHere_cases twin with here | ⟨failure, failed, kind⟩
      · left
        rw [here, ← Topic.answer_eq_of_toText sameTopic.symm text]
        cases log.answer topic key <;> rfl
      · exact .inr ⟨failure.kind, List.mem_append_left _ kind, by rw [failed]; rfl⟩

/-- What it means for a key that the log was asked, or that nothing was learnt. -/
theorem Log.says_of_told {log : Log} {topic : Topic} {key : topic.keyType.Key}
    {outcome : Except Failure (Answer Json)}
    (cases : Failure.told (outcome.map Answer.value) = Failure.told (log.answer topic key) ∨
      ∃ kind ∈ Failure.Kind.ofAbsence,
        Failure.told (outcome.map Answer.value) = .error kind) :
    (∀ answer, outcome = .ok answer →
        ∃ bytes, log.value? topic (topic.keyType.encode key) = some bytes ∧
          topic.valueType.decode bytes = .ok answer.value) ∧
      ∀ failure, outcome = .error failure →
        failure.kind = .notFound ∧ log.value? topic (topic.keyType.encode key) = none ∨
          failure.kind ∈ Failure.Kind.codec :: Failure.Kind.ofAbsence := by
  constructor
  · intro answer answered
    rw [answered] at cases
    rcases cases with told | ⟨kind, -, told⟩
    · cases said : log.answer topic key with
      | error failure =>
        rw [said] at told
        contradiction
      | ok value =>
        rw [said] at told
        obtain rfl : answer.value = value := Except.ok.inj told
        exact Log.exists_value_of_answer said
    · contradiction
  · intro failure failed
    rw [failed] at cases
    rcases cases with told | ⟨kind, absent, told⟩
    · cases said : log.answer topic key with
      | error other =>
        rw [said] at told
        have kind : failure.kind = other.kind := Except.error.inj told
        rw [kind]
        rcases Log.kind_of_answer said with missing | codec
        · exact .inl missing
        · exact .inr (codec ▸ .head _)
      | ok value =>
        rw [said] at told
        contradiction
    · obtain rfl : failure.kind = kind := Except.error.inj told
      exact .inr (.tail _ absent)

namespace Replica

theorem told_get_cases {cluster : Cluster} {log : Log} {asked : Replica}
    (shares : asked.Shares log) (serves : cluster.Serves asked.topic log)
    (plain : log.IsPlain asked.topic) (key : asked.topic.keyType.Key)
    (addressable : Http.Url.IsAddressable (asked.topic.keyType.toText key)) (hops : Nat) :
    let outcome := (asked.get (cluster.network hops).sender key).outcome
    Failure.told (outcome.map Answer.value) = Failure.told (log.answer asked.topic key) ∨
      ∃ kind ∈ Failure.Kind.ofAbsence, Failure.told (outcome.map Answer.value) = .error kind := by
  intro outcome
  have routed : outcome = asked.route _ _ _ := asked.outcome_get _ key
  rw [routed]
  rcases asked.route_cases (asked.topic.keyType.encode key)
    (fun partition => asked.lookup partition key)
    (askKey (cluster.network hops).sender (asked.topic.keyType.toText key)) with
    ⟨active, standbys, found, read⟩ | ⟨failure, failed, kind⟩
  · rw [read]
    split
    · rw [shares.place_eq]
      rcases shares.lookup_cases key with told | ⟨failure, failed, kind⟩
      · left
        rw [told]
        cases log.answer asked.topic key <;> rfl
      · exact .inr ⟨failure.kind, List.mem_append_left _ kind, by rw [failed]; rfl⟩
    · obtain ⟨member, rfl⟩ := shares.reached.namesMembers _ _ found active (.head _)
      have unmarked : ∀ result : Except Failure Json,
          (result.map fun value => Answer.mk value true).map Answer.value = result := by
        intro result
        cases result <;> rfl
      rw [unmarked]
      exact serves.told_askKey_cases plain key addressable hops member
  · exact .inr ⟨failure.kind, List.mem_append_left _ kind, by rw [failed]; rfl⟩

/-- However the views of the members differ, a replica answers with the value that the
log gives to a key, reports that there is none only where the log gives none, or fails in
another way. -/
theorem get_agrees_with_log (cluster : Cluster) (log : Log) (asked : Replica)
    (shares : asked.Shares log) (serves : cluster.Serves asked.topic log)
    (plain : log.IsPlain asked.topic) (key : asked.topic.keyType.Key)
    (addressable : Http.Url.IsAddressable (asked.topic.keyType.toText key)) (hops : Nat) :
    let outcome := (asked.get (cluster.network hops).sender key).outcome
    let value? := log.value? asked.topic (asked.topic.keyType.encode key)
    (∀ answer, outcome = .ok answer → ∃ bytes, value? = some bytes ∧
        asked.topic.valueType.decode bytes = .ok answer.value) ∧
      ∀ failure, outcome = .error failure →
        failure.kind = .notFound ∧ value? = none ∨
          failure.kind ∈ Failure.Kind.codec :: Failure.Kind.ofAbsence :=
  Log.says_of_told (told_get_cases shares serves plain key addressable hops)

/-- One replica counts on a second one and would ask it, while that one counts on nobody
else. -/
theorem get_agrees_with_log_counting :
    let left := Member.fixed "a" ⟨.v4 0x7F000001, 8001, 0⟩
    let right := Member.fixed "b" ⟨.v4 0x7F000001, 8002, 0⟩
    let asked := (counting right [left, right]).replica
    let other := (counting left [left]).replica
    let cluster : Cluster :=
      ⟨[(left.host, .replica other), (right.host, .replica asked)], fun _ => true⟩
    asked.owners.find? 0 = some [left.host] ∧
      ∃ key, asked.topic.keyType.encode key = Utf8.encode "k" ∧
        ∀ answer, (asked.get (cluster.network 2).sender key).outcome = .ok answer →
          asked.topic.valueType.decode (Utf8.encode "v") = .ok answer.value := by
  intro left right asked other cluster
  let log : Log := ⟨1, .murmur, [⟨Utf8.encode "k", some (Utf8.encode "v"), 0⟩]⟩
  have same : asked.topic = _ := topic_counting right [left, right]
  obtain ⟨key, written, text⟩ : ∃ key, asked.topic.keyType.encode key = Utf8.encode "k" ∧
      asked.topic.keyType.toText key = "k" := by
    rw [same]
    exact ⟨"k", rfl, rfl⟩
  have given : log.value? asked.topic (Utf8.encode "k") = some (Utf8.encode "v") := by
    rw [same]
    decide +kernel
  have serves : cluster.Serves asked.topic log := by
    intro entry member
    rcases member with _ | ⟨_, _ | ⟨_, member⟩⟩
    · exact ⟨other, rfl, (topic_counting left [left]).trans same.symm, shares_counting ..⟩
    · exact ⟨asked, rfl, rfl, shares_counting ..⟩
    · contradiction
  have addressable : Http.Url.IsAddressable (asked.topic.keyType.toText key) := by
    rw [text]
    decide
  have agreed := get_agrees_with_log cluster log asked (shares_counting ..) serves
    (Log.isPlain_of_valueType (by rw [same]; exact .head _) log) key addressable 2
  refine ⟨by decide +kernel, key, written, fun answer answered => ?_⟩
  obtain ⟨bytes, found, decoded⟩ := agreed.1 answer answered
  rw [written, given] at found
  exact Option.some.inj found ▸ decoded

end Replica

end ShardedView
