import ShardedView.Cluster
import ShardedView.Proofs.Client.Effort
import ShardedView.Proofs.Query.Status

/-!
What a lookup makes of a host that was asked in place of another one: a newer routing is asked for
if that host has something to say for the key, be it that there is no value.

A failure that it tells of ends the request before anybody looks where the reply came from. The
routing then stays as it is, although the host of the key could not be reached.
-/

namespace ShardedView

open Errand (isUnreachable)
open Http (Reply Url)

variable {type : KeyType}

/-- Whether a reply is more than a failure: values, or that there is none. -/
def Http.Reply.IsAnswer (reply : Reply) : Prop :=
  reply.status = 404 ∨ (200 ≤ reply.status ∧ reply.status < 300)

theorem Received.isOk_ofReply (reply : Reply) :
    (ofReply reply).isOk = true ↔ reply.IsAnswer := by
  unfold ofReply Http.Reply.IsAnswer
  dsimp only
  by_cases missing : reply.status = 404
  · rw [if_pos missing]
    exact iff_of_true rfl (.inl missing)
  · rw [if_neg missing]
    by_cases success : 200 ≤ reply.status ∧ reply.status < 300
    · rw [if_pos success]
      exact iff_of_true rfl (.inr success)
    · rw [if_neg success]
      exact iff_of_false Bool.false_ne_true fun either => either.elim missing success

instance (reply : Reply) : Decidable reply.IsAnswer := inferInstanceAs (Decidable (_ ∨ _))

/-- Whether one key was asked for, and a newer routing once if a second host answered in place of
the first, which was not reached. -/
def Event.HeedsSecond (events : List (Event type)) (key : type.Key)
    (build : Endpoint → Except Failure Url) : Prop :=
  ∀ first second, requests events = [first, second] →
    AsksForOne events key build ∧ isUnreachable first.2 = true ∧
      ∀ reply, second.2 = Received.ofReply reply →
        refreshes events = if reply.IsAnswer then 1 else 0

/-- Whether several keys were asked for, and a newer routing once if the second host of some
attempt answered. One that told of a failure counts for nothing. -/
def Event.HeedsSeconds (events : List (Event type)) (keys : List type.Key) : Prop :=
  AsksForMany events keys ∧
    ∀ targets batches singles, Distributes events targets batches singles →
      ∀ attempt ∈ batches.map (·.2) ++ singles.map (·.2), ∀ again ∈ attempt.second,
        isUnreachable attempt.first.answer = true ∧
          ∀ reply, again.answer = Received.ofReply reply →
            (reply.IsAnswer → refreshes events = 1) ∧
            (¬ reply.IsAnswer → attempt.isMarked = false)

namespace Attempt

variable {attempt : Attempt} {again : Contact} {reply : Reply}

theorem isMarked_iff (repeated : attempt.second = some again)
    (replied : again.answer = Received.ofReply reply) :
    attempt.isMarked = true ↔ reply.IsAnswer := by
  rw [isMarked, repeated, ← Received.isOk_ofReply, ← replied]

theorem exists_second_of_requests {first second : Url × Except Failure Received}
    (sent : attempt.requests = [first, second]) :
    attempt.first.request = first ∧ ∃ again, attempt.second = some again ∧
      again.request = second := by
  obtain ⟨contact, none | again⟩ := attempt
  · cases sent
  · obtain ⟨one, rest⟩ := List.cons.inj sent
    exact ⟨one, again, rfl, (List.cons.inj rest).1⟩

end Attempt

theorem Event.Distributes.exists_lawful {events : List (Event type)}
    {targets : List (type.Key × Endpoint)} {batches : List (List String × Attempt)}
    {singles : List (String × Attempt)} (distributes : Distributes events targets batches singles)
    {attempt : Attempt} (listed : attempt ∈ batches.map (·.2) ++ singles.map (·.2)) :
    ∃ build, attempt.IsLawful build := by
  rcases List.mem_append.1 listed with together | alone
  · obtain ⟨batch, member, rfl⟩ := List.mem_map.1 together
    exact ⟨_, distributes.batch batch member⟩
  · obtain ⟨single, member, rfl⟩ := List.mem_map.1 alone
    exact ⟨_, distributes.single single member⟩

namespace Errand

variable {events : List (Event type)} {fallback : Option Endpoint}
  {build : Endpoint → Except Failure Url}

theorem heedsSecond_of_runs {α : Type} {key : type.Key} {read : Received → Except Failure α}
    {result : Except Failure α}
    (runs : (do
      let endpoint ← find key
      let received ← request fallback build endpoint
      heed received.isFallback
      liftM (read received) : Errand type α).run.Runs events result) :
    Event.HeedsSecond events key build := by
  intro first second sent
  obtain ⟨_, _, _, _, silent⟩ | asks := asksForOne_or runs
  · cases silent.symm.trans sent
  refine ⟨asks, ?_⟩
  obtain ⟨_, _, silent, _⟩ | ⟨attempt, lawful, -, same, refreshed⟩ := asks
  · cases silent.symm.trans sent
  obtain ⟨rfl, again, repeated, rfl⟩ := Attempt.exists_second_of_requests (same.symm.trans sent)
  refine ⟨(lawful.second again repeated).1, fun reply replied => ?_⟩
  rw [refreshed]
  exact if_congr (Attempt.isMarked_iff repeated replied) rfl rfl

theorem heedsSeconds_of_runs {keys : List type.Key} {result : Except Failure (List Json)}
    (runs : (getMany fallback keys).run.Runs events result)
    (wellFormed : ∀ key endpoint, (key, .ok endpoint) ∈ Event.lookups events →
      endpoint.IsWellFormed) :
    Event.HeedsSeconds events keys := by
  refine ⟨asksForMany_of_runs runs wellFormed, ?_⟩
  intro targets batches singles distributes attempt listed again repeated
  obtain ⟨build, lawful⟩ := distributes.exists_lawful listed
  refine ⟨(lawful.second again repeated).1, fun reply replied => ?_⟩
  have marked := Attempt.isMarked_iff repeated replied
  constructor
  · intro answer
    rw [distributes.refreshes, if_pos (List.any_eq_true.2 ⟨attempt, listed, marked.2 answer⟩)]
  · intro failure
    rw [← Bool.not_eq_true, marked]
    exact failure

end Errand

/-- Whatever hosts and the router answer in the course of a lookup: if the host of a key is not
reached, and another one answers in its place with values or that there is none, a newer routing is
asked for once before the lookup ends. On account of a failure that it tells of, none is. -/
theorem refreshed_behind_answer (fallback : Option Endpoint) (events : List (Event type)) :
    (∀ key result, (Errand.get fallback key).run.Runs events result →
      Event.HeedsSecond events key (·.keyUrl (type.toText key))) ∧
    (∀ key lower upper result, (Errand.getRange fallback key lower upper).run.Runs events result →
      Event.HeedsSecond events key (·.rangeUrl (type.toText key) lower upper)) ∧
    ∀ keys result, (Errand.getMany fallback keys).run.Runs events result →
      (∀ key endpoint, (key, .ok endpoint) ∈ Event.lookups events → endpoint.IsWellFormed) →
      Event.HeedsSeconds events keys :=
  ⟨fun _ _ runs => Errand.heedsSecond_of_runs runs,
    fun _ _ _ _ runs => Errand.heedsSecond_of_runs runs,
    fun _ _ runs wellFormed => Errand.heedsSeconds_of_runs runs wellFormed⟩

/-- The host of a key is not reached, and the other one has no value: a newer routing is asked
for. -/
theorem refreshed_behind_answer_missing :
    let near := Endpoint.direct "127.0.0.1:9001"
    let far := Endpoint.direct "127.0.0.1:9002"
    let missing : Reply := ⟨404, false, []⟩
    ∃ (events : List (Event .string)) (first second : Url),
      (@Errand.get .string none "k").run.Runs events (.ok none) ∧
        near.keyUrl "k" = .ok first ∧ far.keyUrl "k" = .ok second ∧
        Event.requests events = [(first, .error (.unreachable near.host "no connection")),
          (second, Received.ofReply missing)] ∧
        missing.IsAnswer ∧ Event.refreshes events = 1 := by
  intro near far missing
  have wellFormed : near.IsWellFormed ∧ far.IsWellFormed := by decide +kernel
  have apart : far.isSameHost near = false := by decide +kernel
  obtain ⟨first, builtFirst⟩ := wellFormed.1.exists_keyUrl "k"
  obtain ⟨second, builtSecond⟩ := wellFormed.2.exists_keyUrl "k"
  have runs := @Errand.runs_repeated_of_ok .string near far (·.keyUrl "k") first second apart
    builtFirst builtSecond _ "k" Received.value? ⟨none, .primary⟩
  have heeded := (@refreshed_behind_answer .string none _).1 "k" _ runs
  obtain ⟨-, -, refreshed⟩ := heeded _ _ rfl
  exact ⟨_, first, second, runs, builtFirst, builtSecond, rfl, .inl rfl,
    (refreshed missing rfl).trans (if_pos (.inl rfl))⟩

/-- The other host tells of a failure: the routing stays as it is, although a host that is not
the one of the key replied in the place of one that cannot be reached. -/
theorem unrefreshed_behind_failure :
    let reply : Reply := ⟨503, false, Utf8.encode (Failure.body .storeNotAvailable).print⟩
    let cluster : Cluster :=
      ⟨[("127.0.0.1:9002", .fixed [("/mirror/k".toList, reply)])], fun _ => true⟩
    let network := cluster.network 1
    let router : Router := ⟨none, .murmur, ⟨.ofList [(0, "127.0.0.1:9001")]⟩⟩
    let lookup := (Routes.ofRouter .string router (some (.direct "127.0.0.1:9002")) 0).get
      network.sender "k"
    let call := router.call network lookup
    lookup.result.isOutdated = false ∧
      Failure.told call.result.2 = .error .storeNotAvailable ∧
      call.sent.map Url.text =
        ["http://127.0.0.1:9001/mirror/k", "http://127.0.0.1:9002/mirror/k"] := by
  intro reply cluster network router lookup call
  refine ⟨?_, ?_, ?_⟩ <;> decide +kernel

end ShardedView
