import ShardedView.Cluster
import ShardedView.Proofs.Http.Traced
import ShardedView.Proofs.Query.Local
import ShardedView.Proofs.Query.Route

/-!
What a replica learns from another one that it asks: what that one reads from its own
shards, up to the wording of failures.
-/

namespace ShardedView

open Http (Network)
open Http.Exchange (outcome outcome_bind outcome_lift)

namespace Replica

def askKey (send : Sender) (text : String) (host : String) : Except Failure Json := do
  let received ← (send (← (Endpoint.direct host).internalKeyUrl text)).outcome
  match ← received.value? with
  | some value => return value
  | none => throw (.notFound text)

def askRange (send : Sender) (text lower upper : String) (host : String) :
    Except Failure (List Json) := do
  let received ← (send (← (Endpoint.direct host).internalRangeUrl text lower upper)).outcome
  received.values

theorem outcome_get (replica : Replica) (send : Sender) (key : replica.topic.keyType.Key) :
    (replica.get send key).outcome = replica.route (replica.topic.keyType.encode key)
      (fun partition => replica.lookup partition key)
      (askKey send (replica.topic.keyType.toText key)) := by
  unfold get route
  rw [outcome_bind, outcome_lift]
  cases located : replica.locateHere (replica.topic.keyType.encode key) with
  | error failure => rfl
  | ok found =>
    obtain ⟨location, here⟩ := found
    rw [Failure.bind_of_ok rfl, Failure.bind_of_ok rfl]
    cases here with
    | true =>
      simp only [if_true, outcome_bind, outcome_lift]
      rfl
    | false =>
      simp only [Bool.false_eq_true, if_false, outcome_bind, outcome_lift, askKey, bind_assoc]
      congr 1
      funext url
      congr 1
      funext received
      congr 1
      funext value
      cases value <;> rfl

theorem outcome_getRange (replica : Replica) (send : Sender) (key : replica.topic.keyType.Key)
    (lower upper : String) :
    (replica.getRange send key lower upper).outcome = (do
      let bounds ← replica.rangeBounds key lower upper
      replica.route (replica.topic.keyType.encode key)
        (fun partition => replica.lookupRange partition bounds)
        (askRange send (replica.topic.keyType.toText key) lower upper)) := by
  unfold getRange route
  rw [outcome_bind, outcome_lift]
  congr 1
  funext bounds
  rw [outcome_bind, outcome_lift]
  cases located : replica.locateHere (replica.topic.keyType.encode key) with
  | error failure => rfl
  | ok found =>
    obtain ⟨location, here⟩ := found
    rw [Failure.bind_of_ok rfl, Failure.bind_of_ok rfl]
    cases here with
    | true =>
      simp only [if_true, outcome_bind, outcome_lift]
      rfl
    | false =>
      simp only [Bool.false_eq_true, if_false, outcome_bind, outcome_lift, askRange, bind_assoc]
      rfl

theorem told_askKey_of_replied {send : Sender} {text host : String} {url : Http.Url}
    {result : Except Failure (Answer Json)}
    (built : (Endpoint.direct host).internalKeyUrl text = .ok url)
    (replied : (send url).outcome = Received.ofReply (.ofValue result))
    (plain : ∀ answer, result = .ok answer → answer.value.IsPlain 125 ∧ answer.value.IsCanonical)
    (reading : ∀ failure, result = .error failure →
      failure.kind ∈ Failure.Kind.notFound :: Failure.Kind.ofReading) :
    Failure.told (askKey send text host) = Failure.told (result.map Answer.value) := by
  rw [askKey, Failure.bind_of_ok built, replied]
  cases result with
  | ok answer =>
    obtain ⟨shallow, canonical⟩ := plain answer rfl
    have received := Received.value?_ofReply_ofAnswer (shallow.mono (by decide)) canonical
    rw [← bind_assoc, Http.Reply.ofValue, Failure.bind_of_ok received]
    rfl
  | error failure =>
    rw [Http.Reply.ofValue]
    rcases List.mem_cons.1 (reading failure rfl) with missing | reading
    · obtain ⟨key, rfl⟩ := Failure.exists_key_of_kind missing
      rw [Failure.bind_of_ok (Received.ofReply_notFound key)]
      rfl
    · obtain ⟨other, received, same⟩ := Received.ofReply_ofFailure reading
      rw [Failure.bind_of_error received]
      exact congrArg Except.error same

/-- Who asks for a range of a key learns what was read, up to the wording of failures. -/
theorem told_askRange_of_replied {send : Sender} {text lower upper host : String} {url : Http.Url}
    {result : Except Failure (Answer (List Json))}
    (built : (Endpoint.direct host).internalRangeUrl text lower upper = .ok url)
    (replied : (send url).outcome = Received.ofReply (.ofValues result))
    (plain : ∀ answer, result = .ok answer →
      ∀ value ∈ answer.value, value.IsPlain 125 ∧ value.IsCanonical)
    (reading : ∀ failure, result = .error failure → failure.kind ∈ Failure.Kind.ofReading) :
    Failure.told (askRange send text lower upper host) =
      Failure.told (result.map Answer.value) := by
  rw [askRange, Failure.bind_of_ok built, replied]
  cases result with
  | ok answer =>
    have received := Received.values_ofReply_ofAnswer answer.stale
      (fun value member => (plain answer rfl value member).1)
      fun value member => (plain answer rfl value member).2
    rw [Http.Reply.ofValues, received]
    rfl
  | error failure =>
    obtain ⟨other, received, same⟩ := Received.ofReply_ofFailure (reading failure rfl)
    rw [Http.Reply.ofValues, Failure.bind_of_error received]
    exact congrArg Except.error same

variable {replica : Replica} {log : Log}

theorem Shares.told_askKey {send : Sender} {host : String} {url : Http.Url}
    (shares : replica.Shares log) (plain : log.IsPlain replica.topic)
    (key : replica.topic.keyType.Key)
    (built : (Endpoint.direct host).internalKeyUrl (replica.topic.keyType.toText key) = .ok url)
    (replied : (send url).outcome = Received.ofReply (.ofValue
      (replica.topic.keyType.ofText (replica.topic.keyType.toText key) >>= replica.getHere))) :
    Failure.told (askKey send (replica.topic.keyType.toText key) host) =
      Failure.told ((replica.getHere key).map Answer.value) := by
  rw [Failure.bind_of_ok (KeyType.ofText_toText ..)] at replied
  refine told_askKey_of_replied built replied (fun answer read => ?_) fun failure failed => ?_
  · rcases shares.getHere_cases key with told | ⟨failure, failed, -⟩
    · cases said : log.answer replica.topic key with
      | error failure =>
        rw [told, said] at read
        contradiction
      | ok value =>
        rw [told, said] at read
        exact Except.ok.inj read ▸ Log.isPlain_of_answer plain said
    · rw [failed] at read
      contradiction
  · rcases shares.getHere_cases key with told | ⟨other, same, kind⟩
    · cases said : log.answer replica.topic key with
      | error other =>
        rw [told, said] at failed
        obtain rfl : other = failure := Except.error.inj failed
        rcases Log.kind_of_answer said with ⟨missing, -⟩ | codec
        · exact missing ▸ .head _
        · exact codec ▸ .tail _ (.head _)
      | ok value =>
        rw [told, said] at failed
        contradiction
    · obtain rfl := Except.error.inj (same.symm.trans failed)
      exact .tail _ (.tail _ kind)

theorem told_askRange {send : Sender} {host lower upper : String} {url : Http.Url}
    {key : replica.topic.keyType.Key} {bounds : String × String}
    (plain : log.IsPlain replica.topic)
    (read : replica.getRangeHere key lower upper =
      (log.answers replica.topic (replica.topic.keyType.encode key) bounds).map (⟨·, false⟩))
    (built : (Endpoint.direct host).internalRangeUrl (replica.topic.keyType.toText key) lower upper
      = .ok url)
    (replied : (send url).outcome = Received.ofReply (.ofValues
      (replica.topic.keyType.ofText (replica.topic.keyType.toText key) >>= fun key =>
        replica.getRangeHere key lower upper))) :
    Failure.told (askRange send (replica.topic.keyType.toText key) lower upper host) =
      Failure.told (log.answers replica.topic (replica.topic.keyType.encode key) bounds) := by
  rw [Failure.bind_of_ok (KeyType.ofText_toText ..), read] at replied
  cases said : log.answers replica.topic (replica.topic.keyType.encode key) bounds with
  | error failure =>
    rw [said] at replied
    refine told_askRange_of_replied built replied nofun fun other same => ?_
    obtain rfl : failure = other := Except.error.inj same
    exact DataType.kind_of_mapM_decode said ▸ .head _
  | ok values =>
    rw [said] at replied
    refine told_askRange_of_replied built replied (fun answer same => ?_) nofun
    exact Except.ok.inj same ▸ Log.isPlain_of_answers plain said

end Replica

theorem Http.Network.outcome_send (network : Network) (url : Http.Url) :
    (liftM (network.send url) : Http.Exchange (Option Http.Reply)).outcome =
      .ok (network url).result := rfl

theorem Http.Network.outcome_sender (network : Network) (url : Http.Url) :
    (network.sender url).outcome =
      match (network url).result with
      | none => .error (.unreachable (String.ofList url.server) "no connection")
      | some reply => Received.ofReply reply := by
  show Http.Traced.result (ExceptT.bindCont _ (Except.ok (network url).result)) = _
  rw [ExceptT.bindCont]
  cases (network url).result <;> rfl

namespace Cluster

/-- A request to the host of a replica reaches it, and no other server. -/
def Delivers (cluster : Cluster) (replica : Replica) : Prop :=
  ∃ url name, (Endpoint.direct replica.host).url "/" = .ok url ∧
    cluster.servers.find? (·.1 = String.ofList url.server) = some (name, .replica replica) ∧
    cluster.reaches (String.ofList url.server) = true

theorem delivers_of_found {cluster : Cluster} {replica : Replica} (name : String)
    (known : ((Endpoint.direct replica.host).url "/").toOption.map
      (fun url => String.ofList url.server) = some name)
    (found : cluster.servers.find? (·.1 = name) = some (name, .replica replica))
    (reached : cluster.reaches name = true) : cluster.Delivers replica := by
  rw [Option.map_eq_some_iff] at known
  obtain ⟨url, read, rfl⟩ := known
  refine ⟨url, _, ?_, found, reached⟩
  cases built : (Endpoint.direct replica.host).url "/" with
  | error failure =>
    rw [built] at read
    contradiction
  | ok other =>
    rw [built] at read
    exact congrArg Except.ok (Option.some.inj read)

theorem result_network (cluster : Cluster) (hops : Nat) (url : Http.Url) :
    (cluster.network (hops + 1) url).result =
      match cluster.servers.find? (·.1 = String.ofList url.server) with
      | some (_, server) =>
        if cluster.reaches (String.ofList url.server) then
          some (answer (cluster.network hops) url server).result
        else none
      | none => none := by
  simp only [network]
  cases cluster.servers.find? (·.1 = String.ofList url.server) with
  | none => rfl
  | some entry =>
    dsimp only
    split <;> rfl

theorem outcome_sender_cases (cluster : Cluster) (hops : Nat) (url : Http.Url) :
    (∃ failure, ((cluster.network hops).sender url).outcome = .error failure ∧
        failure.kind = .unreachable) ∨
      ∃ name server network,
        cluster.servers.find? (·.1 = String.ofList url.server) = some (name, server) ∧
        ((cluster.network hops).sender url).outcome =
          Received.ofReply (answer network url server).result := by
  rw [Network.outcome_sender]
  cases hops with
  | zero => exact .inl ⟨_, rfl, rfl⟩
  | succ hops =>
    rw [result_network]
    cases cluster.servers.find? (·.1 = String.ofList url.server) with
    | none => exact .inl ⟨_, rfl, rfl⟩
    | some entry =>
      obtain ⟨name, server⟩ := entry
      by_cases reached : cluster.reaches (String.ofList url.server) = true
      · simp only [reached, if_true]
        exact .inr ⟨name, server, _, rfl, rfl⟩
      · simp only [reached]
        exact .inl ⟨_, rfl, rfl⟩

section Found

variable {cluster : Cluster} {url : Http.Url} {name : String} {server : Server}

theorem network_of_found
    (found : cluster.servers.find? (·.1 = String.ofList url.server) = some (name, server))
    (reached : cluster.reaches (String.ofList url.server) = true) (hops : Nat) :
    let reply := answer (cluster.network hops) url server
    cluster.network (hops + 1) url = ⟨some reply.result, reply.sent⟩ := by
  refine Http.Traced.ext ?_ ?_
  · rw [result_network, found]
    simp only [reached, if_true]
  · simp only [network, found, reached, if_true]
    exact List.append_nil _

theorem outcome_sender_of_found
    (found : cluster.servers.find? (·.1 = String.ofList url.server) = some (name, server))
    (reached : cluster.reaches (String.ofList url.server) = true) (hops : Nat) :
    ((cluster.network (hops + 1)).sender url).outcome =
      Received.ofReply (answer (cluster.network hops) url server).result := by
  rw [Network.outcome_sender, network_of_found found reached]

end Found

end Cluster

end ShardedView
