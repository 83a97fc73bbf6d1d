import ShardedView.Client.Endpoint
import ShardedView.Client.Request
import ShardedView.Replica.Basic

/-!
What a replica answers: from its own shards where it holds the key, and otherwise
by asking the active host of the key. A replica that is asked by another one
never asks further.
-/

namespace ShardedView

/-- An answer, and whether the replica had to ask another one for it. -/
structure Answer (α : Type) where
  value : α
  stale : Bool

namespace Replica

def locateHere (replica : Replica) (key : Bytes) : Except Failure (KeyLocation × Bool) := do
  let location ← replica.locate key
  return (location, location.isOn replica.host)

def lookup (replica : Replica) (partition : Nat) (key : replica.topic.keyType.Key) :
    Except Failure Json := do
  match ← replica.readPoint partition (replica.topic.keyType.encode key) with
  | some value => replica.topic.valueType.decode value
  | none => throw (.notFound (replica.topic.keyType.toText key))

def lookupRange (replica : Replica) (partition : Nat) (bounds : String × String) :
    Except Failure (List Json) := do
  (← replica.readRange partition bounds.1 bounds.2).mapM replica.topic.valueType.decode

/-- The value of a key; the active host is asked if the key is not held here. -/
def get (replica : Replica) (send : Sender) (key : replica.topic.keyType.Key) :
    Http.Exchange (Answer Json) := do
  let (location, here) ← replica.locateHere (replica.topic.keyType.encode key)
  if here then return ⟨← replica.lookup location.partition key, false⟩
  else
    let text := replica.topic.keyType.toText key
    let received ← send (← (Endpoint.direct location.active).internalKeyUrl text)
    match ← received.value? with
    | some value => return ⟨value, true⟩
    | none => throw (.notFound text)

def getHere (replica : Replica) (key : replica.topic.keyType.Key) :
    Except Failure (Answer Json) := do
  let (location, here) ← replica.locateHere (replica.topic.keyType.encode key)
  if here then return ⟨← replica.lookup location.partition key, false⟩
  else throw .storeNotAvailable

/-- Puts the answers for several keys together. Keys without a value are left
out; any other failure counts, the first one first. -/
def merge : List (Except Failure (Answer Json)) → Except Failure (Answer (List Json))
  | [] => .ok ⟨[], false⟩
  | .error (.notFound _) :: rest => merge rest
  | .error failure :: _ => .error failure
  | .ok answer :: rest => do
    let later ← merge rest
    return ⟨answer.value :: later.value, answer.stale || later.stale⟩

def getMany (replica : Replica) (send : Sender) (keys : List replica.topic.keyType.Key) :
    Http.Exchange (Answer (List Json)) := do
  let answers ← (keys.mapM fun key => (replica.get send key).run : Http.Traced _)
  merge answers

/-- The values of all keys whose active host is the replica. -/
def getAll (replica : Replica) : Except Failure (Answer (List Json)) := do
  return ⟨← (← replica.readAll).mapM replica.topic.valueType.decode, false⟩

def rangeBounds (replica : Replica) (key : replica.topic.keyType.Key) (lower upper : String) :
    Except Failure (String × String) :=
  match replica.topic.rangeField with
  | none => .error (.badArgument (.noRangeField replica.topic.name))
  | some field => field.bounds replica.topic.keyType key lower upper

/-- The values of a key from one bound to another; the active host is asked if the
key is not held here. -/
def getRange (replica : Replica) (send : Sender) (key : replica.topic.keyType.Key)
    (lower upper : String) : Http.Exchange (Answer (List Json)) := do
  let bounds ← replica.rangeBounds key lower upper
  let (location, here) ← replica.locateHere (replica.topic.keyType.encode key)
  if here then return ⟨← replica.lookupRange location.partition bounds, false⟩
  else
    let text := replica.topic.keyType.toText key
    let owner := Endpoint.direct location.active
    let received ← send (← owner.internalRangeUrl text lower upper)
    return ⟨← received.values, true⟩

/-- The values from one bound to another of a key that is held here. -/
def getRangeHere (replica : Replica) (key : replica.topic.keyType.Key)
    (lower upper : String) : Except Failure (Answer (List Json)) := do
  let bounds ← replica.rangeBounds key lower upper
  let (location, here) ← replica.locateHere (replica.topic.keyType.encode key)
  if here then return ⟨← replica.lookupRange location.partition bounds, false⟩
  else throw .storeNotAvailable

end Replica

end ShardedView
