import ShardedView.Client.Endpoint
import ShardedView.Client.Request
import ShardedView.Topic.Key

/-!
A client that asks one endpoint for everything.
-/

namespace ShardedView

/-- Whether a key may be asked for together with others, which are told apart by
commas. -/
def isBatchable (text : String) : Bool :=
  ',' ∉ text.toList

namespace Lookup

variable (send : Sender) (endpoint : Endpoint) (type : KeyType)

def get (key : type.Key) : Http.Exchange (Option Json) := do
  (← send (← endpoint.keyUrl (type.toText key))).value?

def getEach : List String → Http.Exchange (List Json)
  | [] => return []
  | text :: rest => do
    let value ← (← send (← endpoint.keyUrl text)).value?
    return value.toList ++ (← getEach rest)

def getBatch (texts : List String) : Http.Exchange (List Json) := do
  (← send (← endpoint.keysUrl texts)).values

/-- Asks for the values of keys: in one request where the texts of the keys allow
it, and one by one for the others. -/
def getMany (keys : List type.Key) : Http.Exchange (List Json) := do
  let texts := keys.map type.toText
  let batch := texts.filter isBatchable
  let values ← if batch.isEmpty then pure [] else getBatch send endpoint batch
  return values ++ (← getEach send endpoint (texts.filter (!isBatchable ·)))

def getAll : Http.Exchange (List Json) := do
  (← send (← endpoint.allUrl)).values

def getRange (key : type.Key) (lower upper : String) : Http.Exchange (List Json) := do
  (← send (← endpoint.rangeUrl (type.toText key) lower upper)).values

def exists? (key : type.Key) : Http.Traced Bool := do
  match ← (get send endpoint type key).run with
  | .ok (some _) => return true
  | _ => return false

end Lookup

end ShardedView
