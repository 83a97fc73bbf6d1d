import ShardedView.Client.Dialogue
import ShardedView.Client.Lookup
import ShardedView.Client.Routing

/-!
A client that asks the host of each key, and another one if that host cannot be
reached.

A reply from elsewhere than expected tells that the routing is outdated: the operation then asks
for a newer one before it ends.
-/

namespace ShardedView

namespace Errand

variable {type : KeyType}

/-- The host to try after one that could not be reached: a given one, or else one of those that
are known. -/
def alternative? (fallback : Option Endpoint) (failed : Endpoint) :
    Errand type (Option Endpoint) :=
  match fallback.filter (!·.isSameHost failed) with
  | some other => return some other
  | none => do
    let others := (← hosts).filter (!·.isSameHost failed)
    return others[(← draw) % others.length]?

/-- Sends the request for one host to another one, whose reply is not the expected one. -/
def elsewhere (fallback : Option Endpoint) (build : Endpoint → Except Failure Http.Url)
    (endpoint : Endpoint) (failure : Failure) : Errand type Received := do
  match ← alternative? fallback endpoint with
  | none => throw failure
  | some other => return (← send (← build other)).asFallback

/-- Sends a request to a host, and once more to another one if it cannot be
reached. -/
def request (fallback : Option Endpoint) (build : Endpoint → Except Failure Http.Url)
    (endpoint : Endpoint) : Errand type Received := do
  let url ← build endpoint
  tryCatch (send url) fun failure =>
    if failure.kind = .unreachable then elsewhere fallback build endpoint failure
    else throw failure

def heed (isOutdated : Bool) : Errand type Unit :=
  if isOutdated then refresh else return ()

def addTo (endpoint : Endpoint) (text : String) :
    List (Endpoint × List String) → List (Endpoint × List String)
  | [] => [(endpoint, [text])]
  | (other, texts) :: rest =>
    if endpoint.isSameHost other then (other, texts ++ [text]) :: rest
    else (other, texts) :: addTo endpoint text rest

/-- The texts of each host, the hosts in the order in which they come up. -/
def byHost (requests : List (Endpoint × String)) : List (Endpoint × List String) :=
  requests.foldl (fun groups (endpoint, text) => addTo endpoint text groups) []

def get (fallback : Option Endpoint) (key : type.Key) : Errand type (Option Json) := do
  let endpoint ← find key
  let received ← request fallback (·.keyUrl (type.toText key)) endpoint
  heed received.isFallback
  received.value?

def getRange (fallback : Option Endpoint) (key : type.Key) (lower upper : String) :
    Errand type (List Json) := do
  let endpoint ← find key
  let received ← request fallback (·.rangeUrl (type.toText key) lower upper) endpoint
  heed received.isFallback
  received.values

def collect (read : Received → Except Failure (List Json))
    (replies : List (Except Failure Received)) : Except Failure (List Json) := do
  return (← replies.mapM fun reply => reply.bind read).flatten

def isFallback : Except Failure Received → Bool
  | .ok received => received.isFallback
  | .error _ => false

def targets (keys : List type.Key) : Errand type (List (Endpoint × String)) :=
  keys.mapM fun key => do return (← find key, type.toText key)

/-- Asks for the values of keys: each host once for those that may be asked for
together, and once for each other key. -/
def getMany (fallback : Option Endpoint) (keys : List type.Key) : Errand type (List Json) := do
  let requests ← targets keys
  let batches := byHost (requests.filter fun request => isBatchable request.2)
  let singles := requests.filter fun request => !isBatchable request.2
  let lists ← (batches.mapM fun (host, texts) =>
    (request fallback (·.keysUrl texts) host).run : Dialogue type (List _))
  let values ← (singles.mapM fun (host, text) =>
    (request fallback (·.keyUrl text) host).run : Dialogue type (List _))
  heed (lists.any isFallback || values.any isFallback)
  (do
    let lists ← collect Received.values lists
    let values ← collect (fun received => received.value?.map Option.toList) values
    return lists ++ values : Except Failure (List Json))

def isUnreachable : Except Failure Received → Bool
  | .ok _ => false
  | .error failure => failure.kind = .unreachable

def getAll : Errand type (List Json) := do
  let hosts ← hosts
  if hosts.isEmpty then throw .routerNotInitialized
  else
    let replies ← (hosts.mapM fun host =>
      (do send (← host.allUrl) : Errand type Received).run : Dialogue type (List _))
    heed (replies.any fun reply => isFallback reply || isUnreachable reply)
    collect Received.values replies

end Errand

/-- The result of an operation, and whether the routing is outdated. -/
structure Verdict (α : Type) where
  result : Except Failure α
  isOutdated : Bool

namespace Verdict

/-- An operation that failed before it could tell anything of the routing. -/
def failed {α : Type} (failure : Failure) : Verdict α := ⟨.error failure, false⟩

def found {α : Type} (verdict : Verdict (Option α)) : Bool :=
  match verdict.result with
  | .ok value => value.isSome
  | .error _ => false

end Verdict

/-- The router after an operation: it is refreshed once if the routing is
outdated. -/
def Router.follow {α : Type} (network : Http.Network) (router : Router)
    (verdict : Verdict α) : Http.Traced Router :=
  if verdict.isOutdated then do return (← router.refresh network).1 else return router

def Router.call {α : Type} (network : Http.Network) (router : Router)
    (operation : Http.Traced (Verdict α)) : Http.Traced (Router × Except Failure α) := do
  let verdict ← operation
  return (← router.follow network verdict, verdict.result)

structure Routes (type : KeyType) where
  find : type.Key → Except Failure Endpoint
  hosts : List Endpoint
  /-- The host that is tried when another cannot be reached. -/
  fallback : Option Endpoint
  /-- Which of several other hosts is tried where there is no fallback. -/
  draw : Nat

namespace Routes

variable {type : KeyType} {α : Type}

def ofRouter (type : KeyType) (router : Router) (fallback : Option Endpoint) (draw : Nat) :
    Routes type :=
  ⟨router.find type, router.table.endpoints, fallback, draw⟩

def answer (routes : Routes type) (send : Sender) :
    (question : Question type) → Http.Traced question.Answer
  | .find key => return routes.find key
  | .hosts => return .ok routes.hosts
  | .draw => return routes.draw
  | .send url => (send url).run
  | .refresh => return ()

/-- The result of a dialogue with the routes and the network, and whether a newer routing was
asked for. -/
def hear (routes : Routes type) (send : Sender) : Dialogue type α → Http.Traced (α × Bool)
  | .done result => return (result, false)
  | .ask question next => do
    let answer ← routes.answer send question
    let (result, isOutdated) ← routes.hear send (next answer)
    return (result, question.isRefresh || isOutdated)

def run (routes : Routes type) (send : Sender) (errand : Errand type α) :
    Http.Traced (Verdict α) := do
  let (result, isOutdated) ← routes.hear send errand.run
  return ⟨result, isOutdated⟩

def get (routes : Routes type) (send : Sender) (key : type.Key) :
    Http.Traced (Verdict (Option Json)) :=
  routes.run send (Errand.get routes.fallback key)

def getRange (routes : Routes type) (send : Sender) (key : type.Key) (lower upper : String) :
    Http.Traced (Verdict (List Json)) :=
  routes.run send (Errand.getRange routes.fallback key lower upper)

def getMany (routes : Routes type) (send : Sender) (keys : List type.Key) :
    Http.Traced (Verdict (List Json)) :=
  routes.run send (Errand.getMany routes.fallback keys)

def getAll (routes : Routes type) (send : Sender) : Http.Traced (Verdict (List Json)) :=
  routes.run send Errand.getAll

end Routes

end ShardedView
