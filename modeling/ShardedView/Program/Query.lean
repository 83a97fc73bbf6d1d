import ShardedView.Client.Partitioned
import ShardedView.Options.Query

/-!
A query on the command line: a client asks for what the options say.
-/

namespace ShardedView.Program

inductive QueryFault
  | unsupportedKeyType (type : DataType)
  | failed (failure : Failure)
  | missing (key : String)
  /-- The partition map was asked for, and no server gave one. -/
  | noPartitionMap (url : Http.Url)

def QueryFault.message : QueryFault → String
  | .unsupportedKeyType type => "Unsupported key type: " ++ type.label
  | .failed failure => failure.message
  | .missing key => "Key " ++ key ++ " not found"
  | .noPartitionMap url => "No partition map from " ++ url.text

/-- What a query does: it sends requests, and it may have no result. -/
abbrev Inquiry := ExceptT QueryFault Http.Traced

structure Client (type : KeyType) where
  get : type.Key → Http.Exchange (Option Json)
  getMany : List type.Key → Http.Exchange (List Json)
  getAll : Http.Exchange (List Json)
  getRange : type.Key → String → String → Http.Exchange (List Json)

namespace Client

variable {type : KeyType}

def ofEndpoint (network : Http.Network) (endpoint : Endpoint) (type : KeyType) :
    Client type where
  get := Lookup.get network.sender endpoint type
  getMany := Lookup.getMany network.sender endpoint type
  getAll := Lookup.getAll network.sender endpoint
  getRange := Lookup.getRange network.sender endpoint type

def ofRouter (network : Http.Network) (router : Router) (type : KeyType) : Client type :=
  let routes := Routes.ofRouter type router none 0
  { get key := carryOut (routes.get network.sender key)
    getMany keys := carryOut (routes.getMany network.sender keys)
    getAll := carryOut (routes.getAll network.sender)
    getRange key lower upper := carryOut (routes.getRange network.sender key lower upper) }
where
  /-- The result of an operation after which the router is of no more use. -/
  carryOut {α : Type} (operation : Http.Traced (Verdict α)) : Http.Exchange α := ExceptT.mk do
    return (← router.call network operation).2

def holds (client : Client type) (key : type.Key) : Http.Traced Bool := do
  match ← (client.get key).run with
  | .ok value => return value.isSome
  | .error _ => return false

end Client

def asking {α : Type} (operation : Http.Exchange α) : Inquiry α :=
  operation.adapt .failed

def reading {α : Type} (result : Except Failure α) : Inquiry α :=
  asking (liftM result)

def askPartitions (network : Http.Network) (url : Http.Url) : Inquiry Json := do
  match ← (network.send url : Http.Traced (Option Http.Reply)) with
  | none => throw (.noPartitionMap url)
  | some reply =>
    match if reply.status < 400 then Json.ofBytes? reply.body else none with
    | none => throw (.noPartitionMap url)
    | some map => return map

def carryOut {type : KeyType} (client : Client type) (partitions : Inquiry Json) :
    Options.Command → Inquiry Json
  | .get text => do
    match ← asking (client.get (← reading (type.ofText text))) with
    | some value => return value
    | none => throw (.missing text)
  | .getMany texts => do
    return .arr (← asking (client.getMany (← reading (texts.mapM type.ofText))))
  | .getAll => do
    return .arr (← asking client.getAll)
  | .range text lower upper => do
    return .arr (← asking (client.getRange (← reading (type.ofText text)) lower upper))
  | .holds text => do
    return .bool (← (client.holds (← reading (type.ofText text)) : Http.Traced Bool))
  | .partitions => partitions

/-- The client that the options ask for. One that looks for the host of each key
begins by asking the endpoint for the partition map. -/
def clientOf (network : Http.Network) (query : Options.Query) (type : KeyType) :
    Inquiry (Client type) := do
  if query.isPartitioned then
    let router : Router := ⟨some query.endpoint, .murmur, .empty⟩
    let (router, result) ← (router.refresh network : Http.Traced _)
    reading result
    return .ofRouter network router type
  else return .ofEndpoint network query.endpoint type

def runQuery (network : Http.Network) (query : Options.Query) : Inquiry Json := do
  match KeyType.ofDataType? query.keyType with
  | none => throw (.unsupportedKeyType query.keyType)
  | some type =>
    let url ← reading query.endpoint.partitionsUrl
    let client ← clientOf network query type
    carryOut client (askPartitions network url) query.command

end ShardedView.Program
