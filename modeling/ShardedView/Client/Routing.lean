import ShardedView.Client.Endpoint
import ShardedView.Client.Request
import ShardedView.Partition.Finder
import ShardedView.Topic.Key

/-!
Which host a key is asked for at: a table of the active host of each partition,
fetched from a host that is known already.
-/

namespace ShardedView

structure RoutingTable where
  hosts : SortedMap Nat String

namespace RoutingTable

def empty : RoutingTable := ⟨.empty⟩

/-- How many partitions there must be for the greatest one to exist. -/
def partitions (table : RoutingTable) : Nat :=
  (table.hosts.keys.getLast?.map (· + 1)).getD 0

/-- Whether each of these partitions has a host. -/
def isComplete (table : RoutingTable) : Bool :=
  table.hosts.size = table.partitions

def isEmpty (table : RoutingTable) : Bool :=
  table.hosts.entries.isEmpty

def host? (table : RoutingTable) (partition : Nat) : Option Endpoint :=
  (table.hosts.find? partition).map Endpoint.direct

/-- The hosts without repetition, in the order of their first partitions. -/
def endpoints (table : RoutingTable) : List Endpoint :=
  (table.hosts.values.foldl
    (fun hosts host => if host ∈ hosts then hosts else hosts ++ [host]) []).map Endpoint.direct

def find (table : RoutingTable) (finder : Finder) (type : KeyType) (key : type.Key) :
    Except Failure Endpoint :=
  if table.isEmpty then .error .routerNotInitialized
  else
    let partition := finder.place (type.encode key) table.partitions
    match table.host? partition with
    | some endpoint => .ok endpoint
    | none => .error (.noHostForPartition partition)

end RoutingTable

/-- A routing table with a host that is asked first for a newer one. -/
structure Router where
  discovery : Option Endpoint
  finder : Finder
  table : RoutingTable

namespace Router

def find (router : Router) (type : KeyType) (key : type.Key) : Except Failure Endpoint :=
  router.table.find router.finder type key

/-- The hosts that are asked for a newer table, each once. -/
def candidates (router : Router) : List Endpoint :=
  router.discovery.toList ++
    router.table.endpoints.filter fun endpoint =>
      !router.discovery.any fun discovery => endpoint.isSameHost discovery

def fetch (network : Http.Network) (endpoint : Endpoint) : Http.Exchange RoutingTable := do
  let url ← endpoint.partitionsUrl
  match ← (network.send url : Http.Traced (Option Http.Reply)) with
  | none => throw (.unreachable endpoint.address "no connection")
  | some reply =>
    if 200 ≤ reply.status ∧ reply.status < 300 then
      match (Json.Document.ofBytes? reply.body).bind Json.Document.numberedTexts? with
      | some hosts => return ⟨hosts⟩
      | none => throw (.codec .notJson)
    else throw (.ofReply reply.status reply.body)

/-- Asks hosts in turn for a table, up to the first that has one. The failure is
the one of the last host, or `last` if there are no hosts. -/
def fetchFirst (network : Http.Network) (last : Failure) :
    List Endpoint → Http.Exchange RoutingTable
  | [] => throw last
  | endpoint :: rest => ExceptT.mk do
    match ← (fetch network endpoint).run with
    | .ok table => return .ok table
    | .error failure => (fetchFirst network failure rest).run

/-- Fetches a newer table; the old one stays if there is none. -/
def refresh (network : Http.Network) (router : Router) :
    Http.Traced (Router × Except Failure Unit) := do
  match ← (fetchFirst network .routerNotInitialized router.candidates).run with
  | .ok table => return ({ router with table }, .ok ())
  | .error failure => return (router, .error failure)

end Router

end ShardedView
