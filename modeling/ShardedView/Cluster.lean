import ShardedView.Query.Handler

/-!
Replicas and other servers that reach each other over HTTP.
-/

namespace ShardedView

inductive Server
  | replica (replica : Replica)
  /-- A server with a fixed reply to each target. -/
  | fixed (replies : List (List Char × Http.Reply))

/-- Servers by host, and which of them can be reached. -/
structure Cluster where
  servers : List (String × Server)
  reaches : String → Bool

namespace Cluster

/-- The reply of a server, which sends its own requests through `network`. -/
def answer (network : Http.Network) (url : Http.Url) : Server → Http.Traced Http.Reply
  | .replica replica => replica.reply network.sender (.ofTarget "GET" url.target)
  | .fixed replies =>
    match replies.find? (·.1 = url.target) with
    | some (_, reply) => return reply
    | none => return .empty 404

/-- The network of a cluster on which a request causes chains of at most `hops`
requests. A replica that is asked by another one asks no further, so that two
are enough. -/
def network (cluster : Cluster) : (hops : Nat) → Http.Network
  | 0 => .isolated
  | hops + 1 => fun url =>
    let host := String.ofList url.server
    match cluster.servers.find? (·.1 = host) with
    | some (_, server) =>
      if cluster.reaches host then do
        return some (← answer (cluster.network hops) url server)
      else return none
    | none => return none

end Cluster

end ShardedView
