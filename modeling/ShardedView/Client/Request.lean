import ShardedView.Failure.Remote
import ShardedView.Http.Envelope
import ShardedView.Http.Exchange

/-!
Requests for values, and what the replies to them mean.
-/

namespace ShardedView

inductive Origin
  | primary
  | fallback
  deriving DecidableEq, Repr

/-- A successful reply; the body is missing if there is no such value. -/
structure Received where
  body : Option Bytes
  origin : Origin
  deriving DecidableEq, Repr

namespace Received

/-- Whether the reply came from elsewhere, so that the routing may be outdated. -/
def isFallback (received : Received) : Bool :=
  received.origin = .fallback

def asFallback (received : Received) : Received :=
  { received with origin := .fallback }

def read {α : Type} (received : Received) (decode : Bytes → Except Failure α) :
    Except Failure (Option α) :=
  match received.body with
  | none => .ok none
  | some body => (decode body).map some

def value? (received : Received) : Except Failure (Option Json) :=
  received.read Envelope.readValue

def values (received : Received) : Except Failure (List Json) := do
  return ((← received.read Envelope.readValues).getD [])

def ofReply (reply : Http.Reply) : Except Failure Received :=
  let origin := if reply.stale then .fallback else .primary
  if reply.status = 404 then .ok ⟨none, origin⟩
  else if 200 ≤ reply.status ∧ reply.status < 300 then .ok ⟨some reply.body, origin⟩
  else .error (.ofReply reply.status reply.body)

end Received

abbrev Sender := Http.Url → Http.Exchange Received

def Http.Network.sender (network : Http.Network) : Sender := fun url => do
  match ← (network.send url : Http.Traced (Option Http.Reply)) with
  | none => throw (.unreachable (String.ofList url.server) "no connection")
  | some reply => Received.ofReply reply

end ShardedView
