import ShardedView.Failure
import ShardedView.Http.Url

/-!
Requests and replies, and a record of the requests that an operation sends.
-/

namespace ShardedView.Http

structure Reply where
  status : UInt16
  /-- Whether the server tells that it had to ask the owner of a key. -/
  stale : Bool
  body : Bytes
  deriving DecidableEq, Repr

/-- A result together with the requests that were sent on the way to it. -/
structure Traced (α : Type) where
  result : α
  sent : List Url

namespace Traced

instance : Monad Traced where
  pure result := ⟨result, []⟩
  bind first next :=
    let second := next first.result
    ⟨second.result, first.sent ++ second.sent⟩

end Traced

abbrev Exchange := ExceptT Failure Traced

/-- What becomes of a request to each URL: the reply, unless the server cannot be
reached, and the requests that the server sends for it. -/
abbrev Network := Url → Traced (Option Reply)

namespace Network

def isolated : Network := fun _ => ⟨none, []⟩

def send (network : Network) (url : Url) : Traced (Option Reply) :=
  let answer := network url
  ⟨answer.result, url :: answer.sent⟩

end Network

end ShardedView.Http
