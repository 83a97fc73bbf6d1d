import ShardedView.Client.Endpoint
import ShardedView.Client.Request
import ShardedView.Topic.Key

/-!
Operations as dialogues: what a client that knows several hosts asks its router and the network,
question by question, apart from who answers.
-/

namespace ShardedView

inductive Question (type : KeyType)
  /-- Which host has a key. -/
  | find (key : type.Key)
  /-- Which hosts there are. -/
  | hosts
  /-- Which of several hosts is to be taken. -/
  | draw
  /-- What becomes of a request. -/
  | send (url : Http.Url)
  /-- A newer routing is wanted; if there is none, nobody is told. -/
  | refresh

namespace Question

variable {type : KeyType}

abbrev Answer : Question type → Type
  | find _ => Except Failure Endpoint
  | hosts => Except Failure (List Endpoint)
  | draw => Nat
  | send _ => Except Failure Received
  | refresh => Unit

def isRefresh : Question type → Bool
  | refresh => true
  | _ => false

end Question

/-- Questions one after another, each of which may depend on the answers before it, and a
result in the end. -/
inductive Dialogue (type : KeyType) (α : Type)
  | done (result : α)
  | ask (question : Question type) (next : question.Answer → Dialogue type α)

namespace Dialogue

variable {type : KeyType} {α β : Type}

def bind : Dialogue type α → (α → Dialogue type β) → Dialogue type β
  | done result, later => later result
  | ask question next, later => ask question fun answer => (next answer).bind later

instance : Monad (Dialogue type) where
  pure := done
  bind := bind

end Dialogue

abbrev Errand (type : KeyType) := ExceptT Failure (Dialogue type)

namespace Errand

variable {type : KeyType}

def find (key : type.Key) : Errand type Endpoint := ExceptT.mk (.ask (.find key) .done)

def hosts : Errand type (List Endpoint) := ExceptT.mk (.ask .hosts .done)

def draw : Errand type Nat := ExceptT.lift (.ask .draw .done)

def send (url : Http.Url) : Errand type Received := ExceptT.mk (.ask (.send url) .done)

def refresh : Errand type Unit := ExceptT.lift (.ask .refresh .done)

end Errand

end ShardedView
