import ShardedView.Failure
import ShardedView.Json.Reader

/-!
The failure that the reply of another server tells of.
-/

namespace ShardedView.Failure

def readBody? (body : Bytes) : Option (String × String) := do
  match ← (← Json.Document.ofBytes? body).fields? ["type", "message"] with
  | [some kind, some message] => return (← kind.text?, ← message.text?)
  | _ => none

/-- The failure behind a status code and a body. What decides is, in this order,
whether the store is not available, the kind in the body, and the code. -/
def ofReply (code : UInt16) (body : Bytes) : Failure :=
  let told := readBody? body
  let kind := (told.map (·.1)).getD ""
  let message := (told.map (·.2)).getD (Utf8.decodeLossy body)
  if code = 503 ∨ kind = Kind.storeNotAvailable.name then storeNotAvailable
  else if kind = Kind.storeNotRunning.name then storeNotRunning
  else if kind = Kind.codec.name then codec (.reported message)
  else if kind = Kind.rangeIndex.name then rangeIndex (.reported message)
  else if code = 400 then badArgument (.reported message)
  else status code message

end ShardedView.Failure
