import ShardedView.Query.Route
import ShardedView.Query.Service

/-!
Requests to a replica and its replies.
-/

namespace ShardedView

inductive RequestFault
  /-- The bytes of a key in the path are no UTF-8. -/
  | keyNotUtf8
  | missingField (name : String)
  | duplicateField (name : String)
  deriving DecidableEq, Repr

namespace RequestFault

def quoted (name : String) : String :=
  "\x60" ++ name ++ "\x60"

def message : RequestFault → String
  | keyNotUtf8 => "Invalid URL: Invalid UTF-8 in " ++ quoted "key"
  | missingField name =>
    "Failed to deserialize query string: missing field " ++ quoted name
  | duplicateField name =>
    "Failed to deserialize query string: duplicate field " ++ quoted name

end RequestFault

namespace Request

/-- The values of the fields of a query; other names are ignored. The first
repetition is a fault, then the first name that is missing. -/
def fields (query : Bytes) (names : List String) : Except RequestFault (List String) := do
  let pairs ← (Form.decodePairs query).foldlM
    (fun found pair =>
      if pair.1 ∉ names then .ok found
      else if found.any (·.1 = pair.1) then .error (RequestFault.duplicateField pair.1)
      else .ok (found ++ [pair]))
    ([] : List (String × String))
  names.mapM fun name =>
    match pairs.find? (·.1 = name) with
    | some pair => .ok pair.2
    | none => .error (.missingField name)

def keyText (segment : Bytes) : Except RequestFault String :=
  match Utf8.decode (Percent.decode segment) with
  | .ok text => .ok text
  | .error _ => .error .keyNotUtf8

def bounds (query : Bytes) : Except RequestFault (String × String) := do
  match ← fields query ["from", "to"] with
  | [lower, upper] => return (lower, upper)
  | _ => throw (.missingField "to")

/-- The texts of the keys in a query: what stands between commas, without blanks
around it; empty texts count for nothing. -/
def keyTexts (query : Bytes) : Except RequestFault (List String) := do
  let fields ← fields query ["ids"]
  let texts := fields.flatMap fun ids => (ids.toList.splitOn ',').map Text.trimChars
  return (texts.filter (!·.isEmpty)).map String.ofList

end Request

namespace Http.Reply

def empty (status : UInt16) : Reply := ⟨status, false, []⟩

def ofFault (fault : RequestFault) : Reply :=
  ⟨400, false, Utf8.encode fault.message⟩

def ofFailure (failure : Failure) : Reply :=
  ⟨failure.statusCode, false, Utf8.encode failure.body.print⟩

def ofAnswer (answer : Answer Json) : Reply :=
  ⟨200, answer.stale, Envelope.write answer.value⟩

def ofValue : Except Failure (Answer Json) → Reply
  | .ok answer => ofAnswer answer
  | .error failure => ofFailure failure

def ofValues : Except Failure (Answer (List Json)) → Reply
  | .ok answer => ofAnswer ⟨.arr answer.value, answer.stale⟩
  | .error failure => ofFailure failure

def ofPartitionMap (map : List (Nat × String)) : Reply :=
  ⟨200, false, Utf8.encode (Json.ofMembers (map.map fun (partition, host) =>
    (String.ofList (Digits.ofNat partition), .str host))).print⟩

end Http.Reply

namespace Replica

open Http (Reply Traced)

def replyPoint (replica : Replica) (send : Sender) (segment : Bytes) : Traced Reply := do
  match Request.keyText segment with
  | .error fault => return .ofFault fault
  | .ok text =>
    match replica.topic.keyType.ofText text with
    | .error failure => return .ofFailure failure
    | .ok key => return .ofValue (← (replica.get send key).run)

def replyPointHere (replica : Replica) (segment : Bytes) : Reply :=
  match Request.keyText segment with
  | .error fault => .ofFault fault
  | .ok text => .ofValue (replica.topic.keyType.ofText text >>= replica.getHere)

def replyMany (replica : Replica) (send : Sender) (query : Bytes) : Traced Reply := do
  match Request.keyTexts query with
  | .error fault => return .ofFault fault
  | .ok texts =>
    match texts.mapM replica.topic.keyType.ofText with
    | .error failure => return .ofFailure failure
    | .ok keys => return .ofValues (← (replica.getMany send keys).run)

def rangeArguments (segment query : Bytes) : Except RequestFault (String × String × String) := do
  let text ← Request.keyText segment
  let (lower, upper) ← Request.bounds query
  return (text, lower, upper)

def replyRange (replica : Replica) (send : Sender) (segment query : Bytes) : Traced Reply := do
  match rangeArguments segment query with
  | .error fault => return .ofFault fault
  | .ok (text, lower, upper) =>
    match replica.topic.keyType.ofText text with
    | .error failure => return .ofFailure failure
    | .ok key => return .ofValues (← (replica.getRange send key lower upper).run)

/-- Replies with the values between bounds of a key that is held here. -/
def replyRangeHere (replica : Replica) (segment query : Bytes) : Reply :=
  match rangeArguments segment query with
  | .error fault => .ofFault fault
  | .ok (text, lower, upper) =>
    .ofValues (replica.topic.keyType.ofText text >>= fun key =>
      replica.getRangeHere key lower upper)

def replyTo (replica : Replica) (send : Sender) (query : Bytes) : Route → Traced Reply
  | .all => return .ofValues replica.getAll
  | .many => replica.replyMany send query
  | .point segment => replica.replyPoint send segment
  | .range segment => replica.replyRange send segment query
  | .partitions => return .ofPartitionMap replica.partitionMap
  | .internalPoint segment => return replica.replyPointHere segment
  | .internalRange segment => return replica.replyRangeHere segment query

/-- Replies to a request. Only what a path names may be read, and nothing may be
changed; a request for the head alone gets no body. -/
def reply (replica : Replica) (send : Sender) (request : Request) : Traced Reply :=
  match Route.ofPath? request.path with
  | none => return .empty 404
  | some route =>
    if request.method = "GET" then replica.replyTo send request.query route
    else if request.method = "HEAD" then do
      return { ← replica.replyTo send request.query route with body := [] }
    else return .empty 405

end Replica

end ShardedView
