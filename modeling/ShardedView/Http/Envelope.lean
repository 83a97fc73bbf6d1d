import ShardedView.Failure
import ShardedView.Json.Reader

/-!
The envelope of values in replies: an object with the single field `value`.
-/

namespace ShardedView.Envelope

def field : String := "value"

def write (value : Json) : Bytes :=
  Utf8.encode (Json.ofMembers [(field, value)]).print

def open? (body : Bytes) : Option Json.Document := do
  match ← (← Json.Document.ofBytes? body).fields? [field] with
  | [some value] => return value
  | _ => none

def value? (body : Bytes) : Option Json := do
  (← open? body).json? (Json.greatestDepth - 1)

def values? (body : Bytes) : Option (List Json) := do
  match ← open? body with
  | .list items => Json.Document.jsonItems? (Json.greatestDepth - 2) items
  | _ => none

def readValue (body : Bytes) : Except Failure Json :=
  match value? body with
  | some value => .ok value
  | none => .error (.codec .notJson)

def readValues (body : Bytes) : Except Failure (List Json) :=
  match values? body with
  | some values => .ok values
  | none => .error (.codec .notJson)

end ShardedView.Envelope
