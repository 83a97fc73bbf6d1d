import ShardedView.Http.Form

/-!
What a request asks for, by its path.

A fixed segment goes before a key. A key is one segment that is not empty.
-/

namespace ShardedView

/-- A request to a replica; the path and the query are as they were sent. -/
structure Request where
  method : String
  path : Bytes
  query : Bytes
  deriving DecidableEq, Repr

namespace Request

/-- What stands behind the server in a target that begins with a scheme and the
server; any other target is a path and a query already. A server without a path
is asked for `/`. -/
def behindServer (target : List Char) : List Char :=
  match target with
  | '/' :: _ => target
  | _ =>
    match target.dropWhile (· ≠ ':') with
    | ':' :: '/' :: '/' :: rest =>
      let rest := rest.dropWhile (· ∉ ['/', '?'])
      if rest.head? = some '/' then rest else '/' :: rest
    | _ => target

/-- A request for a target: a path, and a query behind a question mark. What follows
a number sign is not part of a request. -/
def ofTarget (method : String) (target : List Char) : Request :=
  let target := behindServer (target.takeWhile (· ≠ '#'))
  { method
    path := (target.takeWhile (· ≠ '?')).flatMap Utf8.encodeChar
    query := ((target.dropWhile (· ≠ '?')).drop 1).flatMap Utf8.encodeChar }

end Request

/-- What a path names. A key is still percent-encoded. -/
inductive Route
  | all
  | many
  | point (key : Bytes)
  | range (key : Bytes)
  | partitions
  | internalPoint (key : Bytes)
  | internalRange (key : Bytes)
  deriving DecidableEq, Repr

namespace Route

def segments : Bytes → List Bytes
  | [] => [[]]
  | byte :: rest =>
    match segments rest with
    | [] => [[byte]]
    | segment :: later =>
      if byte = 0x2F then [] :: segment :: later else (byte :: segment) :: later

def view : Bytes := Utf8.encode "mirror"

def keys : Bytes := Utf8.encode "keys"

def span : Bytes := Utf8.encode "range"

def internal : Bytes := Utf8.encode "internal"

def ofSegments? : List Bytes → Option Route
  | [first] => if first = view then some all else none
  | [first, second] =>
    if first = view then
      if second = keys then some many
      else if second.isEmpty then none
      else some (point second)
    else if first = Utf8.encode "streams" ∧ second = Utf8.encode "partitions" then
      some partitions
    else none
  | [first, second, third] =>
    if third.isEmpty then none
    else if first = view ∧ second = span then some (range third)
    else if first = internal ∧ second = view then some (internalPoint third)
    else none
  | [first, second, third, fourth] =>
    if first = internal ∧ second = view ∧ third = span ∧ !fourth.isEmpty then
      some (internalRange fourth)
    else none
  | _ => none

def ofPath? (path : Bytes) : Option Route :=
  match path with
  | 0x2F :: rest => ofSegments? (segments rest)
  | _ => none

end Route

end ShardedView
