import ShardedView.Files
import ShardedView.Log.Basic
import ShardedView.Topic.Basic

/-!
Writing records to a log, one by one or from a file with a JSON record on each
line.
-/

namespace ShardedView

namespace Log

def upsert (topic : Topic) (now : Nat) (key : topic.keyType.Key) (value : Json) :
    Except Failure Record := do
  return ⟨topic.keyType.encode key, some (← topic.valueType.encode value), now⟩

def tombstone (topic : Topic) (now : Nat) (key : topic.keyType.Key) : Record :=
  ⟨topic.keyType.encode key, none, now⟩

end Log

inductive LoadFault
  | unopened (path : String) (fault : FileFault)
  | unread (fault : FileFault)
  | notUtf8
  | malformed (line : Nat)
  | badKey (line : Nat) (failure : Failure)
  | badValue (line : Nat) (failure : Failure)
  deriving Repr

/-- The wording of a fault, from the outermost message to its cause. -/
def LoadFault.messages : LoadFault → List String
  | .unopened path fault => ["Failed to open records file " ++ path, fault.message]
  | .unread fault => [fault.message]
  | .notUtf8 => ["stream did not contain valid UTF-8"]
  | .malformed line =>
    ["Line " ++ toString line ++ ": malformed record", CodecFault.notJson.message]
  | .badKey line failure => ["Line " ++ toString line ++ ": bad key", failure.message]
  | .badValue line failure => ["Line " ++ toString line ++ ": bad value", failure.message]

/-- A records file is opened first and read then; a directory can be opened. -/
def LoadFault.ofFile (path : String) : FileFault → LoadFault
  | .isDirectory => .unread .isDirectory
  | fault => .unopened path fault

namespace RecordsFile

/-- The runs of bytes that end at a line feed, without it and a carriage return
before it, and what is left, if anything. -/
def lines (content : Bytes) : List Bytes :=
  go [] content
where
  /-- The lines, after some bytes of the first one in reverse. -/
  go (before : Bytes) : Bytes → List Bytes
    | [] => if before.isEmpty then [] else [before.reverse]
    | byte :: rest =>
      if byte = 0x0A then
        (if before.head? = some 0x0D then before.tail else before).reverse :: go [] rest
      else go (byte :: before) rest

/-- The key and the value of a line; a value that is missing is null. -/
def readLine? (line : String) : Option (Json × Json) := do
  let document ← Json.Document.ofText? line
  match ← document.fields? ["key", "value"] with
  | [some key, value] =>
    let depth := Json.greatestDepth - 1
    let key ← key.json? depth
    let value ← (value.getD .null).json? depth
    return (key, value)
  | _ => none

/-- The record of a line; a null value removes the key. -/
def toRecord (topic : Topic) (now number : Nat) (line : String) : Except LoadFault Record :=
  match readLine? line with
  | none => .error (.malformed number)
  | some (key, value) =>
    match topic.keyType.ofText (DataType.toText key) with
    | .error failure => .error (.badKey number failure)
    | .ok key =>
      if value matches .null then .ok (Log.tombstone topic now key)
      else (Log.upsert topic now key value).mapError (.badValue number)

/-- Adds the records of lines, the first of which has a number, up to the first
faulty one. Blank lines are skipped, and each record gets the time at which it is added. Gives
the log and how many were added, or the fault. -/
def loadLines (topic : Topic) (clock : Nat → Nat) (log : Log) (count number : Nat) :
    List Bytes → Log × Except LoadFault Nat
  | [] => (log, .ok count)
  | line :: rest =>
    match Utf8.decode line with
    | .error _ => (log, .error .notUtf8)
    | .ok line =>
      if (Text.trim line).isEmpty then loadLines topic clock log count (number + 1) rest
      else
        match toRecord topic (clock count) number line with
        | .error fault => (log, .error fault)
        | .ok record => loadLines topic clock (log.append record) (count + 1) (number + 1) rest

/-- Adds the records of a file. The clock gives the time when so many have been added. -/
def load (topic : Topic) (clock : Nat → Nat) (log : Log) (content : Bytes) :
    Log × Except LoadFault Nat :=
  loadLines topic clock log 0 1 (lines content)

end RecordsFile

end ShardedView
