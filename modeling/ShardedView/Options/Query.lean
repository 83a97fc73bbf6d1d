import ShardedView.Client.Endpoint
import ShardedView.Options.Value

/-!
The options of a query: who is asked, how, and for what.
-/

namespace ShardedView.Options

inductive Command
  | get (key : String)
  | getMany (keys : List String)
  | getAll
  | range (key lower upper : String)
  | holds (key : String)
  | partitions
  deriving DecidableEq, Repr

structure Query where
  endpoint : Endpoint
  /-- Whether each key is asked for at the host of its partition. -/
  isPartitioned : Bool
  keyType : DataType
  timeout : Nat
  command : Command
  deriving DecidableEq, Repr

namespace Command

def operands (count : Nat) (words : List String) : Except UsageFault (List String) := do
  let arguments ← (⟨[], fun _ => none⟩ : Grammar Empty).parse (some count) words
  if arguments.operands.length = count then return arguments.operands
  else throw .missingOption

def plain (command : Command) (words : List String) : Except UsageFault Command := do
  let _ ← operands 0 words
  return command

def ofKey (command : String → Command) (words : List String) : Except UsageFault Command := do
  match ← operands 1 words with
  | [key] => return command key
  | _ => throw .missingOption

def ofRange (words : List String) : Except UsageFault Command := do
  match ← operands 3 words with
  | [key, lower, upper] => return .range key lower upper
  | _ => throw .missingOption

def ofKeys (words : List String) : Except UsageFault Command := do
  return .getMany (← (⟨[], fun _ => none⟩ : Grammar Empty).parse none words).operands

def named? : String → Option (List String → Except UsageFault Command)
  | "get" => some (ofKey .get)
  | "get-many" => some ofKeys
  | "get-all" => some (plain .getAll)
  | "range" => some ofRange
  | "exists" => some (ofKey .holds)
  | "partitions" => some (plain .partitions)
  | _ => none

def help : List String → Except UsageFault Command
  | [] => .error .help
  | [name] => if name = "help" || (named? name).isSome then .error .help else .error .unknownCommand
  | _ => .error .unknownCommand

/-- How the words behind a command, or behind a question for help, are read. -/
def reader? (name : String) : Option (List String → Except UsageFault Command) :=
  if name = "help" then some help else named? name

end Command

namespace Query

def grammar : Grammar Command where
  options := [
    text "host",
    flag "direct",
    text "prefix",
    flag "partitioned",
    choice "key-type" DataType.ofName?,
    readable "timeout-ms" .single large?]
  command? := Command.reader?

def parse (words : List String) : Except UsageFault Query := do
  let arguments ← grammar.parse (some 0) words
  let some command := arguments.command | throw .missingCommand
  let host ← arguments.required "host"
  let lead := (arguments.value? "prefix").getD Endpoint.defaultLead
  return {
    endpoint := ⟨host, if arguments.has "direct" then none else some lead⟩
    isPartitioned := arguments.has "partitioned"
    keyType := (arguments.read? "key-type" DataType.ofName?).getD .string
    timeout := (arguments.read? "timeout-ms" large?).getD 500
    command }

end Query

end ShardedView.Options
