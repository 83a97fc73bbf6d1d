import ShardedView.Program.Query
import ShardedView.Program.Serve
import ShardedView.Query.Handler

/-!
The command line: `query` asks for values, and `serve` starts a replica that
answers requests.

The programs talk to other servers through whoever runs them: a URL is printed,
and the reply is read as a line with a status code and, behind a blank, the body.
A line without a status code stands for a server that cannot be reached. So are sockets:
an address to take or to send to is printed, and a line tells why that fails, if it does.
-/

namespace ShardedView.Main

open Http (Network Reply Traced)

abbrev Replies := List (String × Option Reply)

def readReply? (line : String) : Option Reply := do
  let chars := (Text.trim line).toList
  let code ← (Integer.readUnsigned UInt16.size (chars.takeWhile (· ≠ ' '))).toOption
  let body := String.ofList ((chars.dropWhile (· ≠ ' ')).drop 1)
  return ⟨UInt16.ofNat code, false, Utf8.encode body⟩

def known (replies : Replies) : Network := fun url =>
  ⟨((replies.find? (·.1 = url.text)).map (·.2)).join, []⟩

/-- Carries out an operation: as long as it sends requests without a known reply,
asks for the reply to the first of them and begins again. -/
partial def converse {α : Type} (operation : Network → Traced α) (replies : Replies) : IO α := do
  let outcome := operation (known replies)
  match outcome.sent.find? fun url => !replies.any (·.1 = url.text) with
  | none => return outcome.result
  | some url =>
    IO.println ("GET " ++ url.text)
    let reply := readReply? (← (← IO.getStdin).getLine)
    converse operation ((url.text, reply) :: replies)

def misused (fault : Options.UsageFault) : IO UInt32 := do
  IO.eprintln "usage: query --host HOST [OPTIONS] COMMAND, or serve --topic TOPIC [OPTIONS]"
  return if fault = .help then 0 else 2

/-- Tells why there is no result, from the outermost message to its cause. -/
def failed (messages : List String) : IO UInt32 := do
  IO.eprintln ("Error: " ++ messages.headD "")
  for cause in messages.tail do
    IO.eprintln ("Caused by: " ++ cause)
  return 1

def query (words : List String) : IO UInt32 := do
  match Options.Query.parse words with
  | .error fault => misused fault
  | .ok options =>
    match ← converse (fun network => (Program.runQuery network options).run) [] with
    | .error fault => failed [fault.message]
    | .ok value =>
      IO.println value.pretty
      return 0

def fileFault : IO.Error → FileFault
  | .noFileOrDirectory _ _ _ => .missing
  | .inappropriateType _ code _ =>
    if code = 20 then .notDirectory else .isDirectory
  | fault => .reported (toString fault)

def contentOf (path : String) : IO (Except FileFault Bytes) := do
  try return .ok (← IO.FS.readBinFile path).toList
  catch fault => return .error (fileFault fault)

/-- Why something cannot be done with a socket, in the words of whoever runs the program; a
blank line tells that it can. -/
def socketFault? (request : String) : IO (Option Program.SocketFault) := do
  IO.println request
  let answer := Text.trim (← (← IO.getStdin).getLine)
  return if answer.isEmpty then none else some ⟨answer⟩

/-- The surroundings of a replica that runs here: it may read the files that its options name,
take its own addresses and send messages to the seeds. -/
def surroundings (options : Options.Serve) : IO Program.Surroundings := do
  let paths := options.valueSchema.toList ++ options.records.toList
  let files ← paths.mapM fun path => do return (path, ← contentOf path)
  let owned := options.bind :: options.httpAddress.toOption.toList
  let taken ← owned.mapM fun own => do return (own, ← socketFault? ("BIND " ++ own.text))
  let sent ← options.seeds.mapM fun seed => do return (seed, ← socketFault? ("SEND " ++ seed.text))
  let started ← IO.monoMsNow
  return {
    now := ← IO.monoNanosNow
    clock := fun _ => started
    contentOf := fun path => ((files.find? (·.1 = path)).map (·.2)).getD (.error .missing)
    freshId := Bytes.toHex (← IO.getRandomBytes 16).toList
    bindFault? own := ((taken.find? (·.1 = own)).map (·.2)).join
    sendFault? _ seed := ((sent.find? (·.1 = seed)).map (·.2)).join }

/-- Answers requests, each a line with a path and a query, until the input ends. -/
partial def answer (replica : Replica) : IO UInt32 := do
  let line ← (← IO.getStdin).getLine
  if line.isEmpty then return 0
  let request := Request.ofTarget "GET" (Text.trim line).toList
  let reply ← converse (fun network => replica.reply network.sender request) []
  IO.println (toString reply.status ++ " " ++ Utf8.decodeLossy reply.body)
  answer replica

def serve (words : List String) : IO UInt32 := do
  match Options.Serve.parse words with
  | .error fault => misused fault
  | .ok options =>
    match Program.startServe (← surroundings options) options with
    | .error fault => failed fault.messages
    | .ok started => answer started.replica

end ShardedView.Main

def main : List String → IO UInt32
  | "query" :: words => ShardedView.Main.query words
  | "serve" :: words => ShardedView.Main.serve words
  | _ => ShardedView.Main.misused .missingCommand
