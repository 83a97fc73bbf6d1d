import ShardedView.Gossip.Table
import ShardedView.Log.Loading
import ShardedView.Options.Serve
import ShardedView.Replica.Step

/-!
The start of a replica: its topic, its members and the records that are in its
log from the beginning.
-/

namespace ShardedView.Program

/-- Why an address cannot be taken, or a message not be sent, in the words of the host. -/
structure SocketFault where
  message : String
  deriving DecidableEq, Repr

/-- What a replica finds where it is started. -/
structure Surroundings where
  /-- In nanoseconds, from some time on. -/
  now : Nat
  /-- The time of the day in milliseconds, when so many records have been written. -/
  clock : Nat → Nat
  /-- The content of the file that a path leads to. -/
  contentOf : String → Except FileFault Bytes
  /-- An id that no other member has. -/
  freshId : String
  /-- Why an address cannot be taken, if it cannot. -/
  bindFault? : Net.Address → Option SocketFault
  /-- Why a message cannot be sent from one address to another, if it cannot. -/
  sendFault? : Net.Address → Net.Address → Option SocketFault

inductive ServeFault
  | start (fault : Options.StartFault)
  | socket (fault : SocketFault)
  | load (fault : LoadFault)

/-- The wording of a fault, from the outermost message to its cause. -/
def ServeFault.messages : ServeFault → List String
  | .start fault => fault.messages
  | .socket fault => [fault.message]
  | .load fault => fault.messages

def checkSocket (fault? : Option SocketFault) : Except ServeFault Unit :=
  match fault? with
  | some fault => .error (.socket fault)
  | none => .ok ()

/-- The members at the start: those that are listed, or else the replica alone, which
then takes its gossip address and tells the seeds that it has joined. -/
def membersAtStart (surroundings : Surroundings) (options : Options.Serve) :
    Except ServeFault (MemberView × List Gossip.Letter) :=
  if options.isStatic then do
    let (self, peers) ← options.members.mapError .start
    return (.ofPeers self peers, [])
  else do
    let http ← options.httpAddress.mapError .start
    checkSocket (surroundings.bindFault? options.bind)
    let self : Member := ⟨surroundings.freshId, options.bind, http, .alive, 1⟩
    let table := Gossip.Table.start self surroundings.now
    checkSocket (options.seeds.findSome? (surroundings.sendFault? options.bind))
    return (table.view, table.announce options.seeds)

def layoutOf (options : Options.Serve) : Layout :=
  ⟨options.partitions, options.standbys, .murmur⟩

def logAtStart (surroundings : Surroundings) (options : Options.Serve) (topic : Topic) :
    Except ServeFault Log :=
  let log := Log.empty options.partitions (layoutOf options).finder
  match options.records with
  | none => .ok log
  | some path =>
    match surroundings.contentOf path with
    | .error fault => .error (.load (.ofFile path fault))
    | .ok content =>
      let (log, result) := RecordsFile.load topic surroundings.clock log content
      match result with
      | .ok _ => .ok log
      | .error fault => .error (.load fault)

/-- A replica with its log, and the messages that it sends at its start. -/
structure Started where
  replica : Replica
  log : Log
  letters : List Gossip.Letter

def startServe (surroundings : Surroundings) (options : Options.Serve) :
    Except ServeFault Started := do
  let topic ← (options.toTopic surroundings.contentOf).mapError .start
  let (view, letters) ← membersAtStart surroundings options
  let log ← logAtStart surroundings options topic
  checkSocket (surroundings.bindFault? (← options.httpAddress.mapError .start))
  let replica := Replica.create topic (layoutOf options) view
  return { replica := replica.start log, log, letters }

end ShardedView.Program
