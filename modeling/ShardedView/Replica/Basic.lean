import ShardedView.Partition.Placement
import ShardedView.Replica.Shard

/-!
A replica: the partitions it holds, and what may be read from them when.
-/

namespace ShardedView

/-- Where a replica is in its life. Once stopped it stays stopped. -/
inductive Phase
  | created
  | rebalancing
  | running
  | stopped
  deriving DecidableEq, Repr

def Phase.label : Phase → String
  | .created => "Created"
  | .rebalancing => "Rebalancing"
  | .running => "Running"
  | .stopped => "NotRunning"

/-- A replica of a topic. -/
structure Replica where
  topic : Topic
  layout : Layout
  view : MemberView
  phase : Phase
  shards : SortedMap Nat Shard
  /-- The partitions that it took over last. -/
  assignment : Assignment
  /-- The owners as they were then. -/
  owners : OwnerTable

structure KeyLocation where
  partition : Nat
  active : String
  standbys : List String
  deriving DecidableEq, Repr

def KeyLocation.isOn (location : KeyLocation) (host : String) : Bool :=
  location.active = host || host ∈ location.standbys

namespace Replica

def create (topic : Topic) (layout : Layout) (view : MemberView) : Replica :=
  ⟨topic, layout, view, .created, .empty, .none, .empty⟩

def host (replica : Replica) : String :=
  replica.view.self.host

/-- Enters a phase, unless the replica has stopped. -/
def enter (replica : Replica) (phase : Phase) : Replica :=
  if replica.phase = .stopped then replica else { replica with phase }

def stop (replica : Replica) : Replica :=
  { replica with phase := .stopped }

def withMembers (replica : Replica) (members : List Member) : Replica :=
  { replica with view := { replica.view with alive := members } }

/-- Takes over an assignment: shards that are not part of it are dropped, missing
ones begin afresh. Also gives the partitions of the latter. -/
def apply (replica : Replica) (assignment : Assignment) (owners : OwnerTable) :
    Replica × List Nat :=
  let wanted := assignment.all
  let shards := wanted.mapValues fun partition _ =>
    (replica.shards.find? partition).getD .fresh
  ({ replica with shards, assignment, owners },
    wanted.keys.filter fun partition => !replica.shards.contains partition)

/-- Lets a shard be read although it may not have reached the end of the log. -/
def markRestored? (replica : Replica) (partition : Nat) : Option Replica := do
  let shard ← replica.shards.find? partition
  return { replica with
    shards := replica.shards.insert partition { shard with restored := true } }

def place (replica : Replica) (key : Bytes) : Nat :=
  replica.layout.finder.place key replica.layout.partitions

def ensureRunning (replica : Replica) : Except Failure Unit :=
  match replica.phase with
  | .running => .ok ()
  | .stopped => .error .storeNotRunning
  | .created | .rebalancing => .error .storeNotAvailable

def locate (replica : Replica) (key : Bytes) : Except Failure KeyLocation := do
  replica.ensureRunning
  match replica.owners.find? (replica.place key) with
  | some (active :: standbys) => return ⟨replica.place key, active, standbys⟩
  | _ => throw .storeNotAvailable

def readable (replica : Replica) (partition : Nat) : Except Failure Shard := do
  replica.ensureRunning
  match replica.shards.find? partition with
  | some shard => if shard.restored then return shard else throw .storeNotAvailable
  | none => throw .storeNotAvailable

def readPoint (replica : Replica) (partition : Nat) (key : Bytes) :
    Except Failure (Option Bytes) := do
  return (← replica.readable partition).contents.point.find? key

def readRange (replica : Replica) (partition : Nat) (lower upper : String) :
    Except Failure (List Bytes) := do
  return (← replica.readable partition).contents.range.range lower upper

/-- The values of all keys whose active member is the replica, by partition and
key. -/
def readAll (replica : Replica) : Except Failure (List Bytes) := do
  replica.ensureRunning
  let shards ← replica.assignment.active.keys.mapM replica.readable
  return shards.flatMap fun shard => shard.contents.point.values

def partitionMap (replica : Replica) : List (Nat × String) :=
  replica.owners.entries.filterMap fun (partition, hosts) =>
    hosts.head?.map fun host => (partition, host)

end Replica

end ShardedView
