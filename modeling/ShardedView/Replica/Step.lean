import ShardedView.Replica.Basic

/-!
What a replica does from time to time: it follows the members, the log and the
clock.
-/

namespace ShardedView.Replica

def desired (replica : Replica) : Assignment :=
  replica.layout.assignment replica.view

def desiredOwners (replica : Replica) : OwnerTable :=
  replica.layout.ownerTable replica.view

def catchUp (replica : Replica) (log : Log) (select : Nat → Bool) : Replica :=
  { replica with
    shards := replica.shards.mapValues fun partition shard =>
      if select partition then shard.catchUp replica.topic log partition else shard }

/-- Whether the replica runs with an assignment and with owners already. -/
def hasTaken (replica : Replica) (assignment : Assignment) (owners : OwnerTable) : Bool :=
  replica.phase = .running &&
    replica.assignment.active.keys = assignment.active.keys &&
    replica.assignment.standby.keys = assignment.standby.keys &&
    replica.owners.entries = owners.entries

def isSettled (replica : Replica) : Bool :=
  replica.hasTaken replica.desired replica.desiredOwners

/-- Takes over what the replica should hold; new shards are brought to the end of
the log before they may be read. -/
def rebalance (replica : Replica) (log : Log) (assignment : Assignment) (owners : OwnerTable) :
    Replica :=
  if replica.hasTaken assignment owners then replica
  else
    let (taken, added) := (replica.enter .rebalancing).apply assignment owners
    (taken.catchUp log fun partition => added.contains partition).enter .running

/-- The members that a step finds each time it asks for them: for each partition, first for the
assignment and then for the owners. -/
structure Readings where
  assigning : Nat → List Member
  owning : Nat → List Member

def Readings.steady (alive : List Member) : Readings := ⟨fun _ => alive, fun _ => alive⟩

def assignmentAmid (replica : Replica) (readings : Readings) : Assignment :=
  replica.layout.assignmentOf replica.view.self readings.assigning

def ownersAmid (replica : Replica) (readings : Readings) : OwnerTable :=
  replica.layout.ownerTableOf readings.owning

/-- Follows the members, which may change meanwhile, and the log. A stopped replica does
nothing. -/
def stepAmid (replica : Replica) (log : Log) (readings : Readings) : Replica :=
  if replica.phase = .stopped then replica
  else
    (replica.rebalance log (replica.assignmentAmid readings) (replica.ownersAmid readings)).catchUp
      log fun _ => true

/-- A step during which the members stay as they are. -/
def step (replica : Replica) (log : Log) : Replica :=
  replica.stepAmid log (.steady replica.view.alive)

/-- Brings a replica to the point where it is running, unless it has stopped. One
that is running already is left as it is. -/
def start (replica : Replica) (log : Log) : Replica :=
  if replica.phase = .running then replica else replica.step log

/-- Drops the keys that have expired; also gives how many there were. -/
def sweep (replica : Replica) (now : Nat) : Except Failure (Replica × Nat) :=
  match replica.topic.retention with
  | none => .ok (replica, 0)
  | some retention => do
    let cutoff := expiryLimit retention now
    let expired := replica.shards.values.flatMap fun shard => shard.contents.expired cutoff
    let shards ← replica.shards.changeValues fun _ shard => do
      let contents ← shard.contents.removeAll replica.topic (shard.contents.expired cutoff)
      return { shard with contents }
    return ({ replica with shards }, expired.length)

end ShardedView.Replica
