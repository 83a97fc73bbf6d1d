import ShardedView.Member
import ShardedView.Partition.Finder
import ShardedView.SortedMap

/-!
Which members hold which partitions.

The members stand in a ring in the order of their ids. A partition belongs to the
member at its own number in the ring, and to the next ones as standbys.
-/

namespace ShardedView

abbrev PartitionSet := SortedMap Nat Unit

namespace PartitionSet

def ofList (partitions : List Nat) : PartitionSet :=
  SortedMap.ofList (partitions.map fun partition => (partition, ()))

def below (bound : Nat) (keep : Nat → Bool) : PartitionSet where
  entries := ((List.range bound).filter keep).map fun partition => (partition, ())
  sorted := List.pairwise_map.2 (List.pairwise_lt_range.filter keep)

def union (left right : PartitionSet) : PartitionSet :=
  right.entries.foldl (fun set entry => set.insert entry.1 ()) left

end PartitionSet

/-- The partitions that a replica holds, as their active member or as a standby. -/
structure Assignment where
  active : PartitionSet
  standby : PartitionSet

namespace Assignment

def none : Assignment := ⟨.empty, .empty⟩

def all (assignment : Assignment) : PartitionSet :=
  assignment.active.union assignment.standby

def contains (assignment : Assignment) (partition : Nat) : Bool :=
  assignment.active.contains partition || assignment.standby.contains partition

end Assignment

/-- The hosts of each partition, the active one first. -/
abbrev OwnerTable := SortedMap Nat (List String)

/-- How many partitions there are, how many standbys each has if there are members enough,
and which one a key belongs to. -/
structure Layout where
  partitions : Nat
  standbys : UInt64
  finder : Finder

namespace Layout

/-- The members in the order of their ids; of several with one id the first
counts. -/
def ring (members : List Member) : SortedMap String Member :=
  members.foldr (fun member ring => ring.insert member.id member) .empty

/-- How many members hold a partition if there are members enough. The number is a machine
word: one more than the greatest one is none. -/
def copies (layout : Layout) : UInt64 :=
  1 + layout.standbys

/-- The members of a ring that hold a partition, the active one first. -/
def ownersIn (layout : Layout) (ring : List Member) (partition : Nat) : List Member :=
  (List.range (min layout.copies.toNat ring.length)).filterMap fun distance =>
    ring[(partition + distance) % ring.length]?

/-- The members that hold a partition, the active one first. -/
def owners (layout : Layout) (view : MemberView) (partition : Nat) : List Member :=
  layout.ownersIn (ring view.alive).values partition

/-- The owners of each partition, by the members that are listed when it is its turn. -/
def ownerTableOf (layout : Layout) (alive : Nat → List Member) : OwnerTable :=
  (PartitionSet.below layout.partitions fun _ => true).mapValues fun partition _ =>
    (layout.ownersIn (ring (alive partition)).values partition).map Member.host

/-- What a member takes up, by the members that are listed when it is the turn of a
partition. -/
def assignmentOf (layout : Layout) (self : Member) (alive : Nat → List Member) : Assignment :=
  let place := fun partition =>
    (layout.ownersIn (ring (alive partition)).values partition).findIdx? fun member =>
      member.id = self.id
  { active := .below layout.partitions fun partition => place partition = some 0
    standby := .below layout.partitions fun partition => (place partition).any (0 < ·) }

def ownerTable (layout : Layout) (view : MemberView) : OwnerTable :=
  layout.ownerTableOf fun _ => view.alive

def assignment (layout : Layout) (view : MemberView) : Assignment :=
  layout.assignmentOf view.self fun _ => view.alive

end Layout

end ShardedView
