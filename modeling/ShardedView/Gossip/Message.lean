import ShardedView.Member

/-!
What the members of a cluster tell each other about themselves and others.
-/

namespace ShardedView.Gossip

/-- A message between members. Incarnations tell which of two rumours about a
member is the more recent one. -/
inductive Message
  /-- Asks a member for what it knows. -/
  | ping (sender : String) (incarnation : UInt64)
  /-- Answers a ping with all members that the sender knows. -/
  | ack (sender : String) (incarnation : UInt64) (members : List Member)
  /-- Tells of a new member. -/
  | join (member : Member)
  /-- Tells that a member has not been heard of. -/
  | suspect (id : String) (incarnation : UInt64)
  /-- Tells that a member is well. -/
  | alive (id : String) (incarnation : UInt64)
  deriving DecidableEq, Repr

structure Letter where
  recipient : Net.Address
  message : Message
  deriving DecidableEq, Repr

end ShardedView.Gossip
