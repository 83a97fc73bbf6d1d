import ShardedView.Net.Address

/-!
Members of a cluster of replicas, and the view that one of them has of the rest.
-/

namespace ShardedView

inductive MemberState
  | alive
  | suspect
  | dead
  deriving DecidableEq, Repr

/-- A member as it is told to others. A greater incarnation is more recent. -/
structure Member where
  id : String
  gossip : Net.Address
  http : Net.Address
  state : MemberState
  incarnation : UInt64
  deriving DecidableEq, Repr

namespace Member

def fixed (id : String) (http : Net.Address) : Member :=
  ⟨id, http, http, .alive, 1⟩

/-- The host under which a member answers requests. -/
def host (member : Member) : String :=
  member.http.text

end Member

structure MemberView where
  self : Member
  alive : List Member
  deriving DecidableEq, Repr

def MemberView.ofPeers (self : Member) (peers : List Member) : MemberView :=
  ⟨self, self :: peers.filter fun peer => peer.id ≠ self.id⟩

end ShardedView
