import ShardedView.Proofs.Partition.Owners
import ShardedView.Proofs.Query.Remote

/-!
Replicas that agree on who owns which partition: whatever each of them has read so far, they
locate a key at the same hosts.
-/

namespace ShardedView

namespace Cluster

/-- Replicas that place keys alike, list the same members, all of them from among themselves, and
are reached under their hosts. No two of them share a host then, as a request to it reaches one
server only. -/
structure IsClosed (cluster : Cluster) (replicas : List Replica) : Prop where
  ids : ∀ left ∈ replicas, ∀ right ∈ replicas, left.view.self.id = right.view.self.id → left = right
  layouts : ∀ left ∈ replicas, ∀ right ∈ replicas, left.layout = right.layout
  views : ∀ left ∈ replicas, ∀ right ∈ replicas, ∀ member ∈ left.view.alive,
    ∃ twin ∈ right.view.alive, twin.id = member.id
  members : ∀ replica ∈ replicas, ∀ member ∈ replica.view.alive,
    ∃ owner ∈ replicas, owner.view.self.id = member.id ∧ owner.host = member.host
  delivers : ∀ replica ∈ replicas, cluster.Delivers replica

/-- All of them run, and know the owners that follow from their members. -/
structure Agrees (cluster : Cluster) (replicas : List Replica) : Prop
    extends cluster.IsClosed replicas where
  running : ∀ replica ∈ replicas, replica.phase = .running
  owners : ∀ replica ∈ replicas, replica.owners = replica.desiredOwners

variable {cluster : Cluster} {replicas : List Replica} {replica left right : Replica}

namespace IsClosed

theorem eq_of_host (closed : cluster.IsClosed replicas) (leftMember : left ∈ replicas)
    (rightMember : right ∈ replicas) (same : left.host = right.host) : left = right := by
  obtain ⟨leftUrl, leftName, leftKnown, leftFound, -⟩ := closed.delivers left leftMember
  obtain ⟨rightUrl, rightName, rightKnown, rightFound, -⟩ := closed.delivers right rightMember
  rw [same, rightKnown] at leftKnown
  obtain rfl := Except.ok.inj leftKnown
  rw [leftFound] at rightFound
  cases rightFound
  rfl

theorem sameMembers (closed : cluster.IsClosed replicas) (leftMember : left ∈ replicas)
    (rightMember : right ∈ replicas) :
    Layout.SameMembers left.view.alive right.view.alive where
  leftIn := closed.views left leftMember right rightMember
  rightIn := closed.views right rightMember left leftMember
  hosts := by
    intro member listed twin among same
    obtain ⟨owner, ownerMember, ownerId, ownerHost⟩ := closed.members left leftMember member listed
    obtain ⟨other, otherMember, otherId, otherHost⟩ := closed.members right rightMember twin among
    obtain rfl := closed.ids other otherMember owner ownerMember
      (otherId.trans (same.trans ownerId.symm))
    exact otherHost.symm.trans ownerHost

theorem hasOwners (closed : cluster.IsClosed replicas) (leftMember : left ∈ replicas)
    (rightMember : right ∈ replicas) (owned : left.layout.HasOwners left.view) :
    right.layout.HasOwners right.view := by
  obtain ⟨first, rest, alive⟩ := List.exists_cons_of_ne_nil owned.listed
  obtain ⟨twin, there, -⟩ :=
    closed.views left leftMember right rightMember first (alive ▸ .head _)
  refine ⟨?_, List.ne_nil_of_mem there⟩
  rw [closed.layouts right rightMember left leftMember]
  exact owned.copied

end IsClosed

namespace Agrees

theorem owners_eq (agrees : cluster.Agrees replicas) (leftMember : left ∈ replicas)
    (rightMember : right ∈ replicas) : left.owners = right.owners := by
  rw [agrees.owners left leftMember, agrees.owners right rightMember, Replica.desiredOwners,
    Replica.desiredOwners, agrees.layouts left leftMember right rightMember,
    (agrees.sameMembers leftMember rightMember).ownerTable_eq]

theorem locate_eq (agrees : cluster.Agrees replicas) (leftMember : left ∈ replicas)
    (rightMember : right ∈ replicas) (key : Bytes) : left.locate key = right.locate key := by
  have place : left.place key = right.place key := by
    rw [Replica.place, Replica.place, agrees.layouts left leftMember right rightMember]
  rw [Replica.locate, Replica.locate, Replica.ensureRunning, Replica.ensureRunning,
    agrees.running left leftMember, agrees.running right rightMember,
    agrees.owners_eq leftMember rightMember, place]

/-- If one replica knows an owner for some key, there are partitions, and everyone knows
owners. -/
theorem hasOwners_of_found (agrees : cluster.Agrees replicas) (member : replica ∈ replicas)
    {key : Bytes} {active : String} {standbys : List String}
    (found : replica.owners.find? (replica.place key) = some (active :: standbys)) :
    ∀ told ∈ replicas, told.layout.HasOwners told.view ∧ 0 < told.layout.partitions := by
  rw [agrees.owners replica member, Replica.desiredOwners, Layout.find?_ownerTable] at found
  split at found
  · next within =>
    obtain ⟨owner, owns, -⟩ := List.mem_map.1 (Option.some.inj found ▸ List.mem_cons_self)
    have owned : replica.layout.HasOwners replica.view :=
      ⟨Layout.copies_of_owners owns, List.ne_nil_of_mem (Layout.mem_of_mem_owners owns)⟩
    intro told among
    refine ⟨agrees.hasOwners member among owned, ?_⟩
    rw [agrees.layouts told among replica member]
    exact Nat.zero_lt_of_lt within
  · cases found

end Agrees

end Cluster

end ShardedView
