import ShardedView.Proofs.Failure
import ShardedView.Proofs.Partition.Owners
import ShardedView.Proofs.Query.Local
import ShardedView.Proofs.Replica.Retention

/-!
A replica that runs can read what it is said to hold. The owners of a partition are known by
their hosts, while shards are taken up by ids, and both change at a rebalance only; so it matters
that nobody else is listed under the host of the replica.
-/

namespace ShardedView

/-- Whoever is listed under the host of a member is that member. -/
def Member.HasOwnHost (self : Member) (listed : List Member) : Prop :=
  ∀ member ∈ listed, member.host = self.host → member.id = self.id

instance (self : Member) (listed : List Member) : Decidable (self.HasOwnHost listed) :=
  inferInstanceAs (Decidable (∀ member ∈ listed, _))

namespace Replica

variable {replica : Replica} {partition : Nat}

/-- There is a shard for each partition of the assignment, which may be read, and the assignment
has each partition whose owners are known to include the host. -/
structure IsReady (replica : Replica) : Prop where
  holds : ∀ partition,
    replica.shards.contains partition = replica.assignment.contains partition
  restored : ∀ partition shard, replica.shards.find? partition = some shard →
    shard.restored = true
  assigned : ∀ partition hosts, replica.owners.find? partition = some hosts →
    replica.host ∈ hosts → replica.assignment.contains partition = true

theorem create_isReady (topic : Topic) (layout : Layout) (view : MemberView) :
    (create topic layout view).IsReady where
  holds _ := rfl
  restored _ _ found := nomatch found
  assigned _ _ found := nomatch found

theorem IsReady.of_shards {other : Replica} (ready : replica.IsReady)
    (self : other.view.self = replica.view.self) (shards : other.shards = replica.shards)
    (assignment : other.assignment = replica.assignment) (owners : other.owners = replica.owners) :
    other.IsReady where
  holds := by rw [shards, assignment]; exact ready.holds
  restored := by rw [shards]; exact ready.restored
  assigned := by rw [owners, assignment, host, self]; exact ready.assigned

/-- For each partition a step finds the same members twice, and nobody else under the host of the
member that takes it. -/
def Readings.KeepApart (readings : Readings) (self : Member) : Prop :=
  ∀ partition, readings.assigning partition = readings.owning partition ∧
    self.HasOwnHost (readings.owning partition)

theorem Readings.keepApart_steady {self : Member} {alive : List Member}
    (apart : self.HasOwnHost alive) : (steady alive).KeepApart self :=
  fun _ => ⟨rfl, apart⟩

theorem contains_assignmentAmid {readings : Readings} (apart : readings.KeepApart replica.view.self)
    {hosts : List String} (found : (replica.ownersAmid readings).find? partition = some hosts)
    (own : replica.host ∈ hosts) :
    (replica.assignmentAmid readings).contains partition = true := by
  rw [ownersAmid, Layout.find?_ownerTableOf] at found
  split at found
  · next within =>
    obtain rfl := Option.some.inj found
    obtain ⟨owner, owns, same⟩ := List.mem_map.1 own
    obtain ⟨twice, alone⟩ := apart partition
    rw [assignmentAmid, Layout.contains_assignmentOf_iff, twice]
    exact ⟨within, owner, owns, alone owner (Layout.mem_of_mem_ownersIn owns) same⟩
  · contradiction

theorem IsReady.stepAmid (ready : replica.IsReady) {readings : Readings}
    (apart : readings.KeepApart replica.view.self) (log : Log) :
    (replica.stepAmid log readings).IsReady := by
  by_cases stopped : replica.phase = .stopped
  · rw [stepAmid_of_stopped stopped]
    exact ready
  · rw [stepAmid_eq stopped ready.holds]
    refine ⟨replica.contains_steppedShards log _, fun partition shard found => ?_, ?_⟩
    · obtain ⟨before, -, rfl⟩ := exists_of_steppedShards found
      rfl
    · exact fun partition hosts => contains_assignmentAmid apart

theorem IsReady.sweep (ready : replica.IsReady) {swept : Replica} {now count : Nat}
    (done : replica.sweep now = .ok (swept, count)) : swept.IsReady := by
  cases retains : replica.topic.retention with
  | none =>
    rw [sweep_of_lasting retains] at done
    cases done
    exact ready
  | some retention =>
    have same := eq_of_sweep done
    refine ⟨fun partition => ?_, fun partition left found => ?_, ?_⟩
    · rw [contains_sweep done retains, ready.holds, same]
    · obtain ⟨shard, held, removed⟩ := exists_of_sweep done retains found
      rw [(Shard.sweep_eq_ok_iff.1 removed).2.2]
      exact ready.restored partition shard held
    · rw [same]
      exact ready.assigned

theorem IsReady.exists_readable (ready : replica.IsReady) (running : replica.phase = .running)
    (assigned : replica.assignment.contains partition = true) :
    ∃ shard, replica.shards.find? partition = some shard ∧ shard.restored = true ∧
      replica.readable partition = .ok shard := by
  rw [← ready.holds, SortedMap.contains, Option.isSome_iff_exists] at assigned
  obtain ⟨shard, found⟩ := assigned
  have restored := ready.restored partition shard found
  refine ⟨shard, found, restored, ?_⟩
  simp only [readable, ensureRunning, running, found, restored, bind, Except.bind, if_true]
  rfl

/-- A partition may be read here, be it a single key or a range, so that no read of it fails
because the store is not available. -/
structure Reads (replica : Replica) (partition : Nat) : Prop where
  shard : ∃ shard, replica.shards.find? partition = some shard ∧ shard.restored = true
  point : ∀ key, ∃ value?, replica.readPoint partition key = .ok value?
  range : ∀ lower upper, ∃ values, replica.readRange partition lower upper = .ok values
  lookup : ∀ key, replica.lookup partition key ≠ .error .storeNotAvailable
  lookupRange : ∀ bounds, replica.lookupRange partition bounds ≠ .error .storeNotAvailable

theorem reads_of_readable {shard : Shard} (restored : shard.restored = true)
    (read : replica.readable partition = .ok shard) : replica.Reads partition where
  shard := ⟨shard, find?_of_readable read, restored⟩
  point key := ⟨_, by rw [readPoint, read]; rfl⟩
  range lower upper := ⟨_, by rw [readRange, read]; rfl⟩
  lookup key := by
    simp only [Replica.lookup, readPoint, read, bind, Except.bind, pure, Except.pure]
    intro failed
    split at failed
    · cases DataType.kind_of_decode failed
    · cases failed
  lookupRange bounds failed := by
    rw [lookupRange_eq read] at failed
    cases DataType.kind_of_mapM_decode failed

theorem IsReady.reads (ready : replica.IsReady) (running : replica.phase = .running)
    (assigned : replica.assignment.contains partition = true) : replica.Reads partition := by
  obtain ⟨shard, -, restored, read⟩ := ready.exists_readable running assigned
  exact reads_of_readable restored read

theorem IsReady.exists_readAll (ready : replica.IsReady) (running : replica.phase = .running) :
    ∃ values, replica.readAll = .ok values := by
  have each : ∀ partition ∈ replica.assignment.active.keys, ∃ shard,
      replica.readable partition = .ok shard := by
    intro partition active
    have assigned : replica.assignment.contains partition = true := by
      rw [Assignment.contains, SortedMap.contains_eq_true_iff.2 active, Bool.true_or]
    obtain ⟨shard, -, -, read⟩ := ready.exists_readable running assigned
    exact ⟨shard, read⟩
  obtain ⟨shards, done⟩ := Failure.exists_mapM each
  refine ⟨shards.flatMap fun shard => shard.contents.point.values, ?_⟩
  simp only [readAll, ensureRunning, running, bind, Except.bind, done]
  rfl

end Replica

namespace Site

/-- Nobody else is listed under the host of a member, also while it takes a step. -/
def Event.KeepsApart (self : Member) : Event → Prop
  | members alive => self.HasOwnHost alive
  | stepAmid readings => readings.KeepApart self
  | _ => True

/-- Each event leaves a replica ready, as long as nobody else is listed under its host. -/
theorem isReady_apply {site : Site} {event : Event} (ready : site.replica.IsReady)
    (apart : site.replica.view.self.HasOwnHost site.replica.view.alive)
    (keeps : event.KeepsApart site.replica.view.self) :
    (site.apply event).replica.IsReady := by
  rcases site.apply_cases event with ⟨record, -, same⟩ | ⟨alive, -, same⟩ | ⟨phase, same⟩ |
    ⟨readings, step, same⟩ | ⟨now, swept, count, -, done, same⟩ <;> rw [same]
  · exact ready
  · exact ready.of_shards rfl rfl rfl rfl
  · exact ready.of_shards rfl rfl rfl rfl
  · rcases step with ⟨-, rfl⟩ | rfl
    · exact ready.stepAmid (Replica.Readings.keepApart_steady apart) site.log
    · exact ready.stepAmid keeps site.log
  · exact ready.sweep done

theorem hasOwnHost_apply {site : Site} {event : Event}
    (apart : site.replica.view.self.HasOwnHost site.replica.view.alive)
    (keeps : event.KeepsApart site.replica.view.self) :
    (site.apply event).replica.view.self.HasOwnHost (site.apply event).replica.view.alive := by
  rcases site.apply_cases event with ⟨record, -, same⟩ | ⟨alive, rfl, same⟩ | ⟨phase, same⟩ |
    ⟨readings, -, same⟩ | ⟨now, swept, count, -, done, same⟩ <;> rw [same]
  · exact apart
  · exact keeps
  · exact apart
  · rw [Replica.view_stepAmid]
    exact apart
  · rw [Replica.eq_of_sweep done]
    exact apart

/-- A state that a replica comes to from its beginning, where nobody else is ever listed under
its host. -/
def ReachedApart (site : Site) : Prop :=
  ∃ topic layout view partitions events, view.self.HasOwnHost view.alive ∧
    (∀ event ∈ events, event.KeepsApart view.self) ∧
      site = (start topic layout view partitions).run events

theorem ReachedApart.isReady {site : Site} (reached : site.ReachedApart) :
    site.replica.IsReady := by
  obtain ⟨topic, layout, view, partitions, events, apart, keeps, rfl⟩ := reached
  refine (run_induction (motive := fun site => site.replica.view.self = view.self ∧
    site.replica.view.self.HasOwnHost site.replica.view.alive ∧ site.replica.IsReady)
      ⟨rfl, apart, Replica.create_isReady topic layout view⟩ ?_).2.2
  intro site event among ⟨self, apart, ready⟩
  have keeps := self ▸ keeps event among
  exact ⟨(sameSetting_apply site event).self.trans self, hasOwnHost_apply apart keeps,
    isReady_apply ready apart keeps⟩

/-- Whatever happened to a replica, as long as nobody else was listed under its host: while it
runs, there is a shard that may be read for each partition that it is known to own, reading a key
or a range that is found to be here does not fail for want of one, and all that it is active for
can be read. -/
theorem readable_while_running (site : Site) (reached : site.ReachedApart)
    (running : site.replica.phase = .running) :
    (∀ partition hosts, site.replica.owners.find? partition = some hosts →
      site.replica.host ∈ hosts → site.replica.Reads partition) ∧
    (∀ key location, site.replica.locateHere key = .ok (location, true) →
      site.replica.Reads location.partition) ∧
    ∃ values, site.replica.readAll = .ok values := by
  have ready := reached.isReady
  refine ⟨fun partition hosts found own => ?_, fun key location located => ?_,
    ready.exists_readAll running⟩
  · exact ready.reads running (ready.assigned partition hosts found own)
  · obtain ⟨same, found, here⟩ := Replica.eq_of_locateHere located
    rw [same]
    exact ready.reads running (ready.assigned _ _ found (of_decide_eq_true here.symm))

/-- A member that comes between the two looks of a step costs the replica a shard of which it is
known to be the owner. -/
example :
    let self := Member.fixed "a" ⟨.v4 0x7F000001, 80, 0⟩
    let other := Member.fixed "b" ⟨.v4 0x7F000001, 81, 0⟩
    let topic : Topic := ⟨"t", .string, .string, .mutable, none, none⟩
    let site := (start topic ⟨2, 0, .murmur⟩ ⟨self, [self]⟩ 2).apply
      (.stepAmid ⟨fun _ => [self, other], fun _ => [self]⟩)
    site.replica.owners.find? 1 = some [self.host] ∧
      site.replica.shards.contains 1 = false := by decide +kernel

/-- A replica that has given one of two partitions away, whose members have changed again since,
and that has dropped its expired keys. -/
def handedOver : Site :=
  let topic : Topic := ⟨"t", .string, .string, .mutable, none, some 10⟩
  (start topic ⟨2, 0, .murmur⟩ ⟨.fixed "a" ⟨.v4 0x7F000001, 80, 0⟩, []⟩ 2).run
    (handover ++ [.sweep 11])

theorem readable_while_running_handover :
    handedOver.replica.phase = .running ∧
      handedOver.replica.owners.find? 0 = some [handedOver.replica.host] ∧
      handedOver.replica.owners.find? 1 ≠ some [handedOver.replica.host] ∧
      handedOver.replica.Reads 0 ∧ ∃ values, handedOver.replica.readAll = .ok values := by
  have running : handedOver.replica.phase = .running := by decide +kernel
  have owner : handedOver.replica.owners.find? 0 = some [handedOver.replica.host] := by
    decide +kernel
  have keeps : ∀ event ∈ handover ++ [.sweep 11],
      event.KeepsApart (Member.fixed "a" ⟨.v4 0x7F000001, 80, 0⟩) := by
    simp only [handover, List.cons_append, List.nil_append, List.forall_mem_cons,
      List.not_mem_nil, Event.KeepsApart, true_and]
    exact ⟨by decide +kernel, by decide +kernel, by decide +kernel, fun _ absent => absent.elim⟩
  have reached : handedOver.ReachedApart := ⟨_, _, _, _, _, by decide, keeps, rfl⟩
  obtain ⟨reads, -, all⟩ := readable_while_running handedOver reached running
  exact ⟨running, owner, by decide +kernel, reads 0 _ owner (List.mem_singleton_self _), all⟩

end Site

end ShardedView
