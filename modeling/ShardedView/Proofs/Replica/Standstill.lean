import ShardedView.Proofs.Replica.Run

/-!
What comes of a replica that has stopped. Several operations enter a phase, and a step also takes
over members, an assignment and shards; but none of them wakes it up, and none moves anything in
it. Its members may still change, and a sweep still drops what has expired.
-/

namespace ShardedView

namespace Replica

variable {replica : Replica}

/-- Nothing is located or read, and the failure is not one that passes. -/
structure Refuses (replica : Replica) : Prop where
  locate : ∀ key, replica.locate key = .error .storeNotRunning
  point : ∀ partition key, replica.readPoint partition key = .error .storeNotRunning
  range : ∀ partition lower upper,
    replica.readRange partition lower upper = .error .storeNotRunning
  all : replica.readAll = .error .storeNotRunning

theorem refuses_of_stopped (stopped : replica.phase = .stopped) : replica.Refuses := by
  have refused : replica.ensureRunning = .error .storeNotRunning := by
    rw [ensureRunning, stopped]
  have unreadable : ∀ partition, replica.readable partition = .error .storeNotRunning := by
    intro partition
    rw [readable, refused]
    rfl
  constructor
  · intro key
    rw [locate, refused]
    rfl
  · intro partition key
    rw [readPoint, unreadable]
    rfl
  · intro partition lower upper
    rw [readRange, unreadable]
    rfl
  · rw [readAll, refused]
    rfl

theorem enter_of_stopped (stopped : replica.phase = .stopped) (phase : Phase) :
    replica.enter phase = replica := by
  rw [enter, if_pos stopped]

end Replica

namespace Site

variable {site : Site}

/-- An event changes no more of a stopped replica than its members or, if it is a sweep, its
shards. -/
theorem replica_apply_of_stopped (stopped : site.replica.phase = .stopped) (event : Event) :
    (∃ view, (site.apply event).replica = { site.replica with view }) ∨
      ∃ now shards, event = .sweep now ∧
        (site.apply event).replica = { site.replica with shards } := by
  have same : ∀ replica, replica = site.replica →
      ∃ view, replica = { site.replica with view } :=
    fun _ same => ⟨site.replica.view, same⟩
  cases event with
  | append record => exact .inl (same _ rfl)
  | members alive => exact .inl ⟨{ site.replica.view with alive }, rfl⟩
  | step => exact .inl (same _ (Replica.stepAmid_of_stopped stopped site.log _))
  | stepAmid readings => exact .inl (same _ (Replica.stepAmid_of_stopped stopped site.log _))
  | sweep now =>
    rw [apply]
    split
    · next swept count done => exact .inr ⟨now, swept.shards, rfl, Replica.eq_of_sweep done⟩
    · exact .inl (same _ rfl)
  | beginRebalance => exact .inl (same _ (Replica.enter_of_stopped stopped _))
  | finishRebalance => exact .inl (same _ (Replica.enter_of_stopped stopped _))
  | stop => exact .inl (same _ (by rw [apply, Replica.stop, ← stopped]))

theorem replica_run_of_stopped (stopped : site.replica.phase = .stopped) (events : List Event) :
    ∃ view shards, (site.run events).replica = { site.replica with view, shards } ∧
      ((∀ now, .sweep now ∉ events) → shards = site.replica.shards) := by
  refine run_induction (motive := fun later => ∃ view shards,
    later.replica = { site.replica with view, shards } ∧
      ((∀ now, .sweep now ∉ events) → shards = site.replica.shards))
    ⟨site.replica.view, site.replica.shards, rfl, fun _ => rfl⟩ ?_
  rintro later event among ⟨view, shards, same, kept⟩
  have still : later.replica.phase = .stopped := by rw [same, stopped]
  rcases replica_apply_of_stopped still event with ⟨next, moved⟩ | ⟨now, swept, rfl, moved⟩
  · exact ⟨next, shards, by rw [moved, same], kept⟩
  · exact ⟨view, swept, by rw [moved, same], fun calm => absurd among (calm now)⟩

/-- A replica that is stopped, in whatever state it is, stays stopped whatever follows. Nothing is
located or read there, and steps, rebalances, members and records leave its shards, its assignment
and the owners that it knows as they were; only a sweep still takes from the shards. -/
theorem stopped_for_good (site : Site) (events : List Event) :
    let later := (site.apply .stop).run events
    later.replica.phase = .stopped ∧ later.replica.Refuses ∧
      (∀ log, later.replica.step log = later.replica) ∧
      later.replica.assignment = site.replica.assignment ∧
      later.replica.owners = site.replica.owners ∧
      ((∀ now, .sweep now ∉ events) → later.replica.shards = site.replica.shards) := by
  intro later
  have still : (site.apply .stop).replica.phase = .stopped := rfl
  obtain ⟨view, shards, same, kept⟩ := replica_run_of_stopped still events
  have stopped : later.replica.phase = .stopped := by
    rw [same]
    rfl
  refine ⟨stopped, Replica.refuses_of_stopped stopped,
    fun log => Replica.stepAmid_of_stopped stopped log _, ?_, ?_, ?_⟩
  · rw [same]
    rfl
  · rw [same]
    rfl
  · intro calm
    rw [same]
    exact kept calm

/-- A replica that is stopped in the middle of a rebalance, which then ends; another member comes
meanwhile, and a record that the replica would have to take in. -/
theorem stopped_for_good_amid_rebalance :
    let topic : Topic := ⟨"t", .string, .string, .mutable, none, none⟩
    let before := (start topic ⟨2, 0, .murmur⟩ ⟨.fixed "a" ⟨.v4 0x7F000001, 80, 0⟩, []⟩ 2).run
      (handover ++ [.step, .beginRebalance])
    let events : List Event :=
      [.members [.fixed "b" ⟨.v4 0x7F000001, 81, 0⟩], .finishRebalance, .append ⟨[98], some [4], 2⟩,
        .beginRebalance, .step]
    let later := (before.apply .stop).run events
    before.replica.shards.size = 2 ∧ (∀ now, .sweep now ∉ events) ∧
      later.replica.desired.all.size = 0 ∧ later.replica.shards = before.replica.shards ∧
      later.replica.locate [98] = .error .storeNotRunning := by
  intro topic before events later
  have calm : ∀ now, .sweep now ∉ events := by simp [events]
  obtain ⟨-, refuses, -, -, -, kept⟩ := stopped_for_good before events
  exact ⟨by decide +kernel, calm, by decide +kernel, kept calm, refuses.locate [98]⟩

end Site

end ShardedView
