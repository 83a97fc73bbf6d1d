import ShardedView.Proofs.Partition.Sets
import ShardedView.Proofs.Replica.Shard
import ShardedView.Replica.Step

/-!
Runs of a replica beside its log: what one step does to each shard, and what
every run preserves.

The shards of a replica are those of the assignment that it took over last, and
each follows its partition of the log. So a step, however often shards were dropped
and begun afresh before it, ends with the content of a single pass. That is so even if the
members change in the middle of a step; only the owners may not fit the assignment then.
-/

namespace ShardedView

/-- A replica and the log that it follows. -/
structure Site where
  log : Log
  replica : Replica

namespace Site

inductive Event
  | append (record : Record)
  | members (alive : List Member)
  | step
  /-- A step in the middle of which the members change. -/
  | stepAmid (readings : Replica.Readings)
  | sweep (now : Nat)
  | beginRebalance
  | finishRebalance
  | stop

def Event.record? : Event → Option Record
  | append record => some record
  | _ => none

/-- What an event leaves behind. A sweep that fails removes nothing. -/
def apply (site : Site) : Event → Site
  | .append record => { site with log := site.log.append record }
  | .members alive => { site with replica := site.replica.withMembers alive }
  | .step => { site with replica := site.replica.step site.log }
  | .stepAmid readings => { site with replica := site.replica.stepAmid site.log readings }
  | .sweep now =>
    match site.replica.sweep now with
    | .ok (replica, _) => { site with replica }
    | .error _ => site
  | .beginRebalance => { site with replica := site.replica.enter .rebalancing }
  | .finishRebalance => { site with replica := site.replica.enter .running }
  | .stop => { site with replica := site.replica.stop }

def run (site : Site) (events : List Event) : Site :=
  events.foldl apply site

def start (topic : Topic) (layout : Layout) (view : MemberView) (partitions : Nat) : Site :=
  ⟨.empty partitions layout.finder, .create topic layout view⟩

theorem run_append (site : Site) (first second : List Event) :
    site.run (first ++ second) = (site.run first).run second :=
  List.foldl_append

end Site

namespace Replica

/-- The shards are those of the assignment, and each may be read and follows its
partition. -/
structure Follows (replica : Replica) (log : Log) : Prop where
  holds : ∀ partition,
    replica.shards.contains partition = replica.assignment.contains partition
  restored : ∀ partition shard, replica.shards.find? partition = some shard →
    shard.restored = true
  shards : ∀ partition shard, replica.shards.find? partition = some shard →
    shard.Follows replica.topic (log.partition partition)

/-- The replica runs, holds what its members and its layout assign to it, and has
taken in the whole log. -/
structure IsCurrent (replica : Replica) (log : Log) : Prop where
  running : replica.phase = .running
  assignment : replica.assignment = replica.desired
  owners : replica.owners = replica.desiredOwners
  holds : ∀ partition, replica.shards.contains partition = replica.desired.contains partition
  shards : ∀ partition shard, replica.shards.find? partition = some shard →
    shard.IsCurrent replica.topic log partition

theorem find?_of_readable {replica : Replica} {partition : Nat} {shard : Shard}
    (read : replica.readable partition = .ok shard) :
    replica.shards.find? partition = some shard := by
  unfold readable at read
  cases running : replica.ensureRunning with
  | error failure => rw [running] at read; contradiction
  | ok =>
    rw [running] at read
    simp only [bind, Except.bind] at read
    split at read
    · next held found =>
      split at read
      · exact Except.ok.inj read ▸ found
      · contradiction
    · contradiction

theorem hasTaken_iff {replica : Replica} {assignment : Assignment} {owners : OwnerTable} :
    replica.hasTaken assignment owners = true ↔ replica.phase = .running ∧
      replica.assignment = assignment ∧ replica.owners = owners := by
  simp only [hasTaken, Bool.and_eq_true, decide_eq_true_eq]
  constructor
  · rintro ⟨⟨⟨running, active⟩, standby⟩, owners⟩
    exact ⟨running, Assignment.ext_keys active standby, SortedMap.ext owners⟩
  · rintro ⟨running, rfl, rfl⟩
    exact ⟨⟨⟨running, rfl⟩, rfl⟩, rfl⟩

theorem eq_of_isSettled {replica : Replica} (settled : replica.isSettled = true) :
    replica.phase = .running ∧ replica.assignment = replica.desired ∧
      replica.owners = replica.desiredOwners :=
  hasTaken_iff.1 settled

theorem enter_eq (replica : Replica) (phase : Phase) :
    replica.enter phase =
      { replica with phase := if replica.phase = .stopped then .stopped else phase } := by
  unfold enter
  split
  · next stopped => rw [← stopped]
  · rfl

/-- What a step changes: nothing once the replica has stopped, and otherwise the shards and
what it holds. -/
theorem stepAmid_cases (replica : Replica) (log : Log) (readings : Readings) :
    (replica.phase = .stopped ∧ replica.stepAmid log readings = replica) ∨
      (replica.phase ≠ .stopped ∧ ∃ shards, replica.stepAmid log readings =
        { replica with
          phase := .running, shards,
          assignment := replica.assignmentAmid readings
          owners := replica.ownersAmid readings }) := by
  unfold stepAmid rebalance
  split
  case isTrue stopped => exact .inl ⟨stopped, rfl⟩
  case isFalse unstopped =>
    refine .inr ⟨unstopped, ?_⟩
    split
    case isTrue taken =>
      obtain ⟨running, assigned, owned⟩ := hasTaken_iff.1 taken
      rw [← running, ← assigned, ← owned]
      exact ⟨_, rfl⟩
    case isFalse untaken =>
      simp only [enter_eq, unstopped, if_false]
      exact ⟨_, rfl⟩

theorem view_stepAmid (replica : Replica) (log : Log) (readings : Readings) :
    (replica.stepAmid log readings).view = replica.view := by
  rcases replica.stepAmid_cases log readings with ⟨-, same⟩ | ⟨-, shards, same⟩ <;> rw [same]

theorem stepAmid_of_stopped {replica : Replica} (stopped : replica.phase = .stopped) (log : Log)
    (readings : Readings) : replica.stepAmid log readings = replica := by
  rw [stepAmid, if_pos stopped]

/-- The shards behind a step that takes over an assignment: kept ones go on from where they are,
new ones begin afresh, and all reach the end of the log. -/
def steppedShards (replica : Replica) (log : Log) (assignment : Assignment) :
    SortedMap Nat Shard :=
  assignment.all.mapValues fun partition _ =>
    ((replica.shards.find? partition).getD .fresh).catchUp replica.topic log partition

theorem find?_steppedShards (replica : Replica) (log : Log) (assignment : Assignment)
    (partition : Nat) :
    (replica.steppedShards log assignment).find? partition =
      if assignment.contains partition then
        some (((replica.shards.find? partition).getD .fresh).catchUp replica.topic log partition)
      else none := by
  have wanted := Assignment.contains_all assignment partition
  rw [SortedMap.contains] at wanted
  rw [steppedShards, SortedMap.find?_mapValues, ← wanted]
  cases assignment.all.find? partition <;> rfl

theorem contains_steppedShards (replica : Replica) (log : Log) (assignment : Assignment)
    (partition : Nat) :
    (replica.steppedShards log assignment).contains partition = assignment.contains partition := by
  rw [SortedMap.contains, find?_steppedShards]
  cases assignment.contains partition <;> rfl

theorem exists_of_steppedShards {replica : Replica} {log : Log} {assignment : Assignment}
    {partition : Nat} {shard : Shard}
    (found : (replica.steppedShards log assignment).find? partition = some shard) :
    ∃ before, (before = .fresh ∨ replica.shards.find? partition = some before) ∧
      shard = before.catchUp replica.topic log partition := by
  rw [find?_steppedShards, Option.ite_none_right_eq_some, Option.some.injEq] at found
  obtain ⟨-, rfl⟩ := found
  refine ⟨_, ?_, rfl⟩
  cases replica.shards.find? partition with
  | none => exact .inl rfl
  | some before => exact .inr rfl

/-- All that a step does. Whether the replica had taken over the assignment makes no difference,
and that new shards catch up twice does not either. -/
theorem stepAmid_eq {replica : Replica} {log : Log} (unstopped : replica.phase ≠ .stopped)
    (holds : ∀ partition,
      replica.shards.contains partition = replica.assignment.contains partition)
    (readings : Readings) :
    replica.stepAmid log readings =
      { replica with
        phase := .running
        shards := replica.steppedShards log (replica.assignmentAmid readings)
        assignment := replica.assignmentAmid readings
        owners := replica.ownersAmid readings } := by
  rw [stepAmid, if_neg unstopped, rebalance]
  split
  case isTrue taken =>
    obtain ⟨running, assigned, owned⟩ := hasTaken_iff.1 taken
    have shards : (replica.catchUp log fun _ => true).shards =
        replica.steppedShards log (replica.assignmentAmid readings) := by
      apply SortedMap.ext_find?
      intro partition
      have held := holds partition
      rw [assigned, SortedMap.contains] at held
      rw [find?_steppedShards, ← held]
      simp only [catchUp, SortedMap.find?_mapValues, if_true]
      cases replica.shards.find? partition <;> rfl
    rw [← shards, ← running, ← assigned, ← owned]
    rfl
  case isFalse untaken =>
    simp only [enter_eq, unstopped, if_false, apply, catchUp]
    rw [mk.injEq]
    refine ⟨rfl, rfl, rfl, rfl, ?_, rfl, rfl⟩
    apply SortedMap.ext_find?
    intro partition
    simp only [steppedShards, SortedMap.find?_mapValues, Option.map_map]
    congr 1
    funext held
    simp only [Function.comp_apply, if_true]
    split
    · exact Shard.catchUp_catchUp ..
    · rfl

theorem step_eq {replica : Replica} {log : Log} (unstopped : replica.phase ≠ .stopped)
    (holds : ∀ partition,
      replica.shards.contains partition = replica.assignment.contains partition) :
    replica.step log =
      { replica with
        phase := .running
        shards := replica.steppedShards log replica.desired
        assignment := replica.desired
        owners := replica.desiredOwners } :=
  stepAmid_eq unstopped holds _

theorem Follows.isCurrent_steppedShards {replica : Replica} {log : Log}
    (follows : replica.Follows log) {assignment : Assignment} {partition : Nat} {shard : Shard}
    (found : (replica.steppedShards log assignment).find? partition = some shard) :
    shard.IsCurrent replica.topic log partition := by
  obtain ⟨before, rfl | held, rfl⟩ := exists_of_steppedShards found
  · exact (Shard.fresh_follows ..).catchUp
  · exact (follows.shards partition before held).catchUp

/-- However the members change in the middle of a step, the shards are those of the assignment
behind it and follow the log. -/
theorem Follows.stepAmid {replica : Replica} {log : Log} (follows : replica.Follows log)
    (readings : Readings) : (replica.stepAmid log readings).Follows log := by
  by_cases stopped : replica.phase = .stopped
  · rwa [stepAmid_of_stopped stopped]
  rw [stepAmid_eq stopped follows.holds]
  exact ⟨replica.contains_steppedShards log _,
    fun partition shard found => (follows.isCurrent_steppedShards found).restored,
    fun partition shard found => (follows.isCurrent_steppedShards found).follows⟩

theorem Follows.step {replica : Replica} {log : Log} (follows : replica.Follows log)
    (unstopped : replica.phase ≠ .stopped) : (replica.step log).IsCurrent log := by
  rw [step_eq unstopped follows.holds]
  exact ⟨rfl, rfl, rfl, replica.contains_steppedShards log _,
    fun partition shard => follows.isCurrent_steppedShards⟩

theorem IsCurrent.follows {replica : Replica} {log : Log} (current : replica.IsCurrent log) :
    replica.Follows log where
  holds partition := by rw [current.assignment, current.holds]
  restored partition shard found := (current.shards partition shard found).restored
  shards partition shard found := (current.shards partition shard found).follows

theorem IsCurrent.isSettled {replica : Replica} {log : Log} (current : replica.IsCurrent log) :
    replica.isSettled = true :=
  hasTaken_iff.2 ⟨current.running, current.assignment, current.owners⟩

theorem IsCurrent.exists_readable {replica : Replica} {log : Log} (current : replica.IsCurrent log)
    {partition : Nat} (held : replica.assignment.contains partition = true) :
    ∃ shard, replica.readable partition = .ok shard ∧
      shard.IsCurrent replica.topic log partition := by
  rw [current.assignment, ← current.holds, SortedMap.contains, Option.isSome_iff_exists] at held
  obtain ⟨shard, found⟩ := held
  have known := current.shards partition shard found
  refine ⟨shard, ?_, known⟩
  rw [readable, ensureRunning, current.running]
  simp only [bind, Except.bind, found, known.restored, if_true]
  rfl

theorem Follows.append {replica : Replica} {log : Log} (follows : replica.Follows log)
    (record : Record) : replica.Follows (log.append record) where
  holds := follows.holds
  restored := follows.restored
  shards partition shard found := by
    rw [Log.partition_append]
    exact (follows.shards partition shard found).append _

theorem Follows.of_shards {replica other : Replica} {log : Log} (follows : replica.Follows log)
    (topic : other.topic = replica.topic) (shards : other.shards = replica.shards)
    (assignment : other.assignment = replica.assignment) : other.Follows log where
  holds := by rw [shards, assignment]; exact follows.holds
  restored := by rw [shards]; exact follows.restored
  shards := by rw [shards, topic]; exact follows.shards

theorem create_follows (topic : Topic) (layout : Layout) (view : MemberView) (log : Log) :
    (create topic layout view).Follows log where
  holds _ := rfl
  restored _ _ found := nomatch found
  shards _ _ found := nomatch found

theorem eq_of_sweep {replica swept : Replica} {now count : Nat}
    (done : replica.sweep now = .ok (swept, count)) :
    swept = { replica with shards := swept.shards } := by
  unfold sweep at done
  split at done
  · cases done
    rfl
  · simp only [bind, Except.bind, pure, Except.pure] at done
    split at done
    · contradiction
    · cases done
      rfl

theorem sweep_of_lasting {replica : Replica} (lasting : replica.topic.retention = none)
    (now : Nat) : replica.sweep now = .ok (replica, 0) := by
  rw [sweep, lasting]

end Replica

namespace Site

/-- An event appends to the log, changes the members or the phase, or is a step or a sweep. -/
theorem apply_cases (site : Site) (event : Event) :
    (∃ record, event = .append record ∧
        site.apply event = { site with log := site.log.append record }) ∨
      (∃ alive, event = .members alive ∧
        site.apply event = { site with replica := site.replica.withMembers alive }) ∨
      (∃ phase, site.apply event = { site with replica := { site.replica with phase } }) ∨
      (∃ readings, (event = .step ∧ readings = .steady site.replica.view.alive ∨
          event = .stepAmid readings) ∧
        site.apply event = { site with replica := site.replica.stepAmid site.log readings }) ∨
      ∃ now swept count, event = .sweep now ∧ site.replica.sweep now = .ok (swept, count) ∧
        site.apply event = { site with replica := swept } := by
  cases event with
  | append record => exact .inl ⟨record, rfl, rfl⟩
  | members alive => exact .inr (.inl ⟨alive, rfl, rfl⟩)
  | step => exact .inr (.inr (.inr (.inl ⟨_, .inl ⟨rfl, rfl⟩, rfl⟩)))
  | stepAmid readings => exact .inr (.inr (.inr (.inl ⟨readings, .inr rfl, rfl⟩)))
  | sweep now =>
    cases done : site.replica.sweep now with
    | ok result => exact .inr (.inr (.inr (.inr ⟨now, _, _, rfl, done, by rw [apply, done]⟩)))
    | error failure => exact .inr (.inr (.inl ⟨site.replica.phase, by rw [apply, done]⟩))
  | beginRebalance => exact .inr (.inr (.inl ⟨_, by rw [apply, Replica.enter_eq]⟩))
  | finishRebalance => exact .inr (.inr (.inl ⟨_, by rw [apply, Replica.enter_eq]⟩))
  | stop => exact .inr (.inr (.inl ⟨.stopped, rfl⟩))

/-- What each event preserves holds after every run. -/
theorem run_induction {motive : Site → Prop} {site : Site} {events : List Event}
    (initial : motive site)
    (preserved : ∀ site event, event ∈ events → motive site → motive (site.apply event)) :
    motive (site.run events) := by
  induction events generalizing site with
  | nil => exact initial
  | cons event rest ih =>
    exact ih (preserved site event (.head _) initial) fun site event later =>
      preserved site event (.tail _ later)

structure SameSetting (site other : Site) : Prop where
  topic : other.replica.topic = site.replica.topic
  layout : other.replica.layout = site.replica.layout
  self : other.replica.view.self = site.replica.view.self
  partitions : other.log.partitions = site.log.partitions
  finder : other.log.finder = site.log.finder

theorem sameSetting_apply (site : Site) (event : Event) : SameSetting site (site.apply event) := by
  rcases site.apply_cases event with ⟨record, -, same⟩ | ⟨alive, -, same⟩ | ⟨phase, same⟩ |
    ⟨readings, -, same⟩ | ⟨now, swept, count, -, done, same⟩ <;> rw [same]
  · exact ⟨rfl, rfl, rfl, rfl, rfl⟩
  · exact ⟨rfl, rfl, rfl, rfl, rfl⟩
  · exact ⟨rfl, rfl, rfl, rfl, rfl⟩
  · rcases site.replica.stepAmid_cases site.log readings with ⟨-, same⟩ | ⟨-, shards, same⟩ <;>
      rw [same] <;> exact ⟨rfl, rfl, rfl, rfl, rfl⟩
  · rw [Replica.eq_of_sweep done]
    exact ⟨rfl, rfl, rfl, rfl, rfl⟩

theorem sameSetting_run (site : Site) (events : List Event) :
    SameSetting site (site.run events) := by
  refine run_induction (motive := SameSetting site) ⟨rfl, rfl, rfl, rfl, rfl⟩ ?_
  intro other event _ same
  have next := sameSetting_apply other event
  exact ⟨next.topic.trans same.topic, next.layout.trans same.layout, next.self.trans same.self,
    next.partitions.trans same.partitions, next.finder.trans same.finder⟩

theorem follows_apply {site : Site} (event : Event)
    (lasting : site.replica.topic.retention = none) (follows : site.replica.Follows site.log) :
    (site.apply event).replica.Follows (site.apply event).log := by
  rcases site.apply_cases event with ⟨record, -, same⟩ | ⟨alive, -, same⟩ | ⟨phase, same⟩ |
    ⟨readings, -, same⟩ | ⟨now, swept, count, -, done, same⟩ <;> rw [same]
  · exact follows.append record
  · exact follows.of_shards rfl rfl rfl
  · exact follows.of_shards rfl rfl rfl
  · exact follows.stepAmid readings
  · rw [Replica.sweep_of_lasting lasting] at done
    cases done
    exact follows

/-- However members come and go, on a topic whose keys last the shards of a replica
follow the log. -/
theorem follows_run {site : Site} (lasting : site.replica.topic.retention = none)
    (follows : site.replica.Follows site.log) (events : List Event) :
    (site.run events).replica.Follows (site.run events).log := by
  refine (run_induction (motive := fun site => site.replica.topic.retention = none ∧
    site.replica.Follows site.log) ⟨lasting, follows⟩ ?_).2
  intro site event _ holds
  refine ⟨?_, follows_apply event holds.1 holds.2⟩
  rw [(sameSetting_apply site event).topic, holds.1]

theorem phase_apply {site : Site} {event : Event} (unstopped : site.replica.phase ≠ .stopped)
    (going : event ≠ .stop) : (site.apply event).replica.phase ≠ .stopped := by
  have stepped : ∀ readings,
      (site.replica.stepAmid site.log readings).phase ≠ .stopped := by
    intro readings
    rcases site.replica.stepAmid_cases site.log readings with ⟨-, same⟩ | ⟨-, shards, same⟩
    · rwa [same]
    · rw [same]
      nofun
  cases event with
  | append record => exact unstopped
  | members alive => exact unstopped
  | step => exact stepped _
  | stepAmid readings => exact stepped readings
  | sweep now =>
    simp only [apply]
    split
    · next swept count done =>
      rw [Replica.eq_of_sweep done]
      exact unstopped
    · exact unstopped
  | beginRebalance => simp [apply, Replica.enter_eq, unstopped]
  | finishRebalance => simp [apply, Replica.enter_eq, unstopped]
  | stop => exact absurd rfl going

theorem phase_run {site : Site} {events : List Event} (unstopped : site.replica.phase ≠ .stopped)
    (going : .stop ∉ events) : (site.run events).replica.phase ≠ .stopped := by
  refine run_induction (motive := fun site => site.replica.phase ≠ .stopped) unstopped ?_
  intro site event among unstopped
  exact phase_apply unstopped fun equal => going (equal ▸ among)

/-- The log grows by what is appended, and by nothing else. -/
theorem records_run (site : Site) (events : List Event) :
    (site.run events).log.records = site.log.records ++ events.filterMap Event.record? := by
  induction events generalizing site with
  | nil => exact (List.append_nil _).symm
  | cons event rest ih =>
    rw [run, List.foldl_cons, ← run, ih]
    cases event with
    | append record => exact List.append_assoc ..
    | sweep now =>
      simp only [apply]
      split <;> rfl
    | members alive => rfl
    | step => rfl
    | stepAmid readings => rfl
    | beginRebalance => rfl
    | finishRebalance => rfl
    | stop => rfl

theorem isCurrent_after_step (topic : Topic) (layout : Layout) (view : MemberView)
    (partitions : Nat) (events : List Event) (lasting : topic.retention = none)
    (going : .stop ∉ events) :
    let site := (start topic layout view partitions).run (events ++ [.step])
    site.replica.IsCurrent site.log := by
  let before := start topic layout view partitions
  have follows : (before.run events).replica.Follows (before.run events).log :=
    follows_run lasting (Replica.create_follows topic layout view _) events
  have unstopped : (before.run events).replica.phase ≠ .stopped := phase_run nofun going
  rw [run_append]
  exact follows.step unstopped

/-- After every step of a replica that was not stopped, its shards are those of the
assignment that its members give it, and each has the content that a single pass over
its partition gives: however often it was dropped and begun afresh, it skipped no
record and took in none twice. -/
theorem consumed_after_step (topic : Topic) (layout : Layout) (view : MemberView)
    (partitions : Nat) (events : List Event) (lasting : topic.retention = none)
    (going : .stop ∉ events) :
    let site := (start topic layout view partitions).run (events ++ [.step])
    site.log = ⟨partitions, layout.finder, events.filterMap Event.record?⟩ ∧
      (∀ partition, site.replica.shards.contains partition =
        (layout.assignment site.replica.view).contains partition) ∧
      ∀ partition shard, site.replica.shards.find? partition = some shard →
        shard.restored = true ∧
        shard.offset = site.log.endOffset partition ∧
        shard.contents = Contents.empty.processAll topic (site.log.partition partition) := by
  intro site
  have setting := sameSetting_run (start topic layout view partitions) (events ++ [.step])
  have current : site.replica.IsCurrent site.log :=
    isCurrent_after_step topic layout view partitions events lasting going
  refine ⟨?_, fun partition => ?_, fun partition shard found => ?_⟩
  · have records := records_run (start topic layout view partitions) (events ++ [.step])
    rw [List.filterMap_append] at records
    have records : site.log.records = events.filterMap Event.record? :=
      records.trans (List.append_nil _)
    rw [← records, ← show site.log.partitions = partitions from setting.partitions,
      ← show site.log.finder = layout.finder from setting.finder]
  · rw [current.holds, Replica.desired, show site.replica.layout = layout from setting.layout]
  · have shard := current.shards partition shard found
    rw [show site.replica.topic = topic from setting.topic] at shard
    exact ⟨shard.restored, shard.offset, shard.contents⟩

/-- Another member comes, takes over a partition, and leaves again. -/
def handover : List Event :=
  let left := Member.fixed "a" ⟨.v4 0x7F000001, 80, 0⟩
  let right := Member.fixed "b" ⟨.v4 0x7F000001, 81, 0⟩
  [.append ⟨[97], some [1], 0⟩, .append ⟨[98], some [2], 0⟩, .members [left], .step,
    .members [right, left], .step,
    .append ⟨[97], none, 1⟩, .append ⟨[98], some [3], 1⟩, .members [left]]

theorem consumed_after_handover :
    let topic : Topic := ⟨"t", .string, .string, .mutable, none, none⟩
    let before := start topic ⟨2, 0, .murmur⟩ ⟨.fixed "a" ⟨.v4 0x7F000001, 80, 0⟩, []⟩ 2
    let site := before.run (handover ++ [.step])
    (before.run (handover.take 4)).replica.shards.contains 1 = true ∧
      (before.run (handover.take 6)).replica.shards.contains 1 = false ∧
      site.replica.shards.contains 1 = true ∧
      ∀ partition shard, site.replica.shards.find? partition = some shard →
        shard.restored = true ∧
        shard.offset = site.log.endOffset partition ∧
        shard.contents = Contents.empty.processAll topic (site.log.partition partition) :=
  ⟨by decide +kernel, by decide +kernel, by decide +kernel,
    (consumed_after_step _ _ _ _ handover rfl (by simp [handover])).2.2⟩

def Reached (site : Site) : Prop :=
  ∃ topic layout view partitions events, site = (start topic layout view partitions).run events

/-- The shard of a partition may be read and has taken in the whole log. -/
def HasConsumed (site : Site) (partition : Nat) : Prop :=
  ∃ shard, site.replica.readable partition = .ok shard ∧
    shard.offset = site.log.endOffset partition

/-- A step lets all partitions of the assignment be read up to the end of the log. -/
theorem hasConsumed_after_step (topic : Topic) (layout : Layout) (view : MemberView)
    (partitions : Nat) (events : List Event) (lasting : topic.retention = none)
    (going : .stop ∉ events) {partition : Nat}
    (held : let site := (start topic layout view partitions).run (events ++ [.step])
      (layout.assignment site.replica.view).contains partition = true) :
    ((start topic layout view partitions).run (events ++ [.step])).HasConsumed partition := by
  have current := isCurrent_after_step topic layout view partitions events lasting going
  have setting := sameSetting_run (start topic layout view partitions) (events ++ [.step])
  generalize (start topic layout view partitions).run (events ++ [.step]) = site at *
  rw [← show site.replica.layout = layout from setting.layout] at held
  obtain ⟨shard, read, known⟩ := current.exists_readable (by rw [current.assignment]; exact held)
  exact ⟨shard, read, known.offset⟩

theorem Reached.follows {site : Site} (reached : site.Reached)
    (lasting : site.replica.topic.retention = none) : site.replica.Follows site.log := by
  obtain ⟨topic, layout, view, partitions, events, rfl⟩ := reached
  rw [(sameSetting_run _ events).topic] at lasting
  exact follows_run lasting (Replica.create_follows topic layout view _) events

def IsCaughtUp (site : Site) : Prop :=
  ∀ partition shard, site.replica.shards.find? partition = some shard →
    shard.offset = site.log.endOffset partition

theorem Reached.isCurrent_shard {site : Site} (reached : site.Reached)
    (lasting : site.replica.topic.retention = none) (caughtUp : site.IsCaughtUp) {partition : Nat}
    {shard : Shard} (found : site.replica.shards.find? partition = some shard) :
    shard.IsCurrent site.replica.topic site.log partition := by
  have follows := reached.follows lasting
  have offset := caughtUp partition shard found
  exact ⟨follows.restored partition shard found, offset,
    (follows.shards partition shard found).contents_of_offset offset⟩

theorem Reached.isCurrent {site : Site} (reached : site.Reached)
    (lasting : site.replica.topic.retention = none) (caughtUp : site.IsCaughtUp)
    (settled : site.replica.isSettled = true) : site.replica.IsCurrent site.log := by
  obtain ⟨running, assigned, owned⟩ := Replica.eq_of_isSettled settled
  refine ⟨running, assigned, owned, fun partition => ?_, fun partition shard found => ?_⟩
  · rw [(reached.follows lasting).holds, assigned]
  · exact reached.isCurrent_shard lasting caughtUp found

def NamesMembers (owners : OwnerTable) : Prop :=
  ∀ partition hosts, owners.find? partition = some hosts →
    ∀ host ∈ hosts, ∃ member : Member, member.host = host

theorem namesMembers_ownerTableOf (layout : Layout) (alive : Nat → List Member) :
    NamesMembers (layout.ownerTableOf alive) := by
  intro partition hosts found host member
  rw [Layout.ownerTableOf, SortedMap.find?_mapValues, Option.map_eq_some_iff] at found
  obtain ⟨-, -, rfl⟩ := found
  obtain ⟨owner, -, same⟩ := List.mem_map.1 member
  exact ⟨owner, same⟩

theorem namesMembers_apply {site : Site} (event : Event)
    (names : NamesMembers site.replica.owners) :
    NamesMembers (site.apply event).replica.owners := by
  rcases site.apply_cases event with ⟨record, -, same⟩ | ⟨alive, -, same⟩ | ⟨phase, same⟩ |
    ⟨readings, -, same⟩ | ⟨now, swept, count, -, done, same⟩ <;> rw [same]
  · exact names
  · exact names
  · exact names
  · rcases site.replica.stepAmid_cases site.log readings with ⟨-, same⟩ | ⟨-, shards, same⟩
    · rwa [same]
    · rw [same]
      exact namesMembers_ownerTableOf site.replica.layout readings.owning
  · rw [Replica.eq_of_sweep done]
    exact names

theorem Reached.namesMembers {site : Site} (reached : site.Reached) :
    NamesMembers site.replica.owners := by
  obtain ⟨topic, layout, view, partitions, events, rfl⟩ := reached
  refine run_induction (motive := fun site => NamesMembers site.replica.owners) ?_
    fun site event _ => namesMembers_apply event
  exact fun partition hosts found => nomatch found

end Site

end ShardedView
