import ShardedView.Proofs.Contents.Retention

/-!
Replicas of a topic whose keys expire. Each drops expired keys by sweeps of its own, so
that at one and the same place of a log two of them may hold different things; a sweep
of both at one time leaves them different only where `Topic.Settles` and
`Topic.SettlesAt` say so.
-/

namespace ShardedView

namespace Shard

/-- A shard that has taken in a front part of the records of its partition, where keys
were dropped that had expired by then. -/
structure Tracks (shard : Shard) (topic : Topic) (cutoff : Nat) (records : List Record) :
    Prop where
  offset : shard.offset ≤ records.length
  contents : shard.contents.Retains topic cutoff (records.take shard.offset)

def sweep (shard : Shard) (topic : Topic) (cutoff : Nat) : Except Failure Shard := do
  let contents ← shard.contents.removeAll topic (shard.contents.expired cutoff)
  return { shard with contents }

variable {shard left : Shard} {topic : Topic} {cutoff : Nat} {records : List Record}

theorem sweep_eq_ok_iff :
    shard.sweep topic cutoff = .ok left ↔
      shard.contents.removeAll topic (shard.contents.expired cutoff) = .ok left.contents ∧
        left.offset = shard.offset ∧ left.restored = shard.restored := by
  unfold sweep
  cases removed : shard.contents.removeAll topic (shard.contents.expired cutoff) with
  | error failure => exact ⟨nofun, fun same => nomatch same.1⟩
  | ok contents =>
    obtain ⟨own, offset, restored⟩ := left
    simp only [bind, Except.bind, pure, Except.pure, Except.ok.injEq, mk.injEq, eq_comm]

theorem fresh_tracks (topic : Topic) (cutoff : Nat) (records : List Record) :
    fresh.Tracks topic cutoff records :=
  ⟨Nat.zero_le _, Contents.empty_retains topic cutoff⟩

theorem Tracks.append (tracks : shard.Tracks topic cutoff records) (later : List Record) :
    shard.Tracks topic cutoff (records ++ later) where
  offset := Nat.le_trans tracks.offset (by simp)
  contents := by
    rw [List.take_append_of_le_length tracks.offset]
    exact tracks.contents

theorem Tracks.catchUp {log : Log} {partition : Nat}
    (tracks : shard.Tracks topic cutoff (log.partition partition))
    (retains : topic.retention.isSome = true) :
    (shard.catchUp topic log partition).Tracks topic cutoff (log.partition partition) := by
  have all : shard.offset + (log.readFrom partition shard.offset).length =
      (log.partition partition).length := by
    rw [Log.readFrom, List.length_drop]
    exact Nat.add_sub_cancel' tracks.offset
  refine ⟨Nat.le_of_eq all, ?_⟩
  have later := tracks.contents.processAll retains (log.readFrom partition shard.offset)
  rw [Log.readFrom, List.take_append_drop] at later
  rw [Shard.catchUp]
  simp only [all, List.take_length]
  exact later

/-- A sweep succeeds, and before the last one the shard tracks its partition. -/
theorem Tracks.sweep {earlier : Nat} (tracks : shard.Tracks topic cutoff records)
    (before : earlier ≤ cutoff) :
    ∃ left, shard.sweep topic earlier = .ok left ∧ left.Tracks topic cutoff records := by
  obtain ⟨contents, removed, retained⟩ := tracks.contents.sweep before
  exact ⟨{ shard with contents }, sweep_eq_ok_iff.2 ⟨removed, rfl, rfl⟩, tracks.offset, retained⟩

end Shard

namespace Replica

/-- The shards are those of the assignment, and each tracks its partition. -/
structure Tracks (replica : Replica) (cutoff : Nat) (log : Log) : Prop where
  holds : ∀ partition,
    replica.shards.contains partition = replica.assignment.contains partition
  shards : ∀ partition shard, replica.shards.find? partition = some shard →
    shard.Tracks replica.topic cutoff (log.partition partition)

variable {replica : Replica} {cutoff : Nat} {log : Log}

theorem create_tracks (topic : Topic) (layout : Layout) (view : MemberView) (cutoff : Nat)
    (log : Log) : (create topic layout view).Tracks cutoff log where
  holds _ := rfl
  shards _ _ found := nomatch found

theorem Tracks.of_shards {other : Replica} (tracks : replica.Tracks cutoff log)
    (topic : other.topic = replica.topic) (shards : other.shards = replica.shards)
    (assignment : other.assignment = replica.assignment) : other.Tracks cutoff log where
  holds := by rw [shards, assignment]; exact tracks.holds
  shards := by rw [shards, topic]; exact tracks.shards

theorem Tracks.append (tracks : replica.Tracks cutoff log) (record : Record) :
    replica.Tracks cutoff (log.append record) where
  holds := tracks.holds
  shards partition shard found := by
    rw [Log.partition_append]
    exact (tracks.shards partition shard found).append _

theorem Tracks.stepAmid (tracks : replica.Tracks cutoff log)
    (retains : replica.topic.retention.isSome = true) (readings : Readings) :
    (replica.stepAmid log readings).Tracks cutoff log := by
  by_cases stopped : replica.phase = .stopped
  · rwa [stepAmid_of_stopped stopped]
  rw [stepAmid_eq stopped tracks.holds]
  refine ⟨replica.contains_steppedShards log _, fun partition shard found => ?_⟩
  obtain ⟨before, rfl | held, rfl⟩ := exists_of_steppedShards found
  · exact (Shard.fresh_tracks ..).catchUp retains
  · exact (tracks.shards partition before held).catchUp retains

variable {swept : Replica} {now count retention : Nat}

theorem sweep_eq (retains : replica.topic.retention = some retention) :
    replica.sweep now =
      (replica.shards.changeValues fun _ shard =>
        shard.sweep replica.topic (expiryLimit retention now)).map fun shards =>
          ({ replica with shards },
            (replica.shards.values.flatMap fun shard =>
              shard.contents.expired (expiryLimit retention now)).length) := by
  unfold sweep
  rw [retains]
  show (replica.shards.changeValues fun _ shard =>
    shard.sweep replica.topic (expiryLimit retention now)).bind _ = _
  cases replica.shards.changeValues fun _ shard =>
    shard.sweep replica.topic (expiryLimit retention now) <;> rfl

theorem shards_of_sweep (done : replica.sweep now = .ok (swept, count))
    (retains : replica.topic.retention = some retention) :
    replica.shards.changeValues (fun _ shard =>
      shard.sweep replica.topic (expiryLimit retention now)) = .ok swept.shards := by
  rw [sweep_eq retains] at done
  cases changed : replica.shards.changeValues fun _ shard =>
      shard.sweep replica.topic (expiryLimit retention now) with
  | error failure =>
    rw [changed] at done
    contradiction
  | ok shards =>
    rw [changed] at done
    rw [← (Prod.mk.inj (Except.ok.inj done)).1]

theorem exists_sweep (retains : replica.topic.retention = some retention)
    (each : ∀ partition shard, replica.shards.find? partition = some shard →
      ∃ left, shard.sweep replica.topic (expiryLimit retention now) = .ok left) :
    ∃ swept count, replica.sweep now = .ok (swept, count) := by
  obtain ⟨shards, changed⟩ := SortedMap.exists_changeValues
    (fun _ shard => shard.sweep replica.topic (expiryLimit retention now)) replica.shards
    fun entry member => each entry.1 entry.2 (SortedMap.find?_eq_some_iff.2 member)
  exact ⟨_, _, by rw [sweep_eq retains, changed]; rfl⟩

theorem exists_of_sweep (done : replica.sweep now = .ok (swept, count))
    (retains : replica.topic.retention = some retention) {partition : Nat} {left : Shard}
    (found : swept.shards.find? partition = some left) :
    ∃ shard, replica.shards.find? partition = some shard ∧
      shard.sweep replica.topic (expiryLimit retention now) = .ok left := by
  have same := SortedMap.find?_changeValues (shards_of_sweep done retains) partition
  rw [found, Option.map_some, eq_comm, Option.map_eq_some_iff] at same
  exact same

theorem contains_sweep (done : replica.sweep now = .ok (swept, count))
    (retains : replica.topic.retention = some retention) (partition : Nat) :
    swept.shards.contains partition = replica.shards.contains partition := by
  have same := SortedMap.find?_changeValues (shards_of_sweep done retains) partition
  rw [SortedMap.contains, SortedMap.contains, ← Option.isSome_map, same, Option.isSome_map]

/-- A sweep succeeds, and before the last one the shards track their partitions. -/
theorem Tracks.sweep (tracks : replica.Tracks cutoff log)
    (retains : replica.topic.retention = some retention)
    (before : expiryLimit retention now ≤ cutoff) :
    ∃ swept count, replica.sweep now = .ok (swept, count) ∧ swept.Tracks cutoff log := by
  obtain ⟨swept, count, done⟩ := exists_sweep retains fun partition shard held => by
    obtain ⟨left, removed, -⟩ := (tracks.shards partition shard held).sweep before
    exact ⟨left, removed⟩
  refine ⟨swept, count, done, fun partition => ?_, fun partition left found => ?_⟩
  · rw [contains_sweep done retains, tracks.holds, eq_of_sweep done]
  · obtain ⟨shard, held, removed⟩ := exists_of_sweep done retains found
    obtain ⟨other, same, tracked⟩ := (tracks.shards partition shard held).sweep before
    obtain rfl := Except.ok.inj (same.symm.trans removed)
    rw [eq_of_sweep done]
    exact tracked

end Replica

namespace Site

/-- What holds of new shards, and of those that grow, catch up and are swept, holds of every shard
that a replica comes to hold. -/
theorem Reached.shards_induction {site : Site} (reached : site.Reached)
    {motive : Shard → List Record → Prop} (fresh : ∀ records, motive .fresh records)
    (append : ∀ shard records later, motive shard records → motive shard (records ++ later))
    (catchUp : ∀ shard log partition, motive shard (log.partition partition) →
      motive (shard.catchUp site.replica.topic log partition) (log.partition partition))
    (sweep : ∀ shard left records retention now, site.replica.topic.retention = some retention →
      shard.sweep site.replica.topic (expiryLimit retention now) = .ok left →
        motive shard records → motive left records)
    {partition : Nat} {shard : Shard} (found : site.replica.shards.find? partition = some shard) :
    motive shard (site.log.partition partition) := by
  obtain ⟨topic, layout, view, partitions, events, rfl⟩ := reached
  have same : ((start topic layout view partitions).run events).replica.topic = topic :=
    (sameSetting_run _ events).topic
  rw [same] at catchUp sweep
  have each : let site := (start topic layout view partitions).run events
      site.replica.topic = topic ∧
      (∀ partition, site.replica.shards.contains partition =
        site.replica.assignment.contains partition) ∧
      ∀ partition shard, site.replica.shards.find? partition = some shard →
        motive shard (site.log.partition partition) := by
    refine run_induction (motive := fun site => site.replica.topic = topic ∧
      (∀ partition, site.replica.shards.contains partition =
        site.replica.assignment.contains partition) ∧
      ∀ partition shard, site.replica.shards.find? partition = some shard →
        motive shard (site.log.partition partition)) ⟨rfl, fun _ => rfl, fun _ _ => nofun⟩ ?_
    rintro site event - ⟨rfl, holds, shards⟩
    refine ⟨(sameSetting_apply site event).topic, ?_⟩
    rcases site.apply_cases event with ⟨record, -, applied⟩ | ⟨alive, -, applied⟩ |
      ⟨phase, applied⟩ | ⟨readings, -, applied⟩ | ⟨now, swept, count, -, done, applied⟩ <;>
      rw [applied]
    · refine ⟨holds, fun partition shard found => ?_⟩
      rw [Log.partition_append]
      exact append _ _ _ (shards partition shard found)
    · exact ⟨holds, shards⟩
    · exact ⟨holds, shards⟩
    · by_cases stopped : site.replica.phase = .stopped
      · rw [Replica.stepAmid_of_stopped stopped]
        exact ⟨holds, shards⟩
      rw [Replica.stepAmid_eq stopped holds]
      refine ⟨site.replica.contains_steppedShards site.log _, fun partition shard found => ?_⟩
      obtain ⟨before, rfl | held, rfl⟩ := Replica.exists_of_steppedShards found
      · exact catchUp _ _ _ (fresh _)
      · exact catchUp _ _ _ (shards partition before held)
    · cases retains : site.replica.topic.retention with
      | none =>
        rw [Replica.sweep_of_lasting retains] at done
        cases done
        exact ⟨holds, shards⟩
      | some retention =>
        refine ⟨fun partition => ?_, fun partition left found => ?_⟩
        · rw [Replica.contains_sweep done retains, holds, Replica.eq_of_sweep done]
        · obtain ⟨shard, held, removed⟩ := Replica.exists_of_sweep done retains found
          exact sweep _ _ _ _ _ retains removed (shards partition shard held)
  exact each.2.2 partition shard found

/-- A state that a replica comes to, where no sweep is later than a time. -/
def ReachedBy (site : Site) (now : Nat) : Prop :=
  ∃ topic layout view partitions events,
    (∀ time, Event.sweep time ∈ events → time ≤ now) ∧
      site = (start topic layout view partitions).run events

theorem tracks_apply {site : Site} {event : Event} {retention cutoff : Nat}
    (retains : site.replica.topic.retention = some retention)
    (before : ∀ time, event = .sweep time → expiryLimit retention time ≤ cutoff)
    (tracks : site.replica.Tracks cutoff site.log) :
    (site.apply event).replica.Tracks cutoff (site.apply event).log := by
  rcases site.apply_cases event with ⟨record, -, same⟩ | ⟨alive, -, same⟩ | ⟨phase, same⟩ |
    ⟨readings, -, same⟩ | ⟨now, swept, count, rfl, done, same⟩ <;> rw [same]
  · exact tracks.append record
  · exact tracks.of_shards rfl rfl rfl
  · exact tracks.of_shards rfl rfl rfl
  · exact tracks.stepAmid (by rw [retains]; rfl) readings
  · obtain ⟨left, _, succeeds, kept⟩ := tracks.sweep retains (before now rfl)
    cases succeeds.symm.trans done
    exact kept

/-- However sweeps come between its steps, the shards of a replica track the log. -/
theorem tracks_run {site : Site} {events : List Event} {retention now : Nat}
    (retains : site.replica.topic.retention = some retention)
    (before : ∀ time, Event.sweep time ∈ events → time ≤ now)
    (tracks : site.replica.Tracks (expiryLimit retention now) site.log) :
    (site.run events).replica.Tracks (expiryLimit retention now) (site.run events).log := by
  refine (run_induction (motive := fun site => site.replica.topic.retention = some retention ∧
    site.replica.Tracks (expiryLimit retention now) site.log) ⟨retains, tracks⟩ ?_).2
  intro site event among ⟨retains, tracks⟩
  refine ⟨by rw [(sameSetting_apply site event).topic, retains], tracks_apply retains ?_ tracks⟩
  rintro time rfl
  exact expiryLimit_mono retention (before time among)

theorem ReachedBy.tracks {site : Site} {retention now : Nat} (reached : site.ReachedBy now)
    (retains : site.replica.topic.retention = some retention) :
    site.replica.Tracks (expiryLimit retention now) site.log := by
  obtain ⟨topic, layout, view, partitions, events, before, rfl⟩ := reached
  rw [(sameSetting_run _ events).topic] at retains
  exact tracks_run retains before (Replica.create_tracks topic layout view _ _)

/-- The shard of a partition behind a sweep, if the sweep succeeds. -/
def sweptShard? (site : Site) (now partition : Nat) : Option Shard := do
  let (swept, _) ← (site.replica.sweep now).toOption
  swept.shards.find? partition

theorem ReachedBy.exists_sweptShard? {site : Site} {retention now : Nat}
    (reached : site.ReachedBy now) (retains : site.replica.topic.retention = some retention)
    {partition : Nat} {shard : Shard}
    (held : site.replica.shards.find? partition = some shard) :
    ∃ left, site.sweptShard? now partition = some left ∧
      shard.sweep site.replica.topic (expiryLimit retention now) = .ok left := by
  obtain ⟨swept, count, done, -⟩ := (reached.tracks retains).sweep retains (Nat.le_refl _)
  have found : swept.shards.contains partition = true := by
    rw [Replica.contains_sweep done retains, SortedMap.contains, held]
    rfl
  obtain ⟨left, found⟩ := Option.isSome_iff_exists.1 found
  obtain ⟨other, same, removed⟩ := Replica.exists_of_sweep done retains found
  obtain rfl := Option.some.inj (held.symm.trans same)
  refine ⟨left, ?_, removed⟩
  rw [sweptShard?, done]
  exact found

/-- Two replicas of a topic whose keys expire, with shards of one partition that have
taken in the same records. No sweep was later than a time. -/
structure ConsumedAlike (retention now partition : Nat) (left right : Site)
    (first second : Shard) : Prop where
  leftReached : left.ReachedBy now
  rightReached : right.ReachedBy now
  topic : right.replica.topic = left.replica.topic
  retains : left.replica.topic.retention = some retention
  leftHeld : left.replica.shards.find? partition = some first
  rightHeld : right.replica.shards.find? partition = some second
  records : (right.log.partition partition).take second.offset =
    (left.log.partition partition).take first.offset

def lone : Member :=
  .fixed "m" ⟨.v4 0x7F000001, 80, 0⟩

/-- A replica that alone takes in a log of one partition, with sweeps between the early
records and the late ones. -/
def sweeping (topic : Topic) (early : List Record) (sweeps : List Nat) (late : List Record) :
    Site :=
  (start topic ⟨1, 0, .murmur⟩ ⟨lone, [lone]⟩ 1).run
    (early.map .append ++ [.step] ++ sweeps.map .sweep ++ (late.map .append ++ [.step]))

section Sweeping

variable {site : Site} {topic : Topic} {retention now : Nat} {records : List Record}
  {held : Bytes → List Upsert}

theorem ReachedBy.run (reached : site.ReachedBy now) {events : List Event}
    (before : ∀ time, Event.sweep time ∈ events → time ≤ now) :
    (site.run events).ReachedBy now := by
  obtain ⟨topic, layout, view, partitions, earlier, earlierBefore, rfl⟩ := reached
  refine ⟨topic, layout, view, partitions, earlier ++ events, fun time member => ?_,
    (run_append ..).symm⟩
  rcases List.mem_append.1 member with member | member
  · exact earlierBefore time member
  · exact before time member

theorem partition_single (finder : Finder) (records : List Record) :
    (Log.mk 1 finder records).partition 0 = records := by
  refine List.filter_eq_self.2 fun record _ => decide_eq_true ?_
  exact Nat.lt_one_iff.1 (finder.place_lt record.key Nat.one_pos)

theorem run_appends (site : Site) (records : List Record) :
    site.run (records.map .append) =
      ⟨{ site.log with records := site.log.records ++ records }, site.replica⟩ := by
  induction records generalizing site with
  | nil => rw [List.append_nil]; rfl
  | cons record rest ih =>
    rw [List.map_cons, run, List.foldl_cons, ← run, ih]
    simp [apply, Log.append]

/-- The replica has taken in a log of one partition, and holds values of each key. -/
structure HasTaken (site : Site) (topic : Topic) (now : Nat) (records : List Record)
    (held : Bytes → List Upsert) : Prop where
  reached : site.ReachedBy now
  serves : site.replica.topic = topic
  unstopped : site.replica.phase ≠ .stopped
  assigned : site.replica.desired.contains 0 = true
  log : site.log = ⟨1, .murmur, records⟩
  offset : ((site.replica.shards.find? 0).getD .fresh).offset = records.length
  contents : ((site.replica.shards.find? 0).getD .fresh).contents.Shows topic held

theorem HasTaken.step (taken : site.HasTaken topic now records held)
    (retains : topic.retention = some retention) (later : List Record) :
    (site.run (later.map .append ++ [.step])).HasTaken topic now (records ++ later)
        (fun key => topic.heldAfterAll key later (held key)) ∧
      (site.run (later.map .append ++ [.step])).replica.shards.contains 0 = true := by
  have stepped : site.run (later.map .append ++ [.step]) =
      ⟨⟨1, .murmur, records ++ later⟩,
        { site.replica with
          phase := .running
          shards := site.replica.steppedShards ⟨1, .murmur, records ++ later⟩ site.replica.desired
          assignment := site.replica.desired
          owners := site.replica.desiredOwners }⟩ := by
    have holds := (taken.reached.tracks (taken.serves ▸ retains)).holds
    rw [run_append, run_appends, taken.log]
    show Site.mk _ (site.replica.step _) = _
    rw [Replica.step_eq taken.unstopped holds]
  have found : (site.replica.steppedShards ⟨1, .murmur, records ++ later⟩
      site.replica.desired).find? 0 = some (((site.replica.shards.find? 0).getD .fresh).catchUp
        topic ⟨1, .murmur, records ++ later⟩ 0) := by
    rw [Replica.find?_steppedShards, if_pos taken.assigned, taken.serves]
  have read : (Log.mk 1 .murmur (records ++ later)).readFrom 0
      ((site.replica.shards.find? 0).getD .fresh).offset = later := by
    rw [Log.readFrom, partition_single, taken.offset, List.drop_left]
  have reached : (site.run (later.map .append ++ [.step])).ReachedBy now :=
    taken.reached.run fun time member => by simp at member
  rw [stepped] at reached ⊢
  have running : Phase.running ≠ .stopped := by decide
  refine ⟨⟨reached, taken.serves, running, taken.assigned, rfl, ?_, ?_⟩, ?_⟩
  · rw [found, Option.getD_some, Shard.catchUp, read, taken.offset, List.length_append]
  · rw [found, Option.getD_some, Shard.catchUp, read]
    exact taken.contents.processAll (by rw [retains]; rfl) later
  · rw [SortedMap.contains, found]
    rfl

theorem HasTaken.sweep (taken : site.HasTaken topic now records held)
    (retains : topic.retention = some retention) {time : Nat} (before : time ≤ now) :
    (site.apply (.sweep time)).HasTaken topic now records fun key =>
      Upsert.sweep (expiryLimit retention time) (held key) := by
  have siteRetains : site.replica.topic.retention = some retention := taken.serves ▸ retains
  obtain ⟨swept, count, done, -⟩ := (taken.reached.tracks siteRetains).sweep siteRetains
    (expiryLimit_mono retention before)
  have reached : (site.run [.sweep time]).ReachedBy now := by
    refine taken.reached.run fun other member => ?_
    rwa [Event.sweep.inj (List.mem_singleton.1 member)]
  obtain ⟨left, removed, shows⟩ := taken.contents.sweep (expiryLimit retention time)
  have shard : ((swept.shards.find? 0).getD .fresh).offset = records.length ∧
      ((swept.shards.find? 0).getD .fresh).contents = left := by
    have same := SortedMap.find?_changeValues (Replica.shards_of_sweep done siteRetains) 0
    cases held : site.replica.shards.find? 0 with
    | none =>
      rw [held, Option.map_none, Option.map_eq_none_iff] at same
      rw [held] at removed
      rw [same]
      exact ⟨taken.offset ▸ (by rw [held]), Except.ok.inj removed⟩
    | some shard =>
      rw [held, Option.map_some, Option.map_eq_some_iff] at same
      obtain ⟨other, found, shardDone⟩ := same
      obtain ⟨otherRemoved, offset, -⟩ := Shard.sweep_eq_ok_iff.1 shardDone.symm
      rw [held] at removed
      rw [found, Option.getD_some, offset, ← taken.offset, held]
      rw [taken.serves] at otherRemoved
      exact ⟨rfl, Except.ok.inj (otherRemoved.symm.trans removed)⟩
  have applied : site.apply (.sweep time) = { site with replica := swept } := by
    rw [apply, done]
  rw [run, List.foldl_cons, List.foldl_nil, applied] at reached
  rw [applied]
  rw [Replica.eq_of_sweep done] at reached ⊢
  exact ⟨reached, taken.serves, taken.unstopped, taken.assigned, taken.log, shard.1,
    shard.2 ▸ shows⟩

theorem HasTaken.sweeps (taken : site.HasTaken topic now records held)
    (retains : topic.retention = some retention) {sweeps : List Nat}
    (before : ∀ time ∈ sweeps, time ≤ now) :
    (site.run (sweeps.map .sweep)).HasTaken topic now records fun key =>
      sweeps.foldl (fun held time => Upsert.sweep (expiryLimit retention time) held)
        (held key) := by
  induction sweeps generalizing site held with
  | nil => exact taken
  | cons time rest ih =>
    exact ih (taken.sweep retains (before time (.head _))) fun time member =>
      before time (.tail _ member)

theorem topic_sweeping (topic : Topic) (early late : List Record) (sweeps : List Nat) :
    (sweeping topic early sweeps late).replica.topic = topic :=
  (sameSetting_run _ _).topic

theorem hasTaken_sweeping (retains : topic.retention = some retention) (early late : List Record)
    {sweeps : List Nat} (before : ∀ time ∈ sweeps, time ≤ now) :
    (sweeping topic early sweeps late).HasTaken topic now (early ++ late) (fun key =>
        topic.heldAfterAll key late
          (sweeps.foldl (fun held time => Upsert.sweep (expiryLimit retention time) held)
            (topic.heldAfterAll key early []))) ∧
      (sweeping topic early sweeps late).replica.shards.contains 0 = true := by
  have assigned : (Layout.assignment ⟨1, 0, .murmur⟩ ⟨lone, [lone]⟩).contains 0 = true := by
    decide +kernel
  have begun : (start topic ⟨1, 0, .murmur⟩ ⟨lone, [lone]⟩ 1).HasTaken topic now [] fun _ => [] :=
    ⟨⟨_, _, _, _, [], nofun, rfl⟩, rfl, nofun, assigned, rfl, rfl, Contents.empty_shows topic⟩
  have swept := (begun.step retains early).1.sweeps retains before
  rw [← run_append] at swept
  have taken := swept.step retains late
  rw [← run_append] at taken
  exact taken

theorem HasTaken.take_records {shard : Shard} (taken : site.HasTaken topic now records held)
    (found : site.replica.shards.find? 0 = some shard) :
    (site.log.partition 0).take shard.offset = records := by
  have offset := taken.offset
  rw [found, Option.getD_some] at offset
  rw [taken.log, partition_single, offset, List.take_length]

theorem exists_consumedAlike_sweeping (retains : topic.retention = some retention)
    (early late : List Record) {sweeps : List Nat} (before : ∀ time ∈ sweeps, time ≤ now) :
    ∃ first second, ConsumedAlike retention now 0 (sweeping topic early [] late)
        (sweeping topic early sweeps late) first second ∧
      ((sweeping topic early [] late).log.partition 0).take first.offset = early ++ late ∧
      first.contents.Shows topic (fun key =>
        topic.heldAfterAll key late (topic.heldAfterAll key early [])) ∧
      second.contents.Shows topic fun key =>
        topic.heldAfterAll key late
          (sweeps.foldl (fun held time => Upsert.sweep (expiryLimit retention time) held)
            (topic.heldAfterAll key early [])) := by
  obtain ⟨taken, found⟩ := @hasTaken_sweeping topic retention now retains early late [] nofun
  obtain ⟨sweptTaken, sweptFound⟩ := hasTaken_sweeping retains early late before
  obtain ⟨first, leftHeld⟩ := Option.isSome_iff_exists.1 found
  obtain ⟨second, rightHeld⟩ := Option.isSome_iff_exists.1 sweptFound
  have shows := taken.contents
  have sweptShows := sweptTaken.contents
  rw [leftHeld, Option.getD_some] at shows
  rw [rightHeld, Option.getD_some] at sweptShows
  have records := taken.take_records leftHeld
  exact ⟨first, second,
    ⟨taken.reached, sweptTaken.reached, sweptTaken.serves.trans taken.serves.symm,
      by rw [taken.serves, retains], leftHeld, rightHeld,
      (sweptTaken.take_records rightHeld).trans records.symm⟩, records, shows, sweptShows⟩

end Sweeping

end Site

end ShardedView
