import ShardedView.Proofs.Contents.Course
import ShardedView.Proofs.Contents.Locality

/-!
What a sweep takes away, told by what came to each shard before it: a course of records, the front
part of its partition, with sweeps between them at any times.

The time of a key is that of the last record that it took, which need not be the latest time, and on
an immutable topic it is the time of the first one since the key had no value.
-/

namespace ShardedView

namespace Topic

def heldAfterEvent (topic : Topic) (key : Bytes) (held : List Upsert) :
    Contents.Event → List Upsert
  | .record given => if key = given.key then topic.heldAfter given held else held
  | .sweep now =>
    match topic.retention with
    | none => held
    | some retention => Upsert.sweep (expiryLimit retention now) held

def heldThrough (topic : Topic) (key : Bytes) (events : List Contents.Event)
    (held : List Upsert) : List Upsert :=
  events.foldl (topic.heldAfterEvent key) held

/-- When a key took the value that it has behind some events, if it has one. -/
def lastInsert? (topic : Topic) (key : Bytes) (events : List Contents.Event) : Option Nat :=
  (topic.heldThrough key events []).getLast?.map Upsert.time

def Expires (topic : Topic) (events : List Contents.Event) (cutoff : Nat) (key : Bytes) : Prop :=
  ∃ time, topic.lastInsert? key events = some time ∧ time < cutoff

variable {topic : Topic} {key : Bytes} {events : List Contents.Event} {cutoff : Nat}

theorem expires_iff :
    topic.Expires events cutoff key ↔
      (topic.heldThrough key events []).getLast?.any (Upsert.isExpired cutoff) = true := by
  rw [Expires, lastInsert?]
  cases (topic.heldThrough key events []).getLast? <;> simp [Upsert.isExpired]

theorem heldThrough_of_absent
    (absent : ∀ record, Contents.Event.record record ∈ events → record.key ≠ key) :
    topic.heldThrough key events [] = [] := by
  induction events with
  | nil => rfl
  | cons event rest ih =>
    have first : topic.heldAfterEvent key [] event = [] := by
      cases event with
      | record given => exact if_neg (absent given (.head _)).symm
      | sweep now =>
        rw [heldAfterEvent]
        cases topic.retention <;> rfl
    rw [heldThrough, List.foldl_cons, first]
    exact ih fun record later => absent record (.tail _ later)

theorem exists_record_of_lastInsert? {time : Nat}
    (taken : topic.lastInsert? key events = some time) :
    ∃ record, Contents.Event.record record ∈ events ∧ record.key = key := by
  apply Classical.byContradiction
  intro none
  have nothing := topic.heldThrough_of_absent fun record came own => none ⟨record, came, own⟩
  rw [lastInsert?, nothing] at taken
  contradiction

end Topic

namespace Contents

variable {contents left : Contents} {topic : Topic} {held after : Bytes → List Upsert}
  {retention cutoff : Nat} {key : Bytes}

theorem nodup_expired (contents : Contents) (cutoff : Nat) : (contents.expired cutoff).Nodup :=
  SortedMap.nodup_keys _

/-! ### A course and what it shows -/

theorem Shows.apply (shows : contents.Shows topic held)
    (retains : topic.retention = some retention) (event : Event) :
    (contents.apply topic event).Shows topic fun key =>
      topic.heldAfterEvent key (held key) event := by
  cases event with
  | record given => exact shows.process (by rw [retains]; rfl) given
  | sweep now =>
    obtain ⟨left, swept, shown⟩ := shows.sweep (expiryLimit retention now)
    rw [Contents.apply, Contents.sweep, retains]
    simp only [swept, Topic.heldAfterEvent, retains]
    exact shown

theorem Shows.run (shows : contents.Shows topic held)
    (retains : topic.retention = some retention) (events : List Event) :
    (contents.run topic events).Shows topic fun key =>
      topic.heldThrough key events (held key) := by
  induction events generalizing contents held with
  | nil => exact shows
  | cons event rest ih => exact ih (shows.apply retains event)

/-! ### What is lost -/

/-- Of three parts the entries of some keys are gone, and all others are as they were. -/
structure Loses (contents left : Contents) (topic : Topic) (gone : Bytes → Prop) : Prop where
  point : ∀ key value, left.point.find? key = some value ↔
    contents.point.find? key = some value ∧ ¬ gone key
  range : ∀ index value, left.range.find? index = some value ↔
    contents.range.find? index = some value ∧ ∃ key, topic.Owns key index ∧ ¬ gone key
  inserted : ∀ key time, left.inserted.find? key = some time ↔
    contents.inserted.find? key = some time ∧ ¬ gone key

theorem Shows.exists_compose (shows : contents.Shows topic held) {index : String} {value : Bytes}
    (found : contents.range.find? index = some value) :
    ∃ field key number padded, topic.rangeField = some field ∧
      field.type.pad number = .ok padded ∧
      index = RangeIndex.compose topic.keyType key padded ∧
      topic.Owns (topic.keyType.encode key) index := by
  obtain ⟨field, key, number, padded, indexed, done, rfl⟩ := shows.composed index (by
    rw [SortedMap.contains, found]
    rfl)
  refine ⟨field, key, number, padded, indexed, done, rfl, key, KeyType.decode_encode .., ?_⟩
  rw [RangeIndex.hasStem_compose, decide_eq_true rfl]

theorem Shows.loses (shows : contents.Shows topic held) (shown : left.Shows topic after)
    {gone : Bytes → Prop} (lost : ∀ key, gone key → after key = [])
    (kept : ∀ key, ¬ gone key → after key = held key) : contents.Loses left topic gone := by
  refine ⟨fun key value => ?_, fun index value => ?_, fun key time => ?_⟩
  · rw [shown.point, shows.point]
    by_cases away : gone key
    · simp [away, lost key away]
    · simp [away, kept key away]
  · constructor
    · intro found
      obtain ⟨field, key, number, padded, indexed, done, rfl, own⟩ := shown.exists_compose found
      rw [shown.latest field indexed key number padded done] at found
      by_cases away : gone (topic.keyType.encode key)
      · rw [lost _ away] at found
        contradiction
      · rw [kept _ away] at found
        exact ⟨(shows.latest field indexed key number padded done).trans found, _, own, away⟩
    · rintro ⟨found, owner, foreign, stays⟩
      obtain ⟨field, key, number, padded, indexed, done, rfl, own⟩ := shows.exists_compose found
      obtain rfl := Topic.eq_of_owns foreign own
      rw [shown.latest field indexed key number padded done, kept _ stays,
        ← shows.latest field indexed key number padded done, found]
  · rw [shown.inserted, shows.inserted]
    by_cases away : gone key
    · simp [away, lost key away]
    · simp [away, kept key away]

theorem mem_expired_run_iff (retains : topic.retention = some retention) (events : List Event) :
    key ∈ (empty.run topic events).expired cutoff ↔ topic.Expires events cutoff key := by
  rw [((empty_shows topic).run retains events).mem_expired_iff, Topic.expires_iff]

/-- A sweep succeeds, and takes away the keys that have expired, with all that is theirs. -/
theorem exists_sweep_run (retains : topic.retention = some retention) (events : List Event)
    (cutoff : Nat) :
    ∃ left, (empty.run topic events).removeAll topic ((empty.run topic events).expired cutoff) =
        .ok left ∧
      (empty.run topic events).Loses left topic (topic.Expires events cutoff) := by
  have shows := (empty_shows topic).run retains events
  obtain ⟨left, removed, shown⟩ := shows.sweep cutoff
  refine ⟨left, removed, shows.loses shown (fun key away => ?_) fun key stays => ?_⟩
  · rw [Upsert.sweep, if_pos (Topic.expires_iff.1 away)]
  · rw [Upsert.sweep, if_neg (mt Topic.expires_iff.2 stays)]

theorem Loses.expired_eq_nil {gone : Bytes → Prop} (loses : contents.Loses left topic gone)
    (all : ∀ key ∈ contents.expired cutoff, gone key) {earlier : Nat} (before : earlier ≤ cutoff) :
    left.expired earlier = [] := by
  rw [List.eq_nil_iff_forall_not_mem]
  intro key member
  obtain ⟨time, found, old⟩ := mem_expired_iff.1 member
  obtain ⟨there, stays⟩ := (loses.inserted key time).1 found
  exact stays (all key (mem_expired_iff.2 ⟨time, there, Nat.lt_of_lt_of_le old before⟩))

end Contents

namespace Shard

/-- A shard that some events have come to. Their records are the front part of its partition. -/
structure ComesOf (shard : Shard) (topic : Topic) (records : List Record)
    (events : List Contents.Event) : Prop where
  offset : shard.offset ≤ records.length
  records : events.filterMap Contents.Event.record? = records.take shard.offset
  contents : shard.contents = Contents.empty.run topic events

variable {shard left : Shard} {topic : Topic} {records : List Record}
  {events : List Contents.Event}

theorem fresh_comesOf (topic : Topic) (records : List Record) : fresh.ComesOf topic records [] :=
  ⟨Nat.zero_le _, rfl, rfl⟩

theorem ComesOf.append (comes : shard.ComesOf topic records events) (later : List Record) :
    shard.ComesOf topic (records ++ later) events where
  offset := Nat.le_trans comes.offset (by simp)
  records := by rw [comes.records, List.take_append_of_le_length comes.offset]
  contents := comes.contents

theorem ComesOf.catchUp {log : Log} {partition : Nat}
    (comes : shard.ComesOf topic (log.partition partition) events) :
    (shard.catchUp topic log partition).ComesOf topic (log.partition partition)
      (events ++ (log.readFrom partition shard.offset).map .record) := by
  have all : shard.offset + (log.readFrom partition shard.offset).length =
      (log.partition partition).length := by
    rw [Log.readFrom, List.length_drop]
    exact Nat.add_sub_cancel' comes.offset
  have brought : (log.readFrom partition shard.offset).filterMap
      (Contents.Event.record? ∘ Contents.Event.record) = log.readFrom partition shard.offset :=
    List.filterMap_some
  refine ⟨Nat.le_of_eq all, ?_, ?_⟩
  · rw [List.filterMap_append, List.filterMap_map, brought, comes.records, Log.readFrom,
      List.take_append_drop, Shard.catchUp]
    simp only [all, List.take_length]
  · rw [Contents.run_append, Contents.run_records, ← comes.contents, Shard.catchUp]

theorem ComesOf.sweep {retention now : Nat} (comes : shard.ComesOf topic records events)
    (retains : topic.retention = some retention)
    (swept : shard.sweep topic (expiryLimit retention now) = .ok left) :
    left.ComesOf topic records (events ++ [.sweep now]) := by
  obtain ⟨removed, offset, -⟩ := sweep_eq_ok_iff.1 swept
  refine ⟨offset ▸ comes.offset, ?_, ?_⟩
  · rw [List.filterMap_append, comes.records, offset]
    exact List.append_nil _
  · rw [Contents.run_append, ← comes.contents, Contents.run_sweep]
    rw [Contents.sweep, retains]
    exact removed

end Shard

namespace Replica

/-- A replica whose shards have lost some keys each, and that is otherwise as it was. -/
structure Loses (replica swept : Replica) (gone : Nat → Bytes → Prop) : Prop where
  rest : swept = { replica with shards := swept.shards }
  holds : ∀ partition, swept.shards.contains partition = replica.shards.contains partition
  shards : ∀ partition shard left, replica.shards.find? partition = some shard →
    swept.shards.find? partition = some left →
      left.offset = shard.offset ∧ left.restored = shard.restored ∧
        shard.contents.Loses left.contents replica.topic (gone partition)

variable {replica swept : Replica} {retention now count : Nat}

theorem sweep_of_unexpired (retains : replica.topic.retention = some retention)
    (nothing : ∀ partition shard, replica.shards.find? partition = some shard →
      shard.contents.expired (expiryLimit retention now) = []) :
    replica.sweep now = .ok (replica, 0) := by
  have same : replica.shards.changeValues (fun _ shard =>
      shard.sweep replica.topic (expiryLimit retention now)) = .ok replica.shards := by
    refine SortedMap.changeValues_eq_self fun partition shard found => ?_
    rw [Shard.sweep, nothing partition shard found]
    rfl
  have unexpired : (replica.shards.values.flatMap fun shard =>
      shard.contents.expired (expiryLimit retention now)) = [] := by
    rw [List.flatMap_eq_nil_iff]
    intro shard member
    obtain ⟨⟨partition, shard⟩, entry, rfl⟩ := List.mem_map.1 member
    exact nothing partition shard (SortedMap.find?_eq_some_iff.2 entry)
  rw [sweep_eq retains, same, unexpired]
  rfl

def expired (replica : Replica) (cutoff : Nat) : List Bytes :=
  replica.shards.entries.flatMap fun entry => entry.2.contents.expired cutoff

theorem mem_expired_iff {cutoff : Nat} {key : Bytes} :
    key ∈ replica.expired cutoff ↔ ∃ partition shard,
      replica.shards.find? partition = some shard ∧ key ∈ shard.contents.expired cutoff := by
  rw [expired, List.mem_flatMap]
  constructor
  · rintro ⟨⟨partition, shard⟩, entry, member⟩
    exact ⟨partition, shard, SortedMap.find?_eq_some_iff.2 entry, member⟩
  · rintro ⟨partition, shard, found, member⟩
    exact ⟨(partition, shard), SortedMap.find?_eq_some_iff.1 found, member⟩

theorem nodup_expired {cutoff : Nat} {place : Bytes → Nat}
    (placed : ∀ partition shard, replica.shards.find? partition = some shard →
      ∀ key ∈ shard.contents.expired cutoff, place key = partition) :
    (replica.expired cutoff).Nodup := by
  rw [expired, List.Nodup, List.pairwise_flatMap]
  refine ⟨fun entry _ => entry.2.contents.nodup_expired cutoff, ?_⟩
  refine replica.shards.sorted.imp_of_mem fun {left right} member other less => ?_
  rintro key own _ foreign rfl
  have here := placed left.1 left.2 (SortedMap.find?_eq_some_iff.2 member) key own
  have there := placed right.1 right.2 (SortedMap.find?_eq_some_iff.2 other) key foreign
  exact Nat.ne_of_lt less (here.symm.trans there)

theorem count_of_sweep (done : replica.sweep now = .ok (swept, count))
    (retains : replica.topic.retention = some retention) :
    count = (replica.expired (expiryLimit retention now)).length := by
  have changed := shards_of_sweep done retains
  rw [sweep_eq retains, changed] at done
  obtain ⟨-, rfl⟩ := Prod.mk.inj (Except.ok.inj done)
  rw [expired, SortedMap.values, List.flatMap_map]

end Replica

namespace Site

def HasCourses (site : Site) (courses : Nat → List Contents.Event) : Prop :=
  ∀ partition shard, site.replica.shards.find? partition = some shard →
    shard.ComesOf site.replica.topic (site.log.partition partition) (courses partition)

variable {site : Site} {courses : Nat → List Contents.Event} {retention : Nat}

theorem Reached.exists_courses (reached : site.Reached) : ∃ courses, site.HasCourses courses := by
  have each : ∀ partition, ∃ events, ∀ shard, site.replica.shards.find? partition = some shard →
      shard.ComesOf site.replica.topic (site.log.partition partition) events := by
    intro partition
    cases found : site.replica.shards.find? partition with
    | none => exact ⟨[], fun _ => nofun⟩
    | some shard =>
      obtain ⟨events, comes⟩ := reached.shards_induction
        (motive := fun shard records => ∃ events, shard.ComesOf site.replica.topic records events)
        (fun records => ⟨[], Shard.fresh_comesOf ..⟩)
        (fun _ _ later ⟨events, comes⟩ => ⟨events, comes.append later⟩)
        (fun _ _ _ ⟨_, comes⟩ => ⟨_, comes.catchUp⟩)
        (fun _ _ _ _ _ retains swept ⟨_, comes⟩ => ⟨_, comes.sweep retains swept⟩) found
      exact ⟨events, fun _ same => Option.some.inj same ▸ comes⟩
  exact ⟨fun partition => (each partition).choose, fun partition => (each partition).choose_spec⟩

theorem HasCourses.place_of_expired (explained : site.HasCourses courses)
    (retains : site.replica.topic.retention = some retention) {partition cutoff : Nat}
    {shard : Shard} (found : site.replica.shards.find? partition = some shard) {key : Bytes}
    (member : key ∈ shard.contents.expired cutoff) : site.log.place key = partition := by
  have comes := explained partition shard found
  rw [comes.contents, Contents.mem_expired_run_iff retains] at member
  obtain ⟨time, taken, -⟩ := member
  obtain ⟨record, came, rfl⟩ := Topic.exists_record_of_lastInsert? taken
  have brought : record ∈ (courses partition).filterMap Contents.Event.record? :=
    List.mem_filterMap.2 ⟨_, came, rfl⟩
  rw [comes.records] at brought
  exact of_decide_eq_true (List.mem_filter.1 (List.mem_of_mem_take brought)).2

theorem HasCourses.exists_sweep_shard (explained : site.HasCourses courses)
    (retains : site.replica.topic.retention = some retention) (cutoff : Nat) {partition : Nat}
    {shard : Shard} (found : site.replica.shards.find? partition = some shard) :
    ∃ left, shard.sweep site.replica.topic cutoff = .ok left ∧
      shard.contents.Loses left.contents site.replica.topic
        (site.replica.topic.Expires (courses partition) cutoff) := by
  obtain ⟨contents, removed, loses⟩ :=
    Contents.exists_sweep_run retains (courses partition) cutoff
  rw [← (explained partition shard found).contents] at removed loses
  exact ⟨{ shard with contents }, Shard.sweep_eq_ok_iff.2 ⟨removed, rfl, rfl⟩, loses⟩

/-- A sweep takes the expired keys away from each shard, and does nothing else. -/
theorem HasCourses.loses (explained : site.HasCourses courses)
    (retains : site.replica.topic.retention = some retention) {swept : Replica} {now count : Nat}
    (done : site.replica.sweep now = .ok (swept, count)) :
    site.replica.Loses swept fun partition =>
      site.replica.topic.Expires (courses partition) (expiryLimit retention now) := by
  refine ⟨Replica.eq_of_sweep done, Replica.contains_sweep done retains, ?_⟩
  intro partition shard left held found
  obtain ⟨other, same, removed⟩ := Replica.exists_of_sweep done retains found
  obtain rfl := Option.some.inj (held.symm.trans same)
  obtain ⟨other, succeeds, loses⟩ :=
    explained.exists_sweep_shard retains (expiryLimit retention now) held
  obtain rfl := Except.ok.inj (succeeds.symm.trans removed)
  obtain ⟨-, offset, restored⟩ := Shard.sweep_eq_ok_iff.1 removed
  exact ⟨offset, restored, loses⟩

/-- Behind a sweep there is nothing to sweep for a time that is not later. -/
theorem HasCourses.sweep_again (explained : site.HasCourses courses)
    (retains : site.replica.topic.retention = some retention) {swept : Replica}
    {now count earlier : Nat} (done : site.replica.sweep now = .ok (swept, count))
    (before : earlier ≤ now) : swept.sweep earlier = .ok (swept, 0) := by
  have sweptRetains : swept.topic.retention = some retention := by
    rw [Replica.eq_of_sweep done, retains]
  refine Replica.sweep_of_unexpired sweptRetains fun partition left found => ?_
  obtain ⟨shard, held, -⟩ := Replica.exists_of_sweep done retains found
  obtain ⟨-, -, loses⟩ := (explained.loses retains done).shards partition shard left held found
  refine loses.expired_eq_nil (fun key member => ?_) (expiryLimit_mono retention before)
  rwa [(explained partition shard held).contents, Contents.mem_expired_run_iff retains] at member

/-- Whatever came to the shards of a replica before, a sweep succeeds. It gives the number of keys
that took their value before the time that it looks back to; what belongs to these keys is gone from
all three parts of each shard, and the rest is as it was. A second sweep for no later time finds
nothing. It looks back for the retention time if that is a word of milliseconds. -/
theorem sweep_is_exact (reached : site.Reached)
    (retains : site.replica.topic.retention = some retention) (now : Nat) :
    (retention < UInt64.size → expiryLimit retention now = now - retention) ∧
    (∃ courses, site.HasCourses courses) ∧
    ∀ courses, site.HasCourses courses →
      ∃ (swept : Replica) (gone : List Bytes),
        site.replica.sweep now = .ok (swept, gone.length) ∧ gone.Nodup ∧
        (∀ key, key ∈ gone ↔ ∃ partition, site.replica.shards.contains partition = true ∧
          site.replica.topic.Expires (courses partition) (expiryLimit retention now) key) ∧
        (site.replica.Loses swept fun partition =>
          site.replica.topic.Expires (courses partition) (expiryLimit retention now)) ∧
        ∀ earlier ≤ now, swept.sweep earlier = .ok (swept, 0) := by
  refine ⟨fun word => expiryLimit_eq word now, reached.exists_courses, fun courses explained => ?_⟩
  obtain ⟨swept, count, done⟩ := Replica.exists_sweep retains fun partition shard held => by
    obtain ⟨left, removed, -⟩ :=
      explained.exists_sweep_shard retains (expiryLimit retention now) held
    exact ⟨left, removed⟩
  obtain rfl := Replica.count_of_sweep done retains
  refine ⟨swept, site.replica.expired (expiryLimit retention now), done,
    Replica.nodup_expired fun partition shard held key member =>
      explained.place_of_expired retains held member, fun key => ?_, explained.loses retains done,
    fun earlier before => explained.sweep_again retains done before⟩
  rw [Replica.mem_expired_iff]
  constructor
  · rintro ⟨partition, shard, held, member⟩
    rw [(explained partition shard held).contents, Contents.mem_expired_run_iff retains] at member
    exact ⟨partition, by rw [SortedMap.contains, held]; rfl, member⟩
  · rintro ⟨partition, held, expires⟩
    obtain ⟨shard, held⟩ := Option.isSome_iff_exists.1 held
    refine ⟨partition, shard, held, ?_⟩
    rwa [(explained partition shard held).contents, Contents.mem_expired_run_iff retains]

/-- A key whose last record is older than the first one expires, and one whose value was not taken
does not get its time; a second sweep comes with a clock that went back. -/
theorem sweep_is_exact_out_of_order :
    let topic : Topic := ⟨"ledger", .string, .schema, .mutable, some ⟨"n", .long⟩, some 10⟩
    let put (key : String) (value : Json) (time : Nat) : Event :=
      .append ⟨Utf8.encode key, some (Utf8.encode value.print), time⟩
    let site := (start topic ⟨2, 0, .murmur⟩ ⟨lone, [lone]⟩ 2).run
      [put "a" (Json.ofMembers [("n", .int 1)]) 9, put "b" (Json.ofMembers [("n", .int 1)]) 9,
        put "a" (Json.ofMembers [("n", .int 2)]) 3, put "b" (Json.ofMembers []) 2, .step]
    ∃ (courses : Nat → List Contents.Event) (swept : Replica) (gone : List Bytes),
      site.HasCourses courses ∧ gone.length = 1 ∧
      site.replica.sweep 14 = .ok (swept, gone.length) ∧
      (∀ key, key ∈ gone ↔ ∃ partition, site.replica.shards.contains partition = true ∧
        topic.Expires (courses partition) (14 - 10) key) ∧
      (site.replica.Loses swept fun partition => topic.Expires (courses partition) (14 - 10)) ∧
      swept.sweep 12 = .ok (swept, 0) := by
  intro topic put site
  have reached : site.Reached := ⟨topic, ⟨2, 0, .murmur⟩, ⟨lone, [lone]⟩, 2, _, rfl⟩
  have serves : site.replica.topic = topic := (sameSetting_run _ _).topic
  obtain ⟨limit, ⟨courses, explained⟩, each⟩ := sweep_is_exact reached (by rw [serves]) 14
  obtain ⟨swept, gone, done, -, counted, loses, again⟩ := each courses explained
  have known : (site.replica.sweep 14).toOption.map (·.2) = some 1 := by decide +kernel
  rw [done] at known
  rw [serves, limit (by decide)] at counted loses
  exact ⟨courses, swept, gone, explained, Option.some.inj known, done, counted, loses,
    again 12 (by decide)⟩

/-- A retention time of more than a word of milliseconds is cut to one: a key is gone one second
after it took its value, although it is to be kept for longer than the clock can tell. -/
theorem swept_before_retention :
    let retention := 18446744073709552000
    let topic : Topic := ⟨"ledger", .string, .string, .mutable, none, some retention⟩
    let site := (start topic ⟨1, 0, .murmur⟩ ⟨lone, [lone]⟩ 1).run
      [.append ⟨Utf8.encode "a", some (Utf8.encode "v"), 1000⟩, .step]
    site.Reached ∧ (site.replica.sweep 2000).toOption.map (·.2) = some 1 ∧
      ∀ courses, site.HasCourses courses → ∀ partition key,
        ¬ topic.Expires (courses partition) (2000 - retention) key := by
  intro retention topic site
  refine ⟨⟨topic, ⟨1, 0, .murmur⟩, ⟨lone, [lone]⟩, 1, _, rfl⟩, by decide +kernel, ?_⟩
  rintro courses - partition key ⟨time, -, before⟩
  have never : 2000 - retention = 0 := Nat.sub_eq_zero_of_le (by decide)
  rw [never] at before
  exact Nat.not_lt_zero time before

end Site

end ShardedView
