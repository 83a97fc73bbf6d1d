import ShardedView.Proofs.Replica.Retention

/-!
Replicas under retention against each other. Those that have taken in the same records
and sweep at one time hold the same, wherever `Topic.Settles` and `Topic.SettlesIndex`
say that this does not depend on when they swept before; everywhere else there are two
replicas that differ.
-/

namespace ShardedView

namespace Site

/-- Shards that have taken in the same records, with sweeps at any earlier times in
between: a sweep of both at one time succeeds and leaves equal values and equal index
entries, wherever these do not depend on the earlier sweeps. No value of a mutable topic
does, and no index entry of a topic without a range field. -/
theorem swept_shards_agree {left right : Site} {retention now partition : Nat}
    {first second : Shard}
    (alike : ConsumedAlike retention now partition left right first second) :
    let topic := left.replica.topic
    let records := (left.log.partition partition).take first.offset
    let cutoff := expiryLimit retention now
    ∃ one other, left.sweptShard? now partition = some one ∧
      right.sweptShard? now partition = some other ∧
      (∀ key, topic.Settles cutoff (topic.upserts key records) →
        one.contents.point.find? key = other.contents.point.find? key) ∧
      (∀ index, topic.SettlesIndex index cutoff records →
        one.contents.range.find? index = other.contents.range.find? index) ∧
      ((∀ key, topic.Settles cutoff (topic.upserts key records)) →
        one.contents.point = other.contents.point) ∧
      ((∀ index, topic.SettlesIndex index cutoff records) →
        one.contents.range = other.contents.range) := by
  intro topic records cutoff
  have rightRetains : right.replica.topic.retention = some retention :=
    alike.topic ▸ alike.retains
  obtain ⟨one, leftSwept, leftDone⟩ :=
    alike.leftReached.exists_sweptShard? alike.retains alike.leftHeld
  obtain ⟨other, rightSwept, rightDone⟩ :=
    alike.rightReached.exists_sweptShard? rightRetains alike.rightHeld
  have leftTracks := (alike.leftReached.tracks alike.retains).shards partition first alike.leftHeld
  have rightTracks :=
    (alike.rightReached.tracks rightRetains).shards partition second alike.rightHeld
  have rightRetained := rightTracks.contents
  rw [alike.records, alike.topic] at rightRetained
  rw [alike.topic] at rightDone
  obtain ⟨point, range⟩ := leftTracks.contents.last_sweep rightRetained
    (Shard.sweep_eq_ok_iff.1 leftDone).1 (Shard.sweep_eq_ok_iff.1 rightDone).1
  exact ⟨one, other, leftSwept, rightSwept, point, range,
    fun settles => SortedMap.ext_find? fun key => point key (settles key),
    fun settles => SortedMap.ext_find? fun index => range index (settles index)⟩

def numbered (key : String) (number : Int) (timestamp : Nat) : Record :=
  let value := Json.ofMembers [("n", .int number)]
  ⟨Utf8.encode key, some (Utf8.encode value.print), timestamp⟩

/-- One replica drops a key that has expired, the other one has it until the last
sweep. -/
theorem swept_shards_agree_numbered :
    let topic : Topic := ⟨"t", .string, .schema, .immutable, none, some 10⟩
    let early := [numbered "a" 1 1, numbered "b" 2 95]
    let late := [numbered "b" 3 99]
    let steady := sweeping topic early [] late
    let swept := sweeping topic early [50] late
    (steady.replica.shards.find? 0).map (·.contents.point.size) = some 2 ∧
      (swept.replica.shards.find? 0).map (·.contents.point.size) = some 1 ∧
      ∃ one other, steady.sweptShard? 100 0 = some one ∧ swept.sweptShard? 100 0 = some other ∧
        one.contents.point = other.contents.point ∧
        one.contents.range = other.contents.range := by
  intro topic early late steady swept
  have retains : topic.retention = some 10 := rfl
  obtain ⟨first, second, alike, records, -⟩ :=
    @exists_consumedAlike_sweeping topic 10 100 retains early late [50] (by decide)
  obtain ⟨one, other, leftSwept, rightSwept, -, -, point, range⟩ := swept_shards_agree alike
  rw [records, topic_sweeping] at point range
  refine ⟨by decide +kernel, by decide +kernel, one, other, leftSwept, rightSwept,
    point fun key => .inr ?_,
    range fun index field indexed => absurd indexed.symm (Option.some_ne_none field)⟩
  by_cases first : key = Utf8.encode "a"
  · subst first
    exact .inr (by decide +kernel)
  by_cases second : key = Utf8.encode "b"
  · subst second
    exact .inl (by decide +kernel)
  refine .inr ?_
  rw [show topic.upserts key (early ++ late) = [] by
    simp [Topic.upserts, early, late, numbered, Ne.symm first, Ne.symm second]]
  exact fun upsert member => absurd member List.not_mem_nil

/-- Where it does depend on earlier sweeps, the shards differ: an immutable key takes its
second value only if the first one was dropped before that came, and a mutable key keeps
the index entry of its first value only if that was not. -/
theorem swept_shards_differ :
    let early := [numbered "a" 1 1]
    let late := [numbered "a" 2 95]
    let immutable := sweeping ⟨"t", .string, .schema, .immutable, none, some 10⟩ early
    let mutable := sweeping ⟨"t", .string, .schema, .mutable, some ⟨"n", .long⟩, some 10⟩ early
    (∃ first second one other,
      ConsumedAlike 10 100 0 (immutable [] late) (immutable [50] late) first second ∧
      (immutable [] late).sweptShard? 100 0 = some one ∧
      (immutable [50] late).sweptShard? 100 0 = some other ∧
      one.contents.point ≠ other.contents.point) ∧
    ∃ first second one other,
      ConsumedAlike 10 100 0 (mutable [] late) (mutable [50] late) first second ∧
      (mutable [] late).sweptShard? 100 0 = some one ∧
      (mutable [50] late).sweptShard? 100 0 = some other ∧
      one.contents.range ≠ other.contents.range := by
  intro early late immutable mutable
  have apart : ∀ {left right : Option Shard} {size : Shard → Nat} {less more : Nat},
      left.map size = some less → right.map size = some more → less ≠ more →
        ∃ one other, left = some one ∧ right = some other ∧ size one ≠ size other := by
    intro left right size less more leftDone rightDone apart
    obtain ⟨one, found, rfl⟩ := Option.map_eq_some_iff.1 leftDone
    obtain ⟨other, otherFound, rfl⟩ := Option.map_eq_some_iff.1 rightDone
    exact ⟨one, other, found, otherFound, apart⟩
  constructor
  · obtain ⟨first, second, alike, -⟩ := @exists_consumedAlike_sweeping
      ⟨"t", .string, .schema, .immutable, none, some 10⟩ 10 100 rfl early late [50] (by decide)
    obtain ⟨one, other, leftSwept, rightSwept, differ⟩ := apart
      (by decide +kernel : ((immutable [] late).sweptShard? 100 0).map
        (·.contents.point.size) = some 0)
      (by decide +kernel : ((immutable [50] late).sweptShard? 100 0).map
        (·.contents.point.size) = some 1) (by decide)
    exact ⟨first, second, one, other, alike, leftSwept, rightSwept,
      fun same => differ (congrArg SortedMap.size same)⟩
  · obtain ⟨first, second, alike, -⟩ := @exists_consumedAlike_sweeping
      ⟨"t", .string, .schema, .mutable, some ⟨"n", .long⟩, some 10⟩ 10 100 rfl early late [50]
      (by decide)
    obtain ⟨one, other, leftSwept, rightSwept, differ⟩ := apart
      (by decide +kernel : ((mutable [] late).sweptShard? 100 0).map
        (·.contents.range.size) = some 2)
      (by decide +kernel : ((mutable [50] late).sweptShard? 100 0).map
        (·.contents.range.size) = some 1) (by decide)
    exact ⟨first, second, one, other, alike, leftSwept, rightSwept,
      fun same => differ (congrArg SortedMap.size same)⟩

end Site

namespace Topic

variable {topic : Topic} {key : Bytes} {records : List Record} {record : Record} {cutoff : Nat}

theorem heldAfterAll_append (topic : Topic) (key : Bytes) (first second : List Record)
    (held : List Upsert) :
    topic.heldAfterAll key (first ++ second) held =
      topic.heldAfterAll key second (topic.heldAfterAll key first held) :=
  List.foldl_append

theorem heldAfter_kept (own : record.key = key) :
    topic.heldAfter record (topic.kept (topic.upserts key records)) =
      topic.kept (topic.upserts key (records ++ [record])) := by
  unfold heldAfter
  split
  case h_1 removal =>
    rw [upserts_append_removal own removal]
    unfold kept
    cases topic.writeType <;> rfl
  case h_2 value given =>
    rw [upserts_append_value own given, own]
    unfold kept
    cases writeType : topic.writeType with
    | mutable => cases topic.takes key value <;> simp
    | immutable => cases topic.upserts key records <;> cases topic.takes key value <;> simp

/-- Without sweeps the values that are held are those that an immutable key or a mutable
one keeps. -/
theorem heldAfterAll_kept (topic : Topic) (key : Bytes) (records later : List Record) :
    topic.heldAfterAll key later (topic.kept (topic.upserts key records)) =
      topic.kept (topic.upserts key (records ++ later)) := by
  induction later generalizing records with
  | nil => rw [List.append_nil]; rfl
  | cons record rest ih =>
    rw [heldAfterAll, List.foldl_cons, ← heldAfterAll, ← List.singleton_append,
      ← List.append_assoc, ← ih]
    by_cases own : record.key = key
    · rw [if_pos own.symm, heldAfter_kept own]
    · rw [if_neg (Ne.symm own), upserts_append_other own]

theorem heldAfterAll_nil (topic : Topic) (key : Bytes) (records : List Record) :
    topic.heldAfterAll key records [] = topic.kept (topic.upserts key records) := by
  have kept : topic.kept (topic.upserts key []) = [] := by
    unfold kept
    cases topic.writeType <;> rfl
  rw [← kept, heldAfterAll_kept, List.nil_append]

/-- With a sweep between some two of the records these values of a key are held. -/
def SplitsTo (topic : Topic) (cutoff : Nat) (key : Bytes) (records : List Record)
    (held : List Upsert) : Prop :=
  ∃ before after, records = before ++ after ∧
    topic.heldAfterAll key after (Upsert.sweep cutoff (topic.heldAfterAll key before [])) = held

variable {held : List Upsert}

theorem SplitsTo.next (splits : topic.SplitsTo cutoff key records held) (record : Record) :
    topic.SplitsTo cutoff key (records ++ [record])
      (if key = record.key then topic.heldAfter record held else held) := by
  obtain ⟨before, after, rfl, rfl⟩ := splits
  exact ⟨before, after ++ [record], List.append_assoc .., heldAfterAll_append ..⟩

theorem splitsTo_sweep (topic : Topic) (cutoff : Nat) (key : Bytes) (records : List Record) :
    topic.SplitsTo cutoff key records
      (Upsert.sweep cutoff (topic.kept (topic.upserts key records))) :=
  ⟨records, [], (List.append_nil _).symm, by rw [heldAfterAll_nil]; rfl⟩

theorem SplitsTo.fresh_append (mutable : topic.writeType = .mutable)
    (splits : topic.SplitsTo cutoff key records
      (Upsert.fresh cutoff (topic.upserts key records))) (record : Record) :
    topic.SplitsTo cutoff key (records ++ [record])
      (Upsert.fresh cutoff (topic.upserts key (records ++ [record]))) := by
  have next := splits.next record
  by_cases own : record.key = key
  · rw [if_pos own.symm] at next
    cases given : record.value with
    | none =>
      rw [upserts_append_removal own given]
      rwa [heldAfter, given] at next
    | some value =>
      rw [heldAfter, given, mutable, own] at next
      have last := topic.splitsTo_sweep cutoff key (records ++ [record])
      rw [kept, mutable] at last
      rw [upserts_append_value own given] at last ⊢
      cases taken : topic.takes key value with
      | false => simpa [taken] using next
      | true =>
        rw [taken, if_pos rfl] at last
        rw [if_pos rfl, Upsert.fresh_append_singleton]
        cases expired : (Upsert.mk value record.timestamp).isExpired cutoff with
        | false => simpa [taken] using next
        | true => rwa [Upsert.sweep_of_expired List.getLast?_concat expired] at last
  · rwa [if_neg (Ne.symm own), ← upserts_append_other own] at next

/-- On a mutable topic a sweep at the right place leaves the values behind the last
expired one alone. -/
theorem splitsTo_fresh (mutable : topic.writeType = .mutable) (cutoff : Nat) (key : Bytes)
    (records : List Record) :
    topic.SplitsTo cutoff key records (Upsert.fresh cutoff (topic.upserts key records)) := by
  have run : ∀ later records, topic.SplitsTo cutoff key records
        (Upsert.fresh cutoff (topic.upserts key records)) →
      topic.SplitsTo cutoff key (records ++ later)
        (Upsert.fresh cutoff (topic.upserts key (records ++ later))) := by
    intro later
    induction later with
    | nil =>
      intro records splits
      rwa [List.append_nil]
    | cons record rest ih =>
      intro records splits
      rw [← List.singleton_append, ← List.append_assoc]
      exact ih _ (splits.fresh_append mutable record)
  exact run records [] ⟨[], [], rfl, rfl⟩

theorem sweep_kept_of_expired (immutable : topic.writeType = .immutable)
    {upserts : List Upsert} {first : Upsert} (begins : upserts.head? = some first)
    (expired : first.isExpired cutoff = true) : Upsert.sweep cutoff (topic.kept upserts) = [] := by
  rw [kept, immutable]
  cases upserts with
  | nil => contradiction
  | cons head rest =>
    obtain rfl := Option.some.inj begins
    exact Upsert.sweep_of_expired rfl expired

/-- Once the first value of an immutable key has been dropped, one that has not expired is
taken and stays. -/
theorem splitsTo_append_unexpired (immutable : topic.writeType = .immutable)
    {first upsert : Upsert} (expired : first.isExpired cutoff = true)
    (unexpired : upsert.isExpired cutoff = false)
    (earlier : (topic.upserts key records).head? = some first →
      upsert ∈ topic.upserts key records → topic.SplitsTo cutoff key records [upsert])
    (begins : (topic.upserts key (records ++ [record])).head? = some first)
    (member : upsert ∈ topic.upserts key (records ++ [record])) :
    topic.SplitsTo cutoff key (records ++ [record]) [upsert] := by
  by_cases own : record.key = key
  case neg =>
    rw [upserts_append_other own] at begins member
    have next := (earlier begins member).next record
    rwa [if_neg (Ne.symm own)] at next
  cases given : record.value with
  | none =>
    rw [upserts_append_removal own given] at member
    contradiction
  | some value =>
    rw [upserts_append_value own given] at begins member
    have prior (nonempty : topic.upserts key records ≠ []) :
        (topic.upserts key records).head? = some first := by
      cases upserts : topic.upserts key records with
      | nil => contradiction
      | cons head rest => rwa [upserts] at begins
    rcases List.mem_append.1 member with member | member
    · have next := (earlier (prior (List.ne_nil_of_mem member)) member).next record
      rw [if_pos own.symm] at next
      simpa [heldAfter, given, immutable] using next
    · cases taken : topic.takes key value with
      | false =>
        rw [taken] at member
        contradiction
      | true =>
        rw [taken, if_pos rfl] at member begins
        obtain rfl := List.mem_singleton.1 member
        have nonempty : topic.upserts key records ≠ [] := by
          intro nothing
          rw [nothing] at begins
          obtain rfl := Option.some.inj begins
          rw [expired] at unexpired
          contradiction
        have dropped := topic.splitsTo_sweep cutoff key records
        rw [sweep_kept_of_expired immutable (prior nonempty) expired] at dropped
        have next := dropped.next record
        rw [if_pos own.symm] at next
        simpa [heldAfter, given, own, taken] using next

/-- On an immutable topic whose first value of a key has expired, a sweep at the right
place lets any later value that has not expired be taken. -/
theorem splitsTo_unexpired (immutable : topic.writeType = .immutable) {first upsert : Upsert}
    (begins : (topic.upserts key records).head? = some first)
    (expired : first.isExpired cutoff = true) (member : upsert ∈ topic.upserts key records)
    (unexpired : upsert.isExpired cutoff = false) :
    topic.SplitsTo cutoff key records [upsert] := by
  have run : ∀ later records, ((topic.upserts key records).head? = some first →
        upsert ∈ topic.upserts key records → topic.SplitsTo cutoff key records [upsert]) →
      (topic.upserts key (records ++ later)).head? = some first →
        upsert ∈ topic.upserts key (records ++ later) →
          topic.SplitsTo cutoff key (records ++ later) [upsert] := by
    intro later
    induction later with
    | nil =>
      intro records earlier
      rwa [List.append_nil]
    | cons record rest ih =>
      intro records earlier
      rw [← List.singleton_append, ← List.append_assoc]
      exact ih _ (splitsTo_append_unexpired immutable expired unexpired earlier)
  exact run records [] (fun _ member => absurd member List.not_mem_nil) begins member

theorem exists_of_not_settles {upserts : List Upsert} (unsettled : ¬ topic.Settles cutoff upserts) :
    topic.writeType = .immutable ∧
      (∃ first, upserts.head? = some first ∧ first.isExpired cutoff = true) ∧
      ∃ upsert ∈ upserts, upsert.isExpired cutoff = false := by
  rw [Settles, not_or, not_or] at unsettled
  obtain ⟨unchanging, expired, unexpired⟩ := unsettled
  refine ⟨?_, by simpa using expired, by simpa using unexpired⟩
  cases writeType : topic.writeType with
  | mutable => exact absurd writeType unchanging
  | immutable => rfl

end Topic

namespace Site

variable {topic : Topic} {retention now : Nat}

/-- Shards that a last sweep leaves of the same records, behind different earlier
sweeps. -/
def SweptAlike (topic : Topic) (retention now : Nat) (records : List Record)
    (one other : Shard) : Prop :=
  ∃ left right first second, ConsumedAlike retention now 0 left right first second ∧
    left.replica.topic = topic ∧ (left.log.partition 0).take first.offset = records ∧
    left.sweptShard? now 0 = some one ∧ right.sweptShard? now 0 = some other

/-- One replica does not sweep before, the other one between some two records. -/
theorem exists_sweptAlike (retains : topic.retention = some retention) (now : Nat)
    (before after : List Record) :
    ∃ one other, SweptAlike topic retention now (before ++ after) one other ∧
      (one.contents.Shows topic fun key =>
        Upsert.sweep (expiryLimit retention now)
          (topic.kept (topic.upserts key (before ++ after)))) ∧
      other.contents.Shows topic fun key =>
        Upsert.sweep (expiryLimit retention now) (topic.heldAfterAll key after
          (Upsert.sweep (expiryLimit retention now) (topic.heldAfterAll key before []))) := by
  obtain ⟨first, second, alike, records, shows, otherShows⟩ :=
    @exists_consumedAlike_sweeping topic retention now retains before after [now] (by simp)
  have setting := topic_sweeping topic before after []
  obtain ⟨one, leftSwept, leftDone⟩ :=
    alike.leftReached.exists_sweptShard? alike.retains alike.leftHeld
  obtain ⟨other, rightSwept, rightDone⟩ :=
    alike.rightReached.exists_sweptShard? (alike.topic ▸ alike.retains) alike.rightHeld
  rw [setting] at leftDone
  rw [alike.topic, setting] at rightDone
  obtain ⟨swept, removed, sweptShows⟩ := shows.sweep (expiryLimit retention now)
  obtain rfl := Except.ok.inj (removed.symm.trans (Shard.sweep_eq_ok_iff.1 leftDone).1)
  obtain ⟨otherSwept, otherRemoved, otherSweptShows⟩ := otherShows.sweep (expiryLimit retention now)
  obtain rfl := Except.ok.inj (otherRemoved.symm.trans (Shard.sweep_eq_ok_iff.1 rightDone).1)
  refine ⟨one, other, ⟨_, _, first, second, alike, setting, records, leftSwept, rightSwept⟩,
    sweptShows.of_same fun key => ?_, otherSweptShows⟩
  rw [← Topic.heldAfterAll_append, Topic.heldAfterAll_nil]

theorem exists_point_ne (retains : topic.retention = some retention) {records : List Record}
    {key : Bytes}
    (unsettled : ¬ topic.Settles (expiryLimit retention now) (topic.upserts key records)) :
    ∃ one other, SweptAlike topic retention now records one other ∧
      one.contents.point.find? key ≠ other.contents.point.find? key := by
  obtain ⟨immutable, ⟨first, begins, expired⟩, upsert, member, unexpired⟩ :=
    Topic.exists_of_not_settles unsettled
  obtain ⟨before, after, rfl, held⟩ :=
    Topic.splitsTo_unexpired immutable begins expired member unexpired
  obtain ⟨one, other, alike, shows, otherShows⟩ := exists_sweptAlike retains now before after
  refine ⟨one, other, alike, ?_⟩
  rw [shows.point, otherShows.point, held, Topic.sweep_kept_of_expired immutable begins expired,
    Upsert.sweep_of_fresh List.getLast?_singleton unexpired]
  exact (Option.some_ne_none _).symm

/-- Unless the value at an index key settles, it differs at some two replicas. -/
theorem exists_range_ne (retains : topic.retention = some retention) {records : List Record}
    {index : String} (unsettled : ¬ topic.SettlesIndex index (expiryLimit retention now) records) :
    ∃ one other, SweptAlike topic retention now records one other ∧
      one.contents.range.find? index ≠ other.contents.range.find? index := by
  obtain ⟨field, indexed, key, number, padded, done, rfl, unsettledAt⟩ : ∃ field,
      topic.rangeField = some field ∧ ∃ key number padded, field.type.pad number = .ok padded ∧
        index = RangeIndex.compose topic.keyType key padded ∧
        ¬ topic.SettlesAt field number (expiryLimit retention now)
          (topic.upserts (topic.keyType.encode key) records) := by
    simpa [Topic.SettlesIndex] using unsettled
  unfold Topic.SettlesAt at unsettledAt
  cases writeType : topic.writeType with
  | mutable =>
    simp only [writeType, not_or] at unsettledAt
    obtain ⟨fresh, apart⟩ := unsettledAt
    obtain ⟨⟨upsert, member, given⟩, missing⟩ := Classical.not_imp.1 apart
    obtain ⟨before, after, rfl, held⟩ :=
      Topic.splitsTo_fresh writeType (expiryLimit retention now) (topic.keyType.encode key) records
    obtain ⟨one, other, alike, shows, otherShows⟩ := exists_sweptAlike retains now before after
    refine ⟨one, other, alike, ?_⟩
    rw [shows.latest field indexed key number padded done,
      otherShows.latest field indexed key number padded done, held, Topic.kept, writeType,
      Upsert.sweep_of_fresh_ne_nil fresh]
    have nothing : Upsert.latest? (Upsert.sweep (expiryLimit retention now)
        (Upsert.fresh (expiryLimit retention now)
          (topic.upserts (topic.keyType.encode key) (before ++ after)))) field topic.valueType
            number = none := by
      refine Upsert.latest?_eq_none_iff.2 fun other swept => ?_
      rw [← Bool.not_eq_true]
      exact fun same => missing ⟨other, Upsert.sweep_subset _ _ swept, same⟩
    rw [nothing, Ne, Upsert.latest?_eq_none_iff]
    intro absent
    rw [absent upsert member] at given
    contradiction
  | immutable =>
    simp only [writeType, not_or] at unsettledAt
    obtain ⟨unsettled, apart⟩ := unsettledAt
    obtain ⟨-, ⟨first, begins, expired⟩, -⟩ := Topic.exists_of_not_settles unsettled
    obtain ⟨upsert, member, given, unexpired⟩ : ∃ upsert ∈
        topic.upserts (topic.keyType.encode key) records,
        upsert.isAt field topic.valueType number = true ∧
          upsert.isExpired (expiryLimit retention now) = false := by
      simpa using apart
    obtain ⟨before, after, rfl, held⟩ :=
      Topic.splitsTo_unexpired writeType begins expired member unexpired
    obtain ⟨one, other, alike, shows, otherShows⟩ := exists_sweptAlike retains now before after
    refine ⟨one, other, alike, ?_⟩
    rw [shows.latest field indexed key number padded done,
      otherShows.latest field indexed key number padded done, held,
      Topic.sweep_kept_of_expired writeType begins expired,
      Upsert.sweep_of_fresh List.getLast?_singleton unexpired, Upsert.latest?, Upsert.latest?,
      List.reverse_singleton, List.find?_singleton, given]
    exact (Option.some_ne_none _).symm

end Site

end ShardedView
