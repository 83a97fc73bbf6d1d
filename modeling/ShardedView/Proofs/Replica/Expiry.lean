import ShardedView.Proofs.Contents.Coherence
import ShardedView.Proofs.Replica.Convergence

/-!
What becomes of a key that a sweep has removed. A replica keeps no note of it: a shard that is
dropped and begun afresh takes in the old values again, until a sweep that is late enough removes
them once more. While the shard stays, the key does not come back by itself.
-/

namespace ShardedView

namespace Upsert

theorem sweep_of_sweep_eq_nil {earlier cutoff : Nat} {held : List Upsert}
    (spent : sweep earlier held = []) (before : earlier ≤ cutoff) : sweep cutoff held = [] := by
  unfold sweep at spent ⊢
  split at spent
  · next ended =>
    obtain ⟨last, ends, expired⟩ := (Option.any_eq_true ..).1 ended
    have expired : last.isExpired cutoff = true :=
      decide_eq_true (Nat.lt_of_lt_of_le (of_decide_eq_true expired) before)
    rw [if_pos ((Option.any_eq_true ..).2 ⟨last, ends, expired⟩)]
  · rw [spent, ite_self]

end Upsert

def Record.GiveNothing (key : Bytes) (records : List Record) : Prop :=
  ∀ record ∈ records, record.key = key → record.value = none

namespace Topic

variable {topic : Topic} {key : Bytes} {records later : List Record}

theorem heldAfterAll_cases (nothing : Record.GiveNothing key later) (held : List Upsert) :
    topic.heldAfterAll key later held = [] ∨ topic.heldAfterAll key later held = held := by
  induction later generalizing held with
  | nil => exact .inr rfl
  | cons record rest ih =>
    have others : Record.GiveNothing key rest :=
      fun record member => nothing record (.tail _ member)
    have own : (if key = record.key then topic.heldAfter record held else held) = [] ∨
        (if key = record.key then topic.heldAfter record held else held) = held := by
      split
      · next same =>
        left
        rw [heldAfter, nothing record (.head _) same.symm]
      · exact .inr rfl
    rw [heldAfterAll, List.foldl_cons, ← heldAfterAll]
    rcases own with removed | kept
    · left
      rw [removed]
      exact (ih others []).elim id id
    · rw [kept]
      exact ih others held

theorem kept_append_cases (nothing : Record.GiveNothing key later) (records : List Record) :
    topic.kept (topic.upserts key (records ++ later)) = [] ∨
      topic.kept (topic.upserts key (records ++ later)) =
        topic.kept (topic.upserts key records) := by
  rw [← heldAfterAll_kept]
  exact heldAfterAll_cases nothing _

/-- If what is held of a key has expired, so has what is held of it without earlier sweeps. -/
theorem MayHold.sweep_kept {cutoff : Nat} {upserts held : List Upsert}
    (may : topic.MayHold cutoff upserts held) (given : held ≠ [])
    (spent : Upsert.sweep cutoff held = []) : Upsert.sweep cutoff (topic.kept upserts) = [] := by
  cases writeType : topic.writeType with
  | mutable =>
    rw [kept, writeType]
    rcases may.sweep_mutable writeType with ⟨-, whole⟩ | ⟨left, -⟩
    · exact whole
    · exact absurd (left.symm.trans spent) given
  | immutable =>
    have may' := may
    unfold MayHold at may'
    simp only [writeType] at may'
    obtain ⟨-, among, only⟩ := may'
    cases upserts with
    | nil => exact absurd (List.subset_nil.1 among) given
    | cons first rest =>
      cases expired : first.isExpired cutoff with
      | true => exact sweep_kept_of_expired writeType rfl expired
      | false =>
        rw [only first rfl expired, Upsert.sweep_of_fresh rfl expired] at spent
        contradiction

end Topic

namespace Shard

def Holds (shard : Shard) (topic : Topic) (key : Bytes) (fits : List Upsert → Prop) : Prop :=
  ∃ held, shard.contents.Shows topic held ∧ fits (held key)

variable {shard left : Shard} {topic : Topic} {key : Bytes} {fits : List Upsert → Prop}
  {log : Log} {partition cutoff : Nat}

theorem Holds.mono (holds : shard.Holds topic key fits) {suits : List Upsert → Prop}
    (weaker : ∀ values, fits values → suits values) : shard.Holds topic key suits := by
  obtain ⟨held, shows, fit⟩ := holds
  exact ⟨held, shows, weaker _ fit⟩

/-- A shard goes on as one that has taken in no less, and that shows of a key what it showed or
nothing. -/
structure GoesOn (shard left : Shard) (topic : Topic) (key : Bytes) : Prop where
  offset : shard.offset ≤ left.offset
  holds : ∀ fits : List Upsert → Prop, fits [] →
    shard.Holds topic key fits → left.Holds topic key fits

theorem GoesOn.refl (shard : Shard) (topic : Topic) (key : Bytes) : shard.GoesOn shard topic key :=
  ⟨Nat.le_refl _, fun _ _ => id⟩

theorem goesOn_catchUp (retains : topic.retention.isSome = true)
    (idle : Record.GiveNothing key (log.readFrom partition shard.offset)) :
    shard.GoesOn (shard.catchUp topic log partition) topic key := by
  refine ⟨Nat.le_add_right .., ?_⟩
  rintro fits nothing ⟨held, shows, fit⟩
  refine ⟨_, shows.processAll retains _, ?_⟩
  rcases Topic.heldAfterAll_cases idle (held key) with same | same <;> rw [same]
  · exact nothing
  · exact fit

theorem goesOn_of_sweep (swept : shard.sweep topic cutoff = .ok left) :
    shard.GoesOn left topic key := by
  obtain ⟨done, offset, -⟩ := sweep_eq_ok_iff.1 swept
  refine ⟨Nat.le_of_eq offset.symm, ?_⟩
  rintro fits nothing ⟨held, shows, fit⟩
  obtain ⟨contents, removed, shown⟩ := shows.sweep cutoff
  obtain rfl := Except.ok.inj (removed.symm.trans done)
  refine ⟨_, shown, ?_⟩
  rcases Upsert.sweep_cases cutoff (held key) with same | same <;> rw [same]
  · exact nothing
  · exact fit

theorem Holds.sweep_late {earlier : Nat}
    (spent : shard.Holds topic key fun held => Upsert.sweep earlier held = [])
    (before : earlier ≤ cutoff) (swept : shard.sweep topic cutoff = .ok left) :
    left.Holds topic key (· = []) := by
  obtain ⟨held, shows, expired⟩ := spent
  obtain ⟨contents, removed, shown⟩ := shows.sweep cutoff
  obtain rfl := Except.ok.inj (removed.symm.trans (sweep_eq_ok_iff.1 swept).1)
  exact ⟨_, shown, Upsert.sweep_of_sweep_eq_nil expired before⟩

theorem Holds.not_contains (holds : shard.Holds topic key (· = [])) :
    shard.contents.point.contains key = false := by
  obtain ⟨held, shows, nothing⟩ := holds
  rw [shows.contains_point, nothing]
  rfl

/-- A shard that is begun afresh holds of a key what its records leave without any sweep. -/
theorem holds_catchUp_fresh (retains : topic.retention.isSome = true)
    (fit : fits (topic.kept (topic.upserts key (log.partition partition)))) :
    (fresh.catchUp topic log partition).Holds topic key fits := by
  refine ⟨_, (Contents.empty_shows topic).processAll retains _, ?_⟩
  rw [Log.readFrom]
  show fits (topic.heldAfterAll key ((log.partition partition).drop 0) [])
  rwa [List.drop_zero, Topic.heldAfterAll_nil]

theorem Tracks.holds_nil {records : List Record} (tracks : shard.Tracks topic cutoff records)
    (nothing : topic.upserts key (records.take shard.offset) = []) :
    shard.Holds topic key (· = []) := by
  obtain ⟨held, shows, may⟩ := tracks.contents
  refine ⟨held, shows, ?_⟩
  have may := may key
  unfold Topic.MayHold at may
  rw [nothing] at may
  split at may
  · obtain ⟨dropped, same, -⟩ := may
    exact (List.append_eq_nil_iff.1 same.symm).2
  · exact List.subset_nil.1 may.2.1

end Shard

namespace Site

theorem exists_latest (events : List Event) :
    ∃ now, ∀ time, Event.sweep time ∈ events → time ≤ now := by
  induction events with
  | nil => exact ⟨0, nofun⟩
  | cons event rest ih =>
    obtain ⟨now, before⟩ := ih
    cases event with
    | sweep time =>
      refine ⟨max time now, fun other member => ?_⟩
      rcases List.mem_cons.1 member with same | member
      · cases same
        exact Nat.le_max_left ..
      · exact Nat.le_trans (before other member) (Nat.le_max_right ..)
    | _ =>
      refine ⟨now, fun other member => before other ?_⟩
      exact (List.mem_cons.1 member).resolve_left nofun

theorem Reached.exists_reachedBy {site : Site} (reached : site.Reached) :
    ∃ now, site.ReachedBy now := by
  obtain ⟨topic, layout, view, partitions, events, rfl⟩ := reached
  obtain ⟨now, before⟩ := exists_latest events
  exact ⟨now, topic, layout, view, partitions, events, before, rfl⟩

theorem Reached.run {site : Site} (reached : site.Reached) (events : List Event) :
    (site.run events).Reached := by
  obtain ⟨topic, layout, view, partitions, earlier, rfl⟩ := reached
  exact ⟨topic, layout, view, partitions, earlier ++ events, (run_append ..).symm⟩

theorem ReachedBy.reached {site : Site} {now : Nat} (reached : site.ReachedBy now) :
    site.Reached := by
  obtain ⟨topic, layout, view, partitions, events, -, rfl⟩ := reached
  exact ⟨topic, layout, view, partitions, events, rfl⟩

theorem Reached.exists_sweep {site : Site} (reached : site.Reached) {retention : Nat}
    (retains : site.replica.topic.retention = some retention) (now : Nat) :
    ∃ swept count, site.replica.sweep now = .ok (swept, count) := by
  obtain ⟨latest, reached⟩ := reached.exists_reachedBy
  refine Replica.exists_sweep retains fun partition shard held => ?_
  obtain ⟨values, shows, -⟩ := ((reached.tracks retains).shards partition shard held).contents
  obtain ⟨contents, removed, -⟩ := shows.sweep (expiryLimit retention now)
  exact ⟨{ shard with contents }, Shard.sweep_eq_ok_iff.2 ⟨removed, rfl, rfl⟩⟩

/-- The records of a partition behind a place give a key no value, what those before it leave of
the key has expired by a time, and shards of the partition are beyond the place. -/
structure IsSpent (site : Site) (topic : Topic) (partition offset cutoff : Nat) (key : Bytes) :
    Prop where
  reached : site.Reached
  serves : site.replica.topic = topic
  within : offset ≤ (site.log.partition partition).length
  idle : Record.GiveNothing key ((site.log.partition partition).drop offset)
  expired : Upsert.sweep cutoff
    (topic.kept (topic.upserts key (site.log.partition partition))) = []
  shards : ∀ shard, site.replica.shards.find? partition = some shard → offset ≤ shard.offset

variable {site : Site} {topic : Topic} {partition offset cutoff retention : Nat} {key : Bytes}
  {event : Event} {left : Shard}

/-- Where a shard behind a step comes from: it goes on from one before, without a value of the key
from the records that it takes in, or it is begun afresh with what has expired. -/
theorem IsSpent.exists_of_step (spent : site.IsSpent topic partition offset cutoff key)
    (retains : topic.retention = some retention) {readings : Replica.Readings}
    (found : (site.replica.stepAmid site.log readings).shards.find? partition = some left) :
    (∃ shard, site.replica.shards.find? partition = some shard ∧ shard.GoesOn left topic key) ∨
      site.replica.shards.contains partition = false ∧ offset ≤ left.offset ∧
        left.Holds topic key fun held => Upsert.sweep cutoff held = [] := by
  have lasting : topic.retention.isSome = true := by rw [retains]; rfl
  have serves := spent.serves
  by_cases stopped : site.replica.phase = .stopped
  · rw [Replica.stepAmid_of_stopped stopped] at found
    exact .inl ⟨left, found, .refl ..⟩
  obtain ⟨now, reached⟩ := spent.reached.exists_reachedBy
  rw [Replica.stepAmid_eq stopped (reached.tracks (serves ▸ retains)).holds] at found
  rw [Replica.find?_steppedShards, Option.ite_none_right_eq_some, Option.some.injEq,
    serves] at found
  obtain ⟨-, rfl⟩ := found
  cases held : site.replica.shards.find? partition with
  | none =>
    refine .inr ⟨by rw [SortedMap.contains, held]; rfl, ?_,
      Shard.holds_catchUp_fresh lasting spent.expired⟩
    show offset ≤ 0 + ((site.log.partition partition).drop 0).length
    rw [List.drop_zero, Nat.zero_add]
    exact spent.within
  | some shard =>
    -- It stands beyond the place from which on the records give the key nothing.
    refine .inl ⟨shard, rfl, Shard.goesOn_catchUp lasting fun record member => spent.idle record ?_⟩
    have beyond := spent.shards shard held
    rw [Log.readFrom, ← Nat.add_sub_of_le beyond, ← List.drop_drop] at member
    exact List.mem_of_mem_drop member

theorem IsSpent.exists_of_apply (spent : site.IsSpent topic partition offset cutoff key)
    (retains : topic.retention = some retention)
    (found : (site.apply event).replica.shards.find? partition = some left) :
    (∃ shard, site.replica.shards.find? partition = some shard ∧ shard.GoesOn left topic key) ∨
      site.replica.shards.contains partition = false ∧ offset ≤ left.offset ∧
        left.Holds topic key fun held => Upsert.sweep cutoff held = [] := by
  rcases site.apply_cases event with ⟨record, -, same⟩ | ⟨alive, -, same⟩ | ⟨phase, same⟩ |
    ⟨readings, -, same⟩ | ⟨now, swept, count, -, done, same⟩ <;> rw [same] at found
  · exact .inl ⟨left, found, .refl ..⟩
  · exact .inl ⟨left, found, .refl ..⟩
  · exact .inl ⟨left, found, .refl ..⟩
  · exact spent.exists_of_step retains found
  · obtain ⟨shard, held, removed⟩ := Replica.exists_of_sweep done (spent.serves ▸ retains) found
    rw [spent.serves] at removed
    exact .inl ⟨shard, held, Shard.goesOn_of_sweep removed⟩

theorem partition_apply (site : Site) (event : Event) (partition : Nat) :
    ∃ later, (site.apply event).log.partition partition = site.log.partition partition ++ later ∧
      ∀ record ∈ later, event = .append record := by
  rcases site.apply_cases event with ⟨record, rfl, same⟩ | ⟨alive, -, same⟩ | ⟨phase, same⟩ |
    ⟨readings, -, same⟩ | ⟨now, swept, count, -, done, same⟩ <;> rw [same]
  · refine ⟨_, Log.partition_append .., fun other member => ?_⟩
    split at member
    · rw [List.mem_singleton.1 member]
    · contradiction
  all_goals exact ⟨[], (List.append_nil _).symm, nofun⟩

theorem IsSpent.apply (spent : site.IsSpent topic partition offset cutoff key)
    (retains : topic.retention = some retention)
    (unrenewed : ∀ record, event = .append record → record.key = key → record.value = none) :
    (site.apply event).IsSpent topic partition offset cutoff key := by
  obtain ⟨later, grown, appended⟩ := site.partition_apply event partition
  have nothing : Record.GiveNothing key later := fun record member =>
    unrenewed record (appended record member)
  refine ⟨spent.reached.run [event], (sameSetting_apply site event).topic.trans spent.serves,
    ?_, ?_, ?_, fun left found => ?_⟩
  · rw [grown, List.length_append]
    exact Nat.le_trans spent.within (Nat.le_add_right ..)
  · rw [grown, List.drop_append_of_le_length spent.within]
    intro record member
    exact (List.mem_append.1 member).elim (spent.idle record) (nothing record)
  · rw [grown]
    rcases topic.kept_append_cases nothing (site.log.partition partition) with same | same
    · rw [same, Upsert.sweep_nil]
    · rw [same, spent.expired]
  · rcases spent.exists_of_apply retains found with ⟨shard, held, onward⟩ | ⟨-, beyond, -⟩
    · exact Nat.le_trans (spent.shards shard held) onward.offset
    · exact beyond

/-- An event lets a replica hold a partition that it did not hold. -/
def TakesOver (site : Site) (partition : Nat) (event : Event) : Prop :=
  site.replica.shards.contains partition = false ∧
    (site.apply event).replica.shards.contains partition = true

/-- Behind each event that takes a partition over comes a sweep that is not earlier than a
time. -/
def SweepsAgain (site : Site) (partition latest : Nat) (events : List Event) : Prop :=
  ∀ first event second, events = first ++ event :: second →
    (site.run first).TakesOver partition event → ∃ time, latest ≤ time ∧ .sweep time ∈ second

/-- Shards of a partition hold of a key one of some lists of values. -/
def Holds (site : Site) (topic : Topic) (partition : Nat) (key : Bytes)
    (fits : List Upsert → Prop) : Prop :=
  ∀ shard, site.replica.shards.find? partition = some shard → shard.Holds topic key fits

/-- An event that takes the partition over brings back what has expired; no other event does. -/
theorem IsSpent.holds_apply (spent : site.IsSpent topic partition offset cutoff key)
    (retains : topic.retention = some retention)
    (expired : site.Holds topic partition key fun held => Upsert.sweep cutoff held = []) :
    (site.apply event).Holds topic partition key fun held => Upsert.sweep cutoff held = [] := by
  intro left found
  rcases spent.exists_of_apply retains found with ⟨shard, held, onward⟩ | ⟨-, -, fresh⟩
  · exact onward.holds _ (Upsert.sweep_nil cutoff) (expired shard held)
  · exact fresh

theorem IsSpent.holds_nil_apply (spent : site.IsSpent topic partition offset cutoff key)
    (retains : topic.retention = some retention)
    (missing : site.Holds topic partition key (· = []))
    (kept : ¬ site.TakesOver partition event) :
    (site.apply event).Holds topic partition key (· = []) := by
  intro left found
  rcases spent.exists_of_apply retains found with ⟨shard, held, onward⟩ | ⟨absent, -⟩
  · exact onward.holds _ rfl (missing shard held)
  · refine absurd ⟨absent, ?_⟩ kept
    rw [SortedMap.contains, found]
    rfl

theorem Reached.holds_nil_sweep (reached : site.Reached) (serves : site.replica.topic = topic)
    (retains : topic.retention = some retention) {earlier time : Nat} (late : earlier ≤ time)
    (expired : site.Holds topic partition key fun held =>
      Upsert.sweep (expiryLimit retention earlier) held = []) :
    (site.apply (.sweep time)).Holds topic partition key (· = []) := by
  subst serves
  obtain ⟨swept, count, done⟩ := reached.exists_sweep retains time
  have applied : site.apply (.sweep time) = { site with replica := swept } := by
    rw [Site.apply, done]
  rw [applied]
  intro left found
  obtain ⟨shard, held, removed⟩ := Replica.exists_of_sweep done retains found
  exact (expired shard held).sweep_late (expiryLimit_mono retention late) removed

/-- Behind a late sweep a key stays away, unless records give it a value again or the partition is
taken over and not swept again. -/
theorem IsSpent.holds_nil_run {latest : Nat} {later : List Event}
    (spent : site.IsSpent topic partition offset (expiryLimit retention latest) key)
    (retains : topic.retention = some retention)
    (unrenewed : ∀ record, Event.append record ∈ later → record.key = key → record.value = none)
    (again : site.SweepsAgain partition latest later)
    (expired : site.Holds topic partition key fun held =>
      Upsert.sweep (expiryLimit retention latest) held = [])
    (swept : site.Holds topic partition key (· = []) ∨
      ∃ time, latest ≤ time ∧ .sweep time ∈ later) :
    (site.run later).Holds topic partition key (· = []) := by
  induction later generalizing site with
  | nil => exact swept.resolve_right nofun
  | cons event rest ih =>
    have next := spent.apply retains fun record same => unrenewed record (same ▸ .head _)
    refine ih next (fun record member => unrenewed record (.tail _ member)) ?_
      (spent.holds_apply retains expired) ?_
    · rintro first event second rfl
      exact again (_ :: first) event second rfl
    · by_cases taken : site.TakesOver partition event
      · exact .inr (again [] event rest rfl taken)
      rcases swept with missing | ⟨time, late, member⟩
      · exact .inl (spent.holds_nil_apply retains missing taken)
      · rcases List.mem_cons.1 member with rfl | member
        · exact .inl (spent.reached.holds_nil_sweep spent.serves retains late expired)
        · exact .inr ⟨time, late, member⟩

structure Drops (site : Site) (now partition : Nat) (key : Bytes) (shard : Shard) : Prop where
  held : site.replica.shards.find? partition = some shard
  given : shard.contents.point.contains key = true
  removed : ∃ left, (site.apply (.sweep now)).replica.shards.find? partition = some left ∧
    left.contents.point.contains key = false

variable {shard : Shard} {latest now : Nat}

/-- What the shard held of the key before had expired by the time of the sweep. -/
theorem Drops.exists_expired (drops : site.Drops now partition key shard)
    (retains : site.replica.topic.retention = some retention) (reached : site.ReachedBy latest) :
    ∃ held, shard.contents.Shows site.replica.topic held ∧ held key ≠ [] ∧
      Upsert.sweep (expiryLimit retention now) (held key) = [] ∧
      site.replica.topic.MayHold (expiryLimit retention latest) (site.replica.topic.upserts key
        ((site.log.partition partition).take shard.offset)) (held key) := by
  obtain ⟨left, found, gone⟩ := drops.removed
  obtain ⟨swept, count, done⟩ := reached.reached.exists_sweep retains now
  have applied : site.apply (.sweep now) = { site with replica := swept } := by
    rw [Site.apply, done]
  rw [applied] at found
  obtain ⟨other, same, removed⟩ := Replica.exists_of_sweep done retains found
  obtain rfl := Option.some.inj (drops.held.symm.trans same)
  obtain ⟨held, shows, may⟩ :=
    ((reached.tracks retains).shards partition shard drops.held).contents
  obtain ⟨contents, swept, shown⟩ := shows.sweep (expiryLimit retention now)
  obtain rfl := Except.ok.inj (swept.symm.trans (Shard.sweep_eq_ok_iff.1 removed).1)
  have given := drops.given
  rw [shows.contains_point, Bool.not_eq_true', List.isEmpty_eq_false_iff] at given
  rw [shown.contains_point, Bool.not_eq_false', List.isEmpty_iff] at gone
  exact ⟨held, shows, given, gone, may key⟩

theorem Drops.isSpent (drops : site.Drops now partition key shard)
    (retains : site.replica.topic.retention = some retention) (reached : site.ReachedBy latest)
    (before : now ≤ latest)
    (consumed : Record.GiveNothing key ((site.log.partition partition).drop shard.offset)) :
    site.IsSpent site.replica.topic partition shard.offset (expiryLimit retention latest) key := by
  obtain ⟨held, -, given, expired, may⟩ := drops.exists_expired retains reached
  refine ⟨reached.reached, rfl, ((reached.tracks retains).shards partition shard drops.held).offset,
    consumed, ?_, fun other found => ?_⟩
  · have whole := site.replica.topic.kept_append_cases consumed
      ((site.log.partition partition).take shard.offset)
    rw [List.take_append_drop] at whole
    rcases whole with same | same <;> rw [same]
    · exact Upsert.sweep_nil _
    · exact may.sweep_kept given
        (Upsert.sweep_of_sweep_eq_nil expired (expiryLimit_mono retention before))
  · obtain rfl := Option.some.inj (drops.held.symm.trans found)
    exact Nat.le_refl _

theorem Drops.holds_nil (drops : site.Drops now partition key shard)
    (retains : site.replica.topic.retention = some retention) (reached : site.ReachedBy latest) :
    (site.apply (.sweep now)).Holds site.replica.topic partition key (· = []) := by
  refine reached.reached.holds_nil_sweep rfl retains (Nat.le_refl now) fun other found => ?_
  obtain ⟨held, shows, -, expired, -⟩ := drops.exists_expired retains reached
  obtain rfl := Option.some.inj (drops.held.symm.trans found)
  exact ⟨held, shows, expired⟩

theorem Reached.holds_nil_of_place (reached : site.Reached)
    (retains : site.replica.topic.retention = some retention)
    (foreign : site.log.place key ≠ partition) :
    site.Holds site.replica.topic partition key (· = []) := by
  obtain ⟨now, reached⟩ := reached.exists_reachedBy
  intro shard found
  refine ((reached.tracks retains).shards partition shard found).holds_nil ?_
  have foreigners : ((site.log.partition partition).take shard.offset).filter
      (fun record => record.key = key) = [] := by
    rw [List.filter_eq_nil_iff]
    intro record member own
    have placed := of_decide_eq_true (List.mem_filter.1 (List.mem_of_mem_take member)).2
    rw [of_decide_eq_true own] at placed
    exact foreign placed
  simp [Topic.upserts, foreigners]

theorem Drops.place_eq (drops : site.Drops now partition key shard) (reached : site.Reached)
    (retains : site.replica.topic.retention = some retention) :
    site.log.place key = partition := by
  by_cases own : site.log.place key = partition
  · exact own
  have given := drops.given
  rw [(reached.holds_nil_of_place retains own shard drops.held).not_contains] at given
  contradiction

end Site

namespace Replica

/-- No read finds a value of a key, neither at the key nor between any bounds. -/
structure Lacks (replica : Replica) (key : Bytes) : Prop where
  point : ∀ partition value, replica.readPoint partition key ≠ .ok (some value)
  range : ∀ decoded : replica.topic.keyType.Key, replica.topic.keyType.encode decoded = key →
    ∀ partition lower upper bounds values, replica.rangeBounds decoded lower upper = .ok bounds →
      replica.readRange partition bounds.1 bounds.2 = .ok values → values = []

theorem lacks_of_not_contains {replica : Replica} {key : Bytes}
    (reachable : replica.HoldsReachable)
    (gone : ∀ partition shard, replica.shards.find? partition = some shard →
      shard.contents.point.contains key = false) : replica.Lacks key where
  point partition value read := by
    obtain ⟨shard, readable, found⟩ := Failure.exists_of_bind read
    have missing := gone partition shard (find?_of_readable readable)
    rw [SortedMap.contains, Except.ok.inj found] at missing
    contradiction
  range decoded same partition lower upper bounds values bounded read := by
    obtain ⟨shard, readable, found⟩ := Failure.exists_of_bind read
    have held := find?_of_readable readable
    have missing := gone partition shard held
    unfold rangeBounds at bounded
    split at bounded
    · contradiction
    · next field indexed =>
      have scans := ((reachable partition shard held).isCoherent indexed).scansWhatIsThere
      rw [← Except.ok.inj found]
      exact scans.gone decoded lower upper bounds (same ▸ missing) bounded

end Replica

namespace Site

variable {site : Site} {partition retention latest now : Nat} {key : Bytes} {shard : Shard}

/-- Once a sweep has removed a key, no later read finds a value of it, unless a record gives it one
that the shard had not taken in by then, or the partition is taken over afresh and not swept again
as late as ever before. -/
theorem swept_key_stays_away (retains : site.replica.topic.retention = some retention)
    (reached : site.ReachedBy latest) (before : now ≤ latest)
    (drops : site.Drops now partition key shard)
    (consumed : Record.GiveNothing key ((site.log.partition partition).drop shard.offset))
    {later : List Event}
    (unrenewed : ∀ record, Event.append record ∈ later → record.key = key → record.value = none)
    (again : (site.apply (.sweep now)).SweepsAgain partition latest later) :
    ((site.apply (.sweep now)).run later).replica.Lacks key := by
  have setting := sameSetting_run site (.sweep now :: later)
  have spent : (site.apply (.sweep now)).IsSpent _ partition _ _ key :=
    (drops.isSpent retains reached before consumed).apply retains nofun
  have missing := drops.holds_nil retains reached
  have expired : (site.apply (.sweep now)).Holds site.replica.topic partition key fun held =>
      Upsert.sweep (expiryLimit retention latest) held = [] := fun left found =>
    (missing left found).mono fun values nothing => by rw [nothing, Upsert.sweep_nil]
  have away := spent.holds_nil_run retains unrenewed again expired (.inl missing)
  have placed := drops.place_eq reached.reached retains
  rw [Log.place, ← setting.partitions, ← setting.finder, ← Log.place] at placed
  rw [← setting.topic] at retains
  have final := reached.reached.run (.sweep now :: later)
  refine Replica.lacks_of_not_contains final.holdsReachable fun other left found => ?_
  by_cases own : other = partition
  · subst own
    exact (away left found).not_contains
  · exact (final.holds_nil_of_place retains (placed ▸ Ne.symm own) left found).not_contains

theorem contains_apply_sweep (site : Site) (time partition : Nat) :
    (site.apply (.sweep time)).replica.shards.contains partition =
      site.replica.shards.contains partition := by
  simp only [apply]
  split
  · next swept count done =>
    cases retains : site.replica.topic.retention with
    | none =>
      rw [Replica.sweep_of_lasting retains] at done
      cases done
      rfl
    | some retention => exact Replica.contains_sweep done retains partition
  · rfl

theorem sweepsAgain_append_sweep (site : Site) (partition : Nat) (events : List Event) {time : Nat}
    (late : latest ≤ time) : site.SweepsAgain partition latest (events ++ [.sweep time]) := by
  intro first event second same taken
  rcases List.eq_nil_or_concat second with rfl | ⟨between, last, rfl⟩
  · obtain ⟨rfl, last⟩ := List.append_inj' same rfl
    obtain rfl := List.head_eq_of_cons_eq last
    obtain ⟨missing, held⟩ := taken
    rw [contains_apply_sweep, missing] at held
    contradiction
  · rw [List.concat_eq_append, ← List.cons_append, ← List.append_assoc] at same
    have last := List.head_eq_of_cons_eq (List.append_inj' same rfl).2
    exact ⟨time, late, by rw [last, List.concat_eq_append]; simp⟩

/-- A replica that alone has taken in a value of a key, which is to expire soon. -/
def expiring : Site :=
  (start ⟨"t", .string, .string, .mutable, none, some 10⟩ ⟨1, 0, .murmur⟩ ⟨lone, [lone]⟩ 1).run
    [.append ⟨Utf8.encode "k", some (Utf8.encode "v"), 1⟩, .step]

/-- Another member comes, takes over the only partition, and leaves again. -/
def absence : List Event :=
  [.members [.fixed "a" ⟨.v4 0x7F000001, 81, 0⟩], .step, .members [lone], .step]

theorem exists_drops {site : Site} {now partition : Nat} {key : Bytes}
    (given : (site.replica.shards.find? partition).map (·.contents.point.contains key) = some true)
    (gone : ((site.apply (.sweep now)).replica.shards.find? partition).map
      (·.contents.point.contains key) = some false) :
    ∃ shard, site.Drops now partition key shard := by
  obtain ⟨shard, held, given⟩ := Option.map_eq_some_iff.1 given
  obtain ⟨left, found, missing⟩ := Option.map_eq_some_iff.1 gone
  exact ⟨shard, held, given, left, found, missing⟩

/-- The partition is given up and taken over again, and then swept. -/
theorem swept_key_stays_away_absent :
    let swept := expiring.apply (.sweep 50)
    (swept.run (absence.take 2)).replica.shards.contains 0 = false ∧
      (swept.run (absence ++ [.sweep 60])).replica.shards.contains 0 = true ∧
      (swept.run (absence ++ [.sweep 60])).replica.Lacks (Utf8.encode "k") := by
  refine ⟨by decide +kernel, by decide +kernel, ?_⟩
  obtain ⟨shard, drops⟩ : ∃ shard, expiring.Drops 50 0 (Utf8.encode "k") shard :=
    exists_drops (by decide +kernel) (by decide +kernel)
  have retains : expiring.replica.topic.retention = some 10 :=
    congrArg Topic.retention (sameSetting_run _ _).topic
  have reached : expiring.ReachedBy 50 := ⟨_, _, _, _, _, by simp, rfl⟩
  have seen : (expiring.replica.shards.find? 0).map (·.offset) = some 1 := by decide +kernel
  rw [drops.held] at seen
  have offset : shard.offset = 1 := Option.some.inj seen
  have consumed : (expiring.log.partition 0).drop 1 = [] := by decide +kernel
  refine swept_key_stays_away retains reached (Nat.le_refl 50) drops ?_ (by simp [absence])
    (sweepsAgain_append_sweep _ _ _ (by decide))
  rw [offset, consumed]
  nofun

/-- Without the last sweep the key has its value again, and it gets a value that was appended
before the sweep and taken in behind it. -/
theorem swept_key_comes_back :
    let key := Utf8.encode "k"
    let renewed := expiring.apply (.append ⟨key, some (Utf8.encode "w"), 2⟩)
    ((∃ shard, expiring.Drops 50 0 key shard) ∧ (∀ record, .append record ∉ absence) ∧
        (((expiring.apply (.sweep 50)).run absence).replica.readPoint 0 key).toOption =
          some (some (Utf8.encode "v"))) ∧
      (∃ shard, renewed.Drops 50 0 key shard) ∧
        (((renewed.apply (.sweep 50)).run [.step]).replica.readPoint 0 key).toOption =
          some (some (Utf8.encode "w")) :=
  ⟨⟨exists_drops (by decide +kernel) (by decide +kernel), by simp [absence], by decide +kernel⟩,
    exists_drops (by decide +kernel) (by decide +kernel), by decide +kernel⟩

end Site

end ShardedView
