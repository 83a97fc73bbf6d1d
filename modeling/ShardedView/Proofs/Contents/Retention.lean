import ShardedView.Proofs.Contents.RangeRead
import ShardedView.Proofs.Contents.Upserts

/-!
The content of a partition under retention: what it holds of each key, which records
and sweeps change, and what may be left after them.
-/

namespace ShardedView

namespace Topic

variable {topic : Topic} {key value : Bytes}

theorem exists_decode_of_takes (taken : topic.takes key value = true) {field : RangeField}
    (indexed : topic.rangeField = some field) :
    ∃ decoded, topic.keyType.decode key = .ok decoded := by
  rw [takes, indexed] at taken
  cases read : topic.keyType.decode key with
  | ok decoded => exact ⟨decoded, rfl⟩
  | error failure => simp [read, Except.isOk, Except.toBool] at taken

end Topic

namespace Contents

variable {contents : Contents} {topic : Topic} {held : Bytes → List Upsert}

/-- The content shows the values that are held of each key: the last one, when it was
given, and under the index keys of the key the last one for each integer. -/
structure Shows (contents : Contents) (topic : Topic) (held : Bytes → List Upsert) : Prop where
  taken : ∀ key, ∀ upsert ∈ held key, topic.takes key upsert.value = true
  point : ∀ key, contents.point.find? key = (held key).getLast?.map Upsert.value
  inserted : ∀ key, contents.inserted.find? key = (held key).getLast?.map Upsert.time
  composed : ∀ index, contents.range.contains index = true → ∃ field key number padded,
    topic.rangeField = some field ∧ field.type.pad number = .ok padded ∧
      index = RangeIndex.compose topic.keyType key padded
  latest : ∀ field, topic.rangeField = some field → ∀ key number padded,
    field.type.pad number = .ok padded →
      contents.range.find? (RangeIndex.compose topic.keyType key padded) =
        Upsert.latest? (held (topic.keyType.encode key)) field topic.valueType number

theorem empty_shows (topic : Topic) : empty.Shows topic fun _ => [] :=
  ⟨fun _ _ => nofun, fun _ => rfl, fun _ => rfl, fun _ => nofun, fun _ _ _ _ _ _ => rfl⟩

theorem Shows.contains_point (shows : contents.Shows topic held) (key : Bytes) :
    contents.point.contains key = !(held key).isEmpty := by
  rw [SortedMap.contains, shows.point, Option.isSome_map]
  cases held key <;> rfl

theorem Shows.remove (shows : contents.Shows topic held) (key : Bytes) :
    (contents.remove topic key).1.Shows topic fun other =>
      if other = key then [] else held other := by
  have taken : ∀ other, ∀ upsert ∈ (if other = key then [] else held other),
      topic.takes other upsert.value = true := by
    intro other upsert member
    split at member
    · contradiction
    · exact shows.taken other upsert member
  have point : ∀ other, (contents.point.erase key).find? other =
      (if other = key then [] else held other).getLast?.map Upsert.value := by
    intro other
    rw [SortedMap.find?_erase, shows.point]
    split <;> rfl
  have inserted : ∀ other, (contents.inserted.erase key).find? other =
      (if other = key then [] else held other).getLast?.map Upsert.time := by
    intro other
    rw [SortedMap.find?_erase, shows.inserted]
    split <;> rfl
  unfold Contents.remove
  split
  · next plain =>
    refine ⟨taken, point, inserted, shows.composed, fun field indexed => ?_⟩
    rw [plain] at indexed
    contradiction
  · next field indexed =>
    split
    · next failure unread =>
      refine ⟨taken, point, inserted, shows.composed,
        fun field indexed other number padded done => ?_⟩
      have foreign : topic.keyType.encode other ≠ key := by
        rintro rfl
        rw [KeyType.decode_encode] at unread
        contradiction
      rw [if_neg foreign, shows.latest field indexed other number padded done]
    · next removed decoded =>
      refine ⟨taken, point, inserted, fun index found => ?_,
        fun field indexed other number padded done => ?_⟩
      · rw [SortedMap.contains, SortedMap.find?_eraseStem] at found
        split at found
        · contradiction
        · exact shows.composed index found
      · rw [SortedMap.find?_eraseStem, RangeIndex.hasStem_compose,
          shows.latest field indexed other number padded done, ← KeyType.encode_of_decode decoded]
        by_cases same : removed = other
        · subst same
          simp [Upsert.latest?]
        · have foreign : topic.keyType.encode other ≠ topic.keyType.encode removed := fun equal =>
            same (KeyType.encode_injective equal).symm
          simp [same, foreign]

theorem Shows.of_same {same : Bytes → List Upsert} (shows : contents.Shows topic held)
    (equal : ∀ key, same key = held key) : contents.Shows topic same :=
  funext equal ▸ shows

theorem index_cases_of_takes (contents : Contents) (topic : Topic) (key value : Bytes) :
    (topic.takes key value = false ∧ ∃ failure, contents.index topic key value = .error failure) ∨
    topic.takes key value = true ∧
      (topic.rangeField = none ∧ contents.index topic key value = .ok contents.range ∨
      ∃ field decoded number padded, topic.rangeField = some field ∧
        topic.keyType.decode key = .ok decoded ∧
        field.of? topic.valueType value = some number ∧ field.type.pad number = .ok padded ∧
        contents.index topic key value =
          .ok (contents.range.insert (RangeIndex.compose topic.keyType decoded padded) value)) := by
  cases indexed : topic.rangeField with
  | none => exact .inr ⟨by rw [Topic.takes, indexed], .inl ⟨rfl, by rw [index, indexed]⟩⟩
  | some field =>
    rcases contents.index_cases topic key value indexed with
      ⟨failure, failed, ⟨cause, unread⟩ | unfit⟩ |
      ⟨decoded, number, padded, read, fit, done, stored⟩
    · refine .inl ⟨?_, failure, failed⟩
      simp [Topic.takes, indexed, unread, Except.isOk, Except.toBool]
    · refine .inl ⟨?_, failure, failed⟩
      simp [Topic.takes, indexed, unfit]
    · refine .inr ⟨?_, .inr ⟨field, decoded, number, padded, rfl, read, fit, done, stored⟩⟩
      simp [Topic.takes, indexed, read, fit, Except.isOk, Except.toBool]

theorem takes_eq_isOk_index (contents : Contents) (topic : Topic) (key value : Bytes) :
    topic.takes key value = (contents.index topic key value).isOk := by
  rcases contents.index_cases_of_takes topic key value with
    ⟨unfit, failure, failed⟩ | ⟨fit, ⟨-, stored⟩ | ⟨_, _, _, _, -, -, -, -, stored⟩⟩
  · rw [unfit, failed]
    rfl
  · rw [fit, stored]
    rfl
  · rw [fit, stored]
    rfl

/-- A value that can be taken in comes behind those that are held of its key. -/
theorem Shows.put (shows : contents.Shows topic held) {key value : Bytes} {range}
    (stored : contents.index topic key value = .ok range) (time : Nat) :
    Shows ⟨contents.point.insert key value, range, contents.inserted.insert key time⟩ topic
      fun other => if other = key then held key ++ [⟨value, time⟩] else held other := by
  have point : ∀ other, (contents.point.insert key value).find? other =
      (if other = key then held key ++ [⟨value, time⟩] else held other).getLast?.map
        Upsert.value := by
    intro other
    rw [SortedMap.find?_insert, shows.point]
    split <;> simp
  have inserted : ∀ other, (contents.inserted.insert key time).find? other =
      (if other = key then held key ++ [⟨value, time⟩] else held other).getLast?.map
        Upsert.time := by
    intro other
    rw [SortedMap.find?_insert, shows.inserted]
    split <;> simp
  have taken : topic.takes key value = true → ∀ other,
      ∀ upsert ∈ (if other = key then held key ++ [⟨value, time⟩] else held other),
        topic.takes other upsert.value = true := by
    intro fit other upsert member
    split at member
    · next own =>
      subst own
      rcases List.mem_append.1 member with member | member
      · exact shows.taken other upsert member
      · rwa [List.mem_singleton.1 member]
    · exact shows.taken other upsert member
  rcases contents.index_cases_of_takes topic key value with
    ⟨-, failure, failed⟩ |
    ⟨fit, ⟨plain, same⟩ | ⟨field, decoded, number, padded, indexed, read, given, done, same⟩⟩
  · rw [failed] at stored
    contradiction
  · obtain rfl := Except.ok.inj (same.symm.trans stored)
    refine ⟨taken fit, point, inserted, shows.composed, fun field indexed => ?_⟩
    rw [plain] at indexed
    contradiction
  · obtain rfl := Except.ok.inj (same.symm.trans stored)
    refine ⟨taken fit, point, inserted, fun index found => ?_,
      fun own same other third final last => ?_⟩
    · rw [SortedMap.contains_insert, Bool.or_eq_true, decide_eq_true_iff] at found
      rcases found with rfl | found
      · exact ⟨field, decoded, number, padded, indexed, done, rfl⟩
      · exact shows.composed index found
    · obtain rfl := Option.some.inj (indexed.symm.trans same)
      obtain rfl := KeyType.encode_of_decode read
      simp only [SortedMap.find?_insert, RangeIndex.compose_inj,
        shows.latest field indexed other third final last]
      by_cases equal : other = decoded
      · subst equal
        rw [if_pos rfl, Upsert.latest?_append_singleton, Upsert.isAt, given]
        by_cases alike : number = third
        · subst alike
          have rendered : final = padded := Except.ok.inj (last.symm.trans done)
          simp [rendered]
        · have apart : final ≠ padded := fun rendered =>
            alike (RangeType.eq_of_pad done (rendered ▸ last))
          simp [apart, alike]
      · have foreign : topic.keyType.encode other ≠ topic.keyType.encode decoded := fun same =>
          equal (KeyType.encode_injective same)
        rw [if_neg foreign, if_neg fun same => equal same.1]

theorem Shows.store {record : Record} {value : Bytes} (shows : contents.Shows topic held)
    (retains : topic.retention.isSome = true) (given : record.value = some value) :
    (contents.store topic record.key value record.timestamp).1.Shows topic fun key =>
      if key = record.key then topic.heldAfter record (held key) else held key := by
  have after : topic.heldAfter record (held record.key) =
      if topic.writeType = .immutable && contents.point.contains record.key then held record.key
      else if topic.takes record.key value then
        held record.key ++ [⟨value, record.timestamp⟩]
      else held record.key := by
    rw [Topic.heldAfter, given, shows.contains_point]
  have unchanged : topic.heldAfter record (held record.key) = held record.key →
      contents.Shows topic fun key =>
        if key = record.key then topic.heldAfter record (held key) else held key := by
    intro same
    refine shows.of_same fun key => ?_
    split
    · next own => rw [own, same]
    · rfl
  unfold Contents.store
  split
  case isTrue shut => exact unchanged (after.trans (if_pos shut))
  case isFalse free =>
    rw [if_neg free] at after
    split
    · next failure failed =>
      rw [contents.takes_eq_isOk_index, failed] at after
      exact unchanged after
    · next range stored =>
      rw [contents.takes_eq_isOk_index, stored] at after
      refine (shows.put stored record.timestamp).of_same fun key => ?_
      split
      · next own =>
        rw [own, after]
        rfl
      · rfl

theorem Shows.process (shows : contents.Shows topic held)
    (retains : topic.retention.isSome = true) (record : Record) :
    (contents.process topic record).1.Shows topic fun key =>
      if key = record.key then topic.heldAfter record (held key) else held key := by
  unfold Contents.process
  split
  · next removal =>
    refine (shows.remove record.key).of_same fun key => ?_
    rw [Topic.heldAfter, removal]
  · next value given => exact shows.store retains given

theorem Shows.processAll (shows : contents.Shows topic held)
    (retains : topic.retention.isSome = true) (records : List Record) :
    (contents.processAll topic records).Shows topic fun key =>
      topic.heldAfterAll key records (held key) := by
  induction records generalizing contents held with
  | nil => exact shows
  | cons record rest ih => exact ih (shows.process retains record)

theorem Shows.removeAll (shows : contents.Shows topic held) {keys : List Bytes}
    (given : ∀ key ∈ keys, ∃ value, topic.takes key value = true) :
    ∃ left, contents.removeAll topic keys = .ok left ∧
      left.Shows topic fun key => if key ∈ keys then [] else held key := by
  induction keys generalizing contents held with
  | nil => exact ⟨contents, rfl, shows.of_same fun key => rfl⟩
  | cons key rest ih =>
    obtain ⟨value, taken⟩ := given key (.head _)
    have done : (contents.remove topic key).2 = none := by
      unfold Contents.remove
      cases indexed : topic.rangeField with
      | none => rfl
      | some field =>
        obtain ⟨decoded, read⟩ := Topic.exists_decode_of_takes taken indexed
        simp only [read]
    obtain ⟨left, removed, shown⟩ :=
      ih (shows.remove key) fun key member => given key (.tail _ member)
    refine ⟨left, ?_, shown.of_same fun other => ?_⟩
    · rw [Contents.removeAll, ← Prod.eta (contents.remove topic key), done]
      exact removed
    · by_cases own : other = key <;> simp [own]

theorem Shows.mem_expired_iff (shows : contents.Shows topic held) {cutoff : Nat} {key : Bytes} :
    key ∈ contents.expired cutoff ↔ (held key).getLast?.any (Upsert.isExpired cutoff) = true := by
  rw [Contents.expired, ← SortedMap.contains_eq_true_iff, SortedMap.contains,
    SortedMap.find?_filter, shows.inserted]
  cases (held key).getLast? with
  | none => rfl
  | some last => simp [Upsert.isExpired, Option.filter]

theorem Shows.sweep (shows : contents.Shows topic held) (cutoff : Nat) :
    ∃ left, contents.removeAll topic (contents.expired cutoff) = .ok left ∧
      left.Shows topic fun key => Upsert.sweep cutoff (held key) := by
  have given : ∀ key ∈ contents.expired cutoff, ∃ value, topic.takes key value = true := by
    intro key member
    obtain ⟨last, ends, -⟩ := (Option.any_eq_true ..).1 (shows.mem_expired_iff.1 member)
    exact ⟨last.value, shows.taken key last (List.mem_of_getLast? ends)⟩
  obtain ⟨left, removed, shown⟩ := shows.removeAll given
  refine ⟨left, removed, shown.of_same fun key => ?_⟩
  simp only [Upsert.sweep, shows.mem_expired_iff]

/-- What a content may be that has taken in records, where keys were dropped that had
expired by then. -/
def Retains (contents : Contents) (topic : Topic) (cutoff : Nat) (records : List Record) : Prop :=
  ∃ held, contents.Shows topic held ∧
    ∀ key, topic.MayHold cutoff (topic.upserts key records) (held key)

variable {cutoff : Nat} {records : List Record}

theorem empty_retains (topic : Topic) (cutoff : Nat) : empty.Retains topic cutoff [] :=
  ⟨_, empty_shows topic, fun _ => topic.mayHold_nil cutoff⟩

theorem Retains.process (retained : contents.Retains topic cutoff records)
    (retains : topic.retention.isSome = true) (record : Record) :
    (contents.process topic record).1.Retains topic cutoff (records ++ [record]) := by
  obtain ⟨held, shows, may⟩ := retained
  refine ⟨_, shows.process retains record, fun key => ?_⟩
  split
  · next own => exact (may key).after own.symm
  · next other =>
    rw [Topic.upserts_append_other (Ne.symm other)]
    exact may key

theorem Retains.processAll (retained : contents.Retains topic cutoff records)
    (retains : topic.retention.isSome = true) (later : List Record) :
    (contents.processAll topic later).Retains topic cutoff (records ++ later) := by
  induction later generalizing contents records with
  | nil => rwa [List.append_nil]
  | cons record rest ih =>
    rw [← List.singleton_append, ← List.append_assoc]
    exact ih (retained.process retains record)

theorem Retains.sweep (retained : contents.Retains topic cutoff records) {earlier : Nat}
    (before : earlier ≤ cutoff) :
    ∃ left, contents.removeAll topic (contents.expired earlier) = .ok left ∧
      left.Retains topic cutoff records := by
  obtain ⟨held, shows, may⟩ := retained
  obtain ⟨left, removed, shown⟩ := shows.sweep earlier
  exact ⟨left, removed, _, shown, fun key => (may key).sweep before⟩

/-- After a last sweep two contents that have taken in the same records are equal,
wherever that does not depend on earlier sweeps. -/
theorem Retains.last_sweep {other left right : Contents}
    (retained : contents.Retains topic cutoff records)
    (otherRetained : other.Retains topic cutoff records)
    (removed : contents.removeAll topic (contents.expired cutoff) = .ok left)
    (otherRemoved : other.removeAll topic (other.expired cutoff) = .ok right) :
    (∀ key, topic.Settles cutoff (topic.upserts key records) →
      left.point.find? key = right.point.find? key) ∧
    ∀ index, topic.SettlesIndex index cutoff records →
      left.range.find? index = right.range.find? index := by
  obtain ⟨held, shows, may⟩ := retained
  obtain ⟨otherHeld, otherShows, otherMay⟩ := otherRetained
  obtain ⟨swept, same, shown⟩ := shows.sweep cutoff
  obtain rfl := Except.ok.inj (same.symm.trans removed)
  obtain ⟨otherSwept, otherSame, otherShown⟩ := otherShows.sweep cutoff
  obtain rfl := Except.ok.inj (otherSame.symm.trans otherRemoved)
  refine ⟨fun key settles => ?_, fun index settles => ?_⟩
  · rw [shown.point, otherShown.point, (may key).getLast?_sweep settles,
      (otherMay key).getLast?_sweep settles]
  · by_cases composed : ∃ field key number padded, topic.rangeField = some field ∧
        field.type.pad number = .ok padded ∧
        index = RangeIndex.compose topic.keyType key padded
    · obtain ⟨field, key, number, padded, indexed, done, rfl⟩ := composed
      have settles := settles field indexed key number padded done rfl
      rw [shown.latest field indexed key number padded done,
        otherShown.latest field indexed key number padded done, (may _).latest?_sweep settles,
        (otherMay _).latest?_sweep settles]
    · have absent : swept.range.find? index = none :=
        Option.not_isSome_iff_eq_none.1 fun found => composed (shown.composed index found)
      have otherAbsent : otherSwept.range.find? index = none :=
        Option.not_isSome_iff_eq_none.1 fun found => composed (otherShown.composed index found)
      rw [absent, otherAbsent]

end Contents

end ShardedView
