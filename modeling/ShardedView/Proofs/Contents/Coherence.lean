import ShardedView.Proofs.Contents.Point
import ShardedView.Proofs.Contents.RangeRead
import ShardedView.Proofs.Failure
import ShardedView.Proofs.Replica.Retention

/-!
The three parts of a content keep to each other. They name their keys in different forms, and
records and sweeps change them one after another; but the index holds entries of keys that have a
value only, among them one for each such value, and the times are those of the same keys.
-/

namespace ShardedView

namespace Topic

def indexKey (topic : Topic) (field : RangeField) (key value : Bytes) : Except Failure String := do
  let decodedKey ← topic.keyType.decode key
  let record ← topic.valueType.decode value
  field.index topic.keyType decodedKey record

theorem exists_of_indexKey {topic : Topic} {field : RangeField} {key value : Bytes}
    {index : String} (done : topic.indexKey field key value = .ok index) :
    ∃ decoded number padded, topic.keyType.decode key = .ok decoded ∧
      field.of? topic.valueType value = some number ∧ field.type.pad number = .ok padded ∧
      index = RangeIndex.compose topic.keyType decoded padded := by
  obtain ⟨decoded, read, done⟩ := Failure.exists_of_bind done
  obtain ⟨record, readValue, done⟩ := Failure.exists_of_bind done
  obtain ⟨number, extracted, done⟩ := Failure.exists_of_bind done
  obtain ⟨padded, padding, done⟩ := Failure.exists_of_bind done
  refine ⟨decoded, number, padded, read, ?_, padding, (Except.ok.inj done).symm⟩
  exact RangeField.of?_eq_some_iff.2
    ⟨record, readValue, RangeField.extract_eq_ok_iff_holds.1 extracted⟩

/-- Two keys have no index key in common. -/
theorem eq_of_indexKey {topic : Topic} {field : RangeField} {key other value otherValue : Bytes}
    {index : String} (done : topic.indexKey field key value = .ok index)
    (otherDone : topic.indexKey field other otherValue = .ok index) : key = other := by
  obtain ⟨decoded, number, padded, read, -, -, rfl⟩ := exists_of_indexKey done
  obtain ⟨otherDecoded, _, _, otherRead, -, -, same⟩ := exists_of_indexKey otherDone
  obtain ⟨rfl, -⟩ := RangeIndex.compose_inj.1 same
  exact (KeyType.encode_of_decode read).symm.trans (KeyType.encode_of_decode otherRead)

end Topic

namespace Contents

variable {contents left : Contents} {topic : Topic} {field : RangeField}

theorem index_eq_map (contents : Contents) (indexed : topic.rangeField = some field)
    (key value : Bytes) :
    contents.index topic key value =
      (topic.indexKey field key value).map fun index => contents.range.insert index value := by
  simp only [index, indexed, Topic.indexKey, bind, Except.bind, pure, Except.pure, Except.map]
  cases topic.keyType.decode key with
  | error failure => rfl
  | ok decoded => cases topic.valueType.decode value <;> rfl

/-- Every entry of the index belongs to a key that has a value, every value of a key has its
entry, and the times are those of the keys that have a value, if keys expire. -/
structure IsCoherent (contents : Contents) (topic : Topic) (field : RangeField) : Prop where
  range : ∀ index value, contents.range.find? index = some value →
    ∃ key, contents.point.contains key = true ∧ topic.indexKey field key value = .ok index
  point : ∀ key value, contents.point.find? key = some value →
    ∃ index, topic.indexKey field key value = .ok index ∧
      contents.range.find? index = some value
  inserted : ∀ key, contents.inserted.contains key =
    (topic.retention.isSome && contents.point.contains key)

theorem empty_isCoherent (topic : Topic) (field : RangeField) :
    empty.IsCoherent topic field :=
  ⟨fun _ _ => nofun, fun _ _ => nofun, fun _ => by simp [empty]⟩

theorem IsCoherent.exists_decode (coherent : contents.IsCoherent topic field) {key : Bytes}
    (held : contents.point.contains key = true) :
    ∃ decoded, topic.keyType.decode key = .ok decoded := by
  obtain ⟨value, found⟩ := Option.isSome_iff_exists.1 held
  obtain ⟨index, done, -⟩ := coherent.point key value found
  obtain ⟨decoded, -, -, read, -⟩ := Topic.exists_of_indexKey done
  exact ⟨decoded, read⟩

/-! ### What records and sweeps do -/

theorem inserted_remove (contents : Contents) (topic : Topic) (key : Bytes) :
    (contents.remove topic key).1.inserted = contents.inserted.erase key := by
  unfold remove
  split
  · rfl
  · split <;> rfl

/-- The entries of a key go when it is removed, and those of other keys stay. -/
theorem find?_range_remove (contents : Contents) (indexed : topic.rangeField = some field)
    {key other value : Bytes} {index : String}
    (own : topic.indexKey field other value = .ok index) :
    (contents.remove topic key).1.range.find? index =
      if other = key then none else contents.range.find? index := by
  obtain ⟨owner, _, padded, ownerRead, -, -, rfl⟩ := Topic.exists_of_indexKey own
  simp only [remove, indexed]
  cases read : topic.keyType.decode key with
  | error failure =>
    rw [if_neg]
    rintro rfl
    rw [ownerRead] at read
    contradiction
  | ok decoded =>
    have same : decoded = owner ↔ other = key := by
      constructor
      · rintro rfl
        exact (KeyType.encode_of_decode ownerRead).symm.trans (KeyType.encode_of_decode read)
      · rintro rfl
        exact Except.ok.inj (read.symm.trans ownerRead)
    simp only [SortedMap.find?_eraseStem, RangeIndex.hasStem_compose, decide_eq_true_iff, same]

theorem IsCoherent.remove (coherent : contents.IsCoherent topic field)
    (indexed : topic.rangeField = some field) (key : Bytes) :
    (contents.remove topic key).1.IsCoherent topic field := by
  refine ⟨fun index value found => ?_, fun other value found => ?_, fun other => ?_⟩
  · have before : contents.range.find? index = some value :=
      (@range_process contents topic ⟨key, none, 0⟩ index value found).resolve_right nofun
    obtain ⟨other, held, done⟩ := coherent.range index value before
    rw [contents.find?_range_remove indexed done] at found
    refine ⟨other, ?_, done⟩
    rw [point_remove, SortedMap.contains, SortedMap.find?_erase, if_neg, ← SortedMap.contains, held]
    rintro rfl
    simp at found
  · rw [point_remove, SortedMap.find?_erase] at found
    split at found
    · contradiction
    · next foreign =>
      obtain ⟨index, done, entry⟩ := coherent.point other value found
      exact ⟨index, done, by rw [contents.find?_range_remove indexed done, if_neg foreign, entry]⟩
  · have before := coherent.inserted other
    simp only [inserted_remove, point_remove, SortedMap.contains, SortedMap.find?_erase] at before ⊢
    split
    · simp
    · exact before

/-- A value that the index takes has its entry then, and the values of other keys keep theirs. -/
theorem IsCoherent.put (coherent : contents.IsCoherent topic field) {key value : Bytes}
    {index : String} (own : topic.indexKey field key value = .ok index) (time : Nat) :
    IsCoherent ⟨contents.point.insert key value, contents.range.insert index value,
      if topic.retention.isSome then contents.inserted.insert key time else contents.inserted⟩
        topic field := by
  refine ⟨fun other entry found => ?_, fun other entry found => ?_, fun other => ?_⟩
  · simp only [SortedMap.find?_insert] at found
    split at found
    · next same =>
      obtain rfl := Option.some.inj found
      exact ⟨key, by simp [SortedMap.contains_insert], same ▸ own⟩
    · obtain ⟨owner, held, done⟩ := coherent.range other entry found
      exact ⟨owner, by simp [SortedMap.contains_insert, held], done⟩
  · simp only [SortedMap.find?_insert] at found ⊢
    split at found
    · next same =>
      obtain rfl := Option.some.inj found
      exact ⟨index, same ▸ own, if_pos rfl⟩
    · next foreign =>
      obtain ⟨place, done, held⟩ := coherent.point other entry found
      refine ⟨place, done, ?_⟩
      rw [if_neg fun same => foreign (Topic.eq_of_indexKey done (same ▸ own)), held]
  · have before := coherent.inserted other
    cases retains : topic.retention.isSome <;> simp_all [SortedMap.contains_insert]

theorem IsCoherent.store (coherent : contents.IsCoherent topic field)
    (indexed : topic.rangeField = some field) (key value : Bytes) (time : Nat) :
    (contents.store topic key value time).1.IsCoherent topic field := by
  unfold Contents.store
  split
  · exact coherent
  · rw [contents.index_eq_map indexed]
    cases own : topic.indexKey field key value with
    | error failure => exact coherent
    | ok index => exact coherent.put own time

theorem IsCoherent.process (coherent : contents.IsCoherent topic field)
    (indexed : topic.rangeField = some field) (record : Record) :
    (contents.process topic record).1.IsCoherent topic field := by
  unfold Contents.process
  split
  · exact coherent.remove indexed record.key
  · exact coherent.store indexed record.key _ record.timestamp

theorem removeAll_induction {motive : Contents → Prop} {keys : List Bytes}
    (initial : motive contents)
    (preserved : ∀ contents key, motive contents → motive (contents.remove topic key).1)
    (done : contents.removeAll topic keys = .ok left) : motive left := by
  induction keys generalizing contents with
  | nil => exact Except.ok.inj done ▸ initial
  | cons key rest ih =>
    have next := preserved contents key initial
    unfold removeAll at done
    split at done
    · contradiction
    · next contents removed =>
      rw [removed] at next
      exact ih next done

theorem exists_removeAll (contents : Contents) {keys : List Bytes}
    (readable : ∀ key ∈ keys, ∃ decoded, topic.keyType.decode key = .ok decoded) :
    ∃ left, contents.removeAll topic keys = .ok left := by
  induction keys generalizing contents with
  | nil => exact ⟨contents, rfl⟩
  | cons key rest ih =>
    obtain ⟨decoded, read⟩ := readable key (.head _)
    have done : (contents.remove topic key).2 = none := by
      simp only [remove, read]
      cases topic.rangeField <;> rfl
    obtain ⟨left, removed⟩ := ih (contents.remove topic key).1 fun key later =>
      readable key (.tail _ later)
    refine ⟨left, ?_⟩
    rw [removeAll, ← Prod.eta (contents.remove topic key), done]
    exact removed

theorem mem_expired_iff {cutoff : Nat} {key : Bytes} :
    key ∈ contents.expired cutoff ↔
      ∃ time, contents.inserted.find? key = some time ∧ time < cutoff := by
  rw [expired, ← SortedMap.contains_eq_true_iff, SortedMap.contains, SortedMap.find?_filter]
  cases contents.inserted.find? key <;> simp [Option.filter]

theorem contains_of_mem_expired {cutoff : Nat} {key : Bytes}
    (expired : key ∈ contents.expired cutoff) : contents.inserted.contains key = true := by
  obtain ⟨time, found, -⟩ := mem_expired_iff.1 expired
  exact Option.isSome_iff_exists.2 ⟨time, found⟩

theorem IsCoherent.exists_sweep (coherent : contents.IsCoherent topic field) (cutoff : Nat) :
    ∃ left, contents.removeAll topic (contents.expired cutoff) = .ok left := by
  refine contents.exists_removeAll fun key expired => coherent.exists_decode ?_
  have timed := contains_of_mem_expired expired
  rw [coherent.inserted, Bool.and_eq_true] at timed
  exact timed.2

/-! ### Scans -/

/-- Scans find what is there: nothing of a key that has no value, and the value of a key between
all bounds with its number between them. -/
structure ScansWhatIsThere (contents : Contents) (topic : Topic) (field : RangeField) : Prop where
  gone : ∀ (key : topic.keyType.Key) (lower upper : String) (bounds : String × String),
    contents.point.contains (topic.keyType.encode key) = false →
      field.bounds topic.keyType key lower upper = .ok bounds →
        contents.range.range bounds.1 bounds.2 = []
  there : ∀ (key : topic.keyType.Key) (value : Bytes),
    contents.point.find? (topic.keyType.encode key) = some value →
      ∃ number, field.of? topic.valueType value = some number ∧
        ∀ (lower upper : String) (first last : Int64) (bounds : String × String),
          Integer.read64 (Text.trim lower) = .ok first →
            Integer.read64 (Text.trim upper) = .ok last → first ≤ number → number ≤ last →
              field.bounds topic.keyType key lower upper = .ok bounds →
                value ∈ contents.range.range bounds.1 bounds.2

theorem exists_of_bounds {keyType : KeyType} {key : keyType.Key} {lower upper : String}
    {bounds : String × String} (done : field.bounds keyType key lower upper = .ok bounds) :
    ∃ lowerPadded upperPadded, field.type.padText lower = .ok lowerPadded ∧
      field.type.padText upper = .ok upperPadded ∧
      bounds = (RangeIndex.compose keyType key lowerPadded,
        RangeIndex.compose keyType key upperPadded) := by
  obtain ⟨lowerIndex, lowerDone, done⟩ := Failure.exists_of_bind done
  obtain ⟨upperIndex, upperDone, done⟩ := Failure.exists_of_bind done
  obtain ⟨lowerPadded, lowerPadding, lowerDone⟩ := Failure.exists_of_bind lowerDone
  obtain ⟨upperPadded, upperPadding, upperDone⟩ := Failure.exists_of_bind upperDone
  cases lowerDone
  cases upperDone
  cases done
  exact ⟨lowerPadded, upperPadded, lowerPadding, upperPadding, rfl⟩

theorem IsCoherent.contains_of_mem_between (coherent : contents.IsCoherent topic field)
    {key : topic.keyType.Key} {lower upper : String} {entry : String × Bytes}
    (member : entry ∈ contents.range.between (RangeIndex.compose topic.keyType key lower)
      (RangeIndex.compose topic.keyType key upper)) :
    contents.point.contains (topic.keyType.encode key) = true := by
  obtain ⟨stored, notBelow, notAbove⟩ := SortedMap.mem_between.1 member
  obtain ⟨owner, held, done⟩ :=
    coherent.range entry.1 entry.2 (SortedMap.find?_eq_some_iff.2 stored)
  obtain ⟨decoded, _, padded, read, -, -, composed⟩ := Topic.exists_of_indexKey done
  rw [String.lt_iff, RangeIndex.toList_compose] at notBelow notAbove
  have shared := isPrefix_of_between notBelow notAbove
  rw [composed, RangeIndex.stem_isPrefix_compose_iff] at shared
  rwa [shared, KeyType.encode_of_decode read]

theorem IsCoherent.scansWhatIsThere (coherent : contents.IsCoherent topic field) :
    contents.ScansWhatIsThere topic field := by
  refine ⟨fun key lower upper bounds gone done => ?_, fun key value found => ?_⟩
  · obtain ⟨lowerPadded, upperPadded, -, -, rfl⟩ := exists_of_bounds done
    rw [SortedMap.range_eq_map_between, List.map_eq_nil_iff, List.eq_nil_iff_forall_not_mem]
    intro entry member
    rw [coherent.contains_of_mem_between member] at gone
    contradiction
  · obtain ⟨index, own, held⟩ := coherent.point _ value found
    obtain ⟨decoded, number, padded, read, fit, padding, rfl⟩ := Topic.exists_of_indexKey own
    refine ⟨number, fit, fun lower upper first last bounds firstRead lastRead least greatest done =>
      ?_⟩
    obtain ⟨lowerPadded, upperPadded, lowerDone, upperDone, rfl⟩ := exists_of_bounds done
    obtain ⟨_, lowerRead, lowerPadding⟩ := RangeType.padText_eq_ok_iff.1 lowerDone
    obtain ⟨_, upperRead, upperPadding⟩ := RangeType.padText_eq_ok_iff.1 upperDone
    cases lowerRead.symm.trans firstRead
    cases upperRead.symm.trans lastRead
    obtain rfl : key = decoded := by
      rw [KeyType.decode_encode] at read
      exact Except.ok.inj read
    rw [SortedMap.range_eq_map_between]
    refine List.mem_map.2 ⟨_, SortedMap.mem_between.2
      ⟨SortedMap.find?_eq_some_iff.1 held, ?_, ?_⟩, rfl⟩
    · rw [RangeIndex.compose_lt_compose_iff, RangeType.lt_iff_of_pad padding lowerPadding]
      exact Int64.not_lt.2 least
    · rw [RangeIndex.compose_lt_compose_iff, RangeType.lt_iff_of_pad upperPadding padding]
      exact Int64.not_lt.2 greatest

/-! ### Reachable contents -/

/-- What records and sweeps make of a content, one after another, from the empty one on. -/
inductive Reachable (topic : Topic) : Contents → Prop
  | empty : Reachable topic .empty
  | record {contents : Contents} (before : Reachable topic contents) (record : Record) :
      Reachable topic (contents.process topic record).1
  | sweep {contents left : Contents} (before : Reachable topic contents) {retention : Nat}
      (retains : topic.retention = some retention) (now : Nat)
      (swept : contents.removeAll topic (contents.expired (expiryLimit retention now)) = .ok left) :
      Reachable topic left

theorem Reachable.isCoherent (reachable : contents.Reachable topic)
    (indexed : topic.rangeField = some field) : contents.IsCoherent topic field := by
  induction reachable with
  | empty => exact empty_isCoherent topic field
  | record before record ih => exact ih.process indexed record
  | sweep before retains now swept ih =>
    exact removeAll_induction (motive := (IsCoherent · topic field)) ih
      (fun contents key coherent => coherent.remove indexed key) swept

theorem Reachable.processAll (reachable : contents.Reachable topic) (records : List Record) :
    (contents.processAll topic records).Reachable topic := by
  induction records generalizing contents with
  | nil => exact reachable
  | cons record rest ih => exact ih (reachable.record record)

end Contents

namespace Replica

variable {replica : Replica} {log : Log}

def HoldsReachable (replica : Replica) : Prop :=
  ∀ partition shard, replica.shards.find? partition = some shard →
    shard.contents.Reachable replica.topic

end Replica

namespace Site

theorem Reached.holdsReachable {site : Site} (reached : site.Reached) :
    site.replica.HoldsReachable := by
  intro partition shard found
  exact reached.shards_induction
    (motive := fun shard _ => shard.contents.Reachable site.replica.topic)
    (fun _ => .empty) (fun _ _ _ => id) (fun _ _ _ before => before.processAll _)
    (fun _ _ _ _ now retains swept before =>
      before.sweep retains now (Shard.sweep_eq_ok_iff.1 swept).1) found

end Site

namespace Contents

/-- Whatever records and sweeps come to a shard, its index, its values and its times keep to each
other, so that a scan finds no key that was removed or has expired, and misses none that is there;
and the next sweep succeeds. -/
theorem parts_keep_together (topic : Topic) (field : RangeField)
    (indexed : topic.rangeField = some field) :
    (∀ contents : Contents, contents.Reachable topic →
      contents.IsCoherent topic field ∧ contents.ScansWhatIsThere topic field ∧
        ∀ cutoff, ∃ left, contents.removeAll topic (contents.expired cutoff) = .ok left) ∧
    ∀ site : Site, site.Reached → site.replica.topic = topic →
      ∀ partition shard, site.replica.shards.find? partition = some shard →
        shard.contents.Reachable topic := by
  refine ⟨fun contents reachable => ?_, ?_⟩
  · have coherent := reachable.isCoherent indexed
    exact ⟨coherent, coherent.scansWhatIsThere, coherent.exists_sweep⟩
  · rintro site reached rfl partition shard found
    exact reached.holdsReachable partition shard found

/-- A ledger of three keys: one is overwritten and stays, one is removed, and one expires. -/
theorem parts_keep_together_swept :
    let field : RangeField := ⟨"n", .long⟩
    let topic : Topic := ⟨"ledger", .string, .schema, .mutable, some field, some 10⟩
    let value (number : Int) : Bytes := Utf8.encode (Json.ofMembers [("n", .int number)]).print
    let contents := empty.processAll topic
      [⟨Utf8.encode "a", some (value 1), 0⟩, ⟨Utf8.encode "b", some (value 2), 0⟩,
        ⟨Utf8.encode "c", some (value 3), 0⟩, ⟨Utf8.encode "b", none, 4⟩,
        ⟨Utf8.encode "a", some (value 5), 5⟩]
    ∃ left, contents.removeAll topic (contents.expired (11 - 10)) = .ok left ∧
      left.IsCoherent topic field ∧ left.range.size = 2 ∧
      (∃ bounds, field.bounds .string "c" "1" "9" = .ok bounds ∧
        left.range.range bounds.1 bounds.2 = []) ∧
      ∃ bounds, field.bounds .string "a" "1" "9" = .ok bounds ∧
        value 5 ∈ left.range.range bounds.1 bounds.2 := by
  intro field topic value contents
  obtain ⟨kept, -⟩ := parts_keep_together topic field rfl
  have reachable : contents.Reachable topic := Reachable.empty.processAll _
  obtain ⟨-, -, succeeds⟩ := kept contents reachable
  obtain ⟨left, swept⟩ := succeeds (11 - 10)
  obtain ⟨coherent, scans, -⟩ := kept left (reachable.sweep rfl 11 swept)
  have known : (contents.removeAll topic (contents.expired (11 - 10))).toOption.map (fun left =>
      (left.range.size, left.point.contains (Utf8.encode "c"),
        left.point.find? (Utf8.encode "a"))) = some (2, false, some (value 5)) := by
    decide +kernel
  rw [swept] at known
  simp only [Except.toOption, Option.map_some, Option.some.injEq, Prod.mk.injEq] at known
  obtain ⟨size, gone, found⟩ := known
  have bounded : ∀ key : String, ∃ bounds,
      RangeField.bounds ⟨"n", .long⟩ .string key "1" "9" = .ok bounds := fun key => ⟨_, rfl⟩
  obtain ⟨goneBounds, goneDone⟩ := bounded "c"
  obtain ⟨bounds, done⟩ := bounded "a"
  refine ⟨left, swept, coherent, size,
    ⟨goneBounds, goneDone, scans.gone "c" "1" "9" goneBounds gone goneDone⟩, bounds, done, ?_⟩
  obtain ⟨number, fit, there⟩ := scans.there "a" (value 5) found
  obtain rfl : 5 = number := by
    have five : field.of? .schema (value 5) = some 5 := by decide +kernel
    exact Option.some.inj (five.symm.trans fit)
  exact there "1" "9" 1 9 bounds rfl rfl (by decide) (by decide) done

end Contents

end ShardedView
