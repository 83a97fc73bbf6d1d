import ShardedView.Proofs.Contents.History
import ShardedView.Proofs.Replica.Run
import ShardedView.Proofs.Topic.Value
import ShardedView.Query.Service

/-!
A range read against the log: in the order of the range field, it gives the last
accepted value of the key for each integer between the bounds, and nothing else.
-/

namespace ShardedView

namespace RangeField

variable {field : RangeField} {type : DataType} {value : Bytes}

theorem exists_of_of?_eq_some (keyType : KeyType) {number : Int64}
    (fit : field.of? type value = some number) :
    ∃ record padded, type.decode value = .ok record ∧ field.type.pad number = .ok padded ∧
      ∀ key : keyType.Key,
        field.index keyType key record = .ok (RangeIndex.compose keyType key padded) := by
  obtain ⟨record, decoded, holds⟩ := of?_eq_some_iff.1 fit
  obtain ⟨padded, done⟩ := RangeType.exists_pad holds.fits
  exact ⟨record, padded, decoded, done, index_of_extract (extract_eq_ok_iff_holds.2 holds) done⟩

theorem index_error_of_of?_eq_none {keyType : KeyType} {record : Json}
    (unfit : field.of? type value = none) (decoded : type.decode value = .ok record)
    (key : keyType.Key) :
    ∃ failure, field.index keyType key record = .error failure := by
  cases extracted : field.type.extract record field.name with
  | error failure => exact ⟨failure, by rw [index, extracted]; rfl⟩
  | ok number =>
    rw [of?_eq_some_iff.2 ⟨record, decoded, extract_eq_ok_iff_holds.1 extracted⟩] at unfit
    contradiction

end RangeField

namespace Contents

variable {contents : Contents} {topic : Topic} {field : RangeField} {records : List Record}

/-- The content holds the keys that have accepted values, and under the index keys of
each key its last accepted values. -/
structure Indexes (contents : Contents) (topic : Topic) (field : RangeField)
    (records : List Record) : Prop where
  holds : ∀ key : topic.keyType.Key,
    contents.point.contains (topic.keyType.encode key) =
      !(topic.accepted field (topic.keyType.encode key) records).isEmpty
  composed : ∀ index, contents.range.contains index = true → ∃ key number padded,
    field.type.pad number = .ok padded ∧ index = RangeIndex.compose topic.keyType key padded
  latest : ∀ key number padded, field.type.pad number = .ok padded →
    contents.range.find? (RangeIndex.compose topic.keyType key padded) =
      topic.latest? field (topic.keyType.encode key) number records

theorem empty_indexes (topic : Topic) (field : RangeField) : empty.Indexes topic field [] := by
  have nothing : ∀ key, topic.accepted field key [] = [] := by
    intro key
    rw [Topic.accepted]
    cases topic.writeType <;> rfl
  refine ⟨fun key => ?_, fun index found => ?_, fun key number padded done => ?_⟩
  · rw [nothing]
    rfl
  · contradiction
  · rw [Topic.latest?, nothing]
    rfl

/-- A record that leaves the content as it is, and the accepted values of each key as
well. -/
theorem Indexes.skip {record : Record} (indexes : contents.Indexes topic field records)
    (same : ∀ key : topic.keyType.Key,
      topic.accepted field (topic.keyType.encode key) (records ++ [record]) =
        topic.accepted field (topic.keyType.encode key) records) :
    contents.Indexes topic field (records ++ [record]) where
  holds key := by rw [same, indexes.holds]
  composed := indexes.composed
  latest key number padded done := by
    rw [Topic.latest?_append_of_accepted (same key), indexes.latest key number padded done]

theorem Indexes.remove {record : Record} (indexes : contents.Indexes topic field records)
    (indexed : topic.rangeField = some field) (removal : record.value = none) :
    (contents.remove topic record.key).1.Indexes topic field (records ++ [record]) := by
  have holds : ∀ key : topic.keyType.Key,
      (contents.point.erase record.key).contains (topic.keyType.encode key) =
        !(topic.accepted field (topic.keyType.encode key) (records ++ [record])).isEmpty := by
    intro key
    rw [SortedMap.contains, SortedMap.find?_erase]
    by_cases own : record.key = topic.keyType.encode key
    · rw [if_pos own.symm, Topic.accepted_append_removal own removal]
      rfl
    · rw [if_neg (Ne.symm own), Topic.accepted_append_other own, ← indexes.holds]
      rfl
  unfold Contents.remove
  simp only [indexed]
  split
  · next failure unread =>
    -- no key is written as these bytes, so that nothing of them was indexed
    have other : ∀ key : topic.keyType.Key, record.key ≠ topic.keyType.encode key := by
      intro key own
      rw [own, KeyType.decode_encode] at unread
      contradiction
    exact ⟨holds, indexes.composed, fun key number padded done => by
      rw [Topic.latest?_append_of_accepted (Topic.accepted_append_other (other key)),
        indexes.latest key number padded done]⟩
  · next removed decoded =>
    refine ⟨holds, fun index found => ?_, fun key number padded done => ?_⟩
    · rw [SortedMap.contains, SortedMap.find?_eraseStem] at found
      split at found
      · contradiction
      · exact indexes.composed index found
    · rw [SortedMap.find?_eraseStem, RangeIndex.hasStem_compose]
      have own := KeyType.encode_of_decode decoded
      by_cases same : removed = key
      · subst same
        rw [Topic.latest?, Topic.accepted_append_removal own.symm removal]
        simp
      · have other : record.key ≠ topic.keyType.encode key := fun equal =>
          same (KeyType.encode_injective (own.trans equal))
        rw [Topic.latest?_append_of_accepted (Topic.accepted_append_other other),
          ← indexes.latest key number padded done]
        simp [same]

theorem index_cases (contents : Contents) (topic : Topic) (key value : Bytes)
    (indexed : topic.rangeField = some field) :
    (∃ failure, contents.index topic key value = .error failure ∧
      ((∃ failure, topic.keyType.decode key = .error failure) ∨
        field.of? topic.valueType value = none)) ∨
    ∃ decoded number padded, topic.keyType.decode key = .ok decoded ∧
      field.of? topic.valueType value = some number ∧ field.type.pad number = .ok padded ∧
      contents.index topic key value =
        .ok (contents.range.insert (RangeIndex.compose topic.keyType decoded padded) value) := by
  rw [index, indexed]
  simp only
  cases decodedKey : topic.keyType.decode key with
  | error failure => exact .inl ⟨failure, rfl, .inl ⟨failure, rfl⟩⟩
  | ok decoded =>
    cases fit : field.of? topic.valueType value with
    | none =>
      cases decodedValue : topic.valueType.decode value with
      | error failure => exact .inl ⟨failure, rfl, .inr rfl⟩
      | ok record =>
        obtain ⟨failure, failed⟩ := field.index_error_of_of?_eq_none fit decodedValue decoded
        refine .inl ⟨failure, ?_, .inr rfl⟩
        simp only [bind, Except.bind, failed]
    | some number =>
      obtain ⟨record, padded, decodedValue, done, composed⟩ :=
        field.exists_of_of?_eq_some topic.keyType fit
      refine .inr ⟨decoded, number, padded, rfl, rfl, done, ?_⟩
      simp only [bind, Except.bind, pure, Except.pure, decodedValue, composed]

theorem Indexes.store {record : Record} {value : Bytes}
    (indexes : contents.Indexes topic field records) (indexed : topic.rangeField = some field)
    (given : record.value = some value) :
    (contents.store topic record.key value record.timestamp).1.Indexes topic field
      (records ++ [record]) := by
  unfold Contents.store
  split
  case isTrue shut =>
    rw [Bool.and_eq_true, decide_eq_true_iff] at shut
    refine indexes.skip fun key => ?_
    by_cases own : record.key = topic.keyType.encode key
    · refine Topic.accepted_append_held own given shut.1 fun nothing => ?_
      have held := indexes.holds key
      rw [← own, shut.2, own, nothing] at held
      contradiction
    · exact Topic.accepted_append_other own
  case isFalse free =>
    rcases contents.index_cases topic record.key value indexed with
      ⟨failure, failed, cause⟩ | ⟨decoded, number, padded, decodedKey, fit, done, stored⟩
    · rw [failed]
      refine indexes.skip fun key => ?_
      by_cases own : record.key = topic.keyType.encode key
      · rcases cause with ⟨failure, unread⟩ | unfit
        · rw [own, KeyType.decode_encode] at unread
          contradiction
        · exact Topic.accepted_append_unfit own given unfit
      · exact Topic.accepted_append_other own
    · rw [stored]
      have own : record.key = topic.keyType.encode decoded :=
        (KeyType.encode_of_decode decodedKey).symm
      have taken : topic.accepted field (topic.keyType.encode decoded) (records ++ [record]) =
          topic.accepted field (topic.keyType.encode decoded) records ++ [value] := by
        refine Topic.accepted_append_fit own given fit fun immutable => ?_
        simpa [own, immutable, indexes.holds] using free
      have other : ∀ {key}, decoded ≠ key → record.key ≠ topic.keyType.encode key :=
        fun differs equal => differs (KeyType.encode_injective (own.symm.trans equal))
      refine ⟨fun key => ?_, fun index found => ?_, fun key third final padding => ?_⟩
      · rw [SortedMap.contains_insert, own]
        by_cases same : decoded = key
        · subst same
          simp [taken]
        · have differs : topic.keyType.encode key ≠ topic.keyType.encode decoded := fun equal =>
            same (KeyType.encode_injective equal.symm)
          rw [Topic.accepted_append_other (other same), ← indexes.holds]
          simp [differs]
      · rw [SortedMap.contains_insert, Bool.or_eq_true, decide_eq_true_iff] at found
        rcases found with rfl | found
        · exact ⟨decoded, number, padded, done, rfl⟩
        · exact indexes.composed index found
      · simp only [SortedMap.find?_insert, RangeIndex.compose_inj]
        by_cases same : decoded = key
        · subst same
          rw [Topic.latest?_append_fit fit taken, indexes.latest decoded third final padding]
          by_cases equal : number = third
          · subst equal
            have rendered : final = padded := Except.ok.inj (padding.symm.trans done)
            simp [rendered]
          · have apart : final ≠ padded := fun rendered =>
              equal (RangeType.eq_of_pad done (rendered ▸ padding))
            simp [equal, apart]
        · rw [Topic.latest?_append_of_accepted (Topic.accepted_append_other (other same)),
            ← indexes.latest key third final padding, if_neg fun equal => same equal.1.symm]

theorem Indexes.process {record : Record} (indexes : contents.Indexes topic field records)
    (indexed : topic.rangeField = some field) :
    (contents.process topic record).1.Indexes topic field (records ++ [record]) := by
  unfold Contents.process
  split
  · next removal => exact indexes.remove indexed removal
  · next value given => exact indexes.store indexed given

theorem Indexes.processAll (indexes : contents.Indexes topic field records)
    (indexed : topic.rangeField = some field) (later : List Record) :
    (contents.processAll topic later).Indexes topic field (records ++ later) := by
  induction later generalizing contents records with
  | nil => rwa [List.append_nil]
  | cons record rest ih =>
    rw [← List.singleton_append, ← List.append_assoc]
    exact ih (indexes.process indexed)

/-- Between index keys of one key lie the latest values of the integers between. -/
theorem Indexes.mem_between_iff (indexes : contents.Indexes topic field records)
    (key : topic.keyType.Key) {first last number : Int64} {lower upper padded : String}
    {value : Bytes} (lowerDone : field.type.pad first = .ok lower)
    (upperDone : field.type.pad last = .ok upper) (done : field.type.pad number = .ok padded) :
    (RangeIndex.compose topic.keyType key padded, value) ∈
        contents.range.between (RangeIndex.compose topic.keyType key lower)
          (RangeIndex.compose topic.keyType key upper) ↔
      first ≤ number ∧ number ≤ last ∧
        topic.latest? field (topic.keyType.encode key) number records = some value := by
  rw [SortedMap.mem_between, ← SortedMap.find?_eq_some_iff, indexes.latest key number padded done,
    RangeIndex.compose_lt_compose_iff, RangeIndex.compose_lt_compose_iff,
    RangeType.lt_iff_of_pad done lowerDone, RangeType.lt_iff_of_pad upperDone done,
    Int64.not_lt, Int64.not_lt]
  exact ⟨fun ⟨latest, lower, upper⟩ => ⟨lower, upper, latest⟩,
    fun ⟨lower, upper, latest⟩ => ⟨latest, lower, upper⟩⟩

theorem Indexes.exists_of_mem_between (indexes : contents.Indexes topic field records)
    (key : topic.keyType.Key) {lower upper : String} {entry : String × Bytes}
    (member : entry ∈ contents.range.between (RangeIndex.compose topic.keyType key lower)
      (RangeIndex.compose topic.keyType key upper)) :
    ∃ number padded, field.type.pad number = .ok padded ∧
      entry.1 = RangeIndex.compose topic.keyType key padded := by
  obtain ⟨stored, notBelow, notAbove⟩ := SortedMap.mem_between.1 member
  have held : contents.range.contains entry.1 = true := by
    rw [SortedMap.contains, SortedMap.find?_eq_some_iff.2 stored]
    rfl
  obtain ⟨other, number, padded, done, equal⟩ := indexes.composed entry.1 held
  rw [String.lt_iff, RangeIndex.toList_compose] at notBelow notAbove
  have shared := isPrefix_of_between notBelow notAbove
  rw [equal, RangeIndex.stem_isPrefix_compose_iff] at shared
  exact ⟨number, padded, done, shared ▸ equal⟩

/-- Entries of one key, with the integers that their index keys stand for in place of
these. -/
theorem exists_numbered (field : RangeField) {keyType : KeyType} (key : keyType.Key)
    {entries : List (String × Bytes)}
    (sorted : entries.Pairwise fun left right => left.1 < right.1)
    (own : ∀ entry ∈ entries, ∃ number padded, field.type.pad number = .ok padded ∧
      entry.1 = RangeIndex.compose keyType key padded) :
    ∃ found : List (Int64 × Bytes),
      found.map (·.2) = entries.map (·.2) ∧
      found.Pairwise (fun left right => left.1 < right.1) ∧
      ∀ number value, (number, value) ∈ found ↔ ∃ padded, field.type.pad number = .ok padded ∧
        (RangeIndex.compose keyType key padded, value) ∈ entries := by
  induction entries with
  | nil => exact ⟨[], rfl, .nil, fun number value => ⟨nofun, fun ⟨_, _, member⟩ => nomatch member⟩⟩
  | cons entry rest ih =>
    obtain ⟨above, restSorted⟩ := List.pairwise_cons.1 sorted
    obtain ⟨index, value⟩ := entry
    obtain ⟨number, padded, done, rfl⟩ := own _ (.head _)
    obtain ⟨found, values, ascending, members⟩ := ih restSorted fun entry member =>
      own entry (.tail _ member)
    refine ⟨(number, value) :: found, by simp [values], List.pairwise_cons.2 ⟨?_, ascending⟩, ?_⟩
    · intro ⟨other, later⟩ member
      obtain ⟨final, padding, member⟩ := (members other later).1 member
      have less := above _ member
      rwa [RangeIndex.compose_lt_compose_iff, RangeType.lt_iff_of_pad done padding] at less
    · intro other later
      simp only [List.mem_cons, members, Prod.mk.injEq, RangeIndex.compose_inj, true_and]
      constructor
      · rintro (⟨rfl, rfl⟩ | ⟨final, padding, member⟩)
        · exact ⟨padded, done, .inl ⟨rfl, rfl⟩⟩
        · exact ⟨final, padding, .inr member⟩
      · rintro ⟨final, padding, ⟨rfl, rfl⟩ | member⟩
        · exact .inl ⟨RangeType.eq_of_pad padding done, rfl⟩
        · exact .inr ⟨final, padding, member⟩

theorem Indexes.exists_range_eq (indexes : contents.Indexes topic field records)
    (key : topic.keyType.Key) {first last : Int64} {lower upper : String}
    (lowerDone : field.type.pad first = .ok lower) (upperDone : field.type.pad last = .ok upper) :
    ∃ found : List (Int64 × Bytes),
      contents.range.range (RangeIndex.compose topic.keyType key lower)
        (RangeIndex.compose topic.keyType key upper) = found.map (·.2) ∧
      found.Pairwise (fun left right => left.1 < right.1) ∧
      ∀ number value, (number, value) ∈ found ↔ first ≤ number ∧ number ≤ last ∧
        topic.latest? field (topic.keyType.encode key) number records = some value := by
  obtain ⟨found, values, ascending, members⟩ := exists_numbered field key
    (contents.range.sorted_between (RangeIndex.compose topic.keyType key lower)
      (RangeIndex.compose topic.keyType key upper))
    fun entry member => indexes.exists_of_mem_between key member
  refine ⟨found, by rw [SortedMap.range_eq_map_between, values], ascending, ?_⟩
  intro number value
  rw [members]
  constructor
  · rintro ⟨padded, done, member⟩
    exact (indexes.mem_between_iff key lowerDone upperDone done).1 member
  · intro bounded
    have fits : field.type.fits number = true := by
      have lowerFits := RangeType.fits_iff.1 (RangeType.pad_eq_ok_iff.1 lowerDone).1
      have upperFits := RangeType.fits_iff.1 (RangeType.pad_eq_ok_iff.1 upperDone).1
      have least := Int64.le_iff_toInt_le.1 bounded.1
      have greatest := Int64.le_iff_toInt_le.1 bounded.2.1
      rw [RangeType.fits_iff]
      omega
    obtain ⟨padded, done⟩ := RangeType.exists_pad fits
    exact ⟨padded, done, (indexes.mem_between_iff key lowerDone upperDone done).2 bounded⟩

end Contents

namespace Topic

theorem exists_decoded_of_latest? {topic : Topic} {field : RangeField} {key value : Bytes}
    {number : Int64} {records : List Record}
    (latest : topic.latest? field key number records = some value) :
    ∃ record, topic.valueType.decode value = .ok record := by
  have fit : field.of? topic.valueType value = some number := by
    simpa using List.find?_some latest
  obtain ⟨record, -, decoded, -⟩ := field.exists_of_of?_eq_some topic.keyType fit
  exact ⟨record, decoded⟩

end Topic

theorem DataType.exists_mapM_eq (type : DataType) {found : List (Int64 × Bytes)}
    (sorted : found.Pairwise fun left right => left.1 < right.1)
    (readable : ∀ number value, (number, value) ∈ found →
      ∃ record, type.decode value = .ok record) :
    ∃ answers : List (Int64 × Json),
      (found.map (·.2)).mapM type.decode = .ok (answers.map (·.2)) ∧
      answers.Pairwise (fun left right => left.1 < right.1) ∧
      ∀ number record, (number, record) ∈ answers ↔
        ∃ value, (number, value) ∈ found ∧ type.decode value = .ok record := by
  induction found with
  | nil => exact ⟨[], rfl, .nil, fun number record => ⟨nofun, fun ⟨_, member, _⟩ => nomatch member⟩⟩
  | cons entry rest ih =>
    obtain ⟨above, restSorted⟩ := List.pairwise_cons.1 sorted
    obtain ⟨number, value⟩ := entry
    obtain ⟨record, decoded⟩ := readable number value (.head _)
    obtain ⟨answers, mapped, ascending, members⟩ := ih restSorted fun number value member =>
      readable number value (.tail _ member)
    refine ⟨(number, record) :: answers, ?_, List.pairwise_cons.2 ⟨?_, ascending⟩, ?_⟩
    · simp only [List.map_cons, List.mapM_cons, decoded, mapped]
      rfl
    · intro ⟨other, later⟩ member
      obtain ⟨_, member, -⟩ := (members other later).1 member
      exact above _ member
    · intro other later
      simp only [List.mem_cons, members, Prod.mk.injEq]
      constructor
      · rintro (⟨rfl, rfl⟩ | ⟨final, member, done⟩)
        · exact ⟨value, .inl ⟨rfl, rfl⟩, decoded⟩
        · exact ⟨final, .inr member, done⟩
      · rintro ⟨final, ⟨rfl, rfl⟩ | member, done⟩
        · exact .inl ⟨rfl, Except.ok.inj (done.symm.trans decoded)⟩
        · exact .inr ⟨final, member, done⟩

/-- What a scan between two padded integers gives for a key, once it is decoded. -/
theorem Contents.Indexes.exists_answers {contents : Contents} {topic : Topic} {field : RangeField}
    {records : List Record} (indexes : contents.Indexes topic field records)
    (key : topic.keyType.Key) {first last : Int64} {lower upper : String}
    (lowerDone : field.type.pad first = .ok lower) (upperDone : field.type.pad last = .ok upper) :
    ∃ answers : List (Int64 × Json),
      (contents.range.range (RangeIndex.compose topic.keyType key lower)
          (RangeIndex.compose topic.keyType key upper)).mapM topic.valueType.decode =
        .ok (answers.map (·.2)) ∧
      answers.Pairwise (fun left right => left.1 < right.1) ∧
      ∀ number record, (number, record) ∈ answers ↔ first ≤ number ∧ number ≤ last ∧
        ∃ value, topic.latest? field (topic.keyType.encode key) number records = some value ∧
          topic.valueType.decode value = .ok record := by
  obtain ⟨stored, values, ascending, members⟩ := indexes.exists_range_eq key lowerDone upperDone
  obtain ⟨answers, decoded, sorted, same⟩ := topic.valueType.exists_mapM_eq ascending
    fun number value member =>
      Topic.exists_decoded_of_latest? ((members number value).1 member).2.2
  refine ⟨answers, by rw [values, decoded], sorted, fun number record => ?_⟩
  rw [same]
  constructor
  · rintro ⟨value, member, done⟩
    obtain ⟨least, greatest, latest⟩ := (members number value).1 member
    exact ⟨least, greatest, value, latest, done⟩
  · rintro ⟨least, greatest, value, latest, done⟩
    exact ⟨value, (members number value).2 ⟨least, greatest, latest⟩, done⟩

namespace Topic

theorem latest?_partition (topic : Topic) (field : RangeField) (log : Log) (key : Bytes)
    (number : Int64) :
    topic.latest? field key number (log.partition (log.place key)) =
      topic.latest? field key number log.records := by
  simp only [latest?, accepted, Record.valuesSince_partition]

end Topic

namespace Replica

theorem rangeBounds_eq {replica : Replica} {field : RangeField}
    (indexed : replica.topic.rangeField = some field) (key : replica.topic.keyType.Key)
    {lower upper lowerPadded upperPadded : String}
    (lowerAccepted : field.type.padText lower = .ok lowerPadded)
    (upperAccepted : field.type.padText upper = .ok upperPadded) :
    replica.rangeBounds key lower upper =
      .ok (RangeIndex.compose replica.topic.keyType key lowerPadded,
        RangeIndex.compose replica.topic.keyType key upperPadded) := by
  simp only [rangeBounds, indexed, RangeField.bounds, RangeField.boundary, lowerAccepted,
    upperAccepted]
  rfl

theorem lookupRange_eq {replica : Replica} {partition : Nat} {shard : Shard}
    (read : replica.readable partition = .ok shard) (bounds : String × String) :
    replica.lookupRange partition bounds =
      (shard.contents.range.range bounds.1 bounds.2).mapM replica.topic.valueType.decode := by
  simp only [lookupRange, readRange, read]
  rfl

end Replica

namespace Site

/-- Once the shard of a key has taken in the log, a range read of the key gives, in
the order of the range field, the last accepted value for each integer between the
bounds, and nothing else. -/
theorem range_read (site : Site) (reached : site.Reached)
    (lasting : site.replica.topic.retention = none) (field : RangeField)
    (indexed : site.replica.topic.rangeField = some field)
    (key : site.replica.topic.keyType.Key)
    (consumed : site.HasConsumed (site.log.place (site.replica.topic.keyType.encode key)))
    (lower upper lowerPadded upperPadded : String)
    (lowerAccepted : field.type.padText lower = .ok lowerPadded)
    (upperAccepted : field.type.padText upper = .ok upperPadded) :
    let topic := site.replica.topic
    let bytes := topic.keyType.encode key
    ∃ first last, Integer.read64 (Text.trim lower) = .ok first ∧
      Integer.read64 (Text.trim upper) = .ok last ∧
      ∃ answers : List (Int64 × Json),
        (site.replica.rangeBounds key lower upper >>=
          site.replica.lookupRange (site.log.place bytes)) = .ok (answers.map (·.2)) ∧
        answers.Pairwise (fun left right => left.1 < right.1) ∧
        (∀ number record, (number, record) ∈ answers ↔ first ≤ number ∧ number ≤ last ∧
          ∃ value, topic.latest? field bytes number site.log.records = some value ∧
            topic.valueType.decode value = .ok record) ∧
        (last < first → answers = []) := by
  intro topic bytes
  obtain ⟨first, lowerRead, lowerDone⟩ := RangeType.padText_eq_ok_iff.1 lowerAccepted
  obtain ⟨last, upperRead, upperDone⟩ := RangeType.padText_eq_ok_iff.1 upperAccepted
  refine ⟨first, last, lowerRead, upperRead, ?_⟩
  obtain ⟨shard, read, offset⟩ := consumed
  have found := Replica.find?_of_readable read
  have contents := ((reached.follows lasting).shards _ shard found).contents_of_offset offset
  have indexes :
      shard.contents.Indexes topic field (site.log.partition (site.log.place bytes)) := by
    rw [contents]
    exact (Contents.empty_indexes topic field).processAll indexed _
  obtain ⟨answers, decoded, sorted, members⟩ := indexes.exists_answers key lowerDone upperDone
  have between : ∀ number record, (number, record) ∈ answers ↔ first ≤ number ∧ number ≤ last ∧
      ∃ value, topic.latest? field bytes number site.log.records = some value ∧
        topic.valueType.decode value = .ok record := by
    intro number record
    rw [members]
    simp only [bytes, Topic.latest?_partition]
  refine ⟨answers, ?_, sorted, between, fun reversed => ?_⟩
  · rw [Replica.rangeBounds_eq indexed key lowerAccepted upperAccepted]
    show site.replica.lookupRange (site.log.place bytes) _ = _
    rw [Replica.lookupRange_eq read, decoded]
  · apply List.eq_nil_iff_forall_not_mem.2
    intro ⟨number, record⟩ member
    obtain ⟨least, greatest, -⟩ := (between number record).1 member
    exact Std.not_lt.2 (Std.le_trans least greatest) reversed

def note (number : Int) (text : String) : Json :=
  .obj [("n", .int number), ("note", .str text)]

def noted (number : Int) (text : String) : Bytes :=
  Utf8.encode (note number text).print

theorem decode_noted {number : Int} {text : String} (least : Json.leastInteger ≤ number)
    (greatest : number ≤ Json.greatestInteger) :
    DataType.schema.decode (noted number text) = .ok (note number text) := by
  refine DataType.decode_print (.obj ?_) (.obj (List.pairwise_pair.2 (by decide : "n" < "note")) ?_)
  · exact List.forall_mem_cons.2 ⟨.int _, List.forall_mem_singleton.2 (.str _)⟩
  · exact List.forall_mem_cons.2 ⟨.int least greatest, List.forall_mem_singleton.2 (.str _)⟩

def entry (key : String) (number : Int) (text : String) : Event :=
  .append ⟨Utf8.encode key, some (noted number text), 0⟩

/-- A ledger with the records of two keys, one of them removed in between. -/
def ledger : Site :=
  let topic : Topic := ⟨"ledger", .string, .schema, .mutable, some ⟨"n", .long⟩, none⟩
  let member := Member.fixed "m" ⟨.v4 0x7F000001, 80, 0⟩
  (start topic ⟨1, 0, .murmur⟩ ⟨member, [member]⟩ 1).run
    ([entry "a" 7 "removed", .append ⟨Utf8.encode "a", none, 0⟩, entry "a" 2 "overwritten",
      entry "b" 1 "foreign", entry "a" 2 "kept", entry "a" (-3) "first", entry "a" 9 "beyond"] ++
      [.step])

theorem latest?_ledger (number : Int64) :
    ledger.replica.topic.latest? ⟨"n", .long⟩ (Utf8.encode "a") number ledger.log.records =
      if number = 9 then some (noted 9 "beyond")
      else if number = -3 then some (noted (-3) "first")
      else if number = 2 then some (noted 2 "kept")
      else none := by
  have type : ledger.replica.topic.valueType = .schema := rfl
  have accepted : ledger.replica.topic.accepted ⟨"n", .long⟩ (Utf8.encode "a")
      ledger.log.records =
        [noted 2 "overwritten", noted 2 "kept", noted (-3) "first", noted 9 "beyond"] := by
    decide +kernel
  have overwritten : RangeField.of? ⟨"n", .long⟩ .schema (noted 2 "overwritten") = some 2 := by
    decide +kernel
  have kept : RangeField.of? ⟨"n", .long⟩ .schema (noted 2 "kept") = some 2 := by decide +kernel
  have first : RangeField.of? ⟨"n", .long⟩ .schema (noted (-3) "first") = some (-3) := by
    decide +kernel
  have beyond : RangeField.of? ⟨"n", .long⟩ .schema (noted 9 "beyond") = some 9 := by
    decide +kernel
  rw [Topic.latest?, accepted, type]
  simp only [List.reverse_cons, List.reverse_nil, List.nil_append, List.cons_append,
    List.find?_cons, List.find?_nil, overwritten, kept, first, beyond, Option.some.injEq]
  grind

theorem range_read_ledger :
    ∃ key, ledger.replica.topic.keyType.encode key = Utf8.encode "a" ∧
      (ledger.replica.rangeBounds key "-5" " 7" >>= ledger.replica.lookupRange 0) =
        .ok [note (-3) "first", note 2 "kept"] := by
  have same : ledger.replica.topic =
      ⟨"ledger", .string, .schema, .mutable, some ⟨"n", .long⟩, none⟩ := (sameSetting_run _ _).topic
  obtain ⟨key, written⟩ : ∃ key, ledger.replica.topic.keyType.encode key = Utf8.encode "a" := by
    rw [same]
    exact ⟨"a", rfl⟩
  have own : ledger.log.place (Utf8.encode "a") = 0 := by decide +kernel
  have consumed : ledger.HasConsumed 0 :=
    hasConsumed_after_step _ _ _ _ _ rfl (by simp [entry]) (by decide +kernel)
  obtain ⟨first, last, lower, upper, answers, read, sorted, members, -⟩ :=
    range_read ledger ⟨_, _, _, _, _, rfl⟩ (by rw [same]) ⟨"n", .long⟩ (by rw [same]) key
      (by rwa [written, own]) "-5" " 7" _ _ rfl rfl
  obtain rfl : -5 = first := Except.ok.inj lower
  obtain rfl : 7 = last := Except.ok.inj upper
  rw [written, own] at read
  have listed : ∀ answer, answer ∈ answers ↔
      answer ∈ [((-3 : Int64), note (-3) "first"), (2, note 2 "kept")] := by
    intro ⟨number, record⟩
    rw [members, written, latest?_ledger, show ledger.replica.topic.valueType = .schema from rfl]
    simp only [List.mem_cons, List.not_mem_nil, or_false, Prod.mk.injEq]
    constructor
    · rintro ⟨-, within, value, latest, decoded⟩
      split at latest
      · next nine => exact absurd (nine ▸ within) (by decide)
      · split at latest
        · next same =>
          rw [← Option.some.inj latest, decode_noted (by decide) (by decide)] at decoded
          exact .inl ⟨same, (Except.ok.inj decoded).symm⟩
        · split at latest
          · next same =>
            rw [← Option.some.inj latest, decode_noted (by decide) (by decide)] at decoded
            exact .inr ⟨same, (Except.ok.inj decoded).symm⟩
          · contradiction
    · rintro (⟨rfl, rfl⟩ | ⟨rfl, rfl⟩)
      · exact ⟨by decide, by decide, _, if_neg (by decide), decode_noted (by decide) (by decide)⟩
      · exact ⟨by decide, by decide, _, rfl, decode_noted (by decide) (by decide)⟩
  obtain rfl := SortedMap.entries_eq_of_mem_iff sorted (by decide +kernel) listed
  exact ⟨key, written, read⟩

end Site

end ShardedView
