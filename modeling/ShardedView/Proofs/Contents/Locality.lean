import ShardedView.Proofs.Contents.Coherence

/-!
What a record has to do with the keys of other records: nothing. It reads and changes what is held
of its own key only, although all keys share one index, from which a removal takes whatever begins
with a stem.

So of the order of records only that among those of one key matters, and a partition can be
rearranged in any way that keeps it.
-/

namespace ShardedView

/-- What a key has in the index: all that begins with its stem, if the key can be read. -/
def Topic.Owns (topic : Topic) (key : Bytes) (index : String) : Prop :=
  ∃ decoded, topic.keyType.decode key = .ok decoded ∧
    SortedMap.hasStem (RangeIndex.stem topic.keyType decoded) index = true

namespace Topic

variable {topic : Topic} {key other : Bytes} {index : String}

theorem eq_of_owns (own : topic.Owns key index) (foreign : topic.Owns other index) :
    key = other := by
  obtain ⟨decoded, read, begins⟩ := own
  obtain ⟨otherDecoded, otherRead, otherBegins⟩ := foreign
  rw [SortedMap.hasStem_eq_true_iff] at begins otherBegins
  obtain rfl := RangeIndex.eq_of_stem_isPrefix begins otherBegins
  exact (KeyType.encode_of_decode read).symm.trans (KeyType.encode_of_decode otherRead)

theorem owns_of_indexKey {field : RangeField} {value : Bytes}
    (done : topic.indexKey field key value = .ok index) : topic.Owns key index := by
  obtain ⟨decoded, _, padded, read, -, -, rfl⟩ := exists_of_indexKey done
  exact ⟨decoded, read, by rw [RangeIndex.hasStem_compose, decide_eq_true rfl]⟩

end Topic

namespace Contents

variable {contents left right : Contents} {topic : Topic} {record : Record} {key : Bytes}

/-! ### Other keys -/

theorem find?_index_of_not_owns {value : Bytes} {range : SortedMap String Bytes}
    (done : contents.index topic key value = .ok range) {index : String}
    (foreign : ¬ topic.Owns key index) : range.find? index = contents.range.find? index := by
  cases indexed : topic.rangeField with
  | none =>
    rw [Contents.index, indexed] at done
    rw [← Except.ok.inj done]
  | some field =>
    rw [contents.index_eq_map indexed] at done
    cases own : topic.indexKey field key value with
    | error failure =>
      rw [own] at done
      contradiction
    | ok entry =>
      rw [own] at done
      obtain rfl := Except.ok.inj done
      rw [SortedMap.find?_insert, if_neg]
      rintro rfl
      exact foreign (Topic.owns_of_indexKey own)

theorem find?_range_process_of_not_owns {index : String} (foreign : ¬ topic.Owns record.key index) :
    (contents.process topic record).1.range.find? index = contents.range.find? index := by
  unfold process
  split
  · unfold remove
    split
    · rfl
    · split
      · rfl
      · next decoded read =>
        have apart : SortedMap.hasStem (RangeIndex.stem topic.keyType decoded) index ≠ true :=
          fun begins => foreign ⟨decoded, read, begins⟩
        simp only [SortedMap.find?_eraseStem, if_neg apart]
  · unfold store
    split
    · rfl
    · split
      · rfl
      · next range done => exact find?_index_of_not_owns done foreign

theorem find?_inserted_process_of_ne (foreign : record.key ≠ key) :
    (contents.process topic record).1.inserted.find? key = contents.inserted.find? key := by
  unfold process
  split
  · rw [inserted_remove, SortedMap.find?_erase, if_neg (Ne.symm foreign)]
  · unfold store
    split
    · rfl
    · split
      · rfl
      · show (if _ then _ else _ : SortedMap Bytes Nat).find? key = _
        split
        · rw [SortedMap.find?_insert, if_neg (Ne.symm foreign)]
        · rfl

structure AgreeAt (left right : Contents) (topic : Topic) (key : Bytes) : Prop where
  point : left.point.find? key = right.point.find? key
  range : ∀ index, topic.Owns key index → left.range.find? index = right.range.find? index
  inserted : left.inserted.find? key = right.inserted.find? key

theorem AgreeAt.refl (contents : Contents) (topic : Topic) (key : Bytes) :
    contents.AgreeAt contents topic key :=
  ⟨rfl, fun _ _ => rfl, rfl⟩

theorem AgreeAt.symm (agree : left.AgreeAt right topic key) : right.AgreeAt left topic key :=
  ⟨agree.point.symm, fun index own => (agree.range index own).symm, agree.inserted.symm⟩

theorem AgreeAt.trans {last : Contents} (agree : left.AgreeAt right topic key)
    (next : right.AgreeAt last topic key) : left.AgreeAt last topic key :=
  ⟨agree.point.trans next.point,
    fun index own => (agree.range index own).trans (next.range index own),
    agree.inserted.trans next.inserted⟩

/-- A record changes nothing that is held of another key. -/
theorem agreeAt_process_of_ne (foreign : record.key ≠ key) :
    (contents.process topic record).1.AgreeAt contents topic key where
  point := by rw [find?_process, if_neg foreign]
  range index own := find?_range_process_of_not_owns fun other =>
    foreign (Topic.eq_of_owns other own)
  inserted := find?_inserted_process_of_ne foreign

/-! ### The own key -/

theorem AgreeAt.remove (agree : left.AgreeAt right topic key) :
    (left.remove topic key).1.AgreeAt (right.remove topic key).1 topic key where
  point := by simp only [point_remove, SortedMap.find?_erase, if_true]
  range index own := by
    cases indexed : topic.rangeField with
    | none => simpa only [Contents.remove, indexed] using agree.range index own
    | some field =>
      obtain ⟨decoded, read, begins⟩ := own
      simp only [Contents.remove, indexed, read, SortedMap.find?_eraseStem, begins, if_true]
  inserted := by simp only [inserted_remove, SortedMap.find?_erase, if_true]

/-- Whether a value goes into the index, and where, does not depend on what is there. -/
theorem AgreeAt.index_cases (agree : left.AgreeAt right topic key) (value : Bytes) :
    (∃ failure, left.index topic key value = .error failure ∧
      right.index topic key value = .error failure) ∨
    ∃ range other, left.index topic key value = .ok range ∧
      right.index topic key value = .ok other ∧
        ∀ index, topic.Owns key index → range.find? index = other.find? index := by
  cases indexed : topic.rangeField with
  | none =>
    exact .inr ⟨left.range, right.range, by rw [index, indexed], by rw [index, indexed],
      agree.range⟩
  | some field =>
    rw [left.index_eq_map indexed, right.index_eq_map indexed]
    cases topic.indexKey field key value with
    | error failure => exact .inl ⟨failure, rfl, rfl⟩
    | ok entry =>
      refine .inr ⟨_, _, rfl, rfl, fun index own => ?_⟩
      rw [SortedMap.find?_insert, SortedMap.find?_insert, agree.range index own]

theorem AgreeAt.store (agree : left.AgreeAt right topic key) (value : Bytes) (time : Nat) :
    (left.store topic key value time).1.AgreeAt (right.store topic key value time).1
      topic key := by
  have held : left.point.contains key = right.point.contains key := by
    rw [SortedMap.contains, agree.point, SortedMap.contains]
  unfold Contents.store
  rw [held]
  split
  · exact agree
  · rcases agree.index_cases value with
      ⟨failure, failed, otherFailed⟩ | ⟨range, other, done, otherDone, same⟩
    · rw [failed, otherFailed]
      exact agree
    · rw [done, otherDone]
      refine ⟨?_, same, ?_⟩
      · simp only [SortedMap.find?_insert, if_true]
      · show (if _ then _ else _ : SortedMap Bytes Nat).find? key =
          (if _ then _ else _ : SortedMap Bytes Nat).find? key
        split
        · simp only [SortedMap.find?_insert, if_true]
        · exact agree.inserted

/-- What a record makes of its own key depends on what is held of this key only. -/
theorem AgreeAt.process (agree : left.AgreeAt right topic record.key) :
    (left.process topic record).1.AgreeAt (right.process topic record).1 topic record.key := by
  unfold Contents.process
  split
  · exact agree.remove
  · exact agree.store _ record.timestamp

/-! ### Whole rows of records -/

theorem AgreeAt.processAll_filter (agree : left.AgreeAt right topic key) (records : List Record) :
    (left.processAll topic records).AgreeAt
      (right.processAll topic (records.filter fun record => record.key = key)) topic key := by
  induction records generalizing left right with
  | nil => exact agree
  | cons record rest ih =>
    by_cases own : record.key = key
    · subst own
      rw [List.filter_cons, if_pos (decide_eq_true rfl)]
      exact ih agree.process
    · rw [List.filter_cons, if_neg (mt of_decide_eq_true own)]
      exact ih ((agreeAt_process_of_ne own).trans agree)

theorem find?_range_processAll_of_unowned {index : String}
    (unowned : ∀ key, ¬ topic.Owns key index) (records : List Record) :
    (contents.processAll topic records).range.find? index = contents.range.find? index := by
  induction records generalizing contents with
  | nil => rfl
  | cons record rest ih => exact ih.trans (find?_range_process_of_not_owns (unowned record.key))

/-- Contents that hold the same of all keys, and have the same in the index that belongs to none,
are equal. -/
theorem eq_of_agreeAt (agree : ∀ key, left.AgreeAt right topic key)
    (unowned : ∀ index, (∀ key, ¬ topic.Owns key index) →
      left.range.find? index = right.range.find? index) : left = right := by
  have point : left.point = right.point := SortedMap.ext_find? fun key => (agree key).point
  have inserted : left.inserted = right.inserted :=
    SortedMap.ext_find? fun key => (agree key).inserted
  have range : left.range = right.range := by
    apply SortedMap.ext_find?
    intro index
    by_cases owned : ∃ key, topic.Owns key index
    · obtain ⟨key, own⟩ := owned
      exact (agree key).range index own
    · exact unowned index (not_exists.1 owned)
  cases left
  cases right
  simp_all

end Contents

/-- Two rows of records have the same records of each key, in the same order. -/
def Record.AgreeByKey (records others : List Record) : Prop :=
  ∀ key, records.filter (fun record => record.key = key) =
    others.filter fun record => record.key = key

namespace Record

variable {records others : List Record}

theorem agreeByKey_iff :
    AgreeByKey records others ↔ ∀ named ∈ records ++ others,
      records.filter (fun record => record.key = named.key) =
        others.filter fun record => record.key = named.key := by
  refine ⟨fun agree named _ => agree named.key, fun agree key => ?_⟩
  by_cases there : ∃ named ∈ records ++ others, named.key = key
  · obtain ⟨named, listed, rfl⟩ := there
    exact agree named listed
  · have absent : ∀ record ∈ records ++ others, ¬ decide (record.key = key) = true :=
      fun record listed same => there ⟨record, listed, of_decide_eq_true same⟩
    rw [List.filter_eq_nil_iff.2 fun record listed => absent record (List.mem_append_left _ listed),
      List.filter_eq_nil_iff.2 fun record listed => absent record (List.mem_append_right _ listed)]

instance : Decidable (AgreeByKey records others) :=
  decidable_of_iff _ agreeByKey_iff.symm

theorem agreeByKey_swap {first second : Record} (apart : first.key ≠ second.key) :
    AgreeByKey [first, second] [second, first] := by
  intro key
  by_cases own : first.key = key
  · have foreign : second.key ≠ key := fun same => apart (own.trans same.symm)
    simp [own, foreign]
  · by_cases other : second.key = key <;> simp [own, other]

theorem AgreeByKey.perm (agree : AgreeByKey records others) : records.Perm others := by
  rw [List.perm_iff_count]
  intro record
  have counted : ∀ records : List Record,
      (records.filter fun other => other.key = record.key).count record = records.count record :=
    fun records => List.count_filter (decide_eq_true rfl)
  rw [← counted records, agree record.key, counted others]

end Record

namespace Contents

/-- Rows that agree by key lead to the same content. -/
theorem processAll_eq_of_agreeByKey (contents : Contents) (topic : Topic)
    {records others : List Record} (agree : Record.AgreeByKey records others) :
    contents.processAll topic records = contents.processAll topic others := by
  have same : ∀ key, (contents.processAll topic records).AgreeAt
      (contents.processAll topic others) topic key := by
    intro key
    have own := (AgreeAt.refl contents topic key).processAll_filter records
    have other := (AgreeAt.refl contents topic key).processAll_filter others
    rw [agree key] at own
    exact own.trans other.symm
  refine eq_of_agreeAt same fun index unowned => ?_
  rw [find?_range_processAll_of_unowned unowned, find?_range_processAll_of_unowned unowned]

/-- Records of different keys can change places. -/
theorem process_process_comm (contents : Contents) (topic : Topic) {first second : Record}
    (apart : first.key ≠ second.key) :
    ((contents.process topic first).1.process topic second).1 =
      ((contents.process topic second).1.process topic first).1 :=
  contents.processAll_eq_of_agreeByKey topic (Record.agreeByKey_swap apart)

end Contents

namespace Shard

/-- A new shard makes the same of logs that agree by key, down to the offset that it reaches. -/
theorem catchUp_fresh_eq {topic : Topic} {log other : Log} {partition : Nat}
    (agree : Record.AgreeByKey (log.partition partition) (other.partition partition)) :
    fresh.catchUp topic log partition = fresh.catchUp topic other partition := by
  simp only [catchUp, Log.readFrom, fresh, List.drop_zero]
  rw [Contents.empty.processAll_eq_of_agreeByKey topic agree, agree.perm.length_eq]

end Shard

namespace Contents

/-- In whatever order records of different keys come, they leave the same content behind, and
whatever is done to the log of a partition that keeps the order of the records of each key, a shard
that takes it in is the same. -/
theorem order_by_key_suffices (topic : Topic) :
    (∀ (contents : Contents) (first second : Record), first.key ≠ second.key →
      ((contents.process topic first).1.process topic second).1 =
        ((contents.process topic second).1.process topic first).1) ∧
    ∀ (log other : Log) (partition : Nat),
      Record.AgreeByKey (log.partition partition) (other.partition partition) →
        Shard.fresh.catchUp topic log partition = Shard.fresh.catchUp topic other partition :=
  ⟨fun contents _ _ apart => contents.process_process_comm topic apart,
    fun _ _ _ agree => Shard.catchUp_fresh_eq agree⟩

/-- Keys whose texts are made of each other's escapes, one of which is removed and given a value
again while the others come and go. -/
theorem order_by_key_suffices_interleaved :
    let topic : Topic := ⟨"ledger", .string, .schema, .mutable, some ⟨"n", .int⟩, some 10⟩
    let put (key : String) (number : Int) : Record :=
      ⟨Utf8.encode key, some (Utf8.encode (Json.ofMembers [("n", .int number)]).print), 0⟩
    let drop (key : String) : Record := ⟨Utf8.encode key, none, 0⟩
    let log : Log :=
      ⟨1, .murmur, [put "a_" 1, put "a%5F" 2, drop "a_", put "a" 3, put "a_" 4, put "a" 5]⟩
    let other : Log :=
      ⟨1, .murmur, [put "a" 3, put "a" 5, put "a_" 1, drop "a_", put "a_" 4, put "a%5F" 2]⟩
    let shard := Shard.fresh.catchUp topic log 0
    ((shard.contents.process topic (drop "a")).1.process topic (put "a_" 6)).1 =
        ((shard.contents.process topic (put "a_" 6)).1.process topic (drop "a")).1 ∧
      shard = Shard.fresh.catchUp topic other 0 ∧ shard.contents.point.size = 3 ∧
        shard.contents.range.size = 4 := by
  intro topic put drop log other shard
  obtain ⟨swap, rearrange⟩ := order_by_key_suffices topic
  have agree : Record.AgreeByKey (log.partition 0) (other.partition 0) := by decide +kernel
  exact ⟨swap shard.contents (drop "a") (put "a_" 6) (by decide +kernel),
    rearrange log other 0 agree, by decide +kernel, by decide +kernel⟩

end Contents

end ShardedView
