import ShardedView.Proofs.Replica.Shard
import ShardedView.Proofs.Stem

/-!
The values of keys against the log: only the records of a key itself have a part in
its value, so that a partition and the whole log give it the same one, and no value is
there that no record gave.
-/

namespace ShardedView

namespace Contents

/-- Whether a record can be indexed does not depend on what was indexed before. -/
theorem isOk_index (contents other : Contents) (topic : Topic) (key value : Bytes) :
    (contents.index topic key value).isOk = (other.index topic key value).isOk := by
  unfold index
  cases topic.rangeField with
  | none => rfl
  | some field =>
    simp only [bind, Except.bind]
    cases topic.keyType.decode key with
    | error failure => rfl
    | ok decodedKey =>
      dsimp only
      cases topic.valueType.decode value with
      | error failure => rfl
      | ok record =>
        dsimp only
        cases field.index topic.keyType decodedKey record <;> rfl

def pointAfter (topic : Topic) (record : Record) (before : Option Bytes) : Option Bytes :=
  match record.value with
  | none => none
  | some value =>
    if topic.writeType = .immutable && before.isSome then before
    else if (empty.index topic record.key value).isOk then some value
    else before

theorem point_remove (contents : Contents) (topic : Topic) (key : Bytes) :
    (contents.remove topic key).1.point = contents.point.erase key := by
  unfold remove
  split
  · rfl
  · split <;> rfl

theorem find?_process (contents : Contents) (topic : Topic) (record : Record) (key : Bytes) :
    (contents.process topic record).1.point.find? key =
      if record.key = key then pointAfter topic record (contents.point.find? key)
      else contents.point.find? key := by
  unfold process pointAfter
  cases record.value with
  | none =>
    simp only [point_remove, SortedMap.find?_erase]
    by_cases own : record.key = key
    · rw [if_pos own.symm, if_pos own]
    · rw [if_neg (Ne.symm own), if_neg own]
  | some value =>
    by_cases own : record.key = key
    · subst own
      simp only [if_true]
      unfold store
      rw [SortedMap.contains]
      split
      · rfl
      · have same := isOk_index contents empty topic record.key value
        cases indexed : contents.index topic record.key value with
        | error failure =>
          rw [indexed] at same
          rw [← same]
          rfl
        | ok range =>
          rw [indexed] at same
          rw [← same]
          simp only [SortedMap.find?_insert, if_true]
          rfl
    · simp only [own, if_false]
      unfold store
      split
      · rfl
      · cases contents.index topic record.key value with
        | error failure => rfl
        | ok range =>
          simp only [SortedMap.find?_insert, if_neg (Ne.symm own)]

theorem find?_processAll (contents : Contents) (topic : Topic) (records : List Record)
    (key : Bytes) :
    (contents.processAll topic records).point.find? key =
      (records.filter fun record => record.key = key).foldl
        (fun before record => pointAfter topic record before) (contents.point.find? key) := by
  induction records generalizing contents with
  | nil => rfl
  | cons record rest ih =>
    rw [processAll, List.foldl_cons, ← processAll, ih, find?_process]
    by_cases own : record.key = key
    · rw [if_pos own, List.filter_cons, if_pos (decide_eq_true own), List.foldl_cons]
    · rw [if_neg own, List.filter_cons, if_neg (mt of_decide_eq_true own)]

/-- In its own partition a key has the value that the whole log gives it. -/
theorem find?_processAll_partition (contents : Contents) (topic : Topic) (log : Log)
    (key : Bytes) :
    (contents.processAll topic (log.partition (log.place key))).point.find? key =
      (contents.processAll topic log.records).point.find? key := by
  rw [find?_processAll, find?_processAll, Log.filter_partition]

theorem point_processAll_partition (topic : Topic) (log : Log) (partition : Nat) :
    (empty.processAll topic (log.partition partition)).point =
      (empty.processAll topic log.records).point.filter fun key _ =>
        log.place key = partition := by
  apply SortedMap.ext_find?
  intro key
  rw [SortedMap.find?_filter]
  by_cases own : log.place key = partition
  · subst own
    simp only [find?_processAll_partition, decide_true]
    cases (empty.processAll topic log.records).point.find? key <;> rfl
  · have foreign : (log.partition partition).filter (fun record => record.key = key) = [] := by
      refine List.filter_eq_nil_iff.2 fun record member same => own ?_
      rw [← of_decide_eq_true same]
      exact of_decide_eq_true (List.mem_filter.1 member).2
    simp only [find?_processAll empty topic (log.partition partition), foreign, own, decide_false]
    cases (empty.processAll topic log.records).point.find? key <;> rfl

theorem value_of_pointAfter {topic : Topic} {record : Record} {before : Option Bytes}
    {value : Bytes} (after : pointAfter topic record before = some value) :
    before = some value ∨ record.value = some value := by
  unfold pointAfter at after
  split at after
  · contradiction
  · next given equal =>
    split at after
    · exact .inl after
    · split at after
      · exact .inr (equal.trans after)
      · exact .inl after

theorem exists_record_of_find? {contents : Contents} {topic : Topic} {records : List Record}
    {key value : Bytes}
    (found : (contents.processAll topic records).point.find? key = some value) :
    contents.point.find? key = some value ∨ ∃ record ∈ records, record.value = some value := by
  induction records generalizing contents with
  | nil => exact .inl found
  | cons record rest ih =>
    rcases ih found with before | ⟨later, member, given⟩
    · rw [find?_process] at before
      split at before
      · rcases value_of_pointAfter before with before | given
        · exact .inl before
        · exact .inr ⟨record, .head _, given⟩
      · exact .inl before
    · exact .inr ⟨later, .tail _ member, given⟩

theorem range_process {contents : Contents} {topic : Topic} {record : Record} {index : String}
    {value : Bytes} (found : (contents.process topic record).1.range.find? index = some value) :
    contents.range.find? index = some value ∨ record.value = some value := by
  unfold process at found
  split at found
  · unfold remove at found
    split at found
    · exact .inl found
    · split at found
      · exact .inl found
      · rw [SortedMap.find?_eraseStem] at found
        split at found
        · contradiction
        · exact .inl found
  · next given equal =>
    unfold store at found
    split at found
    · exact .inl found
    · split at found
      · exact .inl found
      · next range indexed =>
        unfold Contents.index at indexed
        split at indexed
        · obtain rfl := Except.ok.inj indexed
          exact .inl found
        · simp only [bind, Except.bind, pure, Except.pure] at indexed
          split at indexed
          · contradiction
          · split at indexed
            · contradiction
            · split at indexed
              · contradiction
              · obtain rfl := Except.ok.inj indexed
                simp only [SortedMap.find?_insert] at found
                split at found
                · exact .inr (equal.trans found)
                · exact .inl found

theorem exists_record_of_range {contents : Contents} {topic : Topic} {records : List Record}
    {index : String} {value : Bytes}
    (found : (contents.processAll topic records).range.find? index = some value) :
    contents.range.find? index = some value ∨ ∃ record ∈ records, record.value = some value := by
  induction records generalizing contents with
  | nil => exact .inl found
  | cons record rest ih =>
    rcases ih found with before | ⟨later, member, given⟩
    · rcases range_process before with before | given
      · exact .inl before
      · exact .inr ⟨record, .head _, given⟩
    · exact .inr ⟨later, .tail _ member, given⟩

end Contents

end ShardedView
