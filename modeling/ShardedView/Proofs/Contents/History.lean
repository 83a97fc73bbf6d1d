import ShardedView.Proofs.Range.Index
import ShardedView.Proofs.Replica.Shard

/-!
What the records of a key leave behind in the content of a partition: the values
that were accepted since the key was last removed, the latest one for each value
of the range field.
-/

namespace ShardedView

/-- The values that records give a key after the last one that removes it. -/
def Record.valuesSince (key : Bytes) (records : List Record) : List Bytes :=
  let values := (records.filter fun record => record.key = key).map Record.value
  (values.reverse.takeWhile Option.isSome).reverse.filterMap id

namespace RangeField

/-- The integer that the record of a value holds in the range field. -/
def of? (field : RangeField) (type : DataType) (value : Bytes) : Option Int64 :=
  match type.decode value with
  | .error _ => none
  | .ok record =>
    ((record.member? field.name).bind Json.int64?).filter fun number => field.Holds record number

theorem of?_eq_some_iff {field : RangeField} {type : DataType} {value : Bytes} {number : Int64} :
    field.of? type value = some number ↔
      ∃ record, type.decode value = .ok record ∧ field.Holds record number := by
  unfold of?
  cases type.decode value with
  | error failure => exact ⟨nofun, fun ⟨_, decoded, _⟩ => nomatch decoded⟩
  | ok record =>
    simp only [Option.filter_eq_some_iff, decide_eq_true_iff, Except.ok.injEq, exists_eq_left']
    exact ⟨And.right, fun holds => ⟨holds.held, holds⟩⟩

end RangeField

namespace Topic

/-- The values of a key since its last removal that have the range field. On an
immutable topic the first of them shuts out the others. -/
def accepted (topic : Topic) (field : RangeField) (key : Bytes) (records : List Record) :
    List Bytes :=
  let fit := (Record.valuesSince key records).filter fun value =>
    (field.of? topic.valueType value).isSome
  match topic.writeType with
  | .mutable => fit
  | .immutable => fit.take 1

/-- The last accepted value of a key whose range field is a given integer. -/
def latest? (topic : Topic) (field : RangeField) (key : Bytes) (number : Int64)
    (records : List Record) : Option Bytes :=
  (topic.accepted field key records).reverse.find? fun value =>
    field.of? topic.valueType value = some number

end Topic

namespace Record

theorem valuesSince_append_other {key : Bytes} {records : List Record} {record : Record}
    (other : record.key ≠ key) :
    valuesSince key (records ++ [record]) = valuesSince key records := by
  simp [valuesSince, other]

theorem valuesSince_append_removal {key : Bytes} {records : List Record} {record : Record}
    (own : record.key = key) (removal : record.value = none) :
    valuesSince key (records ++ [record]) = [] := by
  simp [valuesSince, own, removal]

theorem valuesSince_append_value {key value : Bytes} {records : List Record} {record : Record}
    (own : record.key = key) (given : record.value = some value) :
    valuesSince key (records ++ [record]) = valuesSince key records ++ [value] := by
  simp [valuesSince, own, given]

theorem valuesSince_partition (key : Bytes) (log : Log) :
    valuesSince key (log.partition (log.place key)) = valuesSince key log.records := by
  rw [valuesSince, Log.filter_partition, ← valuesSince]

end Record

namespace Topic

variable {topic : Topic} {field : RangeField} {key : Bytes} {records : List Record}
  {record : Record}

theorem accepted_append_other (other : record.key ≠ key) :
    topic.accepted field key (records ++ [record]) = topic.accepted field key records := by
  rw [accepted, Record.valuesSince_append_other other, ← accepted]

theorem accepted_append_removal (own : record.key = key) (removal : record.value = none) :
    topic.accepted field key (records ++ [record]) = [] := by
  rw [accepted, Record.valuesSince_append_removal own removal]
  cases topic.writeType <;> rfl

theorem accepted_append_unfit {value : Bytes} (own : record.key = key)
    (given : record.value = some value) (unfit : field.of? topic.valueType value = none) :
    topic.accepted field key (records ++ [record]) = topic.accepted field key records := by
  rw [accepted, Record.valuesSince_append_value own given, accepted]
  simp [unfit]

theorem accepted_append_held {value : Bytes} (own : record.key = key)
    (given : record.value = some value) (immutable : topic.writeType = .immutable)
    (held : topic.accepted field key records ≠ []) :
    topic.accepted field key (records ++ [record]) = topic.accepted field key records := by
  simp only [accepted, immutable, Record.valuesSince_append_value own given,
    List.filter_append] at held ⊢
  cases fit : (Record.valuesSince key records).filter fun value =>
      (field.of? topic.valueType value).isSome with
  | nil => simp [fit] at held
  | cons first rest => rfl

theorem accepted_append_fit {value : Bytes} {number : Int64} (own : record.key = key)
    (given : record.value = some value) (fit : field.of? topic.valueType value = some number)
    (free : topic.writeType = .immutable → topic.accepted field key records = []) :
    topic.accepted field key (records ++ [record]) =
      topic.accepted field key records ++ [value] := by
  simp only [accepted, Record.valuesSince_append_value own given, List.filter_append] at free ⊢
  cases writeType : topic.writeType with
  | mutable => simp [fit]
  | immutable =>
    rw [writeType] at free
    have unfit : (Record.valuesSince key records).filter (fun value =>
        (field.of? topic.valueType value).isSome) = [] := by
      simpa using free rfl
    simp [unfit, fit]

theorem latest?_append_of_accepted {number : Int64}
    (same : topic.accepted field key (records ++ [record]) = topic.accepted field key records) :
    topic.latest? field key number (records ++ [record]) =
      topic.latest? field key number records := by
  rw [latest?, same, ← latest?]

theorem latest?_append_fit {value : Bytes} {number other : Int64}
    (fit : field.of? topic.valueType value = some number)
    (taken : topic.accepted field key (records ++ [record]) =
      topic.accepted field key records ++ [value]) :
    topic.latest? field key other (records ++ [record]) =
      if number = other then some value else topic.latest? field key other records := by
  rw [latest?, taken, List.reverse_append, List.reverse_singleton, List.singleton_append,
    List.find?_cons, fit, ← latest?]
  by_cases same : number = other <;> simp [same]

end Topic

end ShardedView
