import Mathlib.Data.List.Induction
import ShardedView.Proofs.Contents.Point
import ShardedView.Proofs.Contents.Retention
import ShardedView.Proofs.Replica.Run

/-!
A point read against the log: of the values that a key was given since it was last removed, it
gives the last one that the index can take, or the first one where the values of keys are not to
change. The records of other keys have no part in it.
-/

namespace ShardedView

/-- The value of a key by its records: of those since its last removal that can be taken in, the
last one, and on an immutable topic the first one. -/
def Topic.current? (topic : Topic) (key : Bytes) (records : List Record) : Option Bytes :=
  let given := (Record.valuesSince key records).filter (topic.takes key)
  match topic.writeType with
  | .mutable => given.getLast?
  | .immutable => given.head?

namespace Topic

variable (topic : Topic) {key : Bytes} {records others : List Record}

theorem current?_eq_of_filter
    (same : records.filter (fun record => record.key = key) =
      others.filter fun record => record.key = key) :
    topic.current? key records = topic.current? key others := by
  simp only [current?, Record.valuesSince, same]

theorem current?_partition (log : Log) (key : Bytes) :
    topic.current? key (log.partition (log.place key)) = topic.current? key log.records := by
  simp only [current?, Record.valuesSince_partition]

/-- A record makes of the value of its key what the content of a partition makes of it. -/
theorem current?_append (key : Bytes) (records : List Record) (record : Record) :
    topic.current? key (records ++ [record]) =
      if record.key = key then Contents.pointAfter topic record (topic.current? key records)
      else topic.current? key records := by
  by_cases own : record.key = key
  · rw [if_pos own, Contents.pointAfter]
    cases given : record.value with
    | none =>
      rw [current?, Record.valuesSince_append_removal own given]
      cases topic.writeType <;> rfl
    | some value =>
      have taken := Contents.empty.takes_eq_isOk_index topic key value
      simp only [current?, Record.valuesSince_append_value own given, List.filter_append, own,
        ← taken]
      generalize (Record.valuesSince key records).filter (topic.takes key) = before
      cases fit : topic.takes key value with
      | false => cases topic.writeType <;> simp [fit]
      | true =>
        cases topic.writeType with
        | mutable => simp [fit]
        | immutable => cases before <;> simp [fit]
  · simp only [current?, Record.valuesSince_append_other own, if_neg own]

end Topic

/-- What a partition holds of a key behind its records is what these say of it. -/
theorem Contents.find?_processAll_empty (topic : Topic) (key : Bytes) (records : List Record) :
    (empty.processAll topic records).point.find? key = topic.current? key records := by
  induction records using List.reverseRecOn with
  | nil =>
    rw [Topic.current?]
    cases topic.writeType <;> rfl
  | append_singleton records record ih =>
    rw [processAll_append, processAll, List.foldl_cons, List.foldl_nil, find?_process, ih,
      topic.current?_append]

namespace Site

/-- Where the shard of a key has taken in the log, the value of the key is the one that its records
say. -/
theorem Reached.readPoint_eq {site : Site} (reached : site.Reached)
    (lasting : site.replica.topic.retention = none) {key : Bytes}
    (consumed : site.HasConsumed (site.log.place key)) :
    site.replica.readPoint (site.log.place key) key =
      .ok (site.replica.topic.current? key site.log.records) := by
  obtain ⟨shard, read, offset⟩ := consumed
  have found := Replica.find?_of_readable read
  have contents := ((reached.follows lasting).shards _ shard found).contents_of_offset offset
  rw [← Topic.current?_partition, ← Contents.find?_processAll_empty, ← contents,
    Replica.readPoint, read]
  rfl

/-- Once the shard of a key has taken in the log, a point read of the key gives the value that
its records say. Whatever is appended for other keys, wherever the log puts them, and however the
replica got there, the read is the same. -/
theorem point_read (site : Site) (reached : site.Reached)
    (lasting : site.replica.topic.retention = none) (key : Bytes)
    (consumed : site.HasConsumed (site.log.place key)) :
    site.replica.readPoint (site.log.place key) key =
        .ok (site.replica.topic.current? key site.log.records) ∧
      ∀ twin : Site, twin.Reached → twin.replica.topic = site.replica.topic →
        twin.log.records.filter (fun record => record.key = key) =
            site.log.records.filter (fun record => record.key = key) →
          twin.HasConsumed (twin.log.place key) →
            twin.replica.readPoint (twin.log.place key) key =
              site.replica.readPoint (site.log.place key) key := by
  refine ⟨reached.readPoint_eq lasting consumed, ?_⟩
  intro twin twinReached topic records twinConsumed
  rw [twinReached.readPoint_eq (topic ▸ lasting) twinConsumed,
    reached.readPoint_eq lasting consumed, topic,
    site.replica.topic.current?_eq_of_filter records]

/-- A journal that keeps the first entry of each key: what a key had before it was removed, and
an entry whose number is too large for the index, do not count. -/
def journal (foreign : List Event) : Site :=
  let topic : Topic := ⟨"journal", .string, .schema, .immutable, some ⟨"n", .int⟩, none⟩
  let member := Member.fixed "m" ⟨.v4 0x7F000001, 80, 0⟩
  (start topic ⟨1, 0, .murmur⟩ ⟨member, [member]⟩ 1).run
    ([entry "a" 1 "removed", .append ⟨Utf8.encode "a", none, 0⟩,
      entry "a" 2147483648 "too large"] ++ foreign ++
      [entry "a" 2 "first", entry "a" 3 "shut out"] ++ [.step])

theorem point_read_journal :
    let own := journal []
    let shared := journal [entry "b" 4 "foreign", .append ⟨Utf8.encode "b", none, 0⟩]
    let first := Json.ofMembers [("n", .int 2), ("note", .str "first")]
    own.replica.readPoint 0 (Utf8.encode "a") = .ok (some (Utf8.encode first.print)) ∧
      shared.replica.readPoint 0 (Utf8.encode "a") =
        own.replica.readPoint 0 (Utf8.encode "a") := by
  intro own shared first
  have reached : ∀ foreign, (journal foreign).Reached := fun foreign => ⟨_, _, _, _, _, rfl⟩
  have topic : ∀ foreign, (journal foreign).replica.topic =
      ⟨"journal", .string, .schema, .immutable, some ⟨"n", .int⟩, none⟩ :=
    fun foreign => (sameSetting_run _ _).topic
  have place : own.log.place (Utf8.encode "a") = 0 := by decide +kernel
  have sharedPlace : shared.log.place (Utf8.encode "a") = 0 := by decide +kernel
  have consumed : own.HasConsumed 0 :=
    hasConsumed_after_step _ _ _ _ _ rfl (by simp [entry]) (by decide +kernel)
  have sharedConsumed : shared.HasConsumed 0 :=
    hasConsumed_after_step _ _ _ _ _ rfl (by simp [entry]) (by decide +kernel)
  obtain ⟨read, alike⟩ := point_read own (reached _) (by rw [topic]) (Utf8.encode "a")
    (place.symm ▸ consumed)
  have twin := alike shared (reached _) ((topic _).trans (topic _).symm) (by decide +kernel)
    (sharedPlace.symm ▸ sharedConsumed)
  rw [place] at read twin
  rw [sharedPlace] at twin
  refine ⟨?_, twin⟩
  rw [read, topic]
  exact congrArg Except.ok (by decide +kernel)

end Site

end ShardedView
