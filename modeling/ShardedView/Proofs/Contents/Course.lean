import ShardedView.Proofs.Contents.Coherence

/-!
The course of a content: records and sweeps one after another, in any order.

A record that is rejected leaves no trace, although a removal takes the value of a key away before it
reads the key: a key that cannot be read never had a value, or it would not be in the index. And the
shard goes past the record, so that it is met only once.
-/

namespace ShardedView

namespace Contents

inductive Event
  | record (record : Record)
  | sweep (now : Nat)

def Event.record? : Event → Option Record
  | .record given => some given
  | .sweep _ => none

/-- A content without the keys that have expired. On a topic whose keys last it stays as it is. -/
def sweep (contents : Contents) (topic : Topic) (now : Nat) : Except Failure Contents :=
  match topic.retention with
  | none => .ok contents
  | some retention => contents.removeAll topic (contents.expired (expiryLimit retention now))

/-- What an event leaves behind. No sweep fails on what this gives. -/
def apply (contents : Contents) (topic : Topic) : Event → Contents
  | .record given => (contents.process topic given).1
  | .sweep now => (contents.sweep topic now).toOption.getD contents

def run (contents : Contents) (topic : Topic) (events : List Event) : Contents :=
  events.foldl (fun contents event => contents.apply topic event) contents

variable {contents left : Contents} {topic : Topic}

theorem run_append (contents : Contents) (topic : Topic) (first second : List Event) :
    contents.run topic (first ++ second) = (contents.run topic first).run topic second :=
  List.foldl_append

theorem run_records (contents : Contents) (topic : Topic) (records : List Record) :
    contents.run topic (records.map .record) = contents.processAll topic records :=
  List.foldl_map

theorem run_sweep {now : Nat} (swept : contents.sweep topic now = .ok left) :
    contents.run topic [.sweep now] = left := by
  rw [run, List.foldl_cons, List.foldl_nil, apply, swept]
  rfl

/-! ### Sweeps do not fail -/

theorem exists_removeAll_of_plain (contents : Contents) (plain : topic.rangeField = none)
    (keys : List Bytes) : ∃ left, contents.removeAll topic keys = .ok left := by
  induction keys generalizing contents with
  | nil => exact ⟨contents, rfl⟩
  | cons key rest ih =>
    obtain ⟨left, removed⟩ := ih (contents.remove topic key).1
    refine ⟨left, ?_⟩
    simp only [remove, plain] at removed
    simp only [removeAll, remove, plain]
    exact removed

theorem Reachable.exists_sweep (reachable : contents.Reachable topic) (now : Nat) :
    ∃ left, contents.sweep topic now = .ok left ∧ left.Reachable topic := by
  unfold Contents.sweep
  cases retains : topic.retention with
  | none => exact ⟨contents, rfl, reachable⟩
  | some retention =>
    obtain ⟨left, swept⟩ : ∃ left,
        contents.removeAll topic (contents.expired (expiryLimit retention now)) = .ok left := by
      cases indexed : topic.rangeField with
      | none => exact contents.exists_removeAll_of_plain indexed _
      | some field => exact (reachable.isCoherent indexed).exists_sweep _
    exact ⟨left, swept, reachable.sweep retains now swept⟩

theorem Reachable.run (reachable : contents.Reachable topic) (events : List Event) :
    (contents.run topic events).Reachable topic := by
  induction events generalizing contents with
  | nil => exact reachable
  | cons event rest ih =>
    have next : (contents.apply topic event).Reachable topic := by
      cases event with
      | record given => exact reachable.record given
      | sweep now =>
        obtain ⟨left, swept, next⟩ := reachable.exists_sweep now
        rw [Contents.apply, swept]
        exact next
    exact ih next

/-! ### Rejected records -/

theorem IsCoherent.remove_of_unread {field : RangeField} (coherent : contents.IsCoherent topic field)
    {key : Bytes} {failure : Failure} (unread : topic.keyType.decode key = .error failure) :
    contents.point.erase key = contents.point ∧ contents.inserted.erase key = contents.inserted := by
  have absent : contents.point.contains key = false := by
    rw [← Bool.not_eq_true]
    intro held
    obtain ⟨decoded, read⟩ := coherent.exists_decode held
    rw [unread] at read
    contradiction
  have untimed : contents.inserted.contains key = false := by
    rw [coherent.inserted, absent, Bool.and_false]
  exact ⟨SortedMap.erase_of_not_contains absent, SortedMap.erase_of_not_contains untimed⟩

theorem Reachable.process_of_rejected (reachable : contents.Reachable topic) {record : Record}
    {failure : Failure} (rejected : (contents.process topic record).2 = some failure) :
    (contents.process topic record).1 = contents := by
  unfold process at rejected ⊢
  split at rejected
  · next removal =>
    unfold remove at rejected ⊢
    split at rejected
    · contradiction
    · next field indexed =>
      split at rejected
      · next unread =>
        obtain ⟨point, inserted⟩ := (reachable.isCoherent indexed).remove_of_unread unread
        simp only [point, inserted]
      · contradiction
  · next value given =>
    unfold store at rejected ⊢
    split
    · rfl
    · next free =>
      rw [if_neg free] at rejected
      split
      · rfl
      · next range stored =>
        rw [stored] at rejected
        contradiction

/-- Whatever records and sweeps came before, a record that is rejected changes nothing, be it a
removal or not; and a shard that meets it goes on behind it, as if it were not there. -/
theorem rejected_record_leaves_no_trace (topic : Topic) (events : List Event) (record : Record)
    {failure : Failure}
    (rejected : ((empty.run topic events).process topic record).2 = some failure) :
    ((empty.run topic events).process topic record).1 = empty.run topic events ∧
    ∀ (shard : Shard) (log : Log) (partition : Nat) (before after : List Record),
      log.readFrom partition shard.offset = before ++ record :: after →
        shard.contents.processAll topic before = empty.run topic events →
          shard.catchUp topic log partition =
            ⟨(empty.run topic events).processAll topic after,
              shard.offset + before.length + 1 + after.length, true⟩ := by
  have unchanged := (Reachable.empty.run events).process_of_rejected rejected
  refine ⟨unchanged, fun shard log partition before after read met => ?_⟩
  have contents : shard.contents.processAll topic (before ++ record :: after) =
      (empty.run topic events).processAll topic after := by
    rw [processAll_append, met, processAll, List.foldl_cons, unchanged, processAll]
  rw [Shard.catchUp, read, contents, List.length_append, List.length_cons]
  congr 1
  omega

/-- The removal of a key that is no text, behind a sweep that found nothing and in front of a
value. -/
theorem rejected_removal_leaves_no_trace :
    let topic : Topic := ⟨"ledger", .string, .schema, .mutable, some ⟨"n", .long⟩, some 10⟩
    let put (key : String) (number : Int) : Record :=
      ⟨Utf8.encode key, some (Utf8.encode (Json.ofMembers [("n", .int number)]).print), 5⟩
    let removal : Record := ⟨[0xFF], none, 6⟩
    let contents := empty.run topic [.record (put "a" 1), .sweep 8]
    (contents.process topic removal).2.isSome = true ∧
      (contents.process topic removal).1 = contents ∧ contents.range.size = 1 ∧
      Shard.catchUp ⟨contents, 1, true⟩ topic ⟨1, .murmur, [put "a" 1, removal, put "b" 2]⟩ 0 =
        ⟨(contents.process topic (put "b" 2)).1, 3, true⟩ := by
  intro topic put removal contents
  have faulty : (contents.process topic removal).2.isSome = true := by decide +kernel
  obtain ⟨failure, rejected⟩ := Option.isSome_iff_exists.1 faulty
  obtain ⟨unchanged, passed⟩ :=
    rejected_record_leaves_no_trace topic [.record (put "a" 1), .sweep 8] removal rejected
  exact ⟨faulty, unchanged, by decide +kernel,
    passed ⟨contents, 1, true⟩ ⟨1, .murmur, [put "a" 1, removal, put "b" 2]⟩ 0 [] [put "b" 2]
      (by decide +kernel) rfl⟩

end Contents

end ShardedView
