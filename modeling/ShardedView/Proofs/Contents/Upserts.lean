import ShardedView.Proofs.Contents.History

/-!
What retention leaves of the values of a key. When a replica drops the expired ones is
its own affair, so that replicas which saw the same records may hold different values.

`Topic.MayHold` says which ones, and every record and every sweep keeps to it. A last
sweep then evens out all differences but those that `Topic.Settles` and
`Topic.SettlesAt` rule out: a value that an immutable key could take because an earlier
one had been dropped, and a value that only expired records of a key gave and that the
later records of the key kept from being dropped.
-/

namespace ShardedView

structure Upsert where
  value : Bytes
  /-- In milliseconds. -/
  time : Nat
  deriving DecidableEq, Repr

namespace Upsert

def isExpired (cutoff : Nat) (upsert : Upsert) : Bool :=
  upsert.time < cutoff

/-- What a sweep leaves of the values of a key: all of them, or none if the last one has
expired. -/
def sweep (cutoff : Nat) (held : List Upsert) : List Upsert :=
  if held.getLast?.any (isExpired cutoff) then [] else held

/-- The values behind the last one that has expired. -/
def fresh (cutoff : Nat) (upserts : List Upsert) : List Upsert :=
  (upserts.reverse.takeWhile fun upsert => !upsert.isExpired cutoff).reverse

def isAt (field : RangeField) (type : DataType) (number : Int64) (upsert : Upsert) : Bool :=
  field.of? type upsert.value = some number

def latest? (upserts : List Upsert) (field : RangeField) (type : DataType) (number : Int64) :
    Option Bytes :=
  (upserts.reverse.find? (isAt field type number)).map value

theorem sweep_nil (cutoff : Nat) : sweep cutoff [] = [] := rfl

theorem sweep_of_expired {cutoff : Nat} {held : List Upsert} {last : Upsert}
    (ends : held.getLast? = some last) (expired : last.isExpired cutoff = true) :
    sweep cutoff held = [] := by
  rw [sweep, ends, Option.any_some, if_pos expired]

theorem sweep_of_fresh {cutoff : Nat} {held : List Upsert} {last : Upsert}
    (ends : held.getLast? = some last) (fresh : last.isExpired cutoff = false) :
    sweep cutoff held = held := by
  rw [sweep, ends, Option.any_some, fresh, if_neg Bool.false_ne_true]

theorem sweep_cases (cutoff : Nat) (held : List Upsert) :
    sweep cutoff held = [] ∨ sweep cutoff held = held := by
  unfold sweep
  split
  · exact .inl rfl
  · exact .inr rfl

theorem sweep_subset (cutoff : Nat) (held : List Upsert) : sweep cutoff held ⊆ held := by
  unfold sweep
  split
  · exact List.nil_subset _
  · exact List.Subset.refl _

theorem fresh_append {cutoff : Nat} {dropped : List Upsert}
    (expired : ∀ last ∈ dropped.getLast?, last.isExpired cutoff = true) (held : List Upsert) :
    fresh cutoff (dropped ++ held) = fresh cutoff held := by
  have nothing : dropped.reverse.takeWhile (fun upsert => !upsert.isExpired cutoff) = [] := by
    cases ends : dropped.reverse with
    | nil => rfl
    | cons last before =>
      have last := expired last (by rw [List.getLast?_eq_head?_reverse, ends, List.head?_cons]; rfl)
      rw [List.takeWhile_cons_of_neg (by rw [last]; decide)]
  rw [fresh, List.reverse_append, List.takeWhile_append, nothing, List.append_nil, fresh]
  split
  · next whole => rw [(List.takeWhile_sublist _).eq_of_length whole]
  · rfl

theorem fresh_append_singleton (cutoff : Nat) (upserts : List Upsert) (upsert : Upsert) :
    fresh cutoff (upserts ++ [upsert]) =
      if upsert.isExpired cutoff then [] else fresh cutoff upserts ++ [upsert] := by
  cases expired : upsert.isExpired cutoff <;> simp [fresh, expired]

theorem fresh_ne_nil {cutoff : Nat} {held : List Upsert} {last : Upsert}
    (ends : held.getLast? = some last) (unexpired : last.isExpired cutoff = false) :
    fresh cutoff held ≠ [] := by
  obtain ⟨before, rfl⟩ := List.getLast?_eq_some_iff.1 ends
  simp [fresh_append_singleton, unexpired]

theorem sweep_of_fresh_ne_nil {cutoff : Nat} {upserts : List Upsert}
    (lasting : fresh cutoff upserts ≠ []) : sweep cutoff upserts = upserts := by
  unfold sweep
  split
  case isFalse => rfl
  case isTrue ended =>
    obtain ⟨last, ends, expired⟩ := (Option.any_eq_true ..).1 ended
    obtain ⟨before, rfl⟩ := List.getLast?_eq_some_iff.1 ends
    simp [fresh, expired] at lasting

theorem mem_of_mem_fresh {cutoff : Nat} {held : List Upsert} {upsert : Upsert}
    (member : upsert ∈ fresh cutoff held) : upsert ∈ held :=
  List.mem_reverse.1 ((List.takeWhile_sublist _).subset (List.mem_reverse.1 member))

theorem latest?_append (before held : List Upsert) (field : RangeField) (type : DataType)
    (number : Int64) :
    latest? (before ++ held) field type number =
      (latest? held field type number).or (latest? before field type number) := by
  rw [latest?, List.reverse_append, List.find?_append, Option.map_or, ← latest?, ← latest?]

theorem latest?_append_singleton (before : List Upsert) (upsert : Upsert) (field : RangeField)
    (type : DataType) (number : Int64) :
    latest? (before ++ [upsert]) field type number =
      if upsert.isAt field type number then some upsert.value
      else latest? before field type number := by
  rw [latest?_append, latest?, List.reverse_singleton, List.find?_singleton]
  cases upsert.isAt field type number <;> rfl

theorem latest?_eq_none_iff {upserts : List Upsert} {field : RangeField} {type : DataType}
    {number : Int64} :
    latest? upserts field type number = none ↔
      ∀ upsert ∈ upserts, upsert.isAt field type number = false := by
  simp [latest?]

end Upsert

namespace Topic

/-- Whether a key can be given a value. With a range field the key must be readable and
the value must have the field. -/
def takes (topic : Topic) (key value : Bytes) : Bool :=
  match topic.rangeField with
  | none => true
  | some field =>
    (topic.keyType.decode key).isOk && (field.of? topic.valueType value).isSome

/-- The values that records give a key after the last one that removes it. -/
def upserts (topic : Topic) (key : Bytes) (records : List Record) : List Upsert :=
  let own := (records.filter fun record => record.key = key).map fun record =>
    record.value.map fun value => Upsert.mk value record.timestamp
  let given := (own.reverse.takeWhile Option.isSome).reverse.filterMap id
  given.filter fun upsert => topic.takes key upsert.value

def heldAfter (topic : Topic) (record : Record) (held : List Upsert) : List Upsert :=
  match record.value with
  | none => []
  | some value =>
    if topic.writeType = .immutable && !held.isEmpty then held
    else if topic.takes record.key value then held ++ [⟨value, record.timestamp⟩]
    else held

def heldAfterAll (topic : Topic) (key : Bytes) (records : List Record) (held : List Upsert) :
    List Upsert :=
  records.foldl (fun held record => if key = record.key then topic.heldAfter record held else held)
    held

/-- Which values of a key may be held, if expired ones may have been dropped at any time:
on a mutable topic those behind some expired value, on an immutable one at most one, the
first if that has not expired. -/
def MayHold (topic : Topic) (cutoff : Nat) (upserts held : List Upsert) : Prop :=
  match topic.writeType with
  | .mutable => ∃ dropped, upserts = dropped ++ held ∧
      ∀ last ∈ dropped.getLast?, last.isExpired cutoff = true
  | .immutable => held.length ≤ 1 ∧ held ⊆ upserts ∧
      ∀ first ∈ upserts.head?, first.isExpired cutoff = false → held = [first]

/-- What is held of a key if nothing was dropped. -/
def kept (topic : Topic) (upserts : List Upsert) : List Upsert :=
  match topic.writeType with
  | .mutable => upserts
  | .immutable => upserts.take 1

/-- Whether the value of a key does not depend on earlier sweeps. On an immutable topic
its first value must not have expired, or all must have. -/
def Settles (topic : Topic) (cutoff : Nat) (upserts : List Upsert) : Prop :=
  topic.writeType = .mutable ∨
    (∀ first ∈ upserts.head?, first.isExpired cutoff = false) ∨
    ∀ upsert ∈ upserts, upsert.isExpired cutoff = true

/-- Whether the value of a key at an integer does not depend on earlier sweeps. On a
mutable topic the last value of the key must have expired, or one of those behind the
last expired one must be at the integer if any is. On an immutable topic the value of the
key must not depend on them, or only expired ones be at the integer. -/
def SettlesAt (topic : Topic) (field : RangeField) (number : Int64) (cutoff : Nat)
    (upserts : List Upsert) : Prop :=
  match topic.writeType with
  | .mutable => Upsert.fresh cutoff upserts = [] ∨
      ((∃ upsert ∈ upserts, upsert.isAt field topic.valueType number = true) →
        ∃ upsert ∈ Upsert.fresh cutoff upserts, upsert.isAt field topic.valueType number = true)
  | .immutable => topic.Settles cutoff upserts ∨
      ∀ upsert ∈ upserts, upsert.isAt field topic.valueType number = true →
        upsert.isExpired cutoff = true

/-- The same for an index key, which may be one of a key at an integer. -/
def SettlesIndex (topic : Topic) (index : String) (cutoff : Nat) (records : List Record) : Prop :=
  ∀ field, topic.rangeField = some field → ∀ key number padded,
    field.type.pad number = .ok padded → index = RangeIndex.compose topic.keyType key padded →
      topic.SettlesAt field number cutoff (topic.upserts (topic.keyType.encode key) records)

variable {topic : Topic} {key : Bytes} {records : List Record} {record : Record}

theorem upserts_append_other (other : record.key ≠ key) :
    topic.upserts key (records ++ [record]) = topic.upserts key records := by
  simp [upserts, other]

theorem upserts_append_removal (own : record.key = key) (removal : record.value = none) :
    topic.upserts key (records ++ [record]) = [] := by
  simp [upserts, own, removal]

theorem upserts_append_value {value : Bytes} (own : record.key = key)
    (given : record.value = some value) :
    topic.upserts key (records ++ [record]) =
      topic.upserts key records ++
        if topic.takes key value then [⟨value, record.timestamp⟩] else [] := by
  cases taken : topic.takes key value <;> simp [upserts, own, given, taken]

variable {cutoff : Nat} {upserts held : List Upsert}

theorem mayHold_nil (topic : Topic) (cutoff : Nat) : topic.MayHold cutoff [] [] := by
  unfold MayHold
  split
  · exact ⟨[], rfl, nofun⟩
  · exact ⟨Nat.zero_le _, List.nil_subset _, nofun⟩

theorem MayHold.take {upsert : Upsert} (may : topic.MayHold cutoff upserts held) :
    topic.MayHold cutoff (upserts ++ [upsert])
      (if topic.writeType = .immutable && !held.isEmpty then held else held ++ [upsert]) := by
  unfold MayHold at may ⊢
  cases writeType : topic.writeType with
  | mutable =>
    simp only [writeType] at may
    obtain ⟨dropped, rfl, expired⟩ := may
    exact ⟨dropped, List.append_assoc .., expired⟩
  | immutable =>
    simp only [writeType] at may
    obtain ⟨single, among, first⟩ := may
    cases held with
    | nil =>
      refine ⟨Nat.le_refl 1, List.subset_append_right .., ?_⟩
      cases upserts with
      | nil =>
        intro only same unexpired
        rw [← Option.some.inj same]
        rfl
      | cons head rest =>
        -- had the first one not expired, it would be held
        intro other same unexpired
        exact absurd (first other same unexpired) nofun
    | cons own rest =>
      refine ⟨single, fun other member => List.mem_append_left _ (among member), ?_⟩
      cases upserts with
      | nil => exact absurd (among (.head _)) nofun
      | cons head others => exact first

theorem MayHold.after (may : topic.MayHold cutoff (topic.upserts key records) held)
    (own : record.key = key) :
    topic.MayHold cutoff (topic.upserts key (records ++ [record]))
      (topic.heldAfter record held) := by
  unfold heldAfter
  split
  case h_1 removal =>
    rw [upserts_append_removal own removal]
    exact mayHold_nil topic cutoff
  case h_2 value given =>
    rw [upserts_append_value own given, own]
    cases taken : topic.takes key value with
    | true => exact may.take
    | false => simpa using may

/-- A sweep may come at any time, if its time is not later than the last one's. -/
theorem MayHold.sweep {earlier : Nat} (may : topic.MayHold cutoff upserts held)
    (before : earlier ≤ cutoff) : topic.MayHold cutoff upserts (Upsert.sweep earlier held) := by
  unfold Upsert.sweep
  split
  case isFalse => exact may
  case isTrue ended =>
    obtain ⟨last, ends, expired⟩ := (Option.any_eq_true ..).1 ended
    have expired : last.isExpired cutoff = true :=
      decide_eq_true (Nat.lt_of_lt_of_le (of_decide_eq_true expired) before)
    unfold MayHold at may ⊢
    cases writeType : topic.writeType with
    | mutable =>
      simp only [writeType] at may
      obtain ⟨dropped, rfl, -⟩ := may
      refine ⟨dropped ++ held, (List.append_nil _).symm, ?_⟩
      intro other same
      rw [List.getLast?_append, ends] at same
      obtain rfl := Option.some.inj same
      exact expired
    | immutable =>
      simp only [writeType] at may
      refine ⟨Nat.zero_le _, List.nil_subset _, fun first same unexpired => ?_⟩
      rw [may.2.2 first same unexpired, List.getLast?_singleton] at ends
      obtain rfl := Option.some.inj ends
      rw [expired] at unexpired
      contradiction

/-- On an immutable topic a last sweep gives a key whose value settles what it has without
any sweep before. -/
theorem MayHold.sweep_immutable (may : topic.MayHold cutoff upserts held)
    (immutable : topic.writeType = .immutable) (settles : topic.Settles cutoff upserts) :
    Upsert.sweep cutoff held = Upsert.sweep cutoff (topic.kept upserts) := by
  unfold MayHold at may
  simp only [immutable] at may
  obtain ⟨-, among, first⟩ := may
  simp only [kept, immutable]
  rcases settles with mutable | unexpired | expired
  · rw [immutable] at mutable
    contradiction
  · cases upserts with
    | nil => rw [List.subset_nil.1 among, List.take_nil]
    | cons head rest =>
      rw [first head rfl (unexpired head rfl)]
      rfl
  · have nothing : ∀ {list : List Upsert}, list ⊆ upserts → Upsert.sweep cutoff list = [] := by
      intro list among
      cases ends : list.getLast? with
      | none => rw [List.getLast?_eq_none_iff.1 ends, Upsert.sweep_nil]
      | some last =>
        exact Upsert.sweep_of_expired ends (expired last (among (List.mem_of_getLast? ends)))
    rw [nothing among, nothing (List.take_subset ..)]

/-- On a mutable topic what a last sweep leaves of a key is behind what it leaves without
any sweep before, or nothing is left in both cases. -/
theorem MayHold.sweep_mutable (may : topic.MayHold cutoff upserts held)
    (mutable : topic.writeType = .mutable) :
    Upsert.sweep cutoff held = [] ∧ Upsert.sweep cutoff upserts = [] ∨
      Upsert.sweep cutoff held = held ∧ Upsert.sweep cutoff upserts = upserts ∧
        ∃ dropped last, upserts = dropped ++ held ∧
          Upsert.fresh cutoff upserts = Upsert.fresh cutoff held ∧
          held.getLast? = some last ∧ last.isExpired cutoff = false := by
  unfold MayHold at may
  simp only [mutable] at may
  obtain ⟨dropped, rfl, expired⟩ := may
  cases ends : held.getLast? with
  | none =>
    rw [List.getLast?_eq_none_iff.1 ends, List.append_nil]
    refine .inl ⟨rfl, ?_⟩
    cases droppedEnds : dropped.getLast? with
    | none => rw [List.getLast?_eq_none_iff.1 droppedEnds, Upsert.sweep_nil]
    | some last => exact Upsert.sweep_of_expired droppedEnds (expired last droppedEnds)
  | some last =>
    have whole : (dropped ++ held).getLast? = some last := by
      rw [List.getLast?_append, ends, Option.some_or]
    cases old : last.isExpired cutoff with
    | true => exact .inl ⟨Upsert.sweep_of_expired ends old, Upsert.sweep_of_expired whole old⟩
    | false =>
      exact .inr ⟨Upsert.sweep_of_fresh ends old, Upsert.sweep_of_fresh whole old, dropped, last,
        rfl, Upsert.fresh_append expired held, rfl, old⟩

/-- A last sweep gives a key that settles the value that it has without any sweep before. -/
theorem MayHold.getLast?_sweep (may : topic.MayHold cutoff upserts held)
    (settles : topic.Settles cutoff upserts) :
    (Upsert.sweep cutoff held).getLast? = (Upsert.sweep cutoff (topic.kept upserts)).getLast? := by
  cases writeType : topic.writeType with
  | immutable => rw [may.sweep_immutable writeType settles]
  | mutable =>
    simp only [kept, writeType]
    rcases may.sweep_mutable writeType with
      ⟨held, whole⟩ | ⟨left, whole, dropped, last, rfl, -, ends, -⟩
    · rw [held, whole]
    · rw [left, whole, List.getLast?_append, ends, Option.some_or]

theorem mayHold_kept (topic : Topic) (cutoff : Nat) (upserts : List Upsert) :
    topic.MayHold cutoff upserts (topic.kept upserts) := by
  unfold MayHold kept
  cases topic.writeType with
  | mutable => exact ⟨[], rfl, nofun⟩
  | immutable =>
    refine ⟨List.length_take_le .., List.take_subset .., fun first ends _ => ?_⟩
    cases upserts with
    | nil => contradiction
    | cons head rest => rw [← Option.some.inj ends]; rfl

/-- On an immutable topic a last sweep leaves a key nothing at an integer at which all
values have expired. -/
theorem MayHold.latest?_sweep_eq_none {field : RangeField} {number : Int64}
    (may : topic.MayHold cutoff upserts held) (immutable : topic.writeType = .immutable)
    (expired : ∀ upsert ∈ upserts, upsert.isAt field topic.valueType number = true →
      upsert.isExpired cutoff = true) :
    Upsert.latest? (Upsert.sweep cutoff held) field topic.valueType number = none := by
  unfold MayHold at may
  simp only [immutable] at may
  obtain ⟨single, among, -⟩ := may
  rw [Upsert.latest?_eq_none_iff]
  cases held with
  | nil => nofun
  | cons own rest =>
    obtain rfl : rest = [] :=
      List.eq_nil_of_length_eq_zero (Nat.le_zero.1 (Nat.le_of_succ_le_succ single))
    cases old : own.isExpired cutoff with
    | true =>
      rw [Upsert.sweep_of_expired rfl old]
      nofun
    | false =>
      rw [Upsert.sweep_of_fresh rfl old]
      intro upsert member
      rw [List.mem_singleton.1 member, ← Bool.not_eq_true]
      intro given
      rw [expired own (among (.head _)) given] at old
      contradiction

theorem MayHold.latest?_sweep {field : RangeField} {number : Int64}
    (may : topic.MayHold cutoff upserts held)
    (settles : topic.SettlesAt field number cutoff upserts) :
    Upsert.latest? (Upsert.sweep cutoff held) field topic.valueType number =
      Upsert.latest? (Upsert.sweep cutoff (topic.kept upserts)) field topic.valueType number := by
  unfold SettlesAt at settles
  cases writeType : topic.writeType with
  | immutable =>
    simp only [writeType] at settles
    rcases settles with settles | expired
    · rw [may.sweep_immutable writeType settles]
    · rw [may.latest?_sweep_eq_none writeType expired,
        (topic.mayHold_kept cutoff upserts).latest?_sweep_eq_none writeType expired]
  | mutable =>
    simp only [writeType] at settles
    simp only [kept, writeType]
    rcases may.sweep_mutable writeType with
      ⟨held, whole⟩ | ⟨left, whole, dropped, last, rfl, same, ends, unexpired⟩
    · rw [held, whole]
    rw [left, whole, Upsert.latest?_append]
    cases latest : Upsert.latest? held field topic.valueType number with
    | some value => rfl
    | none =>
      rw [Option.none_or, eq_comm, Upsert.latest?_eq_none_iff]
      rw [Upsert.latest?_eq_none_iff] at latest
      intro upsert member
      rw [← Bool.not_eq_true]
      intro given
      rw [same] at settles
      rcases settles with nothing | later
      · exact Upsert.fresh_ne_nil ends unexpired nothing
      · obtain ⟨other, fresh, same⟩ := later ⟨upsert, List.mem_append_left _ member, given⟩
        rw [latest other (Upsert.mem_of_mem_fresh fresh)] at same
        contradiction

end Topic

end ShardedView
