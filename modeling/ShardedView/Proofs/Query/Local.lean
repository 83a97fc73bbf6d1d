import ShardedView.Proofs.Contents.Point
import ShardedView.Proofs.Contents.RangeRead
import ShardedView.Proofs.Query.Reply
import ShardedView.Proofs.Replica.Run
import ShardedView.Proofs.Topic.Key
import ShardedView.Proofs.Topic.Value
import ShardedView.Query.Service

/-!
What a replica reads from its own shards, and when it reads there at all.

Both for a key and for a range the replica first finds out where the key is held. What
follows is the same for both, so it is stated once, for any way to read and any way to
ask another replica.
-/

namespace ShardedView

namespace Log

/-- The value that the records of a log give to a key, one after another. -/
def value? (log : Log) (topic : Topic) (key : Bytes) : Option Bytes :=
  (Contents.empty.processAll topic log.records).point.find? key

def answer (log : Log) (topic : Topic) (key : topic.keyType.Key) : Except Failure Json :=
  match log.value? topic (topic.keyType.encode key) with
  | some value => topic.valueType.decode value
  | none => .error (.notFound (topic.keyType.toText key))

def answers (log : Log) (topic : Topic) (key : Bytes) (bounds : String × String) :
    Except Failure (List Json) :=
  let contents := Contents.empty.processAll topic (log.partition (log.place key))
  (contents.range.range bounds.1 bounds.2).mapM topic.valueType.decode

/-- All values of a log can be sent in an envelope. -/
def IsPlain (log : Log) (topic : Topic) : Prop :=
  ∀ record ∈ log.records, ∀ bytes ∈ record.value, ∀ value,
    topic.valueType.decode bytes = .ok value → value.IsPlain 125

theorem isPlain_of_valueType {topic : Topic} (type : topic.valueType ∈ [.string, .integer, .long])
    (log : Log) : log.IsPlain topic := by
  intro record member bytes given value decoded
  simp only [List.mem_cons, List.not_mem_nil, or_false] at type
  rcases type with type | type | type <;> rw [type, DataType.decode] at decoded <;>
    split at decoded
  · exact Except.ok.inj decoded ▸ .str _
  · contradiction
  · exact Except.ok.inj decoded ▸ .int _
  · contradiction
  · exact Except.ok.inj decoded ▸ .int _
  · contradiction

theorem isPlain_of_answer {log : Log} {topic : Topic} (plain : log.IsPlain topic)
    {key : topic.keyType.Key} {value : Json} (told : log.answer topic key = .ok value) :
    value.IsPlain 125 ∧ value.IsCanonical := by
  unfold answer at told
  split at told
  · next bytes found =>
    refine ⟨?_, DataType.isCanonical_of_decode told⟩
    rcases Contents.exists_record_of_find? found with before | ⟨record, member, given⟩
    · contradiction
    · exact plain record member bytes given value told
  · contradiction

theorem isPlain_of_answers {log : Log} {topic : Topic} (plain : log.IsPlain topic) {key : Bytes}
    {bounds : String × String} {values : List Json}
    (told : log.answers topic key bounds = .ok values) :
    ∀ value ∈ values, value.IsPlain 125 ∧ value.IsCanonical := by
  intro value member
  obtain ⟨bytes, stored, decoded⟩ := DataType.exists_of_mapM_decode told value member
  refine ⟨?_, DataType.isCanonical_of_decode decoded⟩
  rw [SortedMap.range_eq_map_between] at stored
  obtain ⟨⟨index, _⟩, between, rfl⟩ := List.mem_map.1 stored
  have found := SortedMap.find?_eq_some_iff.2 (SortedMap.mem_between.1 between).1
  rcases Contents.exists_record_of_range found with before | ⟨record, among, given⟩
  · contradiction
  · exact plain record (List.mem_filter.1 among).1 _ given value decoded

theorem kind_of_answer {log : Log} {topic : Topic} {key : topic.keyType.Key} {failure : Failure}
    (failed : log.answer topic key = .error failure) :
    failure.kind = .notFound ∧ log.value? topic (topic.keyType.encode key) = none ∨
      failure.kind = .codec := by
  unfold answer at failed
  split at failed
  · exact .inr (DataType.kind_of_decode failed)
  · next missing => exact .inl ⟨Except.error.inj failed ▸ rfl, missing⟩

theorem exists_value_of_answer {log : Log} {topic : Topic} {key : topic.keyType.Key}
    {value : Json} (told : log.answer topic key = .ok value) :
    ∃ bytes, log.value? topic (topic.keyType.encode key) = some bytes ∧
      topic.valueType.decode bytes = .ok value := by
  unfold answer at told
  split at told
  · next bytes found => exact ⟨bytes, found, told⟩
  · contradiction

end Log

namespace Topic

theorem exists_same_key {topic other : Topic} (same : topic = other) (key : topic.keyType.Key) :
    ∃ twin : other.keyType.Key, topic.keyType.toText key = other.keyType.toText twin := by
  subst same
  exact ⟨key, rfl⟩

section SameKey

variable {topic other : Topic} {key : topic.keyType.Key} {twin : other.keyType.Key}

theorem encode_eq_of_toText (same : topic = other)
    (text : topic.keyType.toText key = other.keyType.toText twin) :
    topic.keyType.encode key = other.keyType.encode twin := by
  subst same
  rw [KeyType.toText_injective text]

theorem answer_eq_of_toText (same : topic = other)
    (text : topic.keyType.toText key = other.keyType.toText twin) (log : Log) :
    log.answer topic key = log.answer other twin := by
  subst same
  rw [KeyType.toText_injective text]

end SameKey

end Topic

namespace Failure

def Kind.ofStore : List Kind :=
  [.storeNotAvailable, .storeNotRunning]

/-- A result as it is told to others: the value, or the kind of the failure. -/
def told {α : Type} (result : Except Failure α) : Except Kind α :=
  result.mapError kind

instance {α : Type} (kind : Kind) :
    (result : Except Failure α) → Decidable (told result = .error kind)
  | .ok _ => isFalse fun same => by cases same
  | .error failure => decidable_of_iff (failure.kind = kind) ⟨congrArg _, Except.error.inj⟩

end Failure

namespace Replica

/-- A replica that has taken in all of a log in the partitions that it holds. Its members
may be any, and what it holds may be outdated. -/
structure Shares (replica : Replica) (log : Log) : Prop where
  reached : (⟨log, replica⟩ : Site).Reached
  caughtUp : (⟨log, replica⟩ : Site).IsCaughtUp
  lasting : replica.topic.retention = none
  partitions : replica.layout.partitions = log.partitions
  finder : replica.layout.finder = log.finder

variable {replica : Replica} {log : Log}

theorem shares_after_step (topic : Topic) (layout : Layout) (view : MemberView)
    (events : List Site.Event) (lasting : topic.retention = none) (going : .stop ∉ events) :
    let site := (Site.start topic layout view layout.partitions).run (events ++ [.step])
    site.replica.Shares site.log := by
  have setting := Site.sameSetting_run (.start topic layout view layout.partitions)
    (events ++ [.step])
  have current := Site.isCurrent_after_step topic layout view layout.partitions events lasting going
  refine ⟨⟨topic, layout, view, layout.partitions, events ++ [.step], rfl⟩, ?_, ?_, ?_, ?_⟩
  · exact fun partition shard found => (current.shards partition shard found).offset
  · rw [setting.topic]
    exact lasting
  · rw [setting.layout, setting.partitions]
    rfl
  · rw [setting.layout, setting.finder]
    rfl

theorem Shares.place_eq (shares : replica.Shares log) (key : Bytes) :
    replica.place key = log.place key := by
  rw [place, Log.place, shares.partitions, shares.finder]

theorem kind_of_ensureRunning {failure : Failure}
    (failed : replica.ensureRunning = .error failure) : failure.kind ∈ Failure.Kind.ofStore := by
  unfold ensureRunning at failed
  split at failed
  · contradiction
  · exact Except.error.inj failed ▸ .tail _ (.head _)
  · exact Except.error.inj failed ▸ .head _
  · exact Except.error.inj failed ▸ .head _

theorem phase_of_ensureRunning (done : replica.ensureRunning = .ok ()) :
    replica.phase = .running := by
  unfold ensureRunning at done
  split at done <;> first | assumption | contradiction

theorem eq_of_locateHere {key : Bytes} {location : KeyLocation} {here : Bool}
    (located : replica.locateHere key = .ok (location, here)) :
    location.partition = replica.place key ∧
      replica.owners.find? (replica.place key) = some (location.active :: location.standbys) ∧
      here = decide (replica.host ∈ location.active :: location.standbys) := by
  obtain ⟨found, placed, same⟩ := Failure.exists_of_bind located
  cases same
  obtain ⟨-, -, placed⟩ := Failure.exists_of_bind placed
  split at placed
  · next active standbys known =>
    cases placed
    refine ⟨rfl, known, ?_⟩
    simp only [KeyLocation.isOn, List.mem_cons, Bool.decide_or, eq_comm (a := active)]
  · contradiction

theorem readable_cases (replica : Replica) (partition : Nat) :
    (∃ shard, replica.readable partition = .ok shard ∧
        replica.shards.find? partition = some shard) ∨
      ∃ failure, replica.readable partition = .error failure ∧
        failure.kind ∈ Failure.Kind.ofStore := by
  cases read : replica.readable partition with
  | ok shard => exact .inl ⟨shard, rfl, find?_of_readable read⟩
  | error failure =>
    refine .inr ⟨failure, rfl, ?_⟩
    unfold readable at read
    cases running : replica.ensureRunning with
    | error other =>
      rw [running] at read
      exact Except.error.inj read ▸ kind_of_ensureRunning running
    | ok =>
      rw [running] at read
      simp only [bind, Except.bind] at read
      split at read
      · split at read
        · contradiction
        · exact Except.error.inj read ▸ .head _
      · exact Except.error.inj read ▸ .head _

/-- A shard that has taken in the partition of a key gives what the log has to say. -/
theorem lookup_eq {shard : Shard} {key : replica.topic.keyType.Key}
    (read : replica.readable (log.place (replica.topic.keyType.encode key)) = .ok shard)
    (current : shard.IsCurrent replica.topic log
      (log.place (replica.topic.keyType.encode key))) :
    replica.lookup (log.place (replica.topic.keyType.encode key)) key =
      log.answer replica.topic key := by
  simp only [lookup, readPoint, read, bind, Except.bind, pure, Except.pure, current.contents,
    Contents.find?_processAll_partition]
  rfl

theorem lookupRange_eq_answers {shard : Shard} {key : Bytes}
    (read : replica.readable (log.place key) = .ok shard)
    (current : shard.IsCurrent replica.topic log (log.place key)) (bounds : String × String) :
    replica.lookupRange (log.place key) bounds = log.answers replica.topic key bounds := by
  rw [lookupRange_eq read, current.contents]
  rfl

/-- Reading at a replica gives what the log has to say, unless its store may not be
read. -/
theorem Shares.lookup_cases (shares : replica.Shares log) (key : replica.topic.keyType.Key) :
    replica.lookup (log.place (replica.topic.keyType.encode key)) key =
        log.answer replica.topic key ∨
      ∃ failure, replica.lookup (log.place (replica.topic.keyType.encode key)) key =
        .error failure ∧ failure.kind ∈ Failure.Kind.ofStore := by
  rcases replica.readable_cases (log.place (replica.topic.keyType.encode key)) with
    ⟨shard, read, found⟩ | ⟨failure, failed, kind⟩
  · have current := shares.reached.isCurrent_shard shares.lasting shares.caughtUp found
    exact .inl (lookup_eq read current)
  · refine .inr ⟨failure, ?_, kind⟩
    simp only [lookup, readPoint, failed, bind, Except.bind]

/-- Reads what is held here, and asks the active host for the rest. -/
def route {α : Type} (replica : Replica) (key : Bytes) (read : Nat → Except Failure α)
    (ask : String → Except Failure α) : Except Failure (Answer α) := do
  let (location, here) ← replica.locateHere key
  if here then return ⟨← read location.partition, false⟩
  else return ⟨← ask location.active, true⟩

theorem route_of_running {α : Type} (running : replica.phase = .running) (key : Bytes)
    (read : Nat → Except Failure α) (ask : String → Except Failure α) :
    replica.route key read ask =
      match replica.owners.find? (replica.place key) with
      | some (active :: standbys) =>
        if replica.host ∈ active :: standbys then
          (read (replica.place key)).map fun value => ⟨value, false⟩
        else (ask active).map fun value => ⟨value, true⟩
      | _ => .error .storeNotAvailable := by
  simp only [route, locateHere, locate, ensureRunning, running, bind, Except.bind]
  cases replica.owners.find? (replica.place key) with
  | none => rfl
  | some hosts =>
    cases hosts with
    | nil => rfl
    | cons active standbys =>
      simp only [pure, Except.pure, KeyLocation.isOn, List.mem_cons, Bool.or_eq_true,
        decide_eq_true_eq, eq_comm (a := active)]
      split
      · cases read (replica.place key) <;> rfl
      · cases ask active <;> rfl

/-- Either the hosts that the replica knows decide where it reads, or its store is to
blame. -/
theorem route_cases {α : Type} (replica : Replica) (key : Bytes)
    (read : Nat → Except Failure α) (ask : String → Except Failure α) :
    (∃ active standbys, replica.owners.find? (replica.place key) = some (active :: standbys) ∧
        replica.route key read ask =
          if replica.host ∈ active :: standbys then
            (read (replica.place key)).map fun value => ⟨value, false⟩
          else (ask active).map fun value => ⟨value, true⟩) ∨
      ∃ failure, replica.route key read ask = .error failure ∧
        failure.kind ∈ Failure.Kind.ofStore := by
  cases running : replica.ensureRunning with
  | error failure =>
    refine .inr ⟨failure, ?_, kind_of_ensureRunning running⟩
    simp only [route, locateHere, locate, running, bind, Except.bind]
  | ok =>
    rw [route_of_running (phase_of_ensureRunning running)]
    split
    · next active standbys found => exact .inl ⟨active, standbys, found, rfl⟩
    · exact .inr ⟨_, rfl, .head _⟩

/-- An answer was read here or asked for elsewhere, and tells which. -/
theorem exists_of_route {α : Type} {replica : Replica} {key : Bytes}
    {read : Nat → Except Failure α} {ask : String → Except Failure α} {answer : Answer α}
    (done : replica.route key read ask = .ok answer) :
    ∃ active standbys, replica.owners.find? (replica.place key) = some (active :: standbys) ∧
      if replica.host ∈ active :: standbys then
        read (replica.place key) = .ok answer.value ∧ answer.stale = false
      else ask active = .ok answer.value ∧ answer.stale = true := by
  have given : ∀ {result : Except Failure α} {stale : Bool},
      (result.map fun value => Answer.mk value stale) = .ok answer →
        result = .ok answer.value ∧ answer.stale = stale := by
    intro result stale same
    cases result with
    | error failure => cases same
    | ok value =>
      cases same
      exact ⟨rfl, rfl⟩
  rcases replica.route_cases key read ask with
    ⟨active, standbys, found, routed⟩ | ⟨failure, failed, -⟩
  · refine ⟨active, standbys, found, ?_⟩
    rw [routed] at done
    by_cases here : replica.host ∈ active :: standbys
    · rw [if_pos here] at done ⊢
      exact given done
    · rw [if_neg here] at done ⊢
      exact given done
  · rw [failed] at done
    cases done

theorem getHere_eq (replica : Replica) (key : replica.topic.keyType.Key) :
    replica.getHere key = replica.route (replica.topic.keyType.encode key)
      (fun partition => replica.lookup partition key) fun _ => .error .storeNotAvailable := by
  unfold getHere route
  cases replica.locateHere (replica.topic.keyType.encode key) with
  | error failure => rfl
  | ok located =>
    simp only [bind, Except.bind]
    split <;> rfl

theorem getRangeHere_eq (replica : Replica) (key : replica.topic.keyType.Key)
    (lower upper : String) :
    replica.getRangeHere key lower upper = (do
      let bounds ← replica.rangeBounds key lower upper
      replica.route (replica.topic.keyType.encode key)
        (fun partition => replica.lookupRange partition bounds)
        fun _ => .error .storeNotAvailable) := by
  unfold getRangeHere route
  cases replica.rangeBounds key lower upper with
  | error failure => rfl
  | ok bounds =>
    cases replica.locateHere (replica.topic.keyType.encode key) with
    | error failure => rfl
    | ok located =>
      simp only [bind, Except.bind]
      split <;> rfl

theorem rangeBounds_eq_of_toText {left right : Replica} (same : left.topic = right.topic)
    {key : left.topic.keyType.Key} {twin : right.topic.keyType.Key}
    (text : left.topic.keyType.toText key = right.topic.keyType.toText twin)
    (lower upper : String) :
    left.rangeBounds key lower upper = right.rangeBounds twin lower upper := by
  obtain ⟨topic⟩ := left
  obtain ⟨other⟩ := right
  obtain rfl : topic = other := same
  obtain rfl := KeyType.toText_injective text
  rfl

/-- What a replica reads for another one is what the log says, or its store may not be
read. -/
theorem Shares.getHere_cases (shares : replica.Shares log) (key : replica.topic.keyType.Key) :
    replica.getHere key = (log.answer replica.topic key).map (fun value => ⟨value, false⟩) ∨
      ∃ failure, replica.getHere key = .error failure ∧
        failure.kind ∈ Failure.Kind.ofStore := by
  rw [getHere_eq]
  rcases replica.route_cases (replica.topic.keyType.encode key)
    (fun partition => replica.lookup partition key) (fun _ => .error .storeNotAvailable) with
    ⟨active, standbys, -, routed⟩ | unavailable
  · rw [routed, shares.place_eq]
    split
    · rcases shares.lookup_cases key with told | ⟨failure, failed, kind⟩
      · exact .inl (by rw [told])
      · exact .inr ⟨failure, by rw [failed]; rfl, kind⟩
    · exact .inr ⟨_, rfl, .head _⟩
  · exact .inr unavailable

/-- A replica of a log with one record that counts on some members. -/
def counting (self : Member) (alive : List Member) : Site :=
  (Site.start ⟨"t", .string, .string, .mutable, none, none⟩ ⟨1, 0, .murmur⟩ ⟨self, []⟩ 1).run
    ([.append ⟨Utf8.encode "k", some (Utf8.encode "v"), 0⟩, .members alive] ++ [.step])

theorem topic_counting (self : Member) (alive : List Member) :
    (counting self alive).replica.topic = ⟨"t", .string, .string, .mutable, none, none⟩ :=
  (Site.sameSetting_run _ _).topic

theorem layout_counting (self : Member) (alive : List Member) :
    (counting self alive).replica.layout = ⟨1, 0, .murmur⟩ :=
  (Site.sameSetting_run _ _).layout

theorem view_counting (self : Member) (alive : List Member) :
    (counting self alive).replica.view = ⟨self, alive⟩ := by
  rw [counting, Site.run_append]
  exact view_stepAmid _ _ _

theorem shares_counting (self : Member) (alive : List Member) :
    (counting self alive).replica.Shares
      ⟨1, .murmur, [⟨Utf8.encode "k", some (Utf8.encode "v"), 0⟩]⟩ :=
  shares_after_step _ ⟨1, 0, .murmur⟩ _ _ rfl (by simp)

theorem isSettled_counting (self : Member) (alive : List Member) :
    (counting self alive).replica.isSettled = true :=
  (Site.isCurrent_after_step _ ⟨1, 0, .murmur⟩ _ 1 _ rfl (by simp)).isSettled

end Replica

end ShardedView
