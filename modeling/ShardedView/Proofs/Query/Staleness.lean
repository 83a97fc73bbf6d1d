import ShardedView.Proofs.Query.Hops
import ShardedView.Proofs.Query.Status

/-!
The mark on replies that tells the client that its routing is outdated: that a key that was
asked for is held elsewhere, as the replica knows the owners.

The mark goes with an answer. A key for which the replica asked elsewhere and found no value
leaves no mark: for a single key the reply is a failure, and several keys are put together
without the failures among them.
-/

namespace ShardedView

open Http (Network Reply)
open Http.Exchange (outcome outcome_bind outcome_lift)

namespace Replica

/-- Whether a key is in a partition that has owners, and the replica is none of them, as it
knows them. -/
def IsForeign (replica : Replica) (key : Bytes) : Prop :=
  ∃ hosts, replica.owners.find? (replica.place key) = some hosts ∧ replica.host ∉ hosts

section Answers

variable {replica : Replica} {send : Sender}

theorem stale_of_route {α : Type} {key : Bytes} {read : Nat → Except Failure α}
    {ask : String → Except Failure α} {answer : Answer α}
    (done : replica.route key read ask = .ok answer) :
    answer.stale = true ↔ replica.IsForeign key := by
  obtain ⟨active, standbys, found, given⟩ := exists_of_route done
  have foreign : replica.IsForeign key ↔ replica.host ∉ active :: standbys := by
    simp only [IsForeign, found, Option.some.injEq, exists_eq_left']
  split at given
  · next here => simp [foreign, here, given.2]
  · next away => simp [foreign, away, given.2]

theorem stale_of_route_of_silent {α : Type} {key : Bytes} {read : Nat → Except Failure α}
    {failure : Failure} {answer : Answer α}
    (done : replica.route key read (fun _ => .error failure) = .ok answer) :
    answer.stale = false := by
  obtain ⟨active, standbys, -, given⟩ := exists_of_route done
  split at given
  · exact given.2
  · cases given.1

theorem stale_of_get {key : replica.topic.keyType.Key} {answer : Answer Json}
    (done : (replica.get send key).outcome = .ok answer) :
    answer.stale = true ↔ replica.IsForeign (replica.topic.keyType.encode key) := by
  rw [outcome_get] at done
  exact stale_of_route done

theorem stale_of_getRange {key : replica.topic.keyType.Key} {lower upper : String}
    {answer : Answer (List Json)}
    (done : (replica.getRange send key lower upper).outcome = .ok answer) :
    answer.stale = true ↔ replica.IsForeign (replica.topic.keyType.encode key) := by
  rw [outcome_getRange] at done
  obtain ⟨bounds, -, routed⟩ := Failure.exists_of_bind done
  exact stale_of_route routed

theorem stale_of_getHere {key : replica.topic.keyType.Key} {answer : Answer Json}
    (done : replica.getHere key = .ok answer) : answer.stale = false := by
  rw [getHere_eq] at done
  exact stale_of_route_of_silent done

theorem stale_of_getRangeHere {key : replica.topic.keyType.Key} {lower upper : String}
    {answer : Answer (List Json)} (done : replica.getRangeHere key lower upper = .ok answer) :
    answer.stale = false := by
  rw [getRangeHere_eq] at done
  obtain ⟨bounds, -, routed⟩ := Failure.exists_of_bind done
  exact stale_of_route_of_silent routed

theorem stale_of_getAll {answer : Answer (List Json)} (done : replica.getAll = .ok answer) :
    answer.stale = false := by
  obtain ⟨stored, -, later⟩ := Failure.exists_of_bind done
  obtain ⟨values, -, same⟩ := Failure.exists_of_bind later
  cases same
  rfl

theorem stale_of_merge {answers : List (Except Failure (Answer Json))}
    {merged : Answer (List Json)} (done : merge answers = .ok merged) :
    merged.stale = true ↔ ∃ answer, .ok answer ∈ answers ∧ answer.stale = true := by
  induction answers generalizing merged with
  | nil =>
    cases done
    simp
  | cons first rest ih =>
    cases first with
    | ok answer =>
      obtain ⟨later, others, same⟩ := Failure.exists_of_bind done
      cases same
      simp only [Bool.or_eq_true, ih others, List.mem_cons, Except.ok.injEq]
      constructor
      · rintro (own | ⟨other, member, marked⟩)
        · exact ⟨answer, .inl rfl, own⟩
        · exact ⟨other, .inr member, marked⟩
      · rintro ⟨other, rfl | member, marked⟩
        · exact .inl marked
        · exact .inr ⟨other, member, marked⟩
    | error failure =>
      cases failure with
      | notFound key =>
        rw [ih done]
        simp
      | _ => cases done

theorem stale_of_getMany {keys : List replica.topic.keyType.Key} {merged : Answer (List Json)}
    (done : (replica.getMany send keys).outcome = .ok merged) :
    merged.stale = true ↔ ∃ key ∈ keys, replica.IsForeign (replica.topic.keyType.encode key) ∧
      ∃ answer, (replica.get send key).outcome = .ok answer := by
  rw [outcome_getMany] at done
  rw [stale_of_merge done]
  constructor
  · rintro ⟨answer, member, marked⟩
    obtain ⟨key, among, own⟩ := List.mem_map.1 member
    exact ⟨key, among, (stale_of_get own).1 marked, answer, own⟩
  · rintro ⟨key, among, foreign, answer, own⟩
    exact ⟨answer, own ▸ List.mem_map_of_mem among, (stale_of_get own).2 foreign⟩

end Answers

end Replica

namespace Http.Reply

/-- Whether a reply says that its values are all there is, or that there is no value. -/
def IsConclusive (reply : Reply) : Prop :=
  reply.status = 200 ∨ reply.status = 404

theorem not_isConclusive_ofFault (fault : RequestFault) : ¬ (ofFault fault).IsConclusive := by
  rintro (same | same) <;> exact absurd same (show (400 : UInt16) ≠ _ by decide)

theorem stale_of_ofValue (result : Except Failure (Answer Json)) :
    (ofValue result).stale = true ↔ ∃ answer, result = .ok answer ∧ answer.stale = true := by
  cases result with
  | ok answer => simp [ofValue, ofAnswer]
  | error failure => simp [ofValue, ofFailure]

/-- Where no failure tells of a missing value, what is conclusive holds values. -/
theorem exists_of_ofValues {result : Except Failure (Answer (List Json))}
    (faults : Failure.FailsAs Failure.IsFault result) (told : (ofValues result).IsConclusive) :
    ∃ answer, result = .ok answer ∧ (ofValues result).stale = answer.stale := by
  cases result with
  | ok answer => exact ⟨answer, rfl, rfl⟩
  | error failure =>
    obtain ⟨missing, failed⟩ := (faults failure rfl).statusCode
    rcases told with same | same
    · exact absurd (show 200 ≤ failure.statusCode ∧ failure.statusCode < 300 by
        rw [show failure.statusCode = 200 from same]; decide) failed
    · exact absurd same missing

end Http.Reply

def Route.isRange : Route → Bool
  | .range _ => true
  | _ => false

def Request.isRange (request : Request) : Bool :=
  (Route.ofPath? request.path).any Route.isRange

namespace Replica

/-- Whether a replica finds a value for a key, here or elsewhere. -/
def Finds (replica : Replica) (send : Sender) (key : replica.topic.keyType.Key) : Prop :=
  ∃ answer, (replica.get send key).outcome = .ok answer

/-- Whether one of the texts names a key that is held elsewhere and of which enough is known. -/
def NamesForeign (replica : Replica) (texts : List String)
    (known : replica.topic.keyType.Key → Prop) : Prop :=
  ∃ text ∈ texts, ∃ key, replica.topic.keyType.ofText text = .ok key ∧
    replica.IsForeign (replica.topic.keyType.encode key) ∧ known key

variable (replica : Replica) (network : Network)

theorem not_namesForeign_nil (known : replica.topic.keyType.Key → Prop) :
    ¬ replica.NamesForeign [] known := by
  rintro ⟨text, listed, -⟩
  cases listed

theorem stale_of_replyPoint (segment : Bytes) :
    (replica.replyPoint network.sender segment).result.stale = true ↔
      replica.NamesForeign (Request.keyText segment).toOption.toList
        (replica.Finds network.sender) := by
  rw [result_replyPoint]
  cases Request.keyText segment with
  | error fault => simp [Reply.ofFault, Except.toOption, not_namesForeign_nil]
  | ok text =>
    simp only [Except.toOption, Option.toList_some, NamesForeign, List.mem_singleton,
      exists_eq_left, Reply.stale_of_ofValue]
    constructor
    · rintro ⟨answer, done, marked⟩
      obtain ⟨key, read, own⟩ := Failure.exists_of_bind done
      exact ⟨key, read, (stale_of_get own).1 marked, answer, own⟩
    · rintro ⟨key, read, foreign, answer, own⟩
      exact ⟨answer, by rw [read]; exact own, (stale_of_get own).2 foreign⟩

theorem stale_of_replyRange {segment query : Bytes}
    (told : (replica.replyRange network.sender segment query).result.IsConclusive) :
    (replica.replyRange network.sender segment query).result.stale = true ↔
      replica.NamesForeign (Request.keyText segment).toOption.toList fun _ => True := by
  rw [result_replyRange] at told ⊢
  cases found : rangeArguments segment query with
  | error fault =>
    rw [found] at told
    exact absurd told (Reply.not_isConclusive_ofFault fault)
  | ok arguments =>
    obtain ⟨text, lower, upper⟩ := arguments
    rw [found] at told
    obtain ⟨answer, done, marked⟩ := Reply.exists_of_ofValues
      ((KeyType.failsAs_ofText _ _).bind fun key => replica.failsAs_getRange network key _ _) told
    obtain ⟨key, read, own⟩ := Failure.exists_of_bind done
    rw [marked, stale_of_getRange own, keyText_of_rangeArguments found]
    simp only [Except.toOption, Option.toList_some, NamesForeign, List.mem_singleton,
      exists_eq_left, read, Except.ok.injEq, exists_eq_left', and_true]

theorem stale_of_replyMany {query : Bytes}
    (told : (replica.replyMany network.sender query).result.IsConclusive) :
    (replica.replyMany network.sender query).result.stale = true ↔
      replica.NamesForeign ((Request.keyTexts query).toOption.getD [])
        (replica.Finds network.sender) := by
  rw [result_replyMany] at told ⊢
  cases found : Request.keyTexts query with
  | error fault =>
    rw [found] at told
    exact absurd told (Reply.not_isConclusive_ofFault fault)
  | ok texts =>
    rw [found] at told
    obtain ⟨answer, done, marked⟩ := Reply.exists_of_ofValues
      ((Failure.FailsAs.mapM (KeyType.failsAs_ofText _) _).bind
        (replica.failsAs_getMany network)) told
    obtain ⟨keys, read, own⟩ := Failure.exists_of_bind done
    rw [marked, stale_of_getMany own]
    simp only [Except.toOption, Option.getD_some]
    constructor
    · rintro ⟨key, among, foreign, value⟩
      obtain ⟨text, listed, same⟩ := Failure.exists_of_mem_mapM read among
      exact ⟨text, listed, key, same, foreign, value⟩
    · rintro ⟨text, listed, key, same, foreign, value⟩
      exact ⟨key, Failure.mem_of_mapM read listed same, foreign, value⟩

/-- The reply to a request for the head alone is that to the request but for the body. -/
theorem reply_of_route {request : Request} {route : Route} (send : Sender)
    (named : Route.ofPath? request.path = some route) :
    let reply := (replica.reply send request).result
    let whole := (replica.replyTo send request.query route).result
    (reply.status = whole.status ∧ reply.stale = whole.stale) ∨ reply = .empty 405 := by
  intro reply whole
  simp only [reply, Replica.reply, named]
  split
  · exact .inl ⟨rfl, rfl⟩
  · split
    · exact .inl ⟨rfl, rfl⟩
    · exact .inr rfl

theorem stale_of_replyTo_of_silent (send : Sender) (query : Bytes) (route : Route)
    (silent : ∀ segment, route ≠ .point segment ∧ route ≠ .range segment ∧ route ≠ .many) :
    (replica.replyTo send query route).result.stale = false := by
  have values : ∀ {result : Except Failure (Answer (List Json))},
      (∀ answer, result = .ok answer → answer.stale = false) →
        (Reply.ofValues result).stale = false := by
    intro result unmarked
    cases result with
    | ok answer => exact unmarked answer rfl
    | error failure => rfl
  cases route with
  | all => exact values fun answer => stale_of_getAll
  | many => exact absurd rfl (silent []).2.2
  | point segment => exact absurd rfl (silent segment).1
  | range segment => exact absurd rfl (silent segment).2.1
  | partitions => rfl
  | internalPoint segment =>
    show (replica.replyPointHere segment).stale = false
    unfold replyPointHere
    split
    · rfl
    · rw [← Bool.not_eq_true, Reply.stale_of_ofValue]
      rintro ⟨answer, done, marked⟩
      obtain ⟨key, -, own⟩ := Failure.exists_of_bind done
      rw [stale_of_getHere own] at marked
      cases marked
  | internalRange segment =>
    show (replica.replyRangeHere segment query).stale = false
    unfold replyRangeHere
    split
    · rfl
    · refine values fun answer done => ?_
      obtain ⟨key, -, own⟩ := Failure.exists_of_bind done
      exact stale_of_getRangeHere own

/-- A conclusive reply is marked if and only if a key that is held elsewhere was asked for
in public, and its range was asked for or a value was found. -/
theorem marked_iff_foreign (request : Request)
    (told : (replica.reply network.sender request).result.IsConclusive) :
    (replica.reply network.sender request).result.stale = true ↔
      replica.NamesForeign request.publicTexts fun key =>
        request.isRange = true ∨ replica.Finds network.sender key := by
  have finds : ∀ {texts known}, (∀ key, known key ↔ (request.isRange = true ∨
      replica.Finds network.sender key)) → (replica.NamesForeign texts known ↔
        replica.NamesForeign texts fun key => request.isRange = true ∨
          replica.Finds network.sender key) := by
    intro texts known same
    simp only [NamesForeign, same]
  unfold Request.publicTexts
  cases named : Route.ofPath? request.path with
  | none =>
    have reply : (replica.reply network.sender request).result = .empty 404 := by
      rw [Replica.reply, named]
      rfl
    rw [reply]
    exact iff_of_false Bool.false_ne_true (replica.not_namesForeign_nil _)
  | some route =>
    rcases replica.reply_of_route network.sender named with ⟨status, stale⟩ | refused
    · rw [stale]
      have told : (replica.replyTo network.sender request.query route).result.IsConclusive := by
        unfold Reply.IsConclusive
        rw [← status]
        exact told
      have ranged : request.isRange = route.isRange := by
        rw [Request.isRange, named]
        rfl
      cases route with
      | point segment =>
        exact (replica.stale_of_replyPoint network segment).trans
          (finds fun key => by simp [ranged, Route.isRange])
      | range segment =>
        exact (replica.stale_of_replyRange network told).trans
          (finds fun key => by simp [ranged, Route.isRange])
      | many =>
        exact (replica.stale_of_replyMany network told).trans
          (finds fun key => by simp [ranged, Route.isRange])
      | _ =>
        rw [stale_of_replyTo_of_silent]
        · exact iff_of_false Bool.false_ne_true (replica.not_namesForeign_nil _)
        · intro segment
          refine ⟨?_, ?_, ?_⟩ <;> (intro same; cases same)
    · rw [refused] at told
      rcases told with same | same <;> exact absurd same (show (405 : UInt16) ≠ _ by decide)

theorem isForeign_counting :
    let left := Member.fixed "a" ⟨.v4 0x7F000001, 8001, 0⟩
    let right := Member.fixed "b" ⟨.v4 0x7F000001, 8002, 0⟩
    ∀ key, (counting right [left]).replica.IsForeign key := by
  intro left right key
  have counted : (counting right [left]).replica.owners.find? 0 = some [left.host] := by
    decide +kernel
  have place : (counting right [left]).replica.place key = 0 := by
    rw [place, layout_counting]
    exact Nat.lt_one_iff.1 (Murmur.partition_lt _ Nat.one_pos)
  refine ⟨[left.host], by rw [place, counted], ?_⟩
  rw [host, view_counting]
  decide +kernel

/-- A value that another replica holds. -/
theorem marked_iff_foreign_counting :
    let left := Member.fixed "a" ⟨.v4 0x7F000001, 8001, 0⟩
    let right := Member.fixed "b" ⟨.v4 0x7F000001, 8002, 0⟩
    let owner := (counting left [left]).replica
    let asked := (counting right [left]).replica
    let cluster : Cluster :=
      ⟨[(left.host, .replica owner), (right.host, .replica asked)], fun _ => true⟩
    let network := cluster.network 3
    let request := Request.ofTarget "GET" "/mirror/k".toList
    let reply := (asked.reply network.sender request).result
    reply.IsConclusive ∧ reply.stale = true ∧ asked.NamesForeign request.publicTexts fun key =>
      request.isRange = true ∨ asked.Finds network.sender key := by
  intro left right owner asked cluster network request reply
  have named : ∀ (replica : Replica) (network : Network) (request : Request),
      let reply := (replica.reply network.sender request).result
      (reply.status, reply.stale) = (200, true) → reply.IsConclusive ∧ reply.stale = true ∧
        replica.NamesForeign request.publicTexts fun key =>
          request.isRange = true ∨ replica.Finds network.sender key := by
    intro replica network request reply given
    obtain ⟨status, marked⟩ := Prod.mk.inj given
    have told : reply.IsConclusive := .inl status
    exact ⟨told, marked, (replica.marked_iff_foreign network request told).1 marked⟩
  exact named asked network request (by decide +kernel)

/-- Of a key that is held elsewhere and has no value, neither reply is marked. -/
theorem unmarked_without_value :
    let left := Member.fixed "a" ⟨.v4 0x7F000001, 8001, 0⟩
    let right := Member.fixed "b" ⟨.v4 0x7F000001, 8002, 0⟩
    let owner := (counting left [left]).replica
    let asked := (counting right [left]).replica
    let cluster : Cluster :=
      ⟨[(left.host, .replica owner), (right.host, .replica asked)], fun _ => true⟩
    let send := (cluster.network 3).sender
    let point := (asked.reply send (.ofTarget "GET" "/mirror/x".toList)).result
    let many := (asked.reply send (.ofTarget "GET" "/mirror/keys?ids=x".toList)).result
    (∃ key, asked.topic.keyType.ofText "x" = .ok key ∧
      asked.IsForeign (asked.topic.keyType.encode key)) ∧
      point.status = 404 ∧ point.stale = false ∧ many.status = 200 ∧ many.stale = false := by
  intro left right owner asked cluster send point many
  have apart : ∀ (asked : Replica) (send : Sender),
      let point := (asked.reply send (.ofTarget "GET" "/mirror/x".toList)).result
      let many := (asked.reply send (.ofTarget "GET" "/mirror/keys?ids=x".toList)).result
      asked.topic.keyType = .string → (∀ key, asked.IsForeign key) →
      (point.status, point.stale, many.status, many.stale) = (404, false, 200, false) →
      (∃ key, asked.topic.keyType.ofText "x" = .ok key ∧
        asked.IsForeign (asked.topic.keyType.encode key)) ∧
        point.status = 404 ∧ point.stale = false ∧ many.status = 200 ∧ many.stale = false := by
    intro asked send point many strings foreign given
    refine ⟨?_, by simpa only [Prod.mk.injEq] using given⟩
    have read : ∃ key, asked.topic.keyType.ofText "x" = .ok key := by
      rw [strings]
      exact ⟨"x", rfl⟩
    obtain ⟨key, read⟩ := read
    exact ⟨key, read, foreign _⟩
  exact apart asked send (congrArg Topic.keyType (topic_counting ..)) isForeign_counting
    (by decide +kernel)

end Replica

end ShardedView
