import ShardedView.Proofs.Http.Traced
import ShardedView.Proofs.Query.Remote

/-!
The status codes of replies. A replica hands on the codes of the servers that it asks, but
none of its failures passes for an answer, and none but a missing value for a missing value.
-/

namespace ShardedView

open Http (Network Reply)
open Http.Exchange (outcome outcome_bind outcome_lift)

namespace Failure

/-- A failure whose status code tells neither of success nor of a missing value. The code of
another server that is not available is none to be handed on as it is. -/
structure IsFault (failure : Failure) : Prop where
  present : failure.kind ≠ .notFound
  told : ∀ code message, failure = .status code message →
    code ≠ 404 ∧ code ≠ 503 ∧ ¬ (200 ≤ code ∧ code < 300)

/-- A failure that is told by its status code: a missing value, or a fault. -/
def IsGenuine (failure : Failure) : Prop :=
  failure.kind = .notFound ∨ failure.IsFault

theorem isFault_of_kind {failure : Failure} (kind : failure.kind ∉ [.notFound, .status]) :
    failure.IsFault := by
  simp only [List.mem_cons, List.not_mem_nil, or_false, not_or] at kind
  refine ⟨kind.1, ?_⟩
  rintro code message rfl
  exact absurd rfl kind.2

theorem isFault_of_mem {failure : Failure} {kinds : List Kind} (known : failure.kind ∈ kinds)
    (others : .notFound ∉ kinds ∧ .status ∉ kinds) : failure.IsFault := by
  apply isFault_of_kind
  intro member
  simp only [List.mem_cons, List.not_mem_nil, or_false] at member
  rcases member with same | same
  · exact others.1 (same ▸ known)
  · exact others.2 (same ▸ known)

theorem isFault_ofReply {code : UInt16} (missing : code ≠ 404)
    (failed : ¬ (200 ≤ code ∧ code < 300)) (body : Bytes) : (ofReply code body).IsFault := by
  unfold ofReply
  dsimp only
  repeat' split
  case isFalse.isFalse.isFalse.isFalse.isFalse =>
    next available _ _ _ _ =>
    refine ⟨nofun, fun other message same => ?_⟩
    cases same
    exact ⟨missing, fun busy => available (.inl busy), failed⟩
  all_goals exact isFault_of_kind (by simp [kind])

theorem IsFault.statusCode {failure : Failure} (fault : failure.IsFault) :
    failure.statusCode ≠ 404 ∧ ¬ (200 ≤ failure.statusCode ∧ failure.statusCode < 300) := by
  cases failure with
  | notFound key => exact absurd rfl fault.present
  | status code message =>
    rw [Failure.statusCode]
    split
    · obtain ⟨missing, -, failed⟩ := fault.told code message rfl
      exact ⟨missing, failed⟩
    · decide
  | _ => exact of_decide_eq_true rfl

theorem IsGenuine.statusCode {failure : Failure} (genuine : failure.IsGenuine) :
    ¬ (200 ≤ failure.statusCode ∧ failure.statusCode < 300) := by
  rcases genuine with missing | fault
  · obtain ⟨key, rfl⟩ := exists_key_of_kind missing
    exact of_decide_eq_false rfl
  · exact fault.statusCode.2

/-! ### Operations and their failures -/

section Operations

variable {α β : Type} {allowed : Failure → Prop}

/-- Whether a result is a success or one of some failures. -/
def FailsAs (allowed : Failure → Prop) (result : Except Failure α) : Prop :=
  ∀ failure, result = .error failure → allowed failure

theorem failsAs_ok (value : α) : FailsAs allowed (.ok value : Except Failure α) := nofun

theorem failsAs_error {failure : Failure} (fits : allowed failure) :
    FailsAs allowed (.error failure : Except Failure α) := by
  rintro _ ⟨⟩
  exact fits

theorem FailsAs.genuine {result : Except Failure α} (faults : FailsAs IsFault result) :
    FailsAs IsGenuine result :=
  fun failure failed => .inr (faults failure failed)

theorem FailsAs.bind {first : Except Failure α} (fails : FailsAs allowed first)
    {next : α → Except Failure β} (later : ∀ value, FailsAs allowed (next value)) :
    FailsAs allowed (first >>= next) := by
  cases first with
  | ok value => exact later value
  | error failure => exact failsAs_error (fails failure rfl)

theorem FailsAs.map {result : Except Failure α} (fails : FailsAs allowed result)
    (change : α → β) : FailsAs allowed (result.map change) := by
  cases result with
  | ok value => exact failsAs_ok _
  | error failure => exact failsAs_error (fails failure rfl)

theorem FailsAs.mapM {operation : α → Except Failure β}
    (fails : ∀ item, FailsAs allowed (operation item)) (list : List α) :
    FailsAs allowed (list.mapM operation) := by
  induction list with
  | nil => exact failsAs_ok []
  | cons item rest ih =>
    rw [List.mapM_cons]
    exact (fails item).bind fun _ => ih.bind fun _ => failsAs_ok _

end Operations

end Failure

open Failure (FailsAs IsFault IsGenuine failsAs_ok failsAs_error)

/-- What a sender tells of the reply of another server is a value, that there is none, or a
fault. -/
theorem Http.Network.failsAs_sender (network : Network) (url : Http.Url) :
    FailsAs IsFault (network.sender url).outcome := by
  rw [outcome_sender]
  cases (network url).result with
  | none => exact failsAs_error (Failure.isFault_of_kind (by simp [Failure.kind]))
  | some reply =>
    show FailsAs IsFault (Received.ofReply reply)
    unfold Received.ofReply
    dsimp only
    split
    · exact failsAs_ok _
    · next missing =>
      split
      · exact failsAs_ok _
      · next failed => exact failsAs_error (Failure.isFault_ofReply missing failed _)

namespace Received

theorem failsAs_read {α : Type} {decode : Bytes → Except Failure α}
    (faults : ∀ body, FailsAs IsFault (decode body)) (received : Received) :
    FailsAs IsFault (received.read decode) := by
  unfold read
  split
  · exact failsAs_ok _
  · exact (faults _).map some

theorem failsAs_value? (received : Received) : FailsAs IsFault received.value? := by
  apply failsAs_read
  intro body
  unfold Envelope.readValue
  split
  · exact failsAs_ok _
  · exact failsAs_error (Failure.isFault_of_kind (by decide))

theorem failsAs_values (received : Received) : FailsAs IsFault received.values := by
  unfold values
  refine FailsAs.bind (failsAs_read (fun body => ?_) received) fun _ => failsAs_ok _
  unfold Envelope.readValues
  split
  · exact failsAs_ok _
  · exact failsAs_error (Failure.isFault_of_kind (by decide))

end Received

theorem Endpoint.failsAs_urlOfSegments (endpoint : Endpoint) (segments : List String) :
    FailsAs IsFault (endpoint.urlOfSegments segments) := by
  have known : FailsAs IsFault (endpoint.url "/") := by
    intro failure failed
    apply Failure.isFault_of_kind
    rw [kind_of_url failed]
    decide
  exact known.bind fun _ => failsAs_ok _

theorem KeyType.failsAs_ofText (type : KeyType) (text : String) :
    FailsAs IsFault (type.ofText text) := by
  have parsed : ∀ {α : Type} (read : Except IntegerFault α) (named : IntegerFault → ArgumentFault),
      FailsAs IsFault (read.mapError fun fault => .badArgument (named fault)) := by
    intro α read named
    cases read with
    | ok value => exact failsAs_ok value
    | error fault => exact failsAs_error (Failure.isFault_of_kind (by simp [Failure.kind]))
  cases type with
  | string => exact failsAs_ok text
  | integer => exact parsed _ _
  | long => exact parsed _ _

namespace Replica

section Local

variable (replica : Replica)

theorem failsAs_route {α : Type} {allowed : Failure → Prop}
    (faults : ∀ failure : Failure, failure.IsFault → allowed failure)
    {read : Nat → Except Failure α} {ask : String → Except Failure α}
    (reads : ∀ partition, FailsAs allowed (read partition))
    (asks : ∀ host, FailsAs allowed (ask host)) (key : Bytes) :
    FailsAs allowed (replica.route key read ask) := by
  rcases replica.route_cases key read ask with
    ⟨active, standbys, -, routed⟩ | ⟨failure, failed, kind⟩
  · rw [routed]
    split
    · exact (reads _).map _
    · exact (asks _).map _
  · rw [failed]
    exact failsAs_error (faults _ (Failure.isFault_of_mem kind (by decide)))

theorem failsAs_readable (partition : Nat) : FailsAs IsFault (replica.readable partition) := by
  rcases replica.readable_cases partition with ⟨shard, read, -⟩ | ⟨failure, failed, kind⟩
  · rw [read]
    exact failsAs_ok shard
  · rw [failed]
    exact failsAs_error (Failure.isFault_of_mem kind (by decide))

theorem failsAs_decode (type : DataType) (bytes : Bytes) :
    FailsAs IsFault (type.decode bytes) := by
  intro failure failed
  apply Failure.isFault_of_kind
  rw [DataType.kind_of_decode failed]
  decide

theorem failsAs_lookup (key : replica.topic.keyType.Key) (partition : Nat) :
    FailsAs IsGenuine (replica.lookup partition key) := by
  have found : FailsAs IsGenuine (replica.readPoint partition (replica.topic.keyType.encode key)) :=
    ((replica.failsAs_readable partition).bind fun _ => failsAs_ok _).genuine
  refine found.bind fun found => ?_
  cases found with
  | some value => exact (failsAs_decode _ value).genuine
  | none => exact failsAs_error (.inl rfl)

theorem failsAs_lookupRange (bounds : String × String) (partition : Nat) :
    FailsAs IsFault (replica.lookupRange partition bounds) :=
  ((replica.failsAs_readable partition).bind fun _ => failsAs_ok _).bind fun values =>
    FailsAs.mapM (failsAs_decode _) values

theorem failsAs_rangeBounds (key : replica.topic.keyType.Key) (lower upper : String) :
    FailsAs IsFault (replica.rangeBounds key lower upper) := by
  unfold rangeBounds
  split
  · exact failsAs_error (Failure.isFault_of_kind (by simp [Failure.kind]))
  · next field known =>
    have boundary : ∀ bound, FailsAs IsFault (field.boundary replica.topic.keyType key bound) := by
      intro bound
      refine FailsAs.bind ?_ fun _ => failsAs_ok _
      unfold RangeType.padText
      split
      · unfold RangeType.pad
        split
        · exact failsAs_ok _
        · exact failsAs_error (Failure.isFault_of_kind (by simp [Failure.kind]))
      · exact failsAs_error (Failure.isFault_of_kind (by simp [Failure.kind]))
    exact (boundary lower).bind fun _ => (boundary upper).bind fun _ => failsAs_ok _

theorem failsAs_getHere (key : replica.topic.keyType.Key) :
    FailsAs IsGenuine (replica.getHere key) := by
  rw [getHere_eq]
  refine replica.failsAs_route (fun _ => .inr) ?_ ?_ _
  · exact replica.failsAs_lookup key
  · exact fun host => failsAs_error (.inr (Failure.isFault_of_kind (by decide)))

theorem failsAs_getRangeHere (key : replica.topic.keyType.Key) (lower upper : String) :
    FailsAs IsFault (replica.getRangeHere key lower upper) := by
  rw [getRangeHere_eq]
  refine (replica.failsAs_rangeBounds key lower upper).bind fun bounds => ?_
  refine replica.failsAs_route (fun _ => id) ?_ ?_ _
  · exact replica.failsAs_lookupRange bounds
  · exact fun host => failsAs_error (Failure.isFault_of_kind (by decide))

theorem failsAs_getAll : FailsAs IsFault replica.getAll := by
  have running : FailsAs IsFault replica.ensureRunning := fun failure failed =>
    Failure.isFault_of_mem (kind_of_ensureRunning failed) (by decide)
  have stored : FailsAs IsFault replica.readAll := running.bind fun _ =>
    (FailsAs.mapM replica.failsAs_readable _).bind fun _ => failsAs_ok _
  exact stored.bind fun values =>
    (FailsAs.mapM (failsAs_decode _) values).bind fun _ => failsAs_ok _

end Local

section Asking

variable (replica : Replica) (network : Network)

theorem failsAs_get (key : replica.topic.keyType.Key) :
    FailsAs IsGenuine (replica.get network.sender key).outcome := by
  rw [outcome_get]
  refine replica.failsAs_route (fun _ => .inr) ?_ ?_ _
  · exact replica.failsAs_lookup key
  · intro host
    refine (Endpoint.failsAs_urlOfSegments _ _).genuine.bind fun url => ?_
    refine (network.failsAs_sender url).genuine.bind fun received => ?_
    refine received.failsAs_value?.genuine.bind fun value => ?_
    cases value with
    | some value => exact failsAs_ok value
    | none => exact failsAs_error (.inl rfl)

theorem failsAs_getRange (key : replica.topic.keyType.Key) (lower upper : String) :
    FailsAs IsFault (replica.getRange network.sender key lower upper).outcome := by
  rw [outcome_getRange]
  refine (replica.failsAs_rangeBounds key lower upper).bind fun bounds => ?_
  refine replica.failsAs_route (fun _ => id) ?_ ?_ _
  · exact replica.failsAs_lookupRange bounds
  · intro host
    refine ((Endpoint.failsAs_urlOfSegments _ _).bind fun _ => failsAs_ok _).bind fun url => ?_
    exact (network.failsAs_sender url).bind fun received => received.failsAs_values

theorem failsAs_merge {answers : List (Except Failure (Answer Json))}
    (fails : ∀ answer ∈ answers, FailsAs IsGenuine answer) : FailsAs IsFault (merge answers) := by
  induction answers with
  | nil => exact failsAs_ok _
  | cons answer rest ih =>
    have later := ih fun answer member => fails answer (.tail _ member)
    cases answer with
    | ok answer => exact later.bind fun _ => failsAs_ok _
    | error failure =>
      have genuine := fails _ (.head _) failure rfl
      cases failure with
      | notFound key => exact later
      | _ => exact failsAs_error (genuine.resolve_left nofun)

/-- Reading several keys comes to what reading each of them comes to, put together. -/
theorem outcome_getMany (send : Sender) (keys : List replica.topic.keyType.Key) :
    (replica.getMany send keys).outcome =
      merge (keys.map fun key => (replica.get send key).outcome) :=
  congrArg merge (Http.Traced.result_mapM (fun key => (replica.get send key).run) keys)

theorem failsAs_getMany (keys : List replica.topic.keyType.Key) :
    FailsAs IsFault (replica.getMany network.sender keys).outcome := by
  rw [outcome_getMany]
  apply failsAs_merge
  intro answer member
  obtain ⟨key, -, rfl⟩ := List.mem_map.1 member
  exact replica.failsAs_get network key

end Asking

end Replica

/-! ### Replies -/

/-- Whether a reply is no success, or holds an answer. -/
def Http.Reply.IsAnswered (reply : Reply) : Prop :=
  ¬ (200 ≤ reply.status ∧ reply.status < 300) ∨ ∃ answer, reply = .ofAnswer answer

namespace Http.Reply

theorem body_ofAnswer (answer : Answer Json) :
    (ofAnswer answer).body = Envelope.write answer.value := by
  rw [ofAnswer]

theorem isAnswered_ofFault (fault : RequestFault) : (ofFault fault).IsAnswered :=
  .inl (of_decide_eq_false rfl)

theorem isAnswered_ofFailure {failure : Failure} (genuine : failure.IsGenuine) :
    (ofFailure failure).IsAnswered :=
  .inl genuine.statusCode

theorem isAnswered_ofValue {result : Except Failure (Answer Json)}
    (genuine : FailsAs IsGenuine result) : (ofValue result).IsAnswered := by
  cases result with
  | ok answer => exact .inr ⟨answer, rfl⟩
  | error failure => exact isAnswered_ofFailure (genuine failure rfl)

theorem isAnswered_ofValues {result : Except Failure (Answer (List Json))}
    (faults : FailsAs IsFault result) : (ofValues result).IsAnswered := by
  cases result with
  | ok answer => exact .inr ⟨_, rfl⟩
  | error failure => exact isAnswered_ofFailure (.inr (faults failure rfl))

end Http.Reply

namespace Replica

section Results

variable (replica : Replica) (send : Sender)

theorem result_replyPoint (segment : Bytes) :
    (replica.replyPoint send segment).result =
      match Request.keyText segment with
      | .error fault => .ofFault fault
      | .ok text =>
        .ofValue (replica.topic.keyType.ofText text >>= fun key =>
          (replica.get send key).outcome) := by
  unfold replyPoint
  cases Request.keyText segment with
  | error fault => rfl
  | ok text =>
    dsimp only
    cases replica.topic.keyType.ofText text <;> rfl

theorem result_replyMany (query : Bytes) :
    (replica.replyMany send query).result =
      match Request.keyTexts query with
      | .error fault => .ofFault fault
      | .ok texts =>
        .ofValues (texts.mapM replica.topic.keyType.ofText >>= fun keys =>
          (replica.getMany send keys).outcome) := by
  unfold replyMany
  cases Request.keyTexts query with
  | error fault => rfl
  | ok texts =>
    dsimp only
    cases texts.mapM replica.topic.keyType.ofText <;> rfl

theorem result_replyRange (segment query : Bytes) :
    (replica.replyRange send segment query).result =
      match rangeArguments segment query with
      | .error fault => .ofFault fault
      | .ok (text, lower, upper) =>
        .ofValues (replica.topic.keyType.ofText text >>= fun key =>
          (replica.getRange send key lower upper).outcome) := by
  unfold replyRange
  cases rangeArguments segment query with
  | error fault => rfl
  | ok arguments =>
    dsimp only
    cases replica.topic.keyType.ofText arguments.1 <;> rfl

end Results

variable (replica : Replica) (network : Network)

theorem isAnswered_replyPoint (segment : Bytes) :
    (replica.replyPoint network.sender segment).result.IsAnswered := by
  rw [result_replyPoint]
  split
  · exact Reply.isAnswered_ofFault _
  · exact Reply.isAnswered_ofValue ((KeyType.failsAs_ofText _ _).genuine.bind
      (replica.failsAs_get network))

theorem isAnswered_replyMany (query : Bytes) :
    (replica.replyMany network.sender query).result.IsAnswered := by
  rw [result_replyMany]
  split
  · exact Reply.isAnswered_ofFault _
  · exact Reply.isAnswered_ofValues ((FailsAs.mapM (KeyType.failsAs_ofText _) _).bind
      (replica.failsAs_getMany network))

theorem isAnswered_replyRange (segment query : Bytes) :
    (replica.replyRange network.sender segment query).result.IsAnswered := by
  rw [result_replyRange]
  split
  · exact Reply.isAnswered_ofFault _
  · exact Reply.isAnswered_ofValues ((KeyType.failsAs_ofText _ _).bind fun key =>
      replica.failsAs_getRange network key _ _)

theorem isAnswered_replyPointHere (segment : Bytes) :
    (replica.replyPointHere segment).IsAnswered := by
  unfold replyPointHere
  split
  · exact Reply.isAnswered_ofFault _
  · exact Reply.isAnswered_ofValue ((KeyType.failsAs_ofText _ _).genuine.bind
      replica.failsAs_getHere)

theorem isAnswered_replyRangeHere (segment query : Bytes) :
    (replica.replyRangeHere segment query).IsAnswered := by
  unfold replyRangeHere
  split
  · exact Reply.isAnswered_ofFault _
  · exact Reply.isAnswered_ofValues ((KeyType.failsAs_ofText _ _).bind fun key =>
      replica.failsAs_getRangeHere key _ _)

/-- A replica replies to a request to read with an answer, with its partition map, or not with
success. -/
theorem reply_cases (target : List Char) :
    let reply := (replica.reply network.sender (.ofTarget "GET" target)).result
    reply.IsAnswered ∨ reply = .ofPartitionMap replica.partitionMap := by
  intro reply
  have get : (Request.ofTarget "GET" target).method = "GET" := rfl
  simp only [reply, Replica.reply, get, if_true]
  cases Route.ofPath? (Request.ofTarget "GET" target).path with
  | none => exact .inl (.inl (of_decide_eq_false rfl))
  | some route =>
    cases route with
    | all => exact .inl (Reply.isAnswered_ofValues replica.failsAs_getAll)
    | many => exact .inl (replica.isAnswered_replyMany network _)
    | point segment => exact .inl (replica.isAnswered_replyPoint network segment)
    | range segment => exact .inl (replica.isAnswered_replyRange network segment _)
    | partitions => exact .inr rfl
    | internalPoint segment => exact .inl (replica.isAnswered_replyPointHere segment)
    | internalRange segment => exact .inl (replica.isAnswered_replyRangeHere segment _)

end Replica

end ShardedView
