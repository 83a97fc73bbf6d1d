import ShardedView.Proofs.Query.Status

/-!
What clients make of the replies to failed requests. Whether it is worth to repeat a request is
told by the reply, but for one case: that the replica could not reach another one is taken for
a failure of its own.
-/

namespace ShardedView

open Http (Network Reply)
open Http.Exchange (outcome)

namespace Failure

theorem Kind.name_injective {left right : Kind} (same : left.name = right.name) : left = right := by
  cases left <;> cases right <;> first | rfl | exact absurd same (by decide)

def relayed (failure : Failure) : Failure :=
  ofReply (Reply.ofFailure failure).status (Reply.ofFailure failure).body

theorem relayed_eq (failure : Failure) :
    failure.relayed =
      if failure.statusCode = 503 ∨ failure.kind = .storeNotAvailable then storeNotAvailable
      else if failure.kind = .storeNotRunning then storeNotRunning
      else if failure.kind = .codec then codec (.reported failure.message)
      else if failure.kind = .rangeIndex then rangeIndex (.reported failure.message)
      else if failure.statusCode = 400 then badArgument (.reported failure.message)
      else status failure.statusCode failure.message := by
  have named : ∀ kind : Kind, failure.kind.name = kind.name ↔ failure.kind = kind :=
    fun kind => ⟨Kind.name_injective, congrArg Kind.name⟩
  simp only [relayed, Reply.ofFailure, ofReply, readBody?_print, Option.map_some,
    Option.getD_some, named]

/-- The only failures that are worth to be repeated behind a reply are those that tell that a
store is not available. -/
theorem isRetryable_relayed (failure : Failure) :
    failure.relayed.isRetryable = true ↔
      failure.statusCode = 503 ∨ failure.kind = .storeNotAvailable := by
  rw [relayed_eq]
  split
  · next busy => exact iff_of_true rfl busy
  · next available =>
    refine iff_of_false ?_ available
    repeat' split
    all_goals exact Bool.false_ne_true

theorem isRetryable_iff (failure : Failure) :
    failure.isRetryable = true ↔
      failure.kind = .unreachable ∨ failure.kind = .storeNotAvailable := by
  simp [isRetryable]

theorem IsFault.statusCode_eq_iff {failure : Failure} (fault : failure.IsFault) :
    failure.statusCode = 503 ↔ failure.kind = .storeNotAvailable := by
  cases failure with
  | notFound key => exact absurd rfl fault.present
  | storeNotAvailable => exact iff_of_true rfl rfl
  | status code message =>
    refine iff_of_false ?_ (of_decide_eq_true rfl)
    rw [Failure.statusCode]
    split
    · exact (fault.told code message rfl).2.1
    · decide
  | _ => exact iff_of_false (of_decide_eq_true rfl) (of_decide_eq_true rfl)

/-- A fault tells a client as much as it tells here, unless it is that of a server that cannot
be reached. -/
theorem IsFault.isRetryable_relayed {failure : Failure} (fault : failure.IsFault)
    (reached : failure.kind ≠ .unreachable) :
    failure.relayed.isRetryable = failure.isRetryable := by
  rw [Bool.eq_iff_iff, failure.isRetryable_relayed, failure.isRetryable_iff,
    fault.statusCode_eq_iff, or_self, or_iff_right reached]

end Failure

namespace Replica

/-- The failures that reading from a replica comes to, by itself or by what it hears of
others. -/
inductive FailsWith (replica : Replica) (network : Network) (failure : Failure) : Prop
  | keyText {text : String} (failed : replica.topic.keyType.ofText text = .error failure)
  | get {key : replica.topic.keyType.Key}
    (failed : (replica.get network.sender key).outcome = .error failure)
  | getMany {keys : List replica.topic.keyType.Key}
    (failed : (replica.getMany network.sender keys).outcome = .error failure)
  | getRange {key : replica.topic.keyType.Key} {lower upper : String}
    (failed : (replica.getRange network.sender key lower upper).outcome = .error failure)
  | getAll (failed : replica.getAll = .error failure)
  | getHere {key : replica.topic.keyType.Key} (failed : replica.getHere key = .error failure)
  | getRangeHere {key : replica.topic.keyType.Key} {lower upper : String}
    (failed : replica.getRangeHere key lower upper = .error failure)

variable {replica : Replica} {network : Network} {failure : Failure}

theorem FailsWith.isGenuine (failed : replica.FailsWith network failure) :
    failure.IsGenuine := by
  cases failed with
  | keyText failed => exact (KeyType.failsAs_ofText _ _).genuine failure failed
  | get failed => exact replica.failsAs_get network _ failure failed
  | getMany failed => exact (replica.failsAs_getMany network _).genuine failure failed
  | getRange failed => exact (replica.failsAs_getRange network _ _ _).genuine failure failed
  | getAll failed => exact replica.failsAs_getAll.genuine failure failed
  | getHere failed => exact replica.failsAs_getHere _ failure failed
  | getRangeHere failed => exact (replica.failsAs_getRangeHere _ _ _).genuine failure failed

theorem FailsWith.of_told {text : String} {kind : Failure.Kind}
    (told : Failure.told (replica.topic.keyType.ofText text >>= fun key =>
      (replica.get network.sender key).outcome) = .error kind) :
    ∃ failure, replica.FailsWith network failure ∧ failure.kind = kind := by
  cases read : replica.topic.keyType.ofText text with
  | error failure =>
    rw [read] at told
    exact ⟨failure, .keyText read, Except.error.inj told⟩
  | ok key =>
    rw [read] at told
    cases failed : (replica.get network.sender key).outcome with
    | error failure =>
      rw [Failure.bind_of_ok rfl, failed] at told
      exact ⟨failure, .get failed, Except.error.inj told⟩
    | ok answer =>
      rw [Failure.bind_of_ok rfl, failed] at told
      contradiction

/-- Whether it is worth to repeat a request survives the way to the client, unless the replica
could not reach another one: that arrives as a failure with the status of a bad gateway. -/
theorem retryable_behind_reply (failed : replica.FailsWith network failure)
    (present : failure.kind ≠ .notFound) :
    (failure.kind ≠ .unreachable → failure.relayed.isRetryable = failure.isRetryable) ∧
      (failure.kind = .unreachable → failure.relayed = .status 502 failure.message) := by
  constructor
  · exact (failed.isGenuine.resolve_left present).isRetryable_relayed
  · intro unreached
    cases failure with
    | unreachable host reason => exact Failure.relayed_eq _
    | _ => contradiction

/-- The replica that is asked in place of another one does not hold the key either. -/
theorem retryable_behind_reply_diverging :
    let left := Member.fixed "a" ⟨.v4 0x7F000001, 8001, 0⟩
    let right := Member.fixed "b" ⟨.v4 0x7F000001, 8002, 0⟩
    let asked := (counting right [left]).replica
    let other := (counting left [right]).replica
    let network := Cluster.network ⟨[(left.host, .replica other)], fun _ => true⟩ 2
    ∃ failure, asked.FailsWith network failure ∧ failure.relayed.isRetryable = true := by
  intro left right asked other network
  have told : Failure.told (asked.topic.keyType.ofText "k" >>= fun key =>
      (asked.get network.sender key).outcome) = .error .storeNotAvailable := by
    decide +kernel
  obtain ⟨failure, failed, kind⟩ := FailsWith.of_told told
  have same := (retryable_behind_reply failed (by rw [kind]; decide)).1 (by rw [kind]; decide)
  refine ⟨failure, failed, ?_⟩
  rw [same, failure.isRetryable_iff]
  exact .inr kind

/-- It is worth to repeat a request for which another replica could not be reached, and the reply
does not tell so. -/
theorem retryable_unlike_reply :
    let left := Member.fixed "a" ⟨.v4 0x7F000001, 8001, 0⟩
    let right := Member.fixed "b" ⟨.v4 0x7F000001, 8002, 0⟩
    let asked := (counting right [left]).replica
    ∃ failure, asked.FailsWith .isolated failure ∧ failure.kind ≠ .notFound ∧
      failure.isRetryable = true ∧ failure.relayed.isRetryable = false := by
  intro left right asked
  have told : Failure.told (asked.topic.keyType.ofText "k" >>= fun key =>
      (asked.get Network.isolated.sender key).outcome) = .error .unreachable := by
    decide +kernel
  obtain ⟨failure, failed, kind⟩ := FailsWith.of_told told
  cases failure with
  | unreachable host reason => exact ⟨_, failed, nofun, rfl, by rw [Failure.relayed_eq]; rfl⟩
  | _ => contradiction

end Replica

end ShardedView
