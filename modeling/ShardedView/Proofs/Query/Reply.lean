import ShardedView.Proofs.Failure
import ShardedView.Proofs.Http.Envelope
import ShardedView.Query.Handler

/-!
What the receiver of a reply makes of it: a value, that there is none, or a failure
of the kind that the sender met with.
-/

namespace ShardedView

namespace Http.Exchange

variable {α β : Type}

def outcome (exchange : Exchange α) : Except Failure α :=
  exchange.run.result

theorem outcome_bind (first : Exchange α) (next : α → Exchange β) :
    (first >>= next).outcome = first.outcome >>= fun value => (next value).outcome := by
  show Traced.result (ExceptT.bindCont next first.run.result) = _
  unfold outcome
  cases first.run.result <;> rfl

theorem outcome_lift (result : Except Failure α) : (liftM result : Exchange α).outcome = result :=
  rfl

end Http.Exchange

namespace Failure

theorem exists_key_of_kind {failure : Failure} (missing : failure.kind = .notFound) :
    ∃ key, failure = notFound key := by
  cases failure with
  | notFound key => exact ⟨key, rfl⟩
  | _ => contradiction

/-- The kinds of failures that reading at the replica itself meets with. -/
def Kind.ofReading : List Kind :=
  [.codec, .storeNotAvailable, .storeNotRunning]

theorem kind_ofReply {failure : Failure} (reading : failure.kind ∈ Kind.ofReading) :
    (ofReply failure.statusCode (Utf8.encode failure.body.print)).kind = failure.kind := by
  have told := readBody?_print failure
  unfold ofReply
  simp only [told, Option.map_some, Option.getD_some]
  cases failure with
  | codec fault => rfl
  | storeNotAvailable => rfl
  | storeNotRunning => rfl
  | _ => exact absurd reading (by simp [kind, Kind.ofReading])

end Failure

namespace Received

open Http (Reply)

theorem ofReply_of_failed {reply : Reply} (missing : reply.status ≠ 404)
    (failed : ¬ (200 ≤ reply.status ∧ reply.status < 300)) :
    ofReply reply = .error (.ofReply reply.status reply.body) := by
  rw [ofReply]
  simp only [if_neg missing, if_neg failed]

theorem ofReply_ofFailure {failure : Failure} (reading : failure.kind ∈ Failure.Kind.ofReading) :
    ∃ told, ofReply (.ofFailure failure) = .error told ∧ told.kind = failure.kind := by
  have status : failure.statusCode = 400 ∨ failure.statusCode = 503 ∨ failure.statusCode = 500 := by
    cases failure with
    | codec fault => exact .inl rfl
    | storeNotAvailable => exact .inr (.inl rfl)
    | storeNotRunning => exact .inr (.inr rfl)
    | _ => exact absurd reading (by simp [Failure.kind, Failure.Kind.ofReading])
  have failed : failure.statusCode ≠ 404 ∧
      ¬ (200 ≤ failure.statusCode ∧ failure.statusCode < 300) := by
    rcases status with status | status | status <;> rw [status] <;> decide
  refine ⟨_, ?_, Failure.kind_ofReply reading⟩
  rw [Reply.ofFailure]
  generalize Utf8.encode failure.body.print = body
  generalize failure.statusCode = code at failed
  exact ofReply_of_failed failed.1 failed.2

theorem ofReply_notFound (text : String) :
    ofReply (.ofFailure (.notFound text)) = .ok ⟨none, .primary⟩ := rfl

theorem ofReply_of_status (reply : Reply) (found : reply.status = 200) :
    ofReply reply = .ok ⟨some reply.body, if reply.stale then .fallback else .primary⟩ := by
  rw [ofReply, found]
  rfl

theorem ofReply_ofAnswer (answer : Answer Json) :
    ofReply (.ofAnswer answer) = .ok ⟨some (Envelope.write answer.value),
      if answer.stale then .fallback else .primary⟩ := by
  rw [Reply.ofAnswer]
  generalize Envelope.write answer.value = body
  exact ofReply_of_status ⟨200, answer.stale, body⟩ rfl

theorem value?_ofReply_ofAnswer {answer : Answer Json} (plain : answer.value.IsPlain 126)
    (canonical : answer.value.IsCanonical) :
    (ofReply (.ofAnswer answer) >>= value?) = .ok (some answer.value) := by
  simp only [ofReply_ofAnswer, bind, Except.bind, value?, read,
    Envelope.readValue_write plain canonical, Except.map]

/-- A list of values that was sent is received, as well as whether it had to be fetched. -/
theorem ofReply_ofValues {items : List Json} (stale : Bool)
    (plain : ∀ item ∈ items, item.IsPlain 125) (canonical : ∀ item ∈ items, item.IsCanonical) :
    ∃ received, ofReply (.ofAnswer ⟨.arr items, stale⟩) = .ok received ∧
      received.isFallback = stale ∧ received.values = .ok items := by
  refine ⟨_, ofReply_ofAnswer ⟨.arr items, stale⟩, ?_, ?_⟩
  · cases stale <;> rfl
  · simp only [values, read, Envelope.readValues_write plain canonical, Except.map]
    rfl

theorem values_ofReply_ofAnswer {items : List Json} (stale : Bool)
    (plain : ∀ item ∈ items, item.IsPlain 125) (canonical : ∀ item ∈ items, item.IsCanonical) :
    (ofReply (.ofAnswer ⟨.arr items, stale⟩) >>= values) = .ok items := by
  obtain ⟨received, replied, -, told⟩ := ofReply_ofValues stale plain canonical
  rw [replied]
  exact told

end Received

end ShardedView
