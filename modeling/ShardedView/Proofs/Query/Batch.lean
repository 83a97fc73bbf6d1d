import ShardedView.Proofs.Failure
import ShardedView.Proofs.Json.Nesting
import ShardedView.Proofs.Query.Status
import ShardedView.Proofs.Topic.Key

/-!
The reply to a request for several keys against the replies to requests for each of them.

The texts of the keys stand in one text, between commas. What is read from a list in an
envelope is what is read of its items from envelopes of their own, unless an item nests so
deep that there is no room for the list around it.
-/

namespace ShardedView

open Failure (FailsAs IsGenuine)
open Http (Network Reply)
open Http.Exchange (outcome outcome_bind outcome_lift)

namespace Request

structure IsPiece (text : String) : Prop where
  whole : ',' ∉ text.toList
  trimmed : Text.trimChars text.toList = text.toList

theorem keyTexts_encodePairs {texts : List String} (pieces : ∀ text ∈ texts, IsPiece text) :
    keyTexts ((Form.encodePairs [("ids", ",".intercalate texts)]).flatMap Utf8.encodeChar) =
      .ok (texts.filter (· ≠ "")) := by
  have found : fields ((Form.encodePairs [("ids", ",".intercalate texts)]).flatMap
      Utf8.encodeChar) ["ids"] = .ok [",".intercalate texts] := by
    rw [fields, Form.decodePairs_encodePairs]
    rfl
  rw [keyTexts, found]
  refine congrArg Except.ok ?_
  cases texts with
  | nil => rfl
  | cons first rest =>
    have pieced : ((",".intercalate (first :: rest)).toList.splitOn ',').map Text.trimChars =
        (first :: rest).map String.toList := by
      rw [String.toList_intercalate, show ",".toList = [','] from rfl, List.splitOn_intercalate]
      · rw [List.map_map]
        exact List.map_congr_left fun text listed => (pieces text listed).trimmed
      · intro part member
        obtain ⟨text, listed, rfl⟩ := List.mem_map.1 member
        exact (pieces text listed).whole
      · simp
    rw [List.flatMap_cons, List.flatMap_nil, List.append_nil, pieced, List.filter_map,
      List.map_map]
    have same : (String.ofList ∘ String.toList) = id := funext fun text => String.ofList_toList
    rw [same, List.map_id]
    refine List.filter_congr fun text _ => ?_
    rw [Bool.eq_iff_iff]
    simp

end Request

namespace Received

theorem value?_of_body (body : Bytes) (origin : Origin) :
    value? ⟨some body, origin⟩ = (Envelope.readValue body).map some := rfl

theorem values_of_body (body : Bytes) (origin : Origin) :
    values ⟨some body, origin⟩ = Envelope.readValues body := by
  show (Envelope.readValues body).map some >>= _ = _
  cases Envelope.readValues body <;> rfl

theorem isCanonical_of_value? {received : Received} {value : Json}
    (told : received.value? = .ok (some value)) : value.IsCanonical := by
  obtain ⟨body, origin⟩ := received
  cases body with
  | none => cases told
  | some body =>
    rw [value?_of_body] at told
    cases read : Envelope.readValue body with
    | error failure => simp [read, Except.map] at told
    | ok other =>
      obtain rfl : other = value := by simpa [read, Except.map] using told
      obtain ⟨document, -, done⟩ :=
        Envelope.value?_eq_some_iff.1 (Envelope.readValue_eq_ok_iff.1 read)
      exact Json.isCanonical_of_json? done

/-- What stands in the body of an answer, read under the limits of an envelope. -/
theorem value?_ofAnswer (answer : Answer Json) :
    (ofReply (.ofAnswer answer) >>= value?) =
      match answer.value.tree.json? (Json.greatestDepth - 1) with
      | some value => .ok (some value)
      | none => .error (.codec .notJson) := by
  rw [Failure.bind_of_ok (ofReply_ofAnswer answer), value?_of_body, Envelope.readValue,
    Envelope.value?, Envelope.open?_write]
  show Except.map some (match answer.value.tree.json? _ with | some value => _ | none => _) = _
  cases answer.value.tree.json? (Json.greatestDepth - 1) <;> rfl

/-- Who learns something from the reply with a result learns the value, or that there is
none. -/
theorem told_cases {result : Except Failure (Answer Json)} {value : Option Json}
    (genuine : FailsAs IsGenuine result)
    (told : (ofReply (.ofValue result) >>= value?) = .ok value) :
    (∃ key, result = .error (.notFound key) ∧ value = none) ∨
      ∃ answer found, result = .ok answer ∧ value = some found ∧
        answer.value.tree.json? (Json.greatestDepth - 1) = some found := by
  cases result with
  | ok answer =>
    right
    rw [Reply.ofValue, value?_ofAnswer] at told
    split at told
    · next found read => exact ⟨answer, found, rfl, (Except.ok.inj told).symm, read⟩
    · cases told
  | error failure =>
    left
    rcases genuine failure rfl with missing | fault
    · obtain ⟨key, rfl⟩ := Failure.exists_key_of_kind missing
      rw [Reply.ofValue, Failure.bind_of_ok (ofReply_notFound key)] at told
      exact ⟨key, rfl, (Except.ok.inj told).symm⟩
    · have failed := fault.statusCode
      rw [Reply.ofValue, Reply.ofFailure] at told
      generalize Utf8.encode failure.body.print = body at told
      generalize failure.statusCode = code at failed told
      rw [Failure.bind_of_error (ofReply_of_failed failed.1 failed.2)] at told
      cases told

end Received

namespace Replica

def findText (replica : Replica) (send : Sender) (text : String) :
    Except Failure (Answer Json) := do
  (replica.get send (← replica.topic.keyType.ofText text)).outcome

variable {replica : Replica} {send : Sender}

theorem getMany_of_texts {texts : List String}
    (parsed : ∀ text ∈ texts, ∃ key, replica.topic.keyType.ofText text = .ok key) :
    (texts.mapM replica.topic.keyType.ofText >>= fun keys => (replica.getMany send keys).outcome) =
      merge (texts.map (replica.findText send)) := by
  obtain ⟨keys, read, -⟩ := @Failure.exists_mapM_eq _ _ replica.topic.keyType.ofText Unit texts
    (fun _ => ()) (fun _ => ()) fun text listed =>
      let ⟨key, own⟩ := parsed text listed
      ⟨key, own, rfl⟩
  have each : texts.map (replica.findText send) =
      keys.map fun key => (replica.get send key).outcome := by
    have results := congrArg (List.map fun key =>
      key >>= fun key => (replica.get send key).outcome) (Failure.mapM_eq_ok_iff.1 read)
    rw [List.map_map, List.map_map] at results
    exact results
  rw [Failure.bind_of_ok read, outcome_getMany, each]

theorem isCanonical_of_get {key : replica.topic.keyType.Key} {answer : Answer Json}
    (done : (replica.get send key).outcome = .ok answer) : answer.value.IsCanonical := by
  rw [outcome_get] at done
  obtain ⟨active, standbys, -, given⟩ := exists_of_route done
  split at given
  · obtain ⟨found, -, decoded⟩ := Failure.exists_of_bind given.1
    cases found with
    | none => cases decoded
    | some bytes => exact DataType.isCanonical_of_decode decoded
  · obtain ⟨url, -, asked⟩ := Failure.exists_of_bind given.1
    obtain ⟨received, -, later⟩ := Failure.exists_of_bind asked
    obtain ⟨found, told, same⟩ := Failure.exists_of_bind later
    cases found with
    | none => cases same
    | some value =>
      cases same
      exact Received.isCanonical_of_value? told

/-- Results that a client learns one by one are put together to what it learns of them
together, as long as nothing that it learns is nested too deep for a list in an envelope. -/
theorem exists_merge {α : Type} {items : List α} {result : α → Except Failure (Answer Json)}
    {told : α → Option Json}
    (genuine : ∀ item ∈ items, FailsAs IsGenuine (result item))
    (canonical : ∀ item ∈ items, ∀ answer, result item = .ok answer → answer.value.IsCanonical)
    (each : ∀ item ∈ items, (Received.ofReply (.ofValue (result item)) >>= Received.value?) =
      .ok (told item))
    (shallow : ∀ item ∈ items, ∀ value ∈ told item, value.Nests (Json.greatestDepth - 2)) :
    ∃ merged, merge (items.map result) = .ok merged ∧
      Json.Document.jsonItems? (Json.greatestDepth - 2) (Json.trees merged.value) =
        some (items.filterMap told) := by
  induction items with
  | nil => exact ⟨⟨[], false⟩, rfl, rfl⟩
  | cons item rest ih =>
    obtain ⟨merged, done, read⟩ := ih (fun item listed => genuine item (.tail _ listed))
      (fun item listed => canonical item (.tail _ listed))
      (fun item listed => each item (.tail _ listed))
      fun item listed => shallow item (.tail _ listed)
    rw [List.map_cons]
    rcases Received.told_cases (genuine item (.head _)) (each item (.head _)) with
      ⟨key, missing, nothing⟩ | ⟨answer, found, own, value, whole⟩
    · refine ⟨merged, ?_, ?_⟩
      · rw [missing]
        exact done
      · rw [List.filterMap_cons_none nothing]
        exact read
    · refine ⟨⟨answer.value :: merged.value, answer.stale || merged.stale⟩, ?_, ?_⟩
      · rw [own]
        exact Failure.bind_of_ok done _
      · rw [List.filterMap_cons_some value]
        refine Json.jsonItems?_trees_cons.2 ⟨found, ?_, _, read, rfl⟩
        exact Json.json?_tree_of_nests (canonical item (.head _) answer own) whole
          (shallow item (.head _) found value)

end Replica

/-- The values of a list in the body of an answer, each read under the limits of a list. -/
theorem Received.exists_of_ofValues {merged : Answer (List Json)} {values : List Json}
    (read : Json.Document.jsonItems? (Json.greatestDepth - 2) (Json.trees merged.value) =
      some values) :
    ∃ received, ofReply (.ofValues (.ok merged)) = .ok received ∧
      received.values = .ok values := by
  refine ⟨_, ofReply_ofAnswer ⟨.arr merged.value, merged.stale⟩, ?_⟩
  have whole : Envelope.values? (Envelope.write (.arr merged.value)) = some values := by
    rw [Envelope.values?, Envelope.open?_write, Json.tree]
    exact read
  rw [values_of_body, Envelope.readValues, whole]

end ShardedView
