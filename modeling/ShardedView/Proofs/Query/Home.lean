import ShardedView.Proofs.Query.Staleness

/-!
Keys that a replica asks nobody else for, since it is among the hosts of their partitions or knows
of none. A request for such keys alone is answered at first hand: nothing is sent for it, and the
reply has no mark.
-/

namespace ShardedView

open Http (Reply Traced)
open Http.Exchange (outcome outcome_bind outcome_lift sent_bind sent_lift)

structure Http.Reply.IsFirstHand (reply : Traced Reply) : Prop where
  sent : reply.sent = []
  unmarked : reply.result.stale = false

namespace Replica

/-- Whether a replica asks nobody else for a key. -/
def Keeps (replica : Replica) (key : Bytes) : Prop :=
  ∀ active standbys, replica.owners.find? (replica.place key) = some (active :: standbys) →
    replica.host ∈ active :: standbys

variable {replica : Replica} {send : Sender}

theorem Keeps.here {key : Bytes} (keeps : replica.Keeps key) {location : KeyLocation} {here : Bool}
    (located : replica.locateHere key = .ok (location, here)) : here = true := by
  obtain ⟨-, owners, rfl⟩ := eq_of_locateHere located
  exact decide_eq_true (keeps _ _ owners)

theorem Keeps.route_eq {α : Type} {key : Bytes} (keeps : replica.Keeps key)
    (read : Nat → Except Failure α) (ask other : String → Except Failure α) :
    replica.route key read ask = replica.route key read other := by
  unfold route
  cases located : replica.locateHere key with
  | error failure => rfl
  | ok found =>
    obtain ⟨location, here⟩ := found
    obtain rfl := keeps.here located
    rfl

section Keys

variable {key : replica.topic.keyType.Key}

theorem outcome_get_of_keeps (keeps : replica.Keeps (replica.topic.keyType.encode key)) :
    (replica.get send key).outcome = replica.getHere key := by
  rw [outcome_get, getHere_eq]
  exact keeps.route_eq ..

theorem sent_get_of_keeps (keeps : replica.Keeps (replica.topic.keyType.encode key)) :
    (replica.get send key).sent = [] := by
  simp only [get, sent_bind, sent_lift, outcome_lift, List.nil_append]
  cases located : replica.locateHere (replica.topic.keyType.encode key) with
  | error failure => rfl
  | ok found =>
    obtain ⟨location, here⟩ := found
    obtain rfl := keeps.here located
    simp only [if_true, sent_bind, sent_lift, List.nil_append]
    split <;> rfl

theorem outcome_getRange_of_keeps (keeps : replica.Keeps (replica.topic.keyType.encode key))
    (lower upper : String) :
    (replica.getRange send key lower upper).outcome = replica.getRangeHere key lower upper := by
  rw [outcome_getRange, getRangeHere_eq]
  exact congrArg _ (funext fun _ => keeps.route_eq ..)

theorem sent_getRange_of_keeps (keeps : replica.Keeps (replica.topic.keyType.encode key))
    (lower upper : String) : (replica.getRange send key lower upper).sent = [] := by
  simp only [getRange, sent_bind, sent_lift, outcome_lift, List.nil_append]
  cases replica.rangeBounds key lower upper with
  | error failure => rfl
  | ok bounds =>
    dsimp only
    cases located : replica.locateHere (replica.topic.keyType.encode key) with
    | error failure => rfl
    | ok found =>
      obtain ⟨location, here⟩ := found
      obtain rfl := keeps.here located
      simp only [if_true, sent_bind, sent_lift, List.nil_append]
      split <;> rfl

end Keys

def KeepsTexts (replica : Replica) (texts : List String) : Prop :=
  ∀ text ∈ texts, ∀ key, replica.topic.keyType.ofText text = .ok key →
    replica.Keeps (replica.topic.keyType.encode key)

theorem isFirstHand_ofFault (fault : RequestFault) :
    Reply.IsFirstHand (return .ofFault fault) := ⟨rfl, rfl⟩

theorem isFirstHand_ofFailure (failure : Failure) :
    Reply.IsFirstHand (return .ofFailure failure) := ⟨rfl, rfl⟩

theorem stale_ofValues_of_unmarked {result : Except Failure (Answer (List Json))}
    (unmarked : ∀ answer, result = .ok answer → answer.stale = false) :
    (Reply.ofValues result).stale = false := by
  cases result with
  | ok answer => exact unmarked answer rfl
  | error failure => rfl

variable {segment query : Bytes}

theorem isFirstHand_replyPoint
    (keeps : replica.KeepsTexts (Request.keyText segment).toOption.toList) :
    Reply.IsFirstHand (replica.replyPoint send segment) := by
  unfold replyPoint
  cases named : Request.keyText segment with
  | error fault => exact isFirstHand_ofFault fault
  | ok text =>
    dsimp only
    cases read : replica.topic.keyType.ofText text with
    | error failure => exact isFirstHand_ofFailure failure
    | ok key =>
      have own := keeps text (named ▸ List.mem_singleton.2 rfl) key read
      refine ⟨(Traced.sent_map ..).trans (sent_get_of_keeps own), ?_⟩
      show (Reply.ofValue (replica.get send key).outcome).stale = false
      rw [← Bool.not_eq_true, Reply.stale_of_ofValue, outcome_get_of_keeps own]
      rintro ⟨answer, done, marked⟩
      rw [stale_of_getHere done] at marked
      cases marked

theorem isFirstHand_replyRange
    (keeps : replica.KeepsTexts (Request.keyText segment).toOption.toList) :
    Reply.IsFirstHand (replica.replyRange send segment query) := by
  unfold replyRange
  cases named : rangeArguments segment query with
  | error fault => exact isFirstHand_ofFault fault
  | ok arguments =>
    obtain ⟨text, lower, upper⟩ := arguments
    dsimp only
    cases read : replica.topic.keyType.ofText text with
    | error failure => exact isFirstHand_ofFailure failure
    | ok key =>
      have own := keeps text (keyText_of_rangeArguments named ▸ List.mem_singleton.2 rfl) key read
      refine ⟨(Traced.sent_map ..).trans (sent_getRange_of_keeps own ..), ?_⟩
      refine stale_ofValues_of_unmarked fun answer done => ?_
      exact stale_of_getRangeHere ((outcome_getRange_of_keeps own ..).symm.trans done)

theorem isFirstHand_replyMany
    (keeps : replica.KeepsTexts ((Request.keyTexts query).toOption.getD [])) :
    Reply.IsFirstHand (replica.replyMany send query) := by
  unfold replyMany
  cases named : Request.keyTexts query with
  | error fault => exact isFirstHand_ofFault fault
  | ok texts =>
    dsimp only
    cases read : texts.mapM replica.topic.keyType.ofText with
    | error failure => exact isFirstHand_ofFailure failure
    | ok keys =>
      have own : ∀ key ∈ keys, replica.Keeps (replica.topic.keyType.encode key) := by
        intro key among
        obtain ⟨text, listed, same⟩ := Failure.exists_of_mem_mapM read among
        exact keeps text (named ▸ listed) key same
      constructor
      · refine (Traced.sent_map ..).trans ((replica.sent_getMany send keys).trans ?_)
        exact List.flatMap_eq_nil_iff.2 fun key among => sent_get_of_keeps (own key among)
      · refine stale_ofValues_of_unmarked fun merged done => ?_
        replace done : (replica.getMany send keys).outcome = .ok merged := done
        rw [outcome_getMany] at done
        rw [← Bool.not_eq_true, stale_of_merge done]
        rintro ⟨answer, member, marked⟩
        obtain ⟨key, among, same⟩ := List.mem_map.1 member
        rw [outcome_get_of_keeps (own key among)] at same
        rw [stale_of_getHere same] at marked
        cases marked

/-- A request for keys that the replica asks nobody else for is answered at first hand. -/
theorem isFirstHand_reply {request : Request} (keeps : replica.KeepsTexts request.publicTexts) :
    Reply.IsFirstHand (replica.reply send request) := by
  unfold Request.publicTexts at keeps
  unfold reply
  cases named : Route.ofPath? request.path with
  | none => exact ⟨rfl, rfl⟩
  | some route =>
    rw [named] at keeps
    have whole : Reply.IsFirstHand (replica.replyTo send request.query route) := by
      cases route with
      | point segment => exact isFirstHand_replyPoint keeps
      | range segment => exact isFirstHand_replyRange keeps
      | many => exact isFirstHand_replyMany keeps
      | _ =>
        refine ⟨rfl, stale_of_replyTo_of_silent _ _ _ _ fun segment => ⟨?_, ?_, ?_⟩⟩ <;>
          (intro same; cases same)
    dsimp only
    split
    · exact whole
    · split
      · exact ⟨(Traced.sent_map ..).trans whole.sent, whole.unmarked⟩
      · exact ⟨rfl, rfl⟩

end Replica

end ShardedView
