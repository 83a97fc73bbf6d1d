import ShardedView.Http.Exchange

/-!
Operations one after another: their results, and the requests that they send together.
-/

namespace ShardedView.Http.Traced

variable {α β : Type}

theorem result_bind (first : Traced α) (next : α → Traced β) :
    (first >>= next).result = (next first.result).result := rfl

theorem sent_bind (first : Traced α) (next : α → Traced β) :
    (first >>= next).sent = first.sent ++ (next first.result).sent := rfl

theorem sent_pure (value : α) : (pure value : Traced α).sent = [] := rfl

theorem sent_map (change : α → β) (operation : Traced α) :
    (do return change (← operation) : Traced β).sent = operation.sent :=
  List.append_nil _

theorem ext : {left right : Traced α} → left.result = right.result → left.sent = right.sent →
    left = right
  | ⟨_, _⟩, ⟨_, _⟩, rfl, rfl => rfl

instance : LawfulMonad Traced := by
  refine LawfulMonad.mk' Traced (fun operation => ?_) (fun value next => rfl)
    fun first next last => ?_
  · exact ext rfl (List.append_nil _)
  · exact ext rfl (List.append_assoc ..)

theorem result_mapM (operation : α → Traced β) (list : List α) :
    (list.mapM operation).result = list.map fun value => (operation value).result := by
  induction list with
  | nil => rfl
  | cons value rest ih =>
    rw [List.mapM_cons, List.map_cons, ← ih]
    rfl

theorem sent_mapM (operation : α → Traced β) (list : List α) :
    (list.mapM operation).sent = list.flatMap fun value => (operation value).sent := by
  induction list with
  | nil => rfl
  | cons value rest ih =>
    rw [List.mapM_cons, List.flatMap_cons, ← ih, sent_bind, sent_bind, sent_pure, List.append_nil]

end ShardedView.Http.Traced
