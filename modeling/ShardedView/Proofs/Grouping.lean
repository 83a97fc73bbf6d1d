import Mathlib.Data.List.Induction

/-!
Lists that are taken apart by what their items have in common and put together again
group by group.
-/

namespace ShardedView

variable {α β : Type}

theorem flatMap_congr {list : List α} {left right : α → List β}
    (same : ∀ item ∈ list, left item = right item) : list.flatMap left = list.flatMap right := by
  rw [List.flatMap_def, List.flatMap_def, List.map_congr_left same]

theorem flatMap_toList (change : α → Option β) (items : List α) :
    items.flatMap (fun item => (change item).toList) = items.filterMap change := by
  induction items with
  | nil => rfl
  | cons item rest ih =>
    rw [List.flatMap_cons, List.filterMap_cons, ih]
    cases change item <;> rfl

theorem filterMap_filter_of_none {keep : α → Bool} {change : α → Option β} {items : List α}
    (left : ∀ item ∈ items, keep item = false → change item = none) :
    (items.filter keep).filterMap change = items.filterMap change := by
  induction items with
  | nil => rfl
  | cons item rest ih =>
    have later := ih fun item member => left item (.tail _ member)
    cases kept : keep item with
    | true => rw [List.filter_cons_of_pos kept, List.filterMap_cons, List.filterMap_cons, later]
    | false =>
      rw [List.filter_cons_of_neg (by simp [kept]), later,
        List.filterMap_cons_none (left item (.head _) kept)]

variable [DecidableEq β]

/-- With each group once, the groups together have each item as often as before. -/
theorem perm_flatMap_filter (trait : α → β) {groups : List β} (distinct : groups.Nodup)
    {items : List α} (covered : ∀ item ∈ items, trait item ∈ groups) :
    (groups.flatMap fun group => items.filter fun item => trait item = group).Perm items := by
  induction groups generalizing items with
  | nil =>
    cases items with
    | nil => exact .refl []
    | cons item rest => exact absurd (covered item (.head _)) nofun
  | cons group rest ih =>
    obtain ⟨foreign, distinct⟩ := List.nodup_cons.1 distinct
    -- the other groups have nothing of the first one
    have others : rest.flatMap (fun other => items.filter fun item => trait item = other) =
        rest.flatMap fun other => (items.filter fun item => !decide (trait item = group)).filter
          fun item => trait item = other := by
      refine flatMap_congr fun other member => ?_
      rw [List.filter_filter]
      refine List.filter_congr fun item _ => ?_
      by_cases own : trait item = other
      · have apart : trait item ≠ group := fun same => foreign (same ▸ own ▸ member)
        simp only [own, decide_true, Bool.true_and]
        rw [← own, decide_eq_false apart]
        rfl
      · rw [decide_eq_false own, Bool.false_and]
    have within : ∀ item ∈ items.filter (fun item => !decide (trait item = group)),
        trait item ∈ rest := by
      intro item member
      obtain ⟨among, apart⟩ := List.mem_filter.1 member
      rw [Bool.not_eq_true', decide_eq_false_iff_not] at apart
      exact (List.mem_cons.1 (covered item among)).resolve_left apart
    rw [List.flatMap_cons, others]
    exact ((ih distinct within).append_left _).trans (List.filter_append_perm _ items)

/-- The first occurrences of the items of a list, behind some that are there already. -/
theorem nodup_foldl_first {list before : List β} (distinct : before.Nodup) :
    (list.foldl (fun kept item => if item ∈ kept then kept else kept ++ [item]) before).Nodup := by
  induction list generalizing before with
  | nil => exact distinct
  | cons item rest ih =>
    rw [List.foldl_cons]
    split
    · exact ih distinct
    · next absent =>
      refine ih (List.nodup_append.2 ⟨distinct, List.pairwise_singleton _ item, ?_⟩)
      intro other among new fresh same
      rw [same, List.mem_singleton.1 fresh] at among
      exact absent among

theorem mem_foldl_first {list before : List β} {item : β} :
    item ∈ list.foldl (fun kept item => if item ∈ kept then kept else kept ++ [item]) before ↔
      item ∈ before ∨ item ∈ list := by
  induction list generalizing before with
  | nil => exact ⟨.inl, fun either => either.resolve_right nofun⟩
  | cons head rest ih =>
    rw [List.foldl_cons, ih, List.mem_cons]
    split
    · next known =>
      refine ⟨.imp_right .inr, Or.rec .inl (Or.rec (fun same => .inl (same ▸ known)) .inr)⟩
    · rw [List.mem_append, List.mem_singleton, or_assoc]

/-- The first occurrences stand in the order of the list: before an item occurs, those in front of
it have all occurred. -/
theorem pairwise_foldl_first (list : List β) :
    (list.foldl (fun kept item => if item ∈ kept then kept else kept ++ [item]) []).Pairwise
      fun left right => ∀ before, before ++ [right] <+: list → left ∈ before := by
  induction list using List.reverseRecOn with
  | nil => exact .nil
  | append_singleton list item ih =>
    have among : ∀ {other}, other ∈ list.foldl _ [] ↔ other ∈ list :=
      mem_foldl_first.trans (or_iff_right List.not_mem_nil)
    have extended : ∀ left right, left ∈ list →
        (∀ before, before ++ [right] <+: list → left ∈ before) →
        ∀ before, before ++ [right] <+: list ++ [item] → left ∈ before := by
      intro left right leftIn ordered before begins
      rcases List.prefix_concat_iff.1 begins with whole | begins
      · rwa [(List.append_inj' whole rfl).1]
      · exact ordered before begins
    have earlier := ih.imp_of_mem fun leftIn _ ordered =>
      extended _ _ (among.1 leftIn) ordered
    rw [List.foldl_append, List.foldl_cons, List.foldl_nil]
    split
    · exact earlier
    · next absent =>
      refine List.pairwise_append.2 ⟨earlier, List.pairwise_singleton _ item, ?_⟩
      intro left leftIn right single
      obtain rfl := List.mem_singleton.1 single
      refine extended left right (among.1 leftIn) fun before begins => ?_
      exact absurd (among.2 (begins.subset (List.mem_append_right _ (.head _)))) absent

/-! ### Items that are all changed -/

theorem mapM_eq_some_iff {γ : Type} {change : α → Option γ} {list : List α} {changed : List γ} :
    list.mapM change = some changed ↔ list.map change = changed.map some := by
  induction list generalizing changed with
  | nil => cases changed <;> simp [pure]
  | cons item rest ih =>
    rw [List.mapM_cons]
    cases own : change item with
    | none => cases changed <;> simp [own]
    | some first =>
      cases changed with
      | nil => cases rest.mapM change <;> simp
      | cons other others =>
        rw [List.map_cons, List.map_cons, own, List.cons.injEq, ← ih]
        cases rest.mapM change <;> simp

theorem exists_map_some {γ : Type} {change : α → Option γ} {list : List α}
    (each : ∀ item ∈ list, (change item).isSome = true) :
    ∃ changed : List γ, list.map change = changed.map some := by
  induction list with
  | nil => exact ⟨[], rfl⟩
  | cons item rest ih =>
    obtain ⟨first, own⟩ := Option.isSome_iff_exists.1 (each item (.head _))
    obtain ⟨others, later⟩ := ih fun item listed => each item (.tail _ listed)
    exact ⟨first :: others, by rw [List.map_cons, List.map_cons, own, later]⟩

end ShardedView
