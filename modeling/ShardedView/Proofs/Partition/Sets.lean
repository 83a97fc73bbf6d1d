import ShardedView.Partition.Placement
import ShardedView.Proofs.SortedMap

/-!
Membership in sets of partitions and in assignments.
-/

namespace ShardedView

namespace PartitionSet

@[simp]
theorem contains_below (bound : Nat) (keep : Nat → Bool) (partition : Nat) :
    (below bound keep).contains partition = (decide (partition < bound) && keep partition) := by
  rw [Bool.eq_iff_iff, SortedMap.contains_eq_true_iff]
  simp [below, SortedMap.keys]

theorem contains_union (left right : PartitionSet) (partition : Nat) :
    (left.union right).contains partition =
      (left.contains partition || right.contains partition) := by
  have folded : ∀ (entries : List (Nat × Unit)) (set : PartitionSet),
      (entries.foldl (fun set entry => set.insert entry.1 ()) set).contains partition = true ↔
        set.contains partition = true ∨ partition ∈ entries.map (·.1) := by
    intro entries
    induction entries with
    | nil => simp
    | cons head rest ih =>
      intro set
      rw [List.foldl_cons, ih, SortedMap.contains_insert, List.map_cons, List.mem_cons,
        Bool.or_eq_true, decide_eq_true_iff]
      exact ⟨Or.rec (Or.rec (fun same => .inr (.inl same)) .inl) (.inr ∘ .inr),
        Or.rec (.inl ∘ .inr) (Or.rec (.inl ∘ .inl) .inr)⟩
  rw [Bool.eq_iff_iff, union, folded, Bool.or_eq_true]
  exact or_congr_right SortedMap.contains_eq_true_iff.symm

theorem ext_keys {left right : PartitionSet} (same : left.keys = right.keys) : left = right := by
  apply SortedMap.ext
  have unit : ∀ entries : List (Nat × Unit),
      entries = (entries.map (·.1)).map fun partition => (partition, ()) := by
    intro entries
    simp [Function.comp_def]
  rw [unit left.entries, unit right.entries]
  exact congrArg (List.map fun partition => (partition, ())) same

end PartitionSet

namespace Assignment

@[simp]
theorem contains_all (assignment : Assignment) (partition : Nat) :
    assignment.all.contains partition = assignment.contains partition :=
  PartitionSet.contains_union ..

theorem ext_keys {left right : Assignment} (active : left.active.keys = right.active.keys)
    (standby : left.standby.keys = right.standby.keys) : left = right := by
  obtain ⟨leftActive, leftStandby⟩ := left
  obtain ⟨rightActive, rightStandby⟩ := right
  rw [mk.injEq]
  exact ⟨PartitionSet.ext_keys active, PartitionSet.ext_keys standby⟩

end Assignment

end ShardedView
