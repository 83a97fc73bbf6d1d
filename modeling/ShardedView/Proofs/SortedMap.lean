import ShardedView.SortedMap

/-!
Looking up keys in sorted maps, after each operation on them.

A map is determined by what its keys look up to, so that maps built in different
ways are compared key by key.
-/

namespace ShardedView.SortedMap

section Keys

variable {κ ν : Type} [LT κ] [DecidableEq κ]

@[simp]
theorem find?_empty (key : κ) : (empty : SortedMap κ ν).find? key = none := rfl

@[simp]
theorem contains_empty (key : κ) : (empty : SortedMap κ ν).contains key = false := rfl

@[simp]
theorem find?_mapValues {ω : Type} (change : κ → ν → ω) (map : SortedMap κ ν) (key : κ) :
    (map.mapValues change).find? key = (map.find? key).map (change key) := by
  obtain ⟨entries, sorted⟩ := map
  simp only [find?, mapValues, List.find?_map, Option.map_map]
  cases found : entries.find? fun entry => entry.1 = key with
  | none => simpa [Function.comp_def] using found
  | some entry =>
    have same : entry.1 = key := by simpa using List.find?_some found
    simp [Function.comp_def, found, same]

theorem contains_eq_true_iff {map : SortedMap κ ν} {key : κ} :
    map.contains key = true ↔ key ∈ map.keys := by
  simp [contains, find?, keys]

/-- The entries of the keys from `lower` to `upper`, both included. -/
def between [DecidableLT κ] (map : SortedMap κ ν) (lower upper : κ) : List (κ × ν) :=
  map.entries.filter fun entry => !(entry.1 < lower) && !(upper < entry.1)

omit [DecidableEq κ] in
theorem range_eq_map_between [DecidableLT κ] (map : SortedMap κ ν) (lower upper : κ) :
    map.range lower upper = (map.between lower upper).map (·.2) := rfl

omit [DecidableEq κ] in
theorem sorted_between [DecidableLT κ] (map : SortedMap κ ν) (lower upper : κ) :
    (map.between lower upper).Pairwise fun left right => left.1 < right.1 :=
  map.sorted.filter _

omit [DecidableEq κ] in
theorem mem_between [DecidableLT κ] {map : SortedMap κ ν} {lower upper : κ} {entry : κ × ν} :
    entry ∈ map.between lower upper ↔
      entry ∈ map.entries ∧ ¬ entry.1 < lower ∧ ¬ upper < entry.1 := by
  simp [between]

end Keys

section Changes

variable {κ ν ω ε : Type} {change : κ → ν → Except ε ω}

theorem changeEntries_eq_ok {entries : List (κ × ν)} {changed : List (κ × ω)}
    (done : changeEntries change entries = .ok changed) :
    changed.map (fun entry => (entry.1, Except.ok entry.2)) =
      entries.map fun entry => (entry.1, change entry.1 entry.2) := by
  induction entries generalizing changed with
  | nil =>
    obtain rfl := Except.ok.inj done
    rfl
  | cons entry rest ih =>
    simp only [changeEntries, bind, Except.bind, pure, Except.pure] at done
    split at done
    · contradiction
    · next value own =>
      split at done
      · contradiction
      · next later others =>
        obtain rfl := Except.ok.inj done
        rw [List.map_cons, List.map_cons, ih others, own]

theorem exists_changeEntries {entries : List (κ × ν)}
    (each : ∀ entry ∈ entries, ∃ value, change entry.1 entry.2 = .ok value) :
    ∃ changed, changeEntries change entries = .ok changed := by
  induction entries with
  | nil => exact ⟨[], rfl⟩
  | cons entry rest ih =>
    obtain ⟨value, own⟩ := each entry (.head _)
    obtain ⟨later, others⟩ := ih fun entry member => each entry (.tail _ member)
    refine ⟨(entry.1, value) :: later, ?_⟩
    simp only [changeEntries, own, others]
    rfl

variable [LT κ] {map : SortedMap κ ν} {changed : SortedMap κ ω}

theorem changeEntries_of_changeValues (done : map.changeValues change = .ok changed) :
    changeEntries change map.entries = .ok changed.entries := by
  unfold changeValues at done
  split at done
  · contradiction
  · next same =>
    obtain rfl := Except.ok.inj done
    exact same

theorem exists_changeValues (change : κ → ν → Except ε ω) (map : SortedMap κ ν)
    (each : ∀ entry ∈ map.entries, ∃ value, change entry.1 entry.2 = .ok value) :
    ∃ changed, map.changeValues change = .ok changed := by
  obtain ⟨entries, done⟩ := exists_changeEntries each
  unfold changeValues
  split
  · next failed =>
    rw [done] at failed
    contradiction
  · exact ⟨_, rfl⟩

theorem find?_changeValues [DecidableEq κ] (done : map.changeValues change = .ok changed)
    (key : κ) : (changed.find? key).map Except.ok = (map.find? key).map (change key) := by
  have same := congrArg (fun entries => (entries.find? fun entry => entry.1 = key).map (·.2))
    (changeEntries_eq_ok (changeEntries_of_changeValues done))
  simp only [List.find?_map, Option.map_map, Function.comp_def] at same
  rw [find?, find?, Option.map_map, Function.comp_def, same, Option.map_map]
  cases found : map.entries.find? fun entry => decide (entry.1 = key) with
  | none => rfl
  | some entry =>
    have own : entry.1 = key := by simpa using List.find?_some found
    simp [own]

end Changes

section Order

variable {κ ν : Type} [LT κ] [LE κ] [Std.LawfulOrderLT κ] [DecidableEq κ]

/-- The keys of a sorted list are distinct, so the first entry of a key is its only
one. -/
theorem find?_entries_eq_some_iff {entries : List (κ × ν)} {entry : κ × ν}
    (sorted : entries.Pairwise fun left right => left.1 < right.1) :
    (entries.find? fun other => other.1 = entry.1) = some entry ↔ entry ∈ entries := by
  induction entries with
  | nil => simp
  | cons head rest ih =>
    obtain ⟨above, sorted⟩ := List.pairwise_cons.1 sorted
    by_cases same : head.1 = entry.1
    · simp only [List.find?_cons, same, decide_true, Option.some.injEq, List.mem_cons]
      refine ⟨fun equal => .inl equal.symm, fun member => ?_⟩
      rcases member with rfl | member
      · rfl
      · exact absurd (above entry member) (same ▸ Std.lt_irrefl)
    · have distinct : entry ≠ head := fun equal => same (congrArg (·.1) equal).symm
      simp [same, ih sorted, distinct]

theorem find?_eq_some_iff {map : SortedMap κ ν} {key : κ} {value : ν} :
    map.find? key = some value ↔ (key, value) ∈ map.entries := by
  rw [← find?_entries_eq_some_iff map.sorted]
  simp only [find?, Option.map_eq_some_iff]
  constructor
  · rintro ⟨entry, found, rfl⟩
    have same : entry.1 = key := by simpa using List.find?_some found
    subst same
    exact found
  · intro found
    exact ⟨_, found, rfl⟩

theorem find?_filter (map : SortedMap κ ν) (keep : κ → ν → Bool) (key : κ) :
    (map.filter keep).find? key = (map.find? key).filter (keep key) := by
  apply Option.ext
  intro value
  simp only [find?_eq_some_iff, Option.filter_eq_some_iff]
  simp [filter]

theorem find?_erase (map : SortedMap κ ν) (key other : κ) :
    (map.erase key).find? other = if other = key then none else map.find? other := by
  rw [erase, find?_filter]
  by_cases same : other = key <;> cases map.find? other <;> simp [same]

omit [DecidableEq κ] in
theorem nodup_keys (map : SortedMap κ ν) : (map.entries.map (·.1)).Nodup := by
  refine List.pairwise_map.2 (map.sorted.imp fun {first second} less equal => ?_)
  exact Std.lt_irrefl (equal ▸ less : second.1 < second.1)

variable [Std.IsLinearOrder κ]

omit [DecidableEq κ] in
/-- Lists of entries in strict order of their keys are equal if they have the same
members. -/
theorem entries_eq_of_mem_iff {left right : List (κ × ν)}
    (leftSorted : left.Pairwise fun first second => first.1 < second.1)
    (rightSorted : right.Pairwise fun first second => first.1 < second.1)
    (members : ∀ entry, entry ∈ left ↔ entry ∈ right) : left = right := by
  have nodup : ∀ {entries : List (κ × ν)},
      (entries.Pairwise fun first second => first.1 < second.1) → entries.Nodup := by
    intro entries sorted
    refine sorted.imp fun {first second} less equal => ?_
    exact Std.lt_irrefl (equal ▸ less : second.1 < second.1)
  have permuted : left.Perm right :=
    (List.perm_ext_iff_of_nodup (nodup leftSorted) (nodup rightSorted)).2 members
  refine permuted.eq_of_pairwise ?_ leftSorted rightSorted
  intro first second _ _ less greater
  exact absurd (Std.lt_trans less greater) Std.lt_irrefl

theorem ext_find? {left right : SortedMap κ ν}
    (same : ∀ key, left.find? key = right.find? key) : left = right := by
  apply ext
  apply entries_eq_of_mem_iff left.sorted right.sorted
  intro entry
  rw [← find?_eq_some_iff, ← find?_eq_some_iff, same]

theorem erase_of_not_contains {map : SortedMap κ ν} {key : κ} (absent : map.contains key = false) :
    map.erase key = map := by
  apply ext_find?
  intro other
  rw [find?_erase]
  split
  · next same =>
    rw [contains, Option.isSome_eq_false_iff, Option.isNone_iff_eq_none] at absent
    rw [same, absent]
  · rfl

theorem changeValues_eq_self {ε : Type} {change : κ → ν → Except ε ν} {map : SortedMap κ ν}
    (same : ∀ key value, map.find? key = some value → change key value = .ok value) :
    map.changeValues change = .ok map := by
  obtain ⟨changed, done⟩ := exists_changeValues change map fun entry member =>
    ⟨entry.2, same entry.1 entry.2 (find?_eq_some_iff.2 member)⟩
  have unchanged : changed = map := by
    apply ext_find?
    intro key
    have each := find?_changeValues done key
    cases found : map.find? key with
    | none =>
      rw [found, Option.map_none, Option.map_eq_none_iff] at each
      exact each
    | some value =>
      rw [found, Option.map_some, same key value found, Option.map_eq_some_iff] at each
      obtain ⟨value, there, own⟩ := each
      rw [there, Except.ok.inj own]
  rw [done, unchanged]

variable [DecidableLT κ]

theorem find?_insert (map : SortedMap κ ν) (key other : κ) (value : ν) :
    (map.insert key value).find? other =
      if other = key then some value else map.find? other := by
  obtain ⟨entries, sorted⟩ := map
  simp only [find?, insert]
  induction entries with
  | nil => by_cases same : key = other <;> simp [insertEntry, same, eq_comm]
  | cons head rest ih =>
    obtain ⟨above, sorted⟩ := List.pairwise_cons.1 sorted
    unfold insertEntry
    split
    case isTrue less =>
      by_cases same : key = other <;> simp [List.find?_cons, same, eq_comm]
    case isFalse notLess =>
      split
      case isTrue greater =>
        by_cases same : head.1 = other
        · have distinct : other ≠ key := fun equal =>
            Std.lt_irrefl (show key < key by rwa [same, equal] at greater)
          simp [same, distinct]
        · simpa [List.find?_cons, same] using ih sorted
      case isFalse notGreater =>
        have equal : head.1 = key :=
          Std.le_antisymm (Std.not_lt.1 notLess) (Std.not_lt.1 notGreater)
        by_cases same : key = other <;> simp [same, equal, eq_comm]

theorem contains_insert (map : SortedMap κ ν) (key other : κ) (value : ν) :
    (map.insert key value).contains other = (decide (other = key) || map.contains other) := by
  by_cases same : other = key <;> simp [contains, find?_insert, same]

/-! ### Maps of lists -/

omit [DecidableEq κ] in
theorem perm_insertEntry {key : κ} (value : ν) {entries : List (κ × ν)}
    (absent : key ∉ entries.map (·.1)) :
    (insertEntry key value entries).Perm ((key, value) :: entries) := by
  induction entries with
  | nil => exact .refl _
  | cons head rest ih =>
    rw [List.map_cons, List.mem_cons, not_or] at absent
    unfold insertEntry
    split
    case isTrue less => exact .refl _
    case isFalse notLess =>
      split
      case isTrue greater => exact ((ih absent.2).cons head).trans (.swap ..)
      case isFalse notGreater =>
        exact absurd (Std.le_antisymm (Std.not_lt.1 notGreater) (Std.not_lt.1 notLess)) absent.1

omit [DecidableEq κ] in
theorem perm_foldl_insertEntry {before entries : List (κ × ν)}
    (distinct : ((before ++ entries).map (·.1)).Nodup) :
    (entries.foldl (fun sorted entry => insertEntry entry.1 entry.2 sorted) before).Perm
      (before ++ entries) := by
  induction entries generalizing before with
  | nil => rw [List.append_nil, List.foldl_nil]
  | cons entry rest ih =>
    have moved : (before ++ entry :: rest).Perm (entry :: before ++ rest) := List.perm_middle
    have nodup : ((entry :: before ++ rest).map (·.1)).Nodup := (moved.map _).nodup_iff.1 distinct
    have absent : entry.1 ∉ before.map (·.1) := by
      rw [List.cons_append, List.map_cons, List.map_append] at nodup
      exact fun member => (List.nodup_cons.1 nodup).1 (List.mem_append_left _ member)
    have inserted := (perm_insertEntry entry.2 absent).append_right rest
    exact (ih ((inserted.map _).nodup_iff.2 nodup)).trans (inserted.trans moved.symm)

omit [DecidableEq κ] in
theorem entries_ofList (entries : List (κ × ν)) :
    (ofList entries).entries =
      entries.foldl (fun sorted entry => insertEntry entry.1 entry.2 sorted) [] := by
  have folded : ∀ map : SortedMap κ ν,
      (entries.foldl (fun map entry => map.insert entry.1 entry.2) map).entries =
        entries.foldl (fun sorted entry => insertEntry entry.1 entry.2 sorted) map.entries := by
    induction entries with
    | nil => exact fun map => rfl
    | cons entry rest ih => exact fun map => ih (map.insert entry.1 entry.2)
  exact folded empty

omit [LE κ] [Std.LawfulOrderLT κ] [DecidableEq κ] [Std.IsLinearOrder κ] in
theorem foldl_insertEntry_ne_nil {before entries : List (κ × ν)}
    (nonempty : before ≠ [] ∨ entries ≠ []) :
    entries.foldl (fun sorted entry => insertEntry entry.1 entry.2 sorted) before ≠ [] := by
  induction entries generalizing before with
  | nil => simpa using nonempty
  | cons entry rest ih =>
    apply ih
    left
    cases before with
    | nil => simp [insertEntry]
    | cons first others =>
      simp only [insertEntry]
      split
      · simp
      · split <;> simp

theorem find?_ofList (entries : List (κ × ν)) (key : κ) :
    (ofList entries).find? key =
      entries.reverse.findSome? fun entry => if entry.1 = key then some entry.2 else none := by
  have folded : ∀ map : SortedMap κ ν,
      (entries.foldl (fun map entry => map.insert entry.1 entry.2) map).find? key =
        (entries.reverse.findSome? fun entry => if entry.1 = key then some entry.2 else none).or
          (map.find? key) := by
    induction entries with
    | nil => exact fun map => rfl
    | cons entry rest ih =>
      intro map
      rw [List.foldl_cons, ih, find?_insert, List.reverse_cons, List.findSome?_append,
        Option.or_assoc, List.findSome?_singleton]
      by_cases own : entry.1 = key
      · rw [if_pos own.symm, if_pos own, Option.some_or]
      · rw [if_neg (Ne.symm own), if_neg own, Option.none_or]
  exact (folded empty).trans (Option.or_none ..)

omit [DecidableEq κ] in
theorem ofList_of_perm {map : SortedMap κ ν} {entries : List (κ × ν)}
    (permuted : entries.Perm map.entries) : ofList entries = map := by
  have distinct : (entries.map (·.1)).Nodup := (permuted.map _).nodup_iff.2 map.nodup_keys
  have kept : (ofList entries).entries.Perm map.entries := by
    rw [entries_ofList]
    exact (@perm_foldl_insertEntry _ _ _ _ _ _ _ [] entries distinct).trans permuted
  exact ext (entries_eq_of_mem_iff (ofList entries).sorted map.sorted fun entry => kept.mem_iff)

end Order

end ShardedView.SortedMap
