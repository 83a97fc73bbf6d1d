import ShardedView.Proofs.SortedMap
import ShardedView.Proofs.Text.ByteOrder

/-!
Texts with a common stem are neighbours in the order of texts, and begin at the stem
itself. A scan between two texts with one stem therefore meets no other stem, and
the removal of a stem may stop at the first key without it.
-/

namespace ShardedView

theorem not_append_lt (stem tail : List Char) : ¬ stem ++ tail < stem := by
  induction stem with
  | nil => simp
  | cons head rest ih =>
    rw [List.cons_append, List.cons_lt_cons_iff]
    rintro (less | ⟨-, less⟩)
    · exact Std.lt_irrefl less
    · exact ih less

/-- What comes neither before a stem nor begins with it comes after all texts with
the stem. -/
theorem append_lt_of_not_isPrefix {stem text : List Char} (foreign : ¬ stem <+: text)
    (notBelow : ¬ text < stem) (tail : List Char) : stem ++ tail < text := by
  induction stem generalizing text with
  | nil => exact absurd List.nil_prefix foreign
  | cons head rest ih =>
    cases text with
    | nil => exact absurd (List.nil_lt_cons ..) notBelow
    | cons first others =>
      rw [List.cons_lt_cons_iff] at notBelow
      rw [List.cons_append, List.cons_lt_cons_iff]
      rcases Std.lt_trichotomy head first with less | rfl | greater
      · exact .inl less
      · refine .inr ⟨rfl, ih (fun shared => foreign ?_) fun less => notBelow (.inr ⟨rfl, less⟩)⟩
        exact List.cons_prefix_cons.2 ⟨rfl, shared⟩
      · exact absurd (.inl greater) notBelow

theorem isPrefix_of_between {stem lower upper text : List Char}
    (notBelow : ¬ text < stem ++ lower) (notAbove : ¬ stem ++ upper < text) :
    stem <+: text := by
  apply Decidable.byContradiction
  intro foreign
  refine notAbove (append_lt_of_not_isPrefix foreign (fun less => notBelow ?_) upper)
  exact Std.lt_of_lt_of_le less (Std.not_lt.1 (not_append_lt stem lower))

namespace SortedMap

theorem hasStem_eq_true_iff {stem text : String} :
    hasStem stem text = true ↔ stem.toList <+: text.toList :=
  List.isPrefixOf_iff_prefix

theorem hasStem_of_lt {stem text : String} (less : text < stem) : hasStem stem text = false := by
  rw [Bool.eq_false_iff, Ne, hasStem_eq_true_iff]
  rintro ⟨tail, equal⟩
  rw [String.lt_iff, ← equal] at less
  exact not_append_lt stem.toList tail less

theorem hasStem_eq_true_iff_encode {stem text : String} :
    hasStem stem text = true ↔ Utf8.encode stem <+: Utf8.encode text :=
  hasStem_eq_true_iff.trans Utf8.encode_isPrefix_encode_iff.symm

/-- What lacks a stem and does not come before it comes after all texts with the stem. -/
theorem lt_of_hasStem {stem text foreign : String} (own : hasStem stem text = true)
    (notBelow : ¬ foreign < stem) (lacks : hasStem stem foreign = false) : text < foreign := by
  rw [Bool.eq_false_iff, Ne, hasStem_eq_true_iff] at lacks
  obtain ⟨tail, equal⟩ := hasStem_eq_true_iff.1 own
  rw [String.lt_iff, ← equal]
  exact append_lt_of_not_isPrefix lacks notBelow tail

variable {ν : Type} {stem : String} {entries : List (String × ν)} {entry : String × ν}

/-! ### The parts of a split -/

theorem splitStem_append (stem : String) (entries : List (String × ν)) :
    (splitStem stem entries).1 ++ ((splitStem stem entries).2.1 ++ (splitStem stem entries).2.2) =
      entries := by
  simp only [splitStem, List.takeWhile_append_dropWhile]

theorem lt_of_mem_below (member : entry ∈ (splitStem stem entries).1) : entry.1 < stem :=
  of_decide_eq_true (List.all_eq_true.1 List.all_takeWhile entry member)

theorem hasStem_of_mem_own (member : entry ∈ (splitStem stem entries).2.1) :
    hasStem stem entry.1 = true :=
  List.all_eq_true.1 List.all_takeWhile entry member

/-- A scan in key order stops at an entry that it does not pass, and nothing behind comes before
that one. -/
theorem exists_stop (sorted : entries.Pairwise fun left right => left.1 < right.1)
    {passes : String × ν → Bool} (member : entry ∈ entries.dropWhile passes) :
    ∃ stop ∈ entries.dropWhile passes, passes stop = false ∧ ¬ entry.1 < stop.1 := by
  have kept := sorted.sublist (List.dropWhile_sublist passes)
  have fails := List.head?_dropWhile_not passes entries
  cases rest : entries.dropWhile passes with
  | nil => simp [rest] at member
  | cons stop others =>
    rw [rest] at member kept fails
    refine ⟨stop, .head _, by simpa using fails, ?_⟩
    rcases List.mem_cons.1 member with rfl | later
    · exact Std.lt_irrefl
    · exact Std.not_lt.2 (Std.le_of_lt ((List.pairwise_cons.1 kept).1 entry later))

theorem not_lt_of_mem_dropWhile (sorted : entries.Pairwise fun left right => left.1 < right.1)
    (member : entry ∈ entries.dropWhile fun other => other.1 < stem) : ¬ entry.1 < stem := by
  obtain ⟨stop, -, fails, notBefore⟩ := exists_stop sorted member
  exact fun less => notBefore (Std.lt_of_lt_of_le less (Std.not_lt.1 (of_decide_eq_false fails)))

theorem lt_of_mem_above (sorted : entries.Pairwise fun left right => left.1 < right.1)
    (member : entry ∈ (splitStem stem entries).2.2) {text : String}
    (own : hasStem stem text = true) : text < entry.1 := by
  have restSorted := sorted.sublist (List.dropWhile_sublist fun other => other.1 < stem)
  obtain ⟨stop, listed, lacks, notBefore⟩ := exists_stop restSorted member
  have notBelow := not_lt_of_mem_dropWhile sorted ((List.dropWhile_sublist _).mem listed)
  exact Std.lt_of_lt_of_le (lt_of_hasStem own notBelow lacks) (Std.not_lt.1 notBefore)

theorem hasStem_of_mem_below (member : entry ∈ (splitStem stem entries).1) :
    hasStem stem entry.1 = false :=
  hasStem_of_lt (lt_of_mem_below member)

theorem hasStem_of_mem_above (sorted : entries.Pairwise fun left right => left.1 < right.1)
    (member : entry ∈ (splitStem stem entries).2.2) : hasStem stem entry.1 = false :=
  Bool.eq_false_iff.2 fun own => Std.lt_irrefl (lt_of_mem_above sorted member own)

theorem own_eq_filter (sorted : entries.Pairwise fun left right => left.1 < right.1) :
    (splitStem stem entries).2.1 = entries.filter fun entry => hasStem stem entry.1 := by
  have below : (splitStem stem entries).1.filter (fun entry => hasStem stem entry.1) = [] :=
    List.filter_eq_nil_iff.2 fun entry member => by simp [hasStem_of_mem_below member]
  have own : (splitStem stem entries).2.1.filter (fun entry => hasStem stem entry.1) =
      (splitStem stem entries).2.1 :=
    List.filter_eq_self.2 fun entry member => hasStem_of_mem_own member
  have above : (splitStem stem entries).2.2.filter (fun entry => hasStem stem entry.1) = [] :=
    List.filter_eq_nil_iff.2 fun entry member => by simp [hasStem_of_mem_above sorted member]
  conv => rhs; rw [← splitStem_append stem entries]
  simp [below, own, above]

theorem splitStem_eq_filter (sorted : entries.Pairwise fun left right => left.1 < right.1) :
    (splitStem stem entries).1 ++ (splitStem stem entries).2.2 =
      entries.filter fun entry => !hasStem stem entry.1 := by
  have below : (splitStem stem entries).1.filter (fun entry => !hasStem stem entry.1) =
      (splitStem stem entries).1 :=
    List.filter_eq_self.2 fun entry member => by simp [hasStem_of_mem_below member]
  have own : (splitStem stem entries).2.1.filter (fun entry => !hasStem stem entry.1) = [] :=
    List.filter_eq_nil_iff.2 fun entry member => by simp [hasStem_of_mem_own member]
  have above : (splitStem stem entries).2.2.filter (fun entry => !hasStem stem entry.1) =
      (splitStem stem entries).2.2 :=
    List.filter_eq_self.2 fun entry member => by simp [hasStem_of_mem_above sorted member]
  conv => rhs; rw [← splitStem_append stem entries]
  simp [below, own, above]

/-! ### The removal -/

/-- Although the removal of a stem stops early, it removes exactly the keys that begin
with it. -/
theorem eraseStem_eq_filter (map : SortedMap String ν) (stem : String) :
    map.eraseStem stem = map.filter fun key _ => !hasStem stem key :=
  ext (splitStem_eq_filter map.sorted)

theorem find?_eraseStem (map : SortedMap String ν) (stem key : String) :
    (map.eraseStem stem).find? key = if hasStem stem key then none else map.find? key := by
  rw [eraseStem_eq_filter, find?_filter]
  cases hasStem stem key <;> cases map.find? key <;> simp

theorem removeStem_eq (map : SortedMap String ν) (stem : String) :
    map.removeStem stem =
      (map.filter fun key _ => !hasStem stem key,
        (map.filter fun key _ => hasStem stem key).size) := by
  rw [removeStem, eraseStem_eq_filter, own_eq_filter map.sorted]
  rfl

/-- The removal of a stem takes out the entries whose keys begin with it, tells their number and
leaves the others as they are. It scans the keys from the stem on and stops at the first one
without it: the entries with the stem stand together, and behind them there are only keys that
come after all texts with the stem. -/
theorem stem_removal_is_exact (map : SortedMap String ν) (stem : String) :
    map.removeStem stem =
        (map.filter fun key _ => ¬ Utf8.encode stem <+: Utf8.encode key,
          (map.filter fun key _ => Utf8.encode stem <+: Utf8.encode key).size) ∧
      ∃ below own above, splitStem stem map.entries = (below, own, above) ∧
        map.entries = below ++ (own ++ above) ∧
        (∀ entry ∈ below, Utf8.encode entry.1 < Utf8.encode stem) ∧
        (∀ entry ∈ own, Utf8.encode stem <+: Utf8.encode entry.1) ∧
        ∀ entry ∈ above, ∀ text, Utf8.encode stem <+: Utf8.encode text →
          Utf8.encode text < Utf8.encode entry.1 := by
  constructor
  · have bytes : ∀ key, decide (Utf8.encode stem <+: Utf8.encode key) = hasStem stem key := by
      intro key
      rw [Bool.eq_iff_iff, decide_eq_true_iff, hasStem_eq_true_iff_encode]
    simp only [removeStem_eq, decide_not, bytes]
  · refine ⟨_, _, _, rfl, (splitStem_append stem map.entries).symm, ?_, ?_, ?_⟩
    · exact fun entry member => Utf8.encode_lt_encode_iff.2 (lt_of_mem_below member)
    · exact fun entry member => hasStem_eq_true_iff_encode.1 (hasStem_of_mem_own member)
    · intro entry member text shared
      exact Utf8.encode_lt_encode_iff.2
        (lt_of_mem_above map.sorted member (hasStem_eq_true_iff_encode.2 shared))

end SortedMap

end ShardedView
