/-!
Finite maps kept as association lists in strictly increasing order of their
keys, so that equal contents are equal lists.
-/

namespace ShardedView

/-- Puts an entry into an association list in key order, in place of one with
the same key. -/
def insertEntry {κ ν : Type} [LT κ] [DecidableLT κ] (key : κ) (value : ν) :
    List (κ × ν) → List (κ × ν)
  | [] => [(key, value)]
  | entry :: rest =>
    if key < entry.1 then (key, value) :: entry :: rest
    else if entry.1 < key then entry :: insertEntry key value rest
    else (key, value) :: rest

structure SortedMap (κ ν : Type) [LT κ] where
  entries : List (κ × ν)
  sorted : entries.Pairwise fun left right => left.1 < right.1

namespace SortedMap

variable {κ ν : Type} [LT κ]

theorem ext : {left right : SortedMap κ ν} → left.entries = right.entries → left = right
  | ⟨_, _⟩, ⟨_, _⟩, rfl => rfl

def empty : SortedMap κ ν := ⟨[], .nil⟩

instance : Inhabited (SortedMap κ ν) := ⟨empty⟩

def keys (map : SortedMap κ ν) : List κ :=
  map.entries.map (·.1)

def values (map : SortedMap κ ν) : List ν :=
  map.entries.map (·.2)

def size (map : SortedMap κ ν) : Nat :=
  map.entries.length

def filter (keep : κ → ν → Bool) (map : SortedMap κ ν) : SortedMap κ ν :=
  ⟨map.entries.filter fun entry => keep entry.1 entry.2, map.sorted.filter _⟩

def mapValues {ω : Type} (change : κ → ν → ω) (map : SortedMap κ ν) : SortedMap κ ω where
  entries := map.entries.map fun entry => (entry.1, change entry.1 entry.2)
  sorted := List.pairwise_map.2 map.sorted

/-- The same keys with other values; fails at the first that cannot be changed. -/
def changeEntries {ω ε : Type} (change : κ → ν → Except ε ω) :
    List (κ × ν) → Except ε (List (κ × ω))
  | [] => .ok []
  | (key, value) :: rest => do
    let value ← change key value
    let rest ← changeEntries change rest
    return (key, value) :: rest

omit [LT κ] in
theorem keys_changeEntries {ω ε : Type} {change : κ → ν → Except ε ω} {entries : List (κ × ν)}
    {changed : List (κ × ω)} (done : changeEntries change entries = .ok changed) :
    changed.map (·.1) = entries.map (·.1) := by
  induction entries generalizing changed with
  | nil => simp only [changeEntries, Except.ok.injEq] at done; simp [← done]
  | cons entry rest ih =>
    simp only [changeEntries, bind, Except.bind, pure, Except.pure] at done
    split at done
    · contradiction
    · split at done
      · contradiction
      · next later =>
        simp only [Except.ok.injEq] at done
        simp [← done, ih later]

/-- The same keys with other values; fails if one cannot be changed. -/
def changeValues {ω ε : Type} (change : κ → ν → Except ε ω) (map : SortedMap κ ν) :
    Except ε (SortedMap κ ω) :=
  match done : changeEntries change map.entries with
  | .error fault => .error fault
  | .ok entries =>
    .ok ⟨entries, by
      have keys := List.pairwise_map (f := (·.1)) (R := (· < ·)) (l := entries)
      rw [keys_changeEntries done] at keys
      exact keys.1 (List.pairwise_map.2 map.sorted)⟩

/-- The values of the keys from `lower` to `upper`, both included. -/
def range [DecidableLT κ] (map : SortedMap κ ν) (lower upper : κ) : List ν :=
  (map.entries.filter fun entry => !(entry.1 < lower) && !(upper < entry.1)).map (·.2)

variable [DecidableEq κ]

def find? (map : SortedMap κ ν) (key : κ) : Option ν :=
  (map.entries.find? fun entry => entry.1 = key).map (·.2)

def contains (map : SortedMap κ ν) (key : κ) : Bool :=
  (map.find? key).isSome

def erase (map : SortedMap κ ν) (key : κ) : SortedMap κ ν :=
  map.filter fun other _ => other ≠ key

omit [DecidableEq κ]

variable [LE κ] [DecidableLT κ] [Std.LawfulOrderLT κ] [Std.IsLinearOrder κ]

omit [LE κ] [Std.LawfulOrderLT κ] [Std.IsLinearOrder κ] in
theorem mem_of_mem_insertEntry {key : κ} {value : ν} {entry : κ × ν}
    {entries : List (κ × ν)} (member : entry ∈ insertEntry key value entries) :
    entry = (key, value) ∨ entry ∈ entries := by
  induction entries with
  | nil => simpa [insertEntry] using member
  | cons head rest ih =>
    unfold insertEntry at member
    split at member
    · simpa using member
    · split at member
      · rcases List.mem_cons.1 member with rfl | member
        · exact .inr (List.mem_cons_self ..)
        · rcases ih member with rfl | member
          · exact .inl rfl
          · exact .inr (List.mem_cons_of_mem _ member)
      · rcases List.mem_cons.1 member with rfl | member
        · exact .inl rfl
        · exact .inr (List.mem_cons_of_mem _ member)

theorem sorted_insertEntry (key : κ) (value : ν) {entries : List (κ × ν)}
    (sorted : entries.Pairwise fun left right => left.1 < right.1) :
    (insertEntry key value entries).Pairwise fun left right => left.1 < right.1 := by
  induction entries with
  | nil => simp [insertEntry]
  | cons head rest ih =>
    obtain ⟨above, sorted⟩ := List.pairwise_cons.1 sorted
    unfold insertEntry
    split
    case isTrue less =>
      refine List.pairwise_cons.2 ⟨fun entry member => ?_, List.pairwise_cons.2 ⟨above, sorted⟩⟩
      rcases List.mem_cons.1 member with rfl | member
      · exact less
      · exact Std.lt_trans less (above entry member)
    case isFalse notLess =>
      split
      case isTrue greater =>
        refine List.pairwise_cons.2 ⟨fun entry member => ?_, ih sorted⟩
        rcases mem_of_mem_insertEntry member with rfl | member
        · exact greater
        · exact above entry member
      case isFalse notGreater =>
        have same : key = head.1 :=
          Std.le_antisymm (Std.not_lt.1 notGreater) (Std.not_lt.1 notLess)
        subst same
        exact List.pairwise_cons.2 ⟨above, sorted⟩

def insert (map : SortedMap κ ν) (key : κ) (value : ν) : SortedMap κ ν :=
  ⟨insertEntry key value map.entries, sorted_insertEntry key value map.sorted⟩

/-- The map of a list of entries; of several with one key the last counts. -/
def ofList (entries : List (κ × ν)) : SortedMap κ ν :=
  entries.foldl (fun map entry => map.insert entry.1 entry.2) empty

def hasStem (stem text : String) : Bool :=
  stem.toList.isPrefixOf text.toList

/-- The entries before the keys with a stem, those keys' own, and the others. The
keys with a stem are neighbours and begin at the stem itself. -/
def splitStem {ν : Type} (stem : String) (entries : List (String × ν)) :
    List (String × ν) × List (String × ν) × List (String × ν) :=
  let rest := entries.dropWhile fun entry => entry.1 < stem
  (entries.takeWhile fun entry => entry.1 < stem,
    rest.takeWhile fun entry => hasStem stem entry.1,
    rest.dropWhile fun entry => hasStem stem entry.1)

theorem sublist_splitStem {ν : Type} (stem : String) (entries : List (String × ν)) :
    ((splitStem stem entries).1 ++ (splitStem stem entries).2.2).Sublist entries := by
  conv =>
    rhs
    rw [← List.takeWhile_append_dropWhile (p := fun entry => entry.1 < stem) (l := entries)]
  exact (List.Sublist.refl _).append (List.dropWhile_sublist _)

def eraseStem {ν : Type} (map : SortedMap String ν) (stem : String) : SortedMap String ν where
  entries := (splitStem stem map.entries).1 ++ (splitStem stem map.entries).2.2
  sorted := map.sorted.sublist (sublist_splitStem stem map.entries)

/-- The map without the keys that begin with a stem, and how many they were. -/
def removeStem {ν : Type} (map : SortedMap String ν) (stem : String) :
    SortedMap String ν × Nat :=
  (map.eraseStem stem, (splitStem stem map.entries).2.1.length)

end SortedMap

end ShardedView
