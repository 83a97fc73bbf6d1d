import ShardedView.Json.Printer
import ShardedView.Json.Reader
import ShardedView.Proofs.Text.Digits

/-!
Values without floating-point numbers are read back from their documents.
-/

namespace ShardedView

namespace Json

/-- A value without floating-point numbers that opens at most `depth` levels of lists
and objects. -/
inductive IsPlain : (depth : Nat) → Json → Prop
  | null {depth : Nat} : IsPlain depth .null
  | bool {depth : Nat} (value : Bool) : IsPlain depth (.bool value)
  | int {depth : Nat} (value : Int) : IsPlain depth (.int value)
  | str {depth : Nat} (text : String) : IsPlain depth (.str text)
  | arr {depth : Nat} {items : List Json} (plain : ∀ item ∈ items, IsPlain depth item) :
    IsPlain (depth + 1) (.arr items)
  | obj {depth : Nat} {members : List (String × Json)}
    (plain : ∀ member ∈ members, IsPlain depth member.2) : IsPlain (depth + 1) (.obj members)

/-- A value as reading gives it: integers within range, and objects in the order of
their names. -/
inductive IsCanonical : Json → Prop
  | null : IsCanonical .null
  | bool (value : Bool) : IsCanonical (.bool value)
  | int {value : Int} (least : leastInteger ≤ value) (greatest : value ≤ greatestInteger) :
    IsCanonical (.int value)
  | float (value : Finite64) : IsCanonical (.float value)
  | str (text : String) : IsCanonical (.str text)
  | arr {items : List Json} (canonical : ∀ item ∈ items, IsCanonical item) :
    IsCanonical (.arr items)
  | obj {members : List (String × Json)}
    (sorted : members.Pairwise fun left right => left.1 < right.1)
    (canonical : ∀ member ∈ members, IsCanonical member.2) : IsCanonical (.obj members)

theorem IsPlain.mono {depth greater : Nat} {json : Json} (plain : json.IsPlain depth)
    (le : depth ≤ greater) : json.IsPlain greater := by
  induction plain generalizing greater with
  | null => exact .null
  | bool value => exact .bool value
  | int value => exact .int value
  | str text => exact .str text
  | arr plain ih =>
    obtain ⟨greater, rfl⟩ := Nat.exists_eq_succ_of_ne_zero (show greater ≠ 0 by omega)
    exact .arr fun item member => ih item member (by omega)
  | obj plain ih =>
    obtain ⟨greater, rfl⟩ := Nat.exists_eq_succ_of_ne_zero (show greater ≠ 0 by omega)
    exact .obj fun entry member => ih entry member (by omega)

/-! ### Objects -/

theorem insertEntry_eq_append {entries : List (String × Json)} {name : String} {value : Json}
    (below : ∀ entry ∈ entries, entry.1 < name) :
    insertEntry name value entries = entries ++ [(name, value)] := by
  induction entries with
  | nil => rfl
  | cons head rest ih =>
    have less := below head (.head _)
    rw [insertEntry, if_neg fun greater => Std.lt_irrefl (Std.lt_trans less greater), if_pos less,
      ih fun entry member => below entry (.tail _ member), List.cons_append]

theorem ofMembers_of_sorted {members : List (String × Json)}
    (sorted : members.Pairwise fun left right => left.1 < right.1) :
    ofMembers members = .obj members := by
  have folded : ∀ before : List (String × Json),
      (before ++ members).Pairwise (fun left right => left.1 < right.1) →
        members.foldl (fun sorted entry => insertEntry entry.1 entry.2 sorted) before =
          before ++ members := by
    clear sorted
    induction members with
    | nil => simp
    | cons head rest ih =>
      intro before sorted
      have below := (List.pairwise_append.1 sorted).2.2
      rw [List.append_cons] at sorted
      rw [List.foldl_cons, insertEntry_eq_append fun entry member => below entry member _ (.head _),
        ih _ sorted, ← List.append_cons]
  rw [ofMembers, folded [] sorted, List.nil_append]

theorem sorted_ofMembers (members : List (String × Json)) :
    ∃ sorted : List (String × Json), ofMembers members = .obj sorted ∧
      sorted.Pairwise (fun left right => left.1 < right.1) ∧
      ∀ entry ∈ sorted, entry ∈ members := by
  have folded : ∀ before : List (String × Json),
      before.Pairwise (fun left right => left.1 < right.1) →
        (members.foldl (fun sorted entry => insertEntry entry.1 entry.2 sorted) before).Pairwise
            (fun left right => left.1 < right.1) ∧
          ∀ entry ∈ members.foldl (fun sorted entry => insertEntry entry.1 entry.2 sorted) before,
            entry ∈ before ∨ entry ∈ members := by
    induction members with
    | nil => exact fun before sorted => ⟨sorted, fun entry member => .inl member⟩
    | cons head rest ih =>
      intro before sorted
      obtain ⟨after, members⟩ :=
        ih _ (SortedMap.sorted_insertEntry head.1 head.2 sorted)
      refine ⟨after, fun entry member => ?_⟩
      rcases members entry member with inserted | later
      · rcases SortedMap.mem_of_mem_insertEntry inserted with rfl | earlier
        · exact .inr (.head _)
        · exact .inl earlier
      · exact .inr (.tail _ later)
  obtain ⟨sorted, members⟩ := folded [] .nil
  exact ⟨_, rfl, sorted, fun entry member => (members entry member).resolve_left nofun⟩

end Json

end ShardedView
