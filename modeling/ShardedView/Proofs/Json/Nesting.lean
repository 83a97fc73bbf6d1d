import ShardedView.Proofs.Json.Reader

/-!
How deep a value nests, and that a printed value is read alike under every limit that does
not cut it off. A limit that cuts it off leaves nothing to be read.
-/

namespace ShardedView.Json

/-- A value that opens at most `depth` levels of lists and objects. -/
inductive Nests : (depth : Nat) → Json → Prop
  | null {depth : Nat} : Nests depth .null
  | bool {depth : Nat} (value : Bool) : Nests depth (.bool value)
  | int {depth : Nat} (value : Int) : Nests depth (.int value)
  | float {depth : Nat} (value : Finite64) : Nests depth (.float value)
  | str {depth : Nat} (text : String) : Nests depth (.str text)
  | arr {depth : Nat} {items : List Json} (nests : ∀ item ∈ items, Nests depth item) :
    Nests (depth + 1) (.arr items)
  | obj {depth : Nat} {members : List (String × Json)}
    (nests : ∀ member ∈ members, Nests depth member.2) : Nests (depth + 1) (.obj members)

theorem Nests.mono {depth greater : Nat} {json : Json} (nests : json.Nests depth)
    (le : depth ≤ greater) : json.Nests greater := by
  induction nests generalizing greater with
  | null => exact .null
  | bool value => exact .bool value
  | int value => exact .int value
  | float value => exact .float value
  | str text => exact .str text
  | arr nests ih =>
    obtain ⟨greater, rfl⟩ := Nat.exists_eq_succ_of_ne_zero (show greater ≠ 0 by omega)
    exact .arr fun item member => ih item member (by omega)
  | obj nests ih =>
    obtain ⟨greater, rfl⟩ := Nat.exists_eq_succ_of_ne_zero (show greater ≠ 0 by omega)
    exact .obj fun entry member => ih entry member (by omega)

/-! ### Documents of lists and objects, item by item -/

section Parts

variable {depth limit : Nat}

theorem jsonItems?_trees_cons {item : Json} {rest values : List Json} :
    Document.jsonItems? depth (trees (item :: rest)) = some values ↔
      ∃ value, item.tree.json? depth = some value ∧
        ∃ others, Document.jsonItems? depth (trees rest) = some others ∧
          value :: others = values := by
  simp [trees, Document.jsonItems?, Option.bind_eq_some_iff]

theorem jsonMembers?_treeMembers_cons {name : String} {json : Json}
    {rest values : List (String × Json)} :
    Document.jsonMembers? depth (treeMembers ((name, json) :: rest)) = some values ↔
      ∃ value, json.tree.json? depth = some value ∧
        ∃ others, Document.jsonMembers? depth (treeMembers rest) = some others ∧
          (name, value) :: others = values := by
  simp only [treeMembers, treeMember, Document.jsonMembers?, Document.jsonMember?, textOf?_pieces]
  cases json.tree.json? depth <;> simp [Option.bind_eq_some_iff]

theorem names_of_jsonMembers? {members values : List (String × Json)}
    (read : Document.jsonMembers? depth (treeMembers members) = some values) :
    values.map (·.1) = members.map (·.1) := by
  induction members generalizing values with
  | nil =>
    obtain rfl : [] = values := Option.some.inj read
    rfl
  | cons member rest ih =>
    obtain ⟨value, -, others, later, rfl⟩ := jsonMembers?_treeMembers_cons.1 read
    simp [ih later]

theorem jsonItems?_of_each {items values : List Json}
    (read : Document.jsonItems? depth (trees items) = some values)
    (each : ∀ item ∈ items, ∀ value ∈ values, item.tree.json? depth = some value →
      item.tree.json? limit = some value) :
    Document.jsonItems? limit (trees items) = some values := by
  induction items generalizing values with
  | nil => exact read
  | cons item rest ih =>
    obtain ⟨value, own, others, later, rfl⟩ := jsonItems?_trees_cons.1 read
    apply jsonItems?_trees_cons.2
    refine ⟨value, each item (.head _) value (.head _) own, others, ?_, rfl⟩
    exact ih later fun item listed value found => each item (.tail _ listed) value (.tail _ found)

theorem jsonMembers?_of_each {members values : List (String × Json)}
    (read : Document.jsonMembers? depth (treeMembers members) = some values)
    (each : ∀ member ∈ members, ∀ entry ∈ values, member.2.tree.json? depth = some entry.2 →
      member.2.tree.json? limit = some entry.2) :
    Document.jsonMembers? limit (treeMembers members) = some values := by
  induction members generalizing values with
  | nil => exact read
  | cons member rest ih =>
    obtain ⟨value, own, others, later, rfl⟩ := jsonMembers?_treeMembers_cons.1 read
    apply jsonMembers?_treeMembers_cons.2
    refine ⟨value, each member (.head _) _ (.head _) own, others, ?_, rfl⟩
    exact ih later fun member listed entry found =>
      each member (.tail _ listed) entry (.tail _ found)

end Parts

/-- What is read of a value under some limit is read under every limit that it stays within. -/
theorem json?_tree_of_nests {json : Json} (canonical : json.IsCanonical) {depth limit : Nat}
    {value : Json} (read : json.tree.json? depth = some value) (nests : value.Nests limit) :
    json.tree.json? limit = some value := by
  induction canonical generalizing depth limit value with
  | null => simpa only [tree, Document.json?] using read
  | bool value => simpa only [tree, Document.json?] using read
  | int least greatest => simpa only [tree, Document.json?] using read
  | float value => simpa only [tree, Document.json?] using read
  | str text => simpa only [tree, Document.json?] using read
  | arr canonical ih =>
    cases depth with
    | zero => simp [tree, Document.json?] at read
    | succ depth =>
      simp only [tree, Document.json?, Option.map_eq_some_iff] at read
      obtain ⟨values, read, rfl⟩ := read
      cases nests with
      | arr nests =>
        simp only [tree, Document.json?, Option.map_eq_some_iff]
        refine ⟨values, jsonItems?_of_each read ?_, rfl⟩
        exact fun item listed value found own => ih item listed own (nests value found)
  | obj sorted canonical ih =>
    cases depth with
    | zero => simp [tree, Document.json?] at read
    | succ depth =>
      simp only [tree, Document.json?, Option.map_eq_some_iff] at read
      obtain ⟨values, read, rfl⟩ := read
      have order : values.Pairwise fun left right => left.1 < right.1 := by
        have names := names_of_jsonMembers? read
        have ascending := List.pairwise_map.2 sorted
        rw [← names] at ascending
        exact List.pairwise_map.1 ascending
      rw [ofMembers_of_sorted order] at nests
      cases nests with
      | obj nests =>
        simp only [tree, Document.json?, Option.map_eq_some_iff]
        refine ⟨values, jsonMembers?_of_each read ?_, rfl⟩
        exact fun member listed entry found own => ih member listed own (nests entry found)

/-! ### What is read nests no deeper than the limit -/

namespace Numeral

theorem nests_of_signed? {depth : Nat} {negative : Bool} {magnitude : Binary64} {json : Json}
    (read : signed? negative magnitude = some json) : json.Nests depth := by
  obtain ⟨number, -, rfl⟩ := Option.map_eq_some_iff.1 read
  exact .float number

theorem nests_of_integer? {depth : Nat} {negative : Bool} {significand : Nat} {json : Json}
    (read : integer? negative significand = some json) : json.Nests depth := by
  unfold integer? at read
  split at read
  · split at read
    · exact nests_of_signed? read
    · exact Option.some.inj read ▸ .int _
  · exact Option.some.inj read ▸ .int _

theorem nests_of_json? {depth : Nat} {numeral : Numeral} {json : Json}
    (read : numeral.json? = some json) : json.Nests depth := by
  unfold json? at read
  simp only at read
  split at read
  · exact nests_of_integer? read
  · obtain ⟨magnitude, -, signed⟩ := Option.bind_eq_some_iff.1 read
    exact nests_of_signed? signed
  · obtain ⟨magnitude, -, signed⟩ := Option.bind_eq_some_iff.1 read
    exact nests_of_signed? signed

end Numeral

theorem Nests.passesUp : PassesUp fun depth json => json.Nests depth where
  null := .null
  bool := .bool
  number := Numeral.nests_of_json?
  str := .str
  arr := .arr
  obj _ := .obj

theorem nests_of_json? {depth : Nat} {document : Document} {json : Json}
    (read : document.json? depth = some json) : json.Nests depth :=
  Nests.passesUp.of_json? read

/-! ### Values without floating-point numbers -/

/-- A value without floating-point numbers, however deep they would be. -/
inductive IsFloatless : Json → Prop
  | null : IsFloatless .null
  | bool (value : Bool) : IsFloatless (.bool value)
  | int (value : Int) : IsFloatless (.int value)
  | str (text : String) : IsFloatless (.str text)
  | arr {items : List Json} (floatless : ∀ item ∈ items, IsFloatless item) :
    IsFloatless (.arr items)
  | obj {members : List (String × Json)}
    (floatless : ∀ member ∈ members, IsFloatless member.2) : IsFloatless (.obj members)

theorem Nests.isPlain {depth : Nat} {json : Json} (nests : json.Nests depth)
    (floatless : json.IsFloatless) : json.IsPlain depth := by
  induction nests with
  | null => exact .null
  | bool value => exact .bool value
  | int value => exact .int value
  | float value => cases floatless
  | str text => exact .str text
  | arr nests ih =>
    cases floatless with
    | arr floatless => exact .arr fun item member => ih item member (floatless item member)
  | obj nests ih =>
    cases floatless with
    | obj floatless => exact .obj fun member found => ih member found (floatless member found)

theorem IsPlain.nests {depth : Nat} {json : Json} (plain : json.IsPlain depth) :
    json.Nests depth := by
  induction plain with
  | null => exact .null
  | bool value => exact .bool value
  | int value => exact .int value
  | str text => exact .str text
  | arr plain ih => exact .arr ih
  | obj plain ih => exact .obj ih

theorem IsPlain.isFloatless {depth : Nat} {json : Json} (plain : json.IsPlain depth) :
    json.IsFloatless := by
  induction plain with
  | null => exact .null
  | bool value => exact .bool value
  | int value => exact .int value
  | str text => exact .str text
  | arr plain ih => exact .arr ih
  | obj plain ih => exact .obj ih

/-- A plain value that is printed is read under exactly the limits that it stays within. -/
theorem json?_tree_eq_some_iff {json : Json} {depth : Nat} (plain : json.IsPlain depth)
    (canonical : json.IsCanonical) {limit : Nat} {value : Json} :
    json.tree.json? limit = some value ↔ json.Nests limit ∧ value = json := by
  constructor
  · intro read
    have nests := nests_of_json? read
    have deep := json?_tree_of_nests canonical read (nests.mono (Nat.le_max_left limit depth))
    have whole := json?_tree (plain.mono (Nat.le_max_right limit depth)) canonical
    obtain rfl : json = value := Option.some.inj (whole.symm.trans deep)
    exact ⟨nests, rfl⟩
  · rintro ⟨nests, rfl⟩
    exact json?_tree (nests.isPlain plain.isFloatless) canonical

theorem jsonItems?_trees_eq_some_iff {items : List Json} {depth : Nat}
    (plain : ∀ item ∈ items, item.IsPlain depth) (canonical : ∀ item ∈ items, item.IsCanonical)
    {limit : Nat} {values : List Json} :
    Document.jsonItems? limit (trees items) = some values ↔
      (∀ item ∈ items, item.Nests limit) ∧ values = items := by
  constructor
  · intro read
    induction items generalizing values with
    | nil => exact ⟨nofun, (Option.some.inj read).symm⟩
    | cons item rest ih =>
      obtain ⟨value, own, others, later, rfl⟩ := jsonItems?_trees_cons.1 read
      obtain ⟨nests, rfl⟩ :=
        (json?_tree_eq_some_iff (plain item (.head _)) (canonical item (.head _))).1 own
      obtain ⟨each, rfl⟩ := ih (fun item listed => plain item (.tail _ listed))
        (fun item listed => canonical item (.tail _ listed)) later
      exact ⟨List.forall_mem_cons.2 ⟨nests, each⟩, rfl⟩
  · rintro ⟨nests, rfl⟩
    apply jsonItems?_trees
    intro item listed
    exact (json?_tree_eq_some_iff (plain item listed) (canonical item listed)).2
      ⟨nests item listed, rfl⟩

end ShardedView.Json
