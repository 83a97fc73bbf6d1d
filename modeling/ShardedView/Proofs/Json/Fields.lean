import Mathlib.Data.List.Nodup
import ShardedView.Json.Reader
import ShardedView.Proofs.Grouping

/-!
What a record with known fields is: an object that has each of them at most once, among members
that may be anything as long as their names can be read, or a list of the first few.
-/

namespace ShardedView.Json.Document

def named? (member : List Piece × Document) : Option (String × Document) :=
  (textOf? member.1).map fun name => (String.ofList name, member.2)

inductive HasFields (names : List String) : List (Option Document) → Document → Prop
  | object {members : List (List Piece × Document)} {named : List (String × Document)}
      {field : String → Option Document} (read : members.map named? = named.map some)
      (each : ∀ name ∈ names, (named.filter (·.1 = name)).map (·.2) = (field name).toList) :
      HasFields names (names.map field) (.object members)
  | list {items : List Document} {missing : Nat} (few : items.length + missing = names.length) :
      HasFields names (items.map some ++ List.replicate missing none) (.list items)

section

variable {names : List String} {named : List (String × Document)}

theorem nodup_filter_iff :
    ((named.filter (·.1 ∈ names)).map (·.1)).Nodup ↔
      ∀ name ∈ names, (named.filter (·.1 = name)).length ≤ 1 := by
  have count : ∀ name, ((named.filter (·.1 ∈ names)).map (·.1)).count name =
      if name ∈ names then (named.filter (·.1 = name)).length else 0 := by
    intro name
    rw [List.count_eq_countP, List.countP_map, List.countP_filter, ← List.countP_eq_length_filter]
    split
    · next known =>
      refine List.countP_congr fun field _ => ?_
      simp only [Function.comp_apply, Bool.and_eq_true, beq_iff_eq, decide_eq_true_eq]
      exact ⟨And.left, fun own => ⟨own, own ▸ known⟩⟩
    · next unknown =>
      refine List.countP_eq_zero.2 fun field _ both => ?_
      simp only [Function.comp_apply, Bool.and_eq_true, beq_iff_eq, decide_eq_true_eq] at both
      exact unknown (both.1 ▸ both.2)
  simp only [List.nodup_iff_count_le_one, count]
  constructor
  · intro once name known
    simpa [known] using once name
  · intro once name
    split
    · next known => exact once name known
    · exact Nat.zero_le 1

/-- The fields among members: those whose names are known, if none of them appears twice. -/
theorem namedFields?_eq_some_iff {members : List (List Piece × Document)}
    {fields : List (String × Document)} :
    namedFields? names members = some fields ↔
      ∃ named : List (String × Document), members.map named? = named.map some ∧
        fields = named.filter (·.1 ∈ names) ∧ (fields.map (·.1)).Nodup := by
  induction members generalizing fields with
  | nil =>
    constructor
    · rintro ⟨⟩
      exact ⟨[], rfl, rfl, List.nodup_nil⟩
    · rintro ⟨named, read, rfl, -⟩
      obtain rfl := List.map_eq_nil_iff.1 read.symm
      rfl
  | cons member rest ih =>
    obtain ⟨name, value⟩ := member
    rw [namedFields?]
    cases text : textOf? name with
    | none =>
      refine ⟨nofun, ?_⟩
      rintro ⟨named, read, -⟩
      cases named <;> simp [named?, text] at read
    | some chars =>
      have own : named? (name, value) = some (String.ofList chars, value) := by
        rw [named?, text]
        rfl
      constructor
      · intro told
        obtain ⟨_, ⟨⟩, told⟩ := Option.bind_eq_some_iff.1 told
        obtain ⟨fields, later, told⟩ := Option.bind_eq_some_iff.1 told
        obtain ⟨named, all, rfl, distinct⟩ := ih.1 later
        refine ⟨(String.ofList chars, value) :: named, by rw [List.map_cons, own, all]; rfl, ?_⟩
        split at told
        · next unknown =>
          cases told
          exact ⟨(List.filter_cons_of_neg (by simpa using unknown)).symm, distinct⟩
        · next known =>
          split at told
          · contradiction
          · next fresh =>
            cases told
            refine ⟨(List.filter_cons_of_pos (by simpa using known)).symm, ?_⟩
            refine List.nodup_cons.2 ⟨fun again => fresh ?_, distinct⟩
            simpa using again
      · rintro ⟨named, all, rfl, distinct⟩
        cases named with
        | nil => contradiction
        | cons first named =>
          rw [List.map_cons, List.map_cons, own, List.cons.injEq, Option.some.injEq] at all
          obtain ⟨rfl, all⟩ := all
          by_cases known : String.ofList chars ∈ names
          · rw [List.filter_cons_of_pos (by simpa using known)] at distinct ⊢
            obtain ⟨fresh, distinct⟩ := List.nodup_cons.1 distinct
            have fresh : ¬ (named.filter (·.1 ∈ names)).any (·.1 = String.ofList chars) = true := by
              simpa using fresh
            simp only [Option.bind_eq_bind, Option.bind_some, ih.2 ⟨named, all, rfl, distinct⟩,
              known, if_neg fresh]
            rfl
          · rw [List.filter_cons_of_neg (by simpa using known)] at distinct ⊢
            simp only [Option.bind_eq_bind, Option.bind_some, ih.2 ⟨named, all, rfl, distinct⟩,
              known, not_false_eq_true, if_true]
            rfl

theorem toList_head? {α : Type} {list : List α} (once : list.length ≤ 1) :
    list.head?.toList = list := by
  match list, once with
  | [], _ => rfl
  | [_], _ => rfl

theorem find?_filter_known {name : String} (known : name ∈ names) :
    (named.filter (·.1 ∈ names)).find? (·.1 = name) = (named.filter (·.1 = name)).head? := by
  rw [List.find?_filter, List.head?_filter]
  congr 1
  funext field
  by_cases own : field.1 = name
  · simp [own, known]
  · simp [own]

/-- The fields of a record are read from such records only, and from all of them. -/
theorem fields?_eq_some_iff {document : Document} {fields : List (Option Document)} :
    document.fields? names = some fields ↔ HasFields names fields document := by
  constructor
  · intro read
    unfold fields? at read
    split at read
    · next members =>
      obtain ⟨known, told, ended⟩ := Option.bind_eq_some_iff.1 read
      cases ended
      obtain ⟨named, all, rfl, distinct⟩ := namedFields?_eq_some_iff.1 told
      refine .object all fun name listed => ?_
      have once := nodup_filter_iff.1 distinct name listed
      rw [find?_filter_known listed, Option.toList_map, toList_head? once]
    · next items =>
      split at read
      · cases read
        exact .list (by omega)
      · contradiction
    · contradiction
  · rintro (⟨all, each⟩ | ⟨few⟩)
    · next members named field =>
      have distinct : ((named.filter (·.1 ∈ names)).map (·.1)).Nodup := by
        refine nodup_filter_iff.2 fun name listed => ?_
        rw [← List.length_map (·.2), each name listed]
        exact Option.length_toList_le
      rw [fields?, namedFields?_eq_some_iff.2 ⟨named, all, rfl, distinct⟩]
      refine congrArg some (List.map_congr_left fun name listed => ?_)
      rw [find?_filter_known listed, ← List.head?_map, each name listed, Option.head?_toList]
    · next items missing =>
      rw [fields?, if_pos (by omega), ← few, Nat.add_sub_cancel_left]

end

end ShardedView.Json.Document
