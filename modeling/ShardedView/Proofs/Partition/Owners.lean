import ShardedView.Proofs.Partition.Sets

/-!
The ring of members and the owners that follow from it: only the ids and the hosts of
the members count, not the order in which they are listed.
-/

namespace ShardedView

namespace Layout

/-! ### The number of owners -/

theorem copies_pos {layout : Layout} (copied : layout.copies ≠ 0) : 0 < layout.copies.toNat :=
  Nat.pos_of_ne_zero fun zero => copied (UInt64.toNat_inj.1 zero)

/-- There are to be no copies only if the number of standbys is the greatest machine word. -/
theorem copies_eq_zero_iff {layout : Layout} :
    layout.copies = 0 ↔ layout.standbys.toNat + 1 = UInt64.size := by
  have word := layout.standbys.toNat_lt_size
  rw [UInt64.size] at word ⊢
  rw [← UInt64.toNat_inj, copies, UInt64.toNat_add, UInt64.toNat_one, UInt64.toNat_zero]
  omega

theorem toNat_copies {layout : Layout} (copied : layout.copies ≠ 0) :
    layout.copies.toNat = 1 + layout.standbys.toNat := by
  have word := layout.standbys.toNat_lt_size
  rw [ne_eq, copies_eq_zero_iff, UInt64.size] at copied
  rw [copies, UInt64.toNat_add, UInt64.toNat_one]
  exact Nat.mod_eq_of_lt (by rw [UInt64.size] at word; omega)

/-! ### The ring -/

theorem find?_ring (members : List Member) (id : String) :
    (ring members).find? id = members.find? fun member => member.id = id := by
  induction members with
  | nil => rfl
  | cons member rest ih =>
    have unfolded : ring (member :: rest) = (ring rest).insert member.id member := rfl
    rw [unfolded, SortedMap.find?_insert, ih, List.find?_cons]
    by_cases same : member.id = id
    · simp only [same, if_true, decide_true]
    · simp only [same, Ne.symm same, if_false, decide_false]

theorem mem_of_mem_ring {members : List Member} {member : Member}
    (listed : member ∈ (ring members).values) : member ∈ members := by
  obtain ⟨⟨id, _⟩, entry, rfl⟩ := List.mem_map.1 listed
  have found := SortedMap.find?_eq_some_iff.2 entry
  rw [find?_ring] at found
  exact List.mem_of_find?_eq_some found

/-- Two lists of members with the same ids under the same hosts. -/
structure SameMembers (left right : List Member) : Prop where
  leftIn : ∀ member ∈ left, ∃ twin ∈ right, twin.id = member.id
  rightIn : ∀ member ∈ right, ∃ twin ∈ left, twin.id = member.id
  hosts : ∀ member ∈ left, ∀ twin ∈ right, twin.id = member.id → twin.host = member.host

/-- The same records, in any order and each any number of times, are the same members, as long as
no two different ones have an id in common. -/
theorem SameMembers.of_mem_iff {left right : List Member}
    (alike : ∀ member, member ∈ left ↔ member ∈ right)
    (single : ∀ member ∈ left, ∀ twin ∈ left, twin.id = member.id → twin = member) :
    SameMembers left right where
  leftIn member listed := ⟨member, (alike member).1 listed, rfl⟩
  rightIn member listed := ⟨member, (alike member).2 listed, rfl⟩
  hosts member listed twin among same :=
    congrArg Member.host (single member listed twin ((alike twin).2 among) same)

theorem SameMembers.map_ring {β : Type} {left right : List Member} (same : SameMembers left right)
    (read : Member → β)
    (agree : ∀ member ∈ left, ∀ twin ∈ right, twin.id = member.id → read twin = read member) :
    (ring left).values.map read = (ring right).values.map read := by
  have rings : (ring left).mapValues (fun _ => read) =
      (ring right).mapValues fun _ => read := by
    apply SortedMap.ext_find?
    intro id
    simp only [SortedMap.find?_mapValues, find?_ring]
    have absent : ∀ {members others : List Member},
        (∀ member ∈ members, ∃ twin ∈ others, twin.id = member.id) →
          others.find? (fun member => member.id = id) = none →
            members.find? (fun member => member.id = id) = none := by
      intro members others within missing
      rw [List.find?_eq_none] at missing ⊢
      intro member listed
      obtain ⟨twin, among, same⟩ := within member listed
      rw [← same]
      exact missing twin among
    cases found : left.find? fun member => member.id = id with
    | none => rw [absent same.rightIn found]
    | some member =>
      cases twin : right.find? fun member => member.id = id with
      | none =>
        rw [absent same.leftIn twin] at found
        contradiction
      | some other =>
        have own := List.find?_some found
        have others := List.find?_some twin
        rw [decide_eq_true_eq] at own others
        have alike := agree member (List.mem_of_find?_eq_some found) other
          (List.mem_of_find?_eq_some twin) (others.trans own.symm)
        simp only [Option.map_some, alike]
  have values : ∀ map : SortedMap String Member,
      map.values.map read = (map.mapValues fun _ => read).values := by
    intro map
    simp only [SortedMap.values, SortedMap.mapValues, List.map_map]
    rfl
  rw [values, values, rings]

theorem map_ownersIn {β : Type} (layout : Layout) {left right : List Member} {read : Member → β}
    (same : left.map read = right.map read) (partition : Nat) :
    (layout.ownersIn left partition).map read = (layout.ownersIn right partition).map read := by
  have length : left.length = right.length := by
    simpa using congrArg List.length same
  have place : ∀ index : Nat, left[index]?.map read = right[index]?.map read := by
    intro index
    rw [← List.getElem?_map, same, List.getElem?_map]
  simp only [ownersIn, List.map_filterMap, length, place]

theorem SameMembers.ownerTable_eq {left right : MemberView}
    (same : SameMembers left.alive right.alive) (layout : Layout) :
    layout.ownerTable left = layout.ownerTable right := by
  simp only [ownerTable, ownerTableOf, map_ownersIn layout (same.map_ring Member.host same.hosts)]

theorem SameMembers.assignment_eq {left right : MemberView}
    (same : SameMembers left.alive right.alive) (self : left.self.id = right.self.id)
    (layout : Layout) : layout.assignment left = layout.assignment right := by
  have rings := same.map_ring Member.id fun _ _ _ _ named => named
  have place : ∀ partition : Nat,
      (layout.ownersIn (ring left.alive).values partition).findIdx?
          (fun member => member.id = left.self.id) =
        (layout.ownersIn (ring right.alive).values partition).findIdx?
          fun member => member.id = right.self.id := by
    intro partition
    have ids := congrArg (List.findIdx? fun id => id = left.self.id)
      (map_ownersIn layout rings partition)
    rw [List.findIdx?_map, List.findIdx?_map] at ids
    exact self ▸ ids
  simp only [assignment, assignmentOf, place]

theorem find?_ownerTableOf (layout : Layout) (alive : Nat → List Member) (partition : Nat) :
    (layout.ownerTableOf alive).find? partition =
      if partition < layout.partitions then
        some ((layout.ownersIn (ring (alive partition)).values partition).map Member.host)
      else none := by
  have within := PartitionSet.contains_below layout.partitions (fun _ => true) partition
  rw [Bool.and_true, SortedMap.contains] at within
  rw [ownerTableOf, SortedMap.find?_mapValues]
  cases listed : (PartitionSet.below layout.partitions fun _ => true).find? partition with
  | none =>
    rw [listed] at within
    rw [if_neg (of_decide_eq_false within.symm)]
    rfl
  | some _ =>
    rw [listed] at within
    rw [if_pos (of_decide_eq_true within.symm)]
    rfl

theorem find?_ownerTable (layout : Layout) (view : MemberView) (partition : Nat) :
    (layout.ownerTable view).find? partition =
      if partition < layout.partitions then
        some ((layout.owners view partition).map Member.host)
      else none :=
  layout.find?_ownerTableOf (fun _ => view.alive) partition

theorem entries_ownerTable (layout : Layout) (view : MemberView) :
    (layout.ownerTable view).entries = (List.range layout.partitions).map fun partition =>
      (partition, (layout.owners view partition).map Member.host) := by
  have all : (List.range layout.partitions).filter (fun _ => true) =
      List.range layout.partitions := List.filter_eq_self.2 fun _ _ => rfl
  simp only [ownerTable, ownerTableOf, SortedMap.mapValues, PartitionSet.below, all, List.map_map]
  rfl

theorem mem_of_mem_ownersIn {layout : Layout} {members : List Member} {partition : Nat}
    {member : Member} (owner : member ∈ layout.ownersIn (ring members).values partition) :
    member ∈ members := by
  obtain ⟨distance, -, listed⟩ := List.mem_filterMap.1 owner
  exact mem_of_mem_ring (List.mem_of_getElem? listed)

theorem mem_of_mem_owners {layout : Layout} {view : MemberView} {partition : Nat}
    {member : Member} (owner : member ∈ layout.owners view partition) : member ∈ view.alive :=
  mem_of_mem_ownersIn owner

/-- There are members, and copies are to be made. -/
structure HasOwners (layout : Layout) (view : MemberView) : Prop where
  copied : layout.copies ≠ 0
  listed : view.alive ≠ []

theorem HasOwners.owners_ne_nil {layout : Layout} {view : MemberView}
    (owned : layout.HasOwners view) (partition : Nat) : layout.owners view partition ≠ [] := by
  obtain ⟨member, rest, alive⟩ := List.exists_cons_of_ne_nil owned.listed
  have found : (ring view.alive).find? member.id = some member := by
    rw [find?_ring, alive, List.find?_cons_of_pos (by simp)]
  have among : member ∈ (ring view.alive).values :=
    List.mem_map.2 ⟨_, SortedMap.find?_eq_some_iff.1 found, rfl⟩
  have filled : 0 < (ring view.alive).values.length := List.length_pos_of_mem among
  have first : (partition + 0) % (ring view.alive).values.length <
      (ring view.alive).values.length := Nat.mod_lt _ filled
  apply List.ne_nil_of_mem
  refine List.mem_filterMap.2 ⟨0, ?_, List.getElem?_eq_getElem first⟩
  exact List.mem_range.2 (Nat.lt_min.2 ⟨copies_pos owned.copied, filled⟩)

theorem owners_of_uncopied {layout : Layout} (uncopied : layout.copies = 0) (view : MemberView)
    (partition : Nat) : layout.owners view partition = [] := by
  rw [owners, ownersIn, uncopied, UInt64.toNat_zero, Nat.zero_min]
  rfl

theorem copies_of_owners {layout : Layout} {view : MemberView} {partition : Nat} {owner : Member}
    (owns : owner ∈ layout.owners view partition) : layout.copies ≠ 0 := by
  intro uncopied
  rw [owners_of_uncopied uncopied] at owns
  contradiction

theorem keys_active (layout : Layout) (view : MemberView) :
    (layout.assignment view).active.keys = (List.range layout.partitions).filter fun partition =>
      (layout.owners view partition).head?.any fun member => member.id = view.self.id := by
  have first : ∀ members : List Member,
      decide (members.findIdx? (fun member => member.id = view.self.id) = some 0) =
        members.head?.any fun member => member.id = view.self.id := by
    intro members
    cases members with
    | nil => rfl
    | cons member rest =>
      rw [List.findIdx?_cons, List.head?_cons, Option.any_some]
      split
      · next own => rw [own, decide_eq_true rfl]
      · next other =>
        rw [Bool.not_eq_true] at other
        rw [other]
        cases rest.findIdx? fun member => member.id = view.self.id <;> rfl
  simp only [SortedMap.keys, assignment, assignmentOf, PartitionSet.below, List.map_map]
  rw [show ((·.1) ∘ fun partition : Nat => (partition, ())) = id from rfl, List.map_id]
  exact List.filter_congr fun partition _ => first _

theorem head?_owners {layout : Layout} (copied : layout.copies ≠ 0) (view : MemberView)
    (partition : Nat) : (layout.owners view partition).head? =
      (ring view.alive).values[partition % (ring view.alive).values.length]? := by
  rw [owners, ownersIn]
  cases (ring view.alive).values with
  | nil => simp
  | cons member rest =>
    have within : partition % (member :: rest).length < (member :: rest).length :=
      Nat.mod_lt _ (Nat.succ_pos _)
    have count : min layout.copies.toNat (member :: rest).length =
        min layout.standbys.toNat rest.length + 1 := by
      rw [toNat_copies copied, List.length_cons]
      omega
    rw [count, List.range_succ_eq_map, List.filterMap_cons, Nat.add_zero,
      List.getElem?_eq_getElem within]
    rfl

/-- Who is listed has a place in the ring, and is active on all partitions of that place. -/
theorem exists_place {view : MemberView}
    (listed : ∃ member ∈ view.alive, member.id = view.self.id) :
    ∃ place, place < (ring view.alive).size ∧
      ∀ (layout : Layout) (partition : Nat), layout.copies ≠ 0 →
        partition < layout.partitions → partition % (ring view.alive).size = place →
          (layout.assignment view).active.contains partition = true := by
  have found : ∃ first, (ring view.alive).find? view.self.id = some first := by
    rw [← Option.isSome_iff_exists, find?_ring, List.find?_isSome]
    simpa using listed
  obtain ⟨first, found⟩ := found
  have own : first.id = view.self.id := by
    rw [find?_ring] at found
    simpa using List.find?_some found
  have among : first ∈ (ring view.alive).values :=
    List.mem_map.2 ⟨_, SortedMap.find?_eq_some_iff.1 found, rfl⟩
  obtain ⟨place, within, at_place⟩ := List.mem_iff_getElem.1 among
  have size : (ring view.alive).values.length = (ring view.alive).size := List.length_map ..
  refine ⟨place, size ▸ within, fun layout partition copied below same => ?_⟩
  rw [SortedMap.contains_eq_true_iff, keys_active, List.mem_filter, List.mem_range]
  refine ⟨below, ?_⟩
  rw [head?_owners copied, size, same, List.getElem?_eq_getElem within, at_place, Option.any_some,
    own, decide_eq_true rfl]

theorem contains_assignmentOf_iff (layout : Layout) (self : Member) (alive : Nat → List Member)
    (partition : Nat) :
    (layout.assignmentOf self alive).contains partition = true ↔
      partition < layout.partitions ∧
        ∃ member ∈ layout.ownersIn (ring (alive partition)).values partition,
          member.id = self.id := by
  have somewhere : ∀ place : Option Nat,
      (decide (place = some 0) || place.any (0 < ·)) = place.isSome := by
    intro place
    cases place with
    | none => rfl
    | some distance => cases distance <;> rfl
  rw [Assignment.contains, assignmentOf, PartitionSet.contains_below, PartitionSet.contains_below,
    ← Bool.and_or_distrib_left, somewhere, Bool.and_eq_true, decide_eq_true_eq]
  refine and_congr_right fun _ => ?_
  rw [List.findIdx?_isSome, List.any_eq_true]
  simp only [decide_eq_true_eq]

theorem contains_assignment_iff (layout : Layout) (view : MemberView) (partition : Nat) :
    (layout.assignment view).contains partition = true ↔
      partition < layout.partitions ∧
        ∃ member ∈ layout.owners view partition, member.id = view.self.id :=
  layout.contains_assignmentOf_iff view.self (fun _ => view.alive) partition

end Layout

end ShardedView
