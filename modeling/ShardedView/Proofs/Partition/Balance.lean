import Mathlib.Data.Int.CardIntervalMod
import ShardedView.Proofs.Partition.Owners

/-!
How partitions are shared among members that work out their assignments for themselves: each
partition is active on one member and standby on the next ones in the ring, as many as there
are to be, and the members have about equally many.
-/

namespace ShardedView.Layout

theorem perm_ring {members : List Member} (distinct : (members.map Member.id).Nodup) :
    (ring members).values.Perm members := by
  have entries : (ring members).entries.Perm (members.map fun member => (member.id, member)) := by
    induction members with
    | nil => exact .refl _
    | cons member rest ih =>
      obtain ⟨foreign, distinct⟩ := List.nodup_cons.1 distinct
      have later := ih distinct
      refine (SortedMap.perm_insertEntry member fun listed => foreign ?_).trans (later.cons _)
      obtain ⟨entry, among, same⟩ := List.mem_map.1 listed
      obtain ⟨other, within, rfl⟩ := List.mem_map.1 (later.mem_iff.1 among)
      exact same ▸ List.mem_map_of_mem within
  refine (entries.map (·.2)).trans ?_
  rw [List.map_map]
  exact List.Perm.of_eq (List.map_id members)

theorem eq_of_id_get {ring : List Member} (distinct : (ring.map Member.id).Nodup)
    (left right : Fin ring.length) (same : (ring.get left).id = (ring.get right).id) :
    left = right := by
  have members := List.inj_on_of_nodup_map distinct (List.get_mem ..) (List.get_mem ..) same
  exact List.nodup_iff_injective_get.1 distinct.of_map members

theorem ownersIn_eq_map (layout : Layout) {ring : List Member} (filled : 0 < ring.length)
    (partition : Nat) :
    layout.ownersIn ring partition = (List.range (min layout.copies.toNat ring.length)).map
      fun distance => ring.get ⟨(partition + distance) % ring.length, Nat.mod_lt _ filled⟩ := by
  rw [ownersIn, ← List.filterMap_eq_map]
  refine congrFun (congrArg List.filterMap (funext fun distance => ?_)) _
  exact List.getElem?_eq_getElem (Nat.mod_lt _ filled)

theorem length_ownersIn (layout : Layout) {ring : List Member} (filled : 0 < ring.length)
    (partition : Nat) :
    (layout.ownersIn ring partition).length = min layout.copies.toNat ring.length := by
  rw [ownersIn_eq_map layout filled, List.length_map, List.length_range]

/-- No place of the ring comes up twice, as there are no more members of a partition than
places. -/
theorem nodup_ids_ownersIn (layout : Layout) {ring : List Member}
    (distinct : (ring.map Member.id).Nodup) (partition : Nat) :
    ((layout.ownersIn ring partition).map Member.id).Nodup := by
  rcases Nat.eq_zero_or_pos ring.length with empty | filled
  · rw [List.length_eq_zero_iff.1 empty, ownersIn]
    simp
  rw [ownersIn_eq_map layout filled, List.map_map]
  refine List.Nodup.map_on (fun left leftIn right rightIn same => ?_) List.nodup_range
  rw [List.mem_range] at leftIn rightIn
  have places := Fin.mk.inj
    (eq_of_id_get distinct ⟨_, Nat.mod_lt _ filled⟩ ⟨_, Nat.mod_lt _ filled⟩ same)
  exact Nat.ModEq.eq_of_lt_of_lt (Nat.ModEq.add_left_cancel' partition places)
    (by omega) (by omega)

/-- A member is a standby of a partition if it is one of its members, but not the first. -/
theorem contains_standby_iff (layout : Layout) (view : MemberView) {partition : Nat}
    (within : partition < layout.partitions) {active : Member} {standbys : List Member}
    (owners : layout.owners view partition = active :: standbys) :
    (layout.assignment view).standby.contains partition = true ↔
      active.id ≠ view.self.id ∧ ∃ standby ∈ standbys, standby.id = view.self.id := by
  have behind : ∀ place : Option Nat, (place.map (· + 1)).any (0 < ·) = place.isSome := by
    intro place
    cases place <;> rfl
  have placed : layout.ownersIn (ring view.alive).values partition = active :: standbys := owners
  rw [assignment, assignmentOf, PartitionSet.contains_below]
  dsimp only
  rw [placed, List.findIdx?_cons]
  by_cases own : active.id = view.self.id
  · simp [own]
  · simp [own, within, behind]

theorem contains_active_iff (layout : Layout) (view : MemberView) {partition : Nat}
    (within : partition < layout.partitions) :
    (layout.assignment view).active.contains partition = true ↔
      (layout.owners view partition).head?.any (fun member => member.id = view.self.id) := by
  rw [SortedMap.contains_eq_true_iff, keys_active, List.mem_filter, List.mem_range,
    and_iff_right within]

section Shared

variable {layout : Layout} {members : List Member}

/-- With distinct ids, each partition has an active member and as many standbys as there are
to be, if there are so many other members. -/
theorem exists_owners (copied : layout.copies ≠ 0) (listed : members ≠ [])
    (distinct : (members.map Member.id).Nodup) (partition : Nat) :
    ∃ active standbys, (∀ self, layout.owners ⟨self, members⟩ partition = active :: standbys) ∧
      standbys.length = min layout.standbys.toNat (members.length - 1) ∧
      ((active :: standbys).map Member.id).Nodup ∧
      ∀ owner ∈ active :: standbys, owner ∈ members := by
  have permuted := perm_ring distinct
  have filled : 0 < (ring members).values.length := by
    rw [permuted.length_eq]
    exact List.length_pos_of_ne_nil listed
  have length := layout.length_ownersIn filled partition
  rw [toNat_copies copied] at length
  have apart := layout.nodup_ids_ownersIn ((permuted.map Member.id).nodup_iff.2 distinct) partition
  cases owners : layout.ownersIn (ring members).values partition with
  | nil =>
    rw [owners, List.length_nil] at length
    omega
  | cons active standbys =>
    rw [owners] at length apart
    rw [permuted.length_eq, List.length_cons] at length
    refine ⟨active, standbys, fun _ => owners, by omega, apart, fun owner owns => ?_⟩
    rw [← owners] at owns
    obtain ⟨distance, -, found⟩ := List.mem_filterMap.1 owns
    exact permuted.mem_iff.1 (List.mem_of_getElem? found)

/-- A member comes first for the partitions that wrap around to its place in the ring. -/
theorem exists_ring_place (copied : layout.copies ≠ 0) (distinct : (members.map Member.id).Nodup)
    {self : Member} (member : self ∈ members) :
    ∃ place < members.length, ∀ partition,
      (layout.owners ⟨self, members⟩ partition).head?.any (fun owner => owner.id = self.id) =
        decide (partition % members.length = place) := by
  have permuted := perm_ring distinct
  obtain ⟨place, within, found⟩ := List.mem_iff_getElem.1 (permuted.mem_iff.2 member)
  rw [← permuted.length_eq]
  refine ⟨place, within, fun partition => ?_⟩
  have inside : partition % (ring members).values.length < (ring members).values.length :=
    Nat.mod_lt _ (Nat.zero_lt_of_lt within)
  rw [head?_owners copied, List.getElem?_eq_getElem inside, Option.any_some, decide_eq_decide]
  constructor
  · intro same
    exact Fin.mk.inj (eq_of_id_get ((permuted.map Member.id).nodup_iff.2 distinct)
      ⟨_, inside⟩ ⟨place, within⟩ (same.trans (congrArg _ found.symm)))
  · rintro rfl
    exact congrArg _ found

/-- How many partitions are active on a member: its equal part of them, and one more at the
first places of the ring if there is a rest. -/
theorem exists_size_active (copied : layout.copies ≠ 0) (distinct : (members.map Member.id).Nodup)
    {self : Member} (member : self ∈ members) :
    ∃ place, (layout.assignment ⟨self, members⟩).active.size =
      layout.partitions / members.length +
        if place < layout.partitions % members.length then 1 else 0 := by
  obtain ⟨place, within, first⟩ := exists_ring_place copied distinct member
  have keys := layout.keys_active ⟨self, members⟩
  simp only [first] at keys
  refine ⟨place, ?_⟩
  calc (layout.assignment ⟨self, members⟩).active.size
      = ((List.range layout.partitions).filter fun partition =>
          partition % members.length = place).length := by
        rw [← keys, SortedMap.size]
        exact (List.length_map _).symm
    _ = layout.partitions.count (· ≡ place [MOD members.length]) := by
        rw [Nat.count_eq_card_filter_range]
        simp only [Nat.ModEq, Nat.mod_eq_of_lt within]
        rfl
    _ = _ := by
        rw [Nat.count_modEq_card _ (Nat.zero_lt_of_lt within), Nat.mod_eq_of_lt within]

theorem size_active_of_uncopied (uncopied : layout.copies = 0) (view : MemberView) :
    (layout.assignment view).active.size = 0 := by
  have keys := layout.keys_active view
  simp only [owners_of_uncopied uncopied, List.head?_nil, Option.any_none, List.filter_false]
    at keys
  rw [SortedMap.size, ← List.length_map (·.1)]
  exact List.length_eq_zero_iff.2 keys

/-- Members with distinct ids share the partitions out: each partition is active on one of
them, and standby on as many others as there are to be, all of them known by their hosts to
every member; and no member is active on two partitions more than another. But if one more
than the standbys is beyond a machine word, nobody holds anything. -/
theorem shared_out (layout : Layout) (listed : members ≠ [])
    (distinct : (members.map Member.id).Nodup) :
    (layout.standbys.toNat + 1 ≠ UInt64.size → ∀ partition < layout.partitions,
      ∃ active ∈ members, ∃ standbys : List Member,
        standbys.Nodup ∧ (∀ standby ∈ standbys, standby ∈ members) ∧ active ∉ standbys ∧
        standbys.length = min layout.standbys.toNat (members.length - 1) ∧
        (∀ member ∈ members,
          ((layout.assignment ⟨member, members⟩).active.contains partition = true ↔
            member = active) ∧
          ((layout.assignment ⟨member, members⟩).standby.contains partition = true ↔
            member ∈ standbys)) ∧
        ∀ member, (layout.ownerTable ⟨member, members⟩).find? partition =
          some (active.host :: standbys.map Member.host)) ∧
    (layout.standbys.toNat + 1 = UInt64.size → ∀ partition < layout.partitions, ∀ member,
      (layout.assignment ⟨member, members⟩).contains partition = false ∧
        (layout.ownerTable ⟨member, members⟩).find? partition = some []) ∧
    ∀ left ∈ members, ∀ right ∈ members,
      (layout.assignment ⟨left, members⟩).active.size ≤
        (layout.assignment ⟨right, members⟩).active.size + 1 := by
  refine ⟨fun word partition within => ?_, fun beyond partition within member => ?_, ?_⟩
  · have copied : layout.copies ≠ 0 := mt copies_eq_zero_iff.1 word
    obtain ⟨active, standbys, owners, length, apart, among⟩ :=
      exists_owners copied listed distinct partition
    have activeIn := among active (List.mem_cons_self ..)
    have standbyIn : ∀ standby ∈ standbys, standby ∈ members := fun standby named =>
      among standby (List.mem_cons_of_mem _ named)
    have known : ∀ {left right : Member}, left ∈ members → right ∈ members →
        left.id = right.id → left = right := fun leftIn rightIn =>
      List.inj_on_of_nodup_map distinct leftIn rightIn
    obtain ⟨foreign, later⟩ := List.nodup_cons.1 apart.of_map
    refine ⟨active, activeIn, standbys, later, standbyIn, foreign, length,
      fun member memberIn => ⟨?_, ?_⟩, fun member => ?_⟩
    · rw [layout.contains_active_iff _ within, owners, List.head?_cons, Option.any_some,
        decide_eq_true_eq]
      exact ⟨fun same => known memberIn activeIn same.symm, fun same => congrArg _ same.symm⟩
    · rw [layout.contains_standby_iff _ within (owners member)]
      constructor
      · rintro ⟨-, standby, named, same⟩
        exact known (standbyIn standby named) memberIn same ▸ named
      · intro named
        exact ⟨fun same => foreign (known activeIn memberIn same ▸ named), member, named, rfl⟩
    · rw [find?_ownerTable, if_pos within, owners, List.map_cons]
  · have uncopied : layout.copies = 0 := copies_eq_zero_iff.2 beyond
    constructor
    · rw [Bool.eq_false_iff, ne_eq, contains_assignment_iff, owners_of_uncopied uncopied]
      simp
    · rw [find?_ownerTable, if_pos within, owners_of_uncopied uncopied, List.map_nil]
  · intro left leftIn right rightIn
    by_cases copied : layout.copies = 0
    · rw [size_active_of_uncopied copied]
      exact Nat.zero_le _
    · obtain ⟨leftPlace, leftSize⟩ := exists_size_active copied distinct leftIn
      obtain ⟨rightPlace, rightSize⟩ := exists_size_active copied distinct rightIn
      rw [leftSize, rightSize]
      split <;> split <;> omega

/-- Two members share three partitions out, with more standbys asked for than there are
members: the first partition is active on one and standby on the other. -/
theorem shared_out_pair :
    let left := Member.fixed "a" ⟨.v4 0x7F000001, 80, 0⟩
    let right := Member.fixed "b" ⟨.v4 0x7F000001, 81, 0⟩
    let layout : Layout := ⟨3, 2, .murmur⟩
    [right, left] ≠ [] ∧ ([right, left].map Member.id).Nodup ∧
      layout.standbys.toNat + 1 ≠ UInt64.size ∧
      ∃ active ∈ [right, left], ∃ standby ∈ [right, left], active ≠ standby ∧
        (∀ member ∈ [right, left],
          ((layout.assignment ⟨member, [right, left]⟩).active.contains 0 = true ↔
            member = active) ∧
          ((layout.assignment ⟨member, [right, left]⟩).standby.contains 0 = true ↔
            member = standby)) ∧
        (layout.ownerTable ⟨right, [right, left]⟩).find? 0 = some [active.host, standby.host] ∧
        (layout.assignment ⟨left, [right, left]⟩).active.size ≤
          (layout.assignment ⟨right, [right, left]⟩).active.size + 1 := by
  intro left right layout
  have listed : [right, left] ≠ [] := nofun
  have distinct : ([right, left].map Member.id).Nodup := by decide
  have word : layout.standbys.toNat + 1 ≠ UInt64.size := by decide
  obtain ⟨placed, -, balanced⟩ := shared_out layout listed distinct
  obtain ⟨active, activeIn, standbys, -, among, foreign, length, roles, table⟩ :=
    placed word 0 (by decide)
  obtain ⟨standby, rfl⟩ := List.length_eq_one_iff.1 length
  have other : active ≠ standby := fun same => foreign (same ▸ List.mem_cons_self ..)
  refine ⟨listed, distinct, word, active, activeIn, standby, among standby (List.mem_cons_self ..),
    other, fun member memberIn => ?_, table right,
    balanced left (.tail _ (.head _)) right (.head _)⟩
  obtain ⟨actively, passively⟩ := roles member memberIn
  exact ⟨actively, passively.trans List.mem_singleton⟩

/-- Asked for as many standbys as a machine word can count, three members leave their only
partition to nobody. -/
theorem unshared_beyond_word :
    let first := Member.fixed "a" ⟨.v4 0x7F000001, 80, 0⟩
    let second := Member.fixed "b" ⟨.v4 0x7F000001, 81, 0⟩
    let third := Member.fixed "c" ⟨.v4 0x7F000001, 82, 0⟩
    let members := [first, second, third]
    let layout : Layout := ⟨1, 18446744073709551615, .murmur⟩
    (members.map Member.id).Nodup ∧ ¬ ∃ active ∈ members,
      (layout.assignment ⟨active, members⟩).active.contains 0 = true := by
  decide

end Shared

end ShardedView.Layout
