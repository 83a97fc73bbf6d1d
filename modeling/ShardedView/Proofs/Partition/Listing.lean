import ShardedView.Program.Serve
import ShardedView.Proofs.Gossip.Standing

/-!
Neither the order in which members are listed nor how often each is listed matters to who holds
which partitions.

A member that gossips reads its table in whatever order, and members of a fixed list name each
other in orders of their own, more than once or themselves too. All that they have to agree on is
which ids there are, and the host of each.
-/

namespace ShardedView

/-- Two members find the same owners for all partitions, and take up the same ones if they are
the same member. -/
structure Layout.PlacesAlike (layout : Layout) (left right : MemberView) : Prop where
  owners : layout.ownerTable left = layout.ownerTable right
  own : left.self.id = right.self.id → layout.assignment left = layout.assignment right

theorem Layout.SameMembers.placesAlike {left right : MemberView}
    (same : SameMembers left.alive right.alive) (layout : Layout) :
    layout.PlacesAlike left right :=
  ⟨same.ownerTable_eq layout, fun self => same.assignment_eq self layout⟩

/-! ### Tables -/

namespace Gossip.Table

variable {table left right : Table} {id : String} {contact : Contact}

def IsKeyed (table : Table) : Prop :=
  ∀ id contact, table.contacts.find? id = some contact → contact.member.id = id

def IsReached (table : Table) : Prop :=
  ∃ self now events, table = (start self now).run events

theorem isKeyed_start (self : Member) (now : Nat) : (start self now).IsKeyed := by
  intro id contact found
  simp only [start, SortedMap.find?_insert, SortedMap.find?_empty,
    Option.ite_none_right_eq_some, Option.some.injEq] at found
  obtain ⟨rfl, rfl⟩ := found
  rfl

theorem id_of_find?_take_of_none (missing : table.contacts.find? id = none) {now : Nat}
    {sign : Sign} (found : (table.take now sign).contacts.find? id = some contact) :
    contact.member.id = id := by
  cases sign with
  | told member =>
    simp only [take, find?_merge, missing, Option.map_none, Option.getD_none,
      Option.ite_none_right_eq_some, Option.some.injEq] at found
    obtain ⟨rfl, rfl⟩ := found
    rfl
  | joined newcomer =>
    simp only [take, find?_join, missing, Option.ite_none_right_eq_some,
      Option.some.injEq] at found
    obtain ⟨rfl, rfl⟩ := found
    rfl
  | suspected other incarnation =>
    simp only [take] at found
    split at found <;> simp [find?_refute, find?_change, missing] at found
  | silence => simp [take, check, missing] at found
  | _ => simp [take, find?_change, missing] at found

theorem IsKeyed.take (keyed : table.IsKeyed) (now : Nat) (sign : Sign) :
    (table.take now sign).IsKeyed := by
  intro id contact found
  cases known : table.contacts.find? id with
  | none => exact id_of_find?_take_of_none known found
  | some before =>
    rw [find?_take known, Option.some.injEq] at found
    rw [← found]
    exact id_turn (keyed id before known) now sign

theorem IsReached.isKeyed (reached : table.IsReached) : table.IsKeyed := by
  obtain ⟨self, now, events, rfl⟩ := reached
  rw [run_eq_takeAll]
  exact takeAll_induction (motive := IsKeyed) (isKeyed_start self now)
    fun _ now sign _ keyed => keyed.take now sign

theorem IsKeyed.known?_of_mem_alive (keyed : table.IsKeyed) {member : Member}
    (listed : member ∈ table.view.alive) : table.known? member.id = some member := by
  obtain ⟨contact, among, rfl⟩ := List.mem_map.1 (List.mem_filter.1 listed).1
  obtain ⟨⟨id, _⟩, entry, rfl⟩ := List.mem_map.1 among
  have found := SortedMap.find?_eq_some_iff.2 entry
  rw [keyed id _ found]
  exact known?_eq_some_iff.2 ⟨_, found, rfl⟩

/-- Tables with the same members alive list the same members, in whatever order each is read. -/
theorem IsReached.sameMembers (reached : left.IsReached)
    (alike : ∀ member, member ∈ left.view.alive ↔ member ∈ right.view.alive)
    {first second : List Member} (firstOrder : first.Perm left.view.alive)
    (secondOrder : second.Perm right.view.alive) : Layout.SameMembers first second := by
  apply Layout.SameMembers.of_mem_iff
  · intro member
    rw [firstOrder.mem_iff, secondOrder.mem_iff, alike]
  · intro member listed twin among same
    have known := reached.isKeyed.known?_of_mem_alive (firstOrder.mem_iff.1 listed)
    have twinKnown := reached.isKeyed.known?_of_mem_alive (firstOrder.mem_iff.1 among)
    rw [same, known] at twinKnown
    exact (Option.some.inj twinKnown).symm

end Gossip.Table

/-! ### Fixed lists -/

namespace Options.Serve

variable {options : Serve} {own other : Net.Address}

def listing (own : Net.Address) (peers : List Net.Address) : MemberView :=
  .ofPeers (listed own) (peers.map listed)

theorem membersAtStart_of_static (surroundings : Program.Surroundings)
    (static : options.isStatic = true) (address : options.httpAddress = .ok own) :
    Program.membersAtStart surroundings options = .ok (listing own options.peers, []) := by
  simp only [Program.membersAtStart, static, if_true, members, address]
  rfl

theorem host_eq_id_of_mem_listing {peers : List Net.Address} {member : Member}
    (within : member ∈ (listing own peers).alive) : member.host = member.id := by
  rcases List.mem_cons.1 within with rfl | among
  · rfl
  · obtain ⟨http, -, rfl⟩ := List.mem_map.1 (List.mem_filter.1 among).1
    rfl

/-- A replica counts on itself and on all that it is given, be it itself or given twice. -/
theorem exists_mem_listing_iff {peers : List Net.Address} {id : String} :
    (∃ member ∈ (listing own peers).alive, member.id = id) ↔
      ∃ http ∈ own :: peers, http.text = id := by
  simp only [listing, MemberView.ofPeers, List.mem_cons, List.mem_filter, List.mem_map]
  constructor
  · rintro ⟨member, rfl | ⟨⟨http, given, rfl⟩, -⟩, rfl⟩
    · exact ⟨own, .inl rfl, rfl⟩
    · exact ⟨http, .inr given, rfl⟩
  · rintro ⟨http, rfl | given, rfl⟩
    · exact ⟨listed http, .inl rfl, rfl⟩
    · by_cases same : http.text = own.text
      · exact ⟨listed own, .inl rfl, same.symm⟩
      · exact ⟨listed http, .inr ⟨⟨http, given, rfl⟩, decide_eq_true same⟩, rfl⟩

theorem sameMembers_listing {peers others : List Net.Address}
    (alike : ∀ http, http ∈ own :: peers ↔ http ∈ other :: others) :
    Layout.SameMembers (listing own peers).alive (listing other others).alive := by
  have both : ∀ id, (∃ member ∈ (listing own peers).alive, member.id = id) ↔
      ∃ member ∈ (listing other others).alive, member.id = id := by
    simp only [exists_mem_listing_iff, alike, implies_true]
  refine ⟨fun member within => (both _).1 ⟨member, within, rfl⟩,
    fun member within => (both _).2 ⟨member, within, rfl⟩, ?_⟩
  intro member within twin among same
  rw [host_eq_id_of_mem_listing within, host_eq_id_of_mem_listing among, same]

end Options.Serve

namespace Layout

/-- Who lists the same members, in any order and each any number of times, places all partitions
alike, however many there are and however many standbys. So do members that gossip, once they
count on the same ones, whichever order they read their tables in, and replicas with fixed lists
that name the same addresses, be it their own one among the others or not. -/
theorem places_alike_however_listed (layout : Layout) :
    (∀ left right : MemberView, SameMembers left.alive right.alive →
      layout.PlacesAlike left right) ∧
    (∀ left right : Gossip.Table, left.IsReached →
      (∀ member, member ∈ left.view.alive ↔ member ∈ right.view.alive) →
      ∀ first second : List Member,
        first.Perm left.view.alive → second.Perm right.view.alive →
          layout.PlacesAlike ⟨left.self, first⟩ ⟨right.self, second⟩) ∧
    ∀ (surroundings elsewhere : Program.Surroundings) (left right : Options.Serve)
      (own other : Net.Address),
      left.isStatic = true → right.isStatic = true →
      left.httpAddress = .ok own → right.httpAddress = .ok other →
      (∀ http, http ∈ own :: left.peers ↔ http ∈ other :: right.peers) →
      ∃ leftView rightView,
        Program.membersAtStart surroundings left = .ok (leftView, []) ∧
        Program.membersAtStart elsewhere right = .ok (rightView, []) ∧
        layout.PlacesAlike leftView rightView := by
  refine ⟨fun left right same => same.placesAlike layout, ?_, ?_⟩
  · intro left right reached alike first second firstOrder secondOrder
    have same : SameMembers (MemberView.mk left.self first).alive
        (MemberView.mk right.self second).alive :=
      reached.sameMembers alike firstOrder secondOrder
    exact same.placesAlike layout
  · intro surroundings elsewhere left right own other leftStatic rightStatic ownAddress
      otherAddress alike
    exact ⟨_, _, Options.Serve.membersAtStart_of_static surroundings leftStatic ownAddress,
      Options.Serve.membersAtStart_of_static elsewhere rightStatic otherAddress,
      (Options.Serve.sameMembers_listing alike).placesAlike layout⟩

/-- Three members, listed backwards and one of them twice; a member that reads its table of two
backwards; and two replicas with fixed lists, one of which names itself and the other one twice. -/
theorem places_alike_listed_twice :
    let address (port : UInt16) : Net.Address := ⟨.v4 0x7F000001, port, 0⟩
    let one := Member.fixed "a" (address 1)
    let two := Member.fixed "b" (address 2)
    let three := Member.fixed "c" (address 3)
    let table := (Gossip.Table.start one 0).run [.join 1 two]
    let options (port : UInt16) (peers : List Net.Address) : Options.Serve :=
      ⟨address port, [], some port, peers, "", 2, 1, .string, .string, .mutable, none, none, none,
        none, 500⟩
    let left := options 1 [address 2]
    let right := options 2 [address 1, address 2, address 1]
    let surroundings : Program.Surroundings :=
      ⟨0, fun _ => 0, fun _ => .error .missing, "", fun _ => none, fun _ _ => none⟩
    let layout : Layout := ⟨2, 1, .murmur⟩
    layout.PlacesAlike ⟨one, [one, two, three]⟩ ⟨one, [three, two, one, two]⟩ ∧
      table.view.alive.reverse ≠ table.view.alive ∧
      layout.PlacesAlike ⟨one, table.view.alive.reverse⟩ table.view ∧
      left.isStatic = true ∧ right.isStatic = true ∧
      ∃ leftView rightView,
        Program.membersAtStart surroundings left = .ok (leftView, []) ∧
        Program.membersAtStart surroundings right = .ok (rightView, []) ∧
        leftView.alive ≠ rightView.alive ∧ layout.PlacesAlike leftView rightView := by
  intro address one two three table options left right surroundings layout
  obtain ⟨views, tables, lists⟩ := places_alike_however_listed layout
  have listed : SameMembers [one, two, three] [three, two, one, two] :=
    ⟨by decide +kernel, by decide +kernel, by decide +kernel⟩
  have named : ∀ http, http ∈ address 1 :: left.peers ↔ http ∈ address 2 :: right.peers := by
    intro http
    simp only [left, right, options, List.mem_cons, List.not_mem_nil]
    grind
  obtain ⟨leftView, rightView, leftStart, rightStart, alike⟩ :=
    lists surroundings surroundings left right _ _ rfl rfl rfl rfl named
  refine ⟨views _ _ listed, by decide +kernel,
    tables table table ⟨one, 0, _, rfl⟩ (fun _ => .rfl) _ _ (List.reverse_perm _) (.refl _),
    rfl, rfl, leftView, rightView, leftStart, rightStart, ?_, alike⟩
  cases leftStart
  cases rightStart
  decide +kernel

end Layout

end ShardedView
