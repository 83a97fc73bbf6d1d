import ShardedView.Proofs.Gossip.Run
import ShardedView.Proofs.Partition.Owners

/-!
How a member stands in its own table.

The own entry is there from the beginning and never leaves. It stays alive unless a record of
the member that says otherwise is taken up: on a join in any case, and in the report of another
member if it is more recent than the entry. Suspicions and looks for silent members do no harm.
-/

namespace ShardedView.Gossip

namespace Table

def IsListed (table : Table) : Prop :=
  ∃ own, table.known? table.self.id = some own ∧ own.id = table.self.id

/-- The member is in its own table and counts on itself. -/
def Stands (table : Table) : Prop :=
  ∃ own, table.known? table.self.id = some own ∧ own.id = table.self.id ∧ own.state = .alive

theorem Stands.isListed {table : Table} (stands : table.Stands) : table.IsListed :=
  stands.imp fun _ own => ⟨own.1, own.2.1⟩

theorem id_turn {table : Table} {id : String} {contact : Contact}
    (named : contact.member.id = id) (now : Nat) (sign : Sign) :
    (table.turn now id contact sign).member.id = id := by
  by_cases overridden : table.Overrides id sign
  · cases sign with
    | joined newcomer =>
      have same : newcomer.id = id := overridden
      simp only [turn, same, if_true]
      exact same
    | suspected other incarnation =>
      obtain ⟨rfl, own⟩ := overridden
      simp only [turn, ne_eq, not_true_eq_false, if_false, if_neg (not_not_intro own)]
      split <;> exact named
    | _ => exact overridden.elim
  · obtain ⟨state, turned⟩ := exists_member_turn overridden now contact
    rw [turned]
    exact named

theorem IsListed.take {table : Table} (listed : table.IsListed) (now : Nat) (sign : Sign) :
    (table.take now sign).IsListed := by
  obtain ⟨own, known, named⟩ := listed
  obtain ⟨contact, found, rfl⟩ := known?_eq_some_iff.1 known
  rw [IsListed, self_take]
  exact ⟨_, known?_take found now sign, id_turn named now sign⟩

theorem IsListed.takeAll {table : Table} (listed : table.IsListed) (signs : List (Nat × Sign)) :
    (table.takeAll signs).IsListed :=
  takeAll_induction (motive := IsListed) listed fun _ now sign _ listed => listed.take now sign

/-- The sign is a record of the own member that does not say that it is alive, and is taken
up. -/
def IsDemotedBy (table : Table) : Sign → Prop
  | .told member =>
    member.id = table.self.id ∧ member.state ≠ .alive ∧
      ∃ own ∈ table.known? table.self.id, own.incarnation < member.incarnation
  | .joined newcomer => newcomer.id = table.self.id ∧ newcomer.state ≠ .alive
  | _ => False

/-- One sign: nothing but such a record makes the own entry other than alive. -/
theorem Stands.take_iff {table : Table} (stands : table.Stands) (now : Nat) (sign : Sign) :
    (table.take now sign).Stands ↔ ¬ table.IsDemotedBy sign := by
  obtain ⟨own, known, named, alive⟩ := stands
  obtain ⟨contact, found, rfl⟩ := known?_eq_some_iff.1 known
  have next := known?_take found now sign
  have state : (table.take now sign).Stands ↔
      (table.turn now table.self.id contact sign).member.state = .alive := by
    simp only [Stands, self_take, next, Option.some.injEq, exists_eq_left', id_turn named,
      true_and]
  rw [state]
  cases sign with
  | told member =>
    simp only [turn, IsDemotedBy, known, Option.mem_def, Option.some.injEq, exists_eq_left']
    split
    · next same =>
      rw [Contact.member_merge]
      simp only [Contact.stateTold, alive]
      grind
    · next foreign => simp [alive, Ne.symm foreign]
  | joined newcomer =>
    simp only [turn, IsDemotedBy]
    split
    · next same => simp [same, Contact.met]
    · next foreign => simp [alive, Ne.symm foreign]
  | suspected other incarnation =>
    simp only [turn, IsDemotedBy, not_false_eq_true, iff_true, refuted]
    grind
  | claimed other incarnation =>
    simp only [turn, IsDemotedBy, not_false_eq_true, iff_true]
    split
    · rw [Contact.member_revive]
      simp [alive]
    · exact alive
  | heard sender incarnation =>
    simp only [turn, IsDemotedBy, not_false_eq_true, iff_true]
    split <;> exact alive
  | silence => simp [turn, IsDemotedBy, alive]

instance (table : Table) : DecidablePred table.IsDemotedBy
  | .told _ | .joined _ => inferInstanceAs (Decidable (_ ∧ _))
  | .heard _ _ | .suspected _ _ | .claimed _ _ | .silence => .isFalse id

def IsDemotedIn (table : Table) : List (Nat × Sign) → Prop
  | [] => False
  | (now, sign) :: rest => table.IsDemotedBy sign ∨ (table.take now sign).IsDemotedIn rest

instance decidableIsDemotedIn (table : Table) :
    (signs : List (Nat × Sign)) → Decidable (table.IsDemotedIn signs)
  | [] => .isFalse id
  | (now, sign) :: rest =>
    have := decidableIsDemotedIn (table.take now sign) rest
    inferInstanceAs (Decidable (_ ∨ _))

/-- A run: the own entry is alive all along if and only if nothing demotes it. -/
theorem Stands.takeAll_iff {signs : List (Nat × Sign)} {table : Table} (stands : table.Stands) :
    (∀ earlier, earlier <+: signs → (table.takeAll earlier).Stands) ↔
      ¬ table.IsDemotedIn signs := by
  induction signs generalizing table with
  | nil =>
    refine iff_of_true (fun earlier within => ?_) id
    rw [List.prefix_nil.1 within]
    exact stands
  | cons head rest ih =>
    obtain ⟨now, sign⟩ := head
    rw [IsDemotedIn, not_or, ← stands.take_iff now sign]
    constructor
    · intro always
      have next : (table.take now sign).Stands := always [(now, sign)] ⟨rest, rfl⟩
      refine ⟨next, (ih next).1 fun earlier within => ?_⟩
      exact always ((now, sign) :: earlier) ((List.prefix_cons_inj _).2 within)
    · rintro ⟨next, calm⟩ earlier within
      rcases List.prefix_cons_iff.1 within with rfl | ⟨later, rfl, behind⟩
      · exact stands
      · exact (ih next).2 calm later behind

/-- The member counts on itself, and so has a place in the ring: whatever the layout, the
partitions of that place are its own, if partitions have owners at all. -/
structure CountsOnItself (table : Table) : Prop where
  stands : table.Stands
  counted : ∃ own ∈ table.view.alive, own.id = table.self.id
  place : ∃ place, place < (Layout.ring table.view.alive).size ∧
    ∀ (layout : Layout) (partition : Nat), layout.copies ≠ 0 → partition < layout.partitions →
      partition % (Layout.ring table.view.alive).size = place →
        (layout.assignment table.view).active.contains partition = true

theorem mem_members_of_known? {table : Table} {id : String} {member : Member}
    (known : table.known? id = some member) : member ∈ table.members := by
  obtain ⟨contact, found, rfl⟩ := known?_eq_some_iff.1 known
  have valued : contact ∈ table.contacts.values :=
    List.mem_map.2 ⟨_, SortedMap.find?_eq_some_iff.1 found, rfl⟩
  exact List.mem_map_of_mem valued

theorem Stands.countsOnItself {table : Table} (stands : table.Stands) :
    table.CountsOnItself := by
  have counted : ∃ own ∈ table.view.alive, own.id = table.view.self.id := by
    obtain ⟨own, known, named, alive⟩ := stands
    exact ⟨own, List.mem_filter.2 ⟨mem_members_of_known? known, decide_eq_true alive⟩, named⟩
  exact ⟨stands, counted, Layout.exists_place counted⟩

theorem stands_start (id : String) (gossip http : Net.Address) (now : Nat) :
    (start ⟨id, gossip, http, .alive, 1⟩ now).Stands := by
  refine ⟨⟨id, gossip, http, .alive, 1⟩, ?_, rfl, rfl⟩
  rw [known?_eq_some_iff, start, SortedMap.find?_insert, if_pos rfl]
  exact ⟨_, rfl, rfl⟩

/-- A member never leaves its own table. It counts on itself, and keeps its place, if no record
of it that says that it is not alive is taken up, and only then it does so all along. -/
theorem counts_on_itself_unless_demoted (id : String) (gossip http : Net.Address) (now : Nat)
    (events : List Event) :
    let table := start ⟨id, gossip, http, .alive, 1⟩ now
    let signs := events.flatMap Event.signs
    (table.run events).self.id = id ∧ (table.run events).IsListed ∧
      (¬ table.IsDemotedIn signs → (table.run events).CountsOnItself) ∧
      ((∀ earlier, earlier <+: signs → (table.takeAll earlier).CountsOnItself) ↔
        ¬ table.IsDemotedIn signs) := by
  intro table signs
  have stands : table.Stands := stands_start id gossip http now
  have always : (∀ earlier, earlier <+: signs → (table.takeAll earlier).CountsOnItself) ↔
      ¬ table.IsDemotedIn signs := by
    rw [← stands.takeAll_iff]
    constructor
    · exact fun counts earlier within => (counts earlier within).stands
    · exact fun stays earlier within => (stays earlier within).countsOnItself
  rw [run_eq_takeAll]
  refine ⟨congrArg Member.id (table.self_takeAll signs), stands.isListed.takeAll signs, ?_, always⟩
  exact fun calm => always.2 calm signs (List.prefix_refl signs)

/-- A member that is suspected by another one, told to be dead by an old report, and not heard
of for a minute. -/
theorem counts_on_itself_suspected :
    let self : Member := ⟨"a", ⟨.v4 0x7F000001, 81, 0⟩, ⟨.v4 0x7F000001, 80, 0⟩, .alive, 1⟩
    let peer : Member := ⟨"b", ⟨.v4 0x7F000002, 81, 0⟩, ⟨.v4 0x7F000002, 80, 0⟩, .alive, 1⟩
    let table := start self 0
    let events : List Event :=
      [.join 1 peer, .receive 2 peer.gossip (.suspect "a" 1),
        .receive 3 peer.gossip (.ack "b" 1 [{ self with state := .dead, incarnation := 2 }, peer]),
        .detect (60 * Contact.second)]
    ¬ table.IsDemotedIn (events.flatMap Event.signs) ∧
      ((table.run events).known? "b").map Member.state = some .suspect ∧
      (table.run events).CountsOnItself := by
  intro self peer table events
  have calm : ¬ table.IsDemotedIn (events.flatMap Event.signs) := by decide +kernel
  exact ⟨calm, by decide +kernel, (counts_on_itself_unless_demoted _ _ _ 0 events).2.2.1 calm⟩

/-- A member that takes up the report of its own death, from a member that it has not heard of,
counts on nobody any more and gives all its partitions away. -/
theorem demoted_by_report :
    let self : Member := ⟨"a", ⟨.v4 0x7F000001, 81, 0⟩, ⟨.v4 0x7F000001, 80, 0⟩, .alive, 1⟩
    let reported : Member := { self with state := .dead, incarnation := 2 }
    let after := (start self 0).run [.receive 1 ⟨.v4 0x7F000002, 81, 0⟩ (.ack "b" 1 [reported])]
    after.known? after.self.id = some reported ∧ after.view.alive = [] ∧
      ∀ layout : Layout, (layout.assignment after.view).active.keys = [] := by
  intro self reported after
  have deserted : after.view.alive = [] := by decide +kernel
  refine ⟨by decide +kernel, deserted, fun layout => ?_⟩
  rw [Layout.keys_active, List.filter_eq_nil_iff]
  intro partition _
  have nobody : layout.owners after.view partition = [] :=
    List.eq_nil_iff_forall_not_mem.2 fun owner owns => by
      have listed := Layout.mem_of_mem_owners owns
      rw [deserted] at listed
      cases listed
  rw [nobody]
  exact Bool.false_ne_true

end Table

end ShardedView.Gossip
