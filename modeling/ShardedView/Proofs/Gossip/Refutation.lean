import ShardedView.Proofs.Gossip.Revival
import ShardedView.Proofs.Gossip.Standing

/-!
How a suspicion is refuted, from the member that is suspected to the others.

The suspected member answers with an incarnation that is greater than that of the rumour. Whoever
knows it by no more than the rumour takes it to be alive then, and the answer outweighs all rumours
up to the one that it answers: a suspicion counts only if it is at least as recent as what is known.
-/

namespace ShardedView.Gossip

namespace Table

variable {table : Table} {id : String} {member : Member} {incarnation : UInt64}

/-! ### The member that is suspected -/

theorem isListed_start (self : Member) (now : Nat) : (start self now).IsListed := by
  refine ⟨self, ?_, rfl⟩
  rw [known?_eq_some_iff, start, SortedMap.find?_insert, if_pos rfl]
  exact ⟨_, rfl, rfl⟩

theorem isListed_run (self : Member) (now : Nat) (events : List Event) :
    ((start self now).run events).IsListed := by
  rw [run_eq_takeAll]
  exact (isListed_start self now).takeAll _

theorem self_run (table : Table) (events : List Event) : (table.run events).self = table.self := by
  rw [run_eq_takeAll, self_takeAll]

/-- What is known of the others, and so who of them is counted on, does not depend on the own
entry. -/
theorem audience_change_self (listed : table.IsListed) (next : Contact → Contact)
    (named : ∀ contact, (next contact).member.id = contact.member.id) :
    (table.change table.self.id next).audience = table.audience := by
  obtain ⟨own, known, ownNamed⟩ := listed
  obtain ⟨contact, found, rfl⟩ := known?_eq_some_iff.1 known
  have entries : ∀ entry ∈ table.contacts.entries, entry.1 = table.self.id →
      entry.2.member.id = table.self.id := by
    intro entry listed same
    have twin := SortedMap.find?_eq_some_iff.2 (show (entry.1, entry.2) ∈ _ from listed)
    rw [same, found, Option.some.injEq] at twin
    rw [← twin, ownNamed]
  simp only [audience, view, members, SortedMap.values, change, SortedMap.mapValues, List.map_map,
    List.filter_filter]
  generalize table.contacts.entries = listed at entries
  induction listed with
  | nil => rfl
  | cons entry rest ih =>
    have others := ih fun entry among => entries entry (.tail _ among)
    simp only [List.map_cons, List.filter_cons, Function.comp_apply, others]
    by_cases same : entry.1 = table.self.id
    · have ownEntry := entries entry (.head _) same
      simp [same, named, ownEntry]
    · simp [same]

theorem receive_suspect_self (table : Table) (now : Nat) (source : Net.Address)
    (incarnation : UInt64) :
    table.receive now source (.suspect table.self.id incarnation) = table.refute incarnation :=
  if_pos rfl

theorem refute_of_older (older : incarnation < table.incarnation) :
    table.refute incarnation = (table, []) :=
  if_pos older

theorem letters_refute (listed : table.IsListed) (newer : ¬ incarnation < table.incarnation) :
    (table.refute incarnation).2 =
      table.audience.map (⟨·.gossip, .alive table.self.id (incarnation + 1)⟩) := by
  have answering : IsListed { table with incarnation := incarnation + 1 } := listed
  simp only [refute, newer, if_false, spread]
  congr 1
  exact audience_change_self answering _ fun _ => rfl

theorem known?_refute_self (listed : table.IsListed) (newer : ¬ incarnation < table.incarnation) :
    ∃ own, table.known? table.self.id = some own ∧
      (table.refute incarnation).1.known? table.self.id =
        some { own with state := .alive, incarnation := incarnation + 1 } := by
  obtain ⟨own, known, -⟩ := listed
  obtain ⟨contact, found, rfl⟩ := known?_eq_some_iff.1 known
  refine ⟨contact.member, known, ?_⟩
  rw [known?, find?_refute, if_pos ⟨rfl, newer⟩, found]
  rfl

/-! ### Those that hear of it -/

/-- The word of the member that it is alive counts for all that know it by less, whatever they
believe of it. -/
theorem known?_receive_alive (known : table.known? id = some member)
    (newer : member.incarnation < incarnation) (now : Nat) (source : Net.Address) :
    (table.receive now source (.alive id incarnation)).1.known? id =
      some { member with state := .alive, incarnation } := by
  obtain ⟨contact, found, rfl⟩ := known?_eq_some_iff.1 known
  have next := known?_take found now (.claimed id incarnation)
  rw [member_turn_claimed newer] at next
  exact next

theorem change_of_fixed {contact : Contact} {next : Contact → Contact}
    (found : table.contacts.find? id = some contact) (fixed : next contact = contact) :
    table.change id next = table := by
  have same : (table.change id next).contacts = table.contacts := by
    apply SortedMap.ext_find?
    intro other
    rw [find?_change]
    split
    · next own => rw [own, found, Option.map_some, fixed]
    · rfl
  exact congrArg (Table.mk table.self table.incarnation) same

/-- A suspicion that is older than what is known of the member leaves the table. -/
theorem receive_suspect_of_older (foreign : id ≠ table.self.id)
    (known : table.known? id = some member) (older : incarnation < member.incarnation) (now : Nat)
    (source : Net.Address) : (table.receive now source (.suspect id incarnation)).1 = table := by
  obtain ⟨contact, found, rfl⟩ := known?_eq_some_iff.1 known
  rw [receive, if_neg foreign]
  exact change_of_fixed found (if_pos older)

/-- Suspicions of a member, each with when and from where it is heard. -/
def suspicions (id : String) (rumours : List (Nat × Net.Address × UInt64)) : List Event :=
  rumours.map fun rumour => .receive rumour.1 rumour.2.1 (.suspect id rumour.2.2)

variable {rumours : List (Nat × Net.Address × UInt64)}

theorem run_suspicions_of_older (foreign : id ≠ table.self.id)
    (known : table.known? id = some member)
    (older : ∀ rumour ∈ rumours, rumour.2.2 < member.incarnation) :
    table.run (suspicions id rumours) = table := by
  induction rumours with
  | nil => rfl
  | cons rumour rest ih =>
    have first := receive_suspect_of_older foreign known (older rumour (.head _)) rumour.1 rumour.2.1
    rw [suspicions, List.map_cons, run, List.foldl_cons, ← run, apply, first]
    exact ih fun rumour later => older rumour (.tail _ later)

/-- A member that is alive in its own table stays so, since it answers what it does not ignore. -/
theorem exists_alive_run_suspicions (known : table.known? table.self.id = some member)
    (alive : member.state = .alive) (rumours : List (Nat × Net.Address × UInt64)) :
    ∃ own, (table.run (suspicions table.self.id rumours)).known? table.self.id = some own ∧
      own.state = .alive := by
  rw [run_eq_takeAll]
  refine (takeAll_induction (motive := fun later => later.self = table.self ∧
    ∃ own, later.known? table.self.id = some own ∧ own.state = .alive)
    ⟨rfl, member, known, alive⟩ ?_).2
  rintro later now sign listed ⟨same, own, known, alive⟩
  obtain ⟨contact, found, rfl⟩ := known?_eq_some_iff.1 known
  obtain ⟨rumoured, rfl⟩ : ∃ rumoured, sign = .suspected table.self.id rumoured := by
    simp only [suspicions, List.flatMap_map, List.mem_flatMap, Event.signs, Message.signs,
      List.map_cons, List.map_nil, List.mem_singleton, Prod.mk.injEq] at listed
    obtain ⟨rumour, -, -, rfl⟩ := listed
    exact ⟨_, rfl⟩
  refine ⟨(self_take ..).trans same, _, known?_take found now _, ?_⟩
  simp only [turn, same, ne_eq, not_true_eq_false, if_false]
  split
  · exact alive
  · rfl

/-- Suspicions that are older than what is known of a member that is alive do not demote it, not
even in its own table, where they may be answered. -/
theorem alive_run_suspicions (known : table.known? id = some member)
    (alive : member.state = .alive)
    (older : ∀ rumour ∈ rumours, rumour.2.2 < member.incarnation) :
    (∃ last, (table.run (suspicions id rumours)).known? id = some last ∧ last.state = .alive) ∧
      (table.self.id ≠ id → table.run (suspicions id rumours) = table) := by
  have unmoved : table.self.id ≠ id → table.run (suspicions id rumours) = table :=
    fun foreign => run_suspicions_of_older (Ne.symm foreign) known older
  refine ⟨?_, unmoved⟩
  by_cases own : table.self.id = id
  · subst own
    exact exists_alive_run_suspicions known alive rumours
  · rw [unmoved own]
    exact ⟨member, known, alive⟩

/-- A suspicion of a member that is older than its own incarnation is ignored. Any other one it
answers: it counts as alive with the next incarnation, and tells all others that it counts on. Whoever
knows it by no more than the rumour, dead or not, takes it to be alive with that incarnation when the
answer comes, and is not moved by any suspicions up to the one that was answered. -/
theorem suspicion_is_refuted (self : Member) (begun : Nat) (events : List Event)
    {rumoured : UInt64} (fits : rumoured < 0xFFFFFFFFFFFFFFFF) (now : Nat)
    (source : Net.Address) :
    let table := (start self begun).run events
    let round := table.receive now source (.suspect self.id rumoured)
    let word : Message := .alive self.id (rumoured + 1)
    (rumoured < table.incarnation → round = (table, [])) ∧
      (¬ rumoured < table.incarnation →
        round.1.incarnation = rumoured + 1 ∧
        (∃ own, table.known? self.id = some own ∧
          round.1.known? self.id = some { own with state := .alive, incarnation := rumoured + 1 }) ∧
        (∀ id, id ≠ self.id → round.1.contacts.find? id = table.contacts.find? id) ∧
        round.2 = (table.members.filter fun member =>
          member.state = .alive ∧ member.id ≠ self.id).map (⟨·.gossip, word⟩)) ∧
      ∀ (peer : Table) (record : Member), peer.known? self.id = some record →
        record.incarnation ≤ rumoured → ∀ (heard : Nat) (sender : Net.Address),
          let informed := (peer.receive heard sender word).1
          informed.known? self.id =
              some { record with state := .alive, incarnation := rumoured + 1 } ∧
            ∀ rumours : List (Nat × Net.Address × UInt64),
              (∀ rumour ∈ rumours, rumour.2.2 ≤ rumoured) →
                (∃ last, (informed.run (suspicions self.id rumours)).known? self.id = some last ∧
                  last.state = .alive) ∧
                (peer.self.id ≠ self.id →
                  informed.run (suspicions self.id rumours) = informed) := by
  intro table round word
  have own : table.self = self := self_run (start self begun) events
  have listed : table.IsListed := isListed_run self begun events
  have answered : round = table.refute rumoured := by
    rw [← receive_suspect_self table now source, own]
  refine ⟨fun older => ?_, fun newer => ⟨?_, ?_, fun id foreign => ?_, ?_⟩, ?_⟩
  · rw [answered, refute_of_older older]
  · rw [answered, refute, if_neg newer]
    rfl
  · rw [answered, ← own]
    exact known?_refute_self listed newer
  · rw [answered, find?_refute, own, if_neg fun both => foreign both.1]
  · rw [answered, letters_refute listed newer, own, audience, view, List.filter_filter, own]
    simp only [Bool.decide_and, Bool.and_comm]
    rfl
  · intro peer record known level heard sender informed
    have answer : rumoured < rumoured + 1 := UInt64.lt_add_one (Std.ne_of_lt fits)
    have taken : informed.known? self.id =
        some { record with state := .alive, incarnation := rumoured + 1 } :=
      known?_receive_alive known (Std.lt_of_le_of_lt level answer) heard sender
    exact ⟨taken, fun rumours older => alive_run_suspicions taken rfl fun rumour listed =>
      Std.lt_of_le_of_lt (older rumour listed) answer⟩

/-- A member hears that it was suspected four incarnations later than it knows itself to be. One that
held it to be dead hears its answer, and old rumours after it. -/
theorem suspicion_is_refuted_revived :
    let member (id : String) (host : BitVec 32) : Member :=
      ⟨id, ⟨.v4 host, 81, 0⟩, ⟨.v4 host, 80, 0⟩, .alive, 1⟩
    let self := member "a" 0x7F000001
    let other := member "b" 0x7F000002
    let events : List Event :=
      [.join 1 other, .join 1 { member "c" 0x7F000003 with state := .dead }]
    let table := (start self 0).run events
    let round := table.receive 2 other.gossip (.suspect "a" 4)
    let peer := (start other 0).run [.merge 1 { self with state := .dead, incarnation := 3 }]
    let informed := (peer.receive 3 self.gossip (.alive "a" 5)).1
    ¬ 4 < table.incarnation ∧ round.2 = [⟨other.gossip, .alive "a" 5⟩] ∧
      (peer.known? "a").map Member.state = some .dead ∧
      informed.known? "a" = some { self with incarnation := 5 } ∧
      informed.run (suspicions "a" [(4, other.gossip, 4), (5, other.gossip, 2)]) = informed := by
  intro member self other events table round peer informed
  have newer : ¬ 4 < table.incarnation := by decide +kernel
  have known : peer.known? "a" = some { self with state := .dead, incarnation := 3 } := by
    decide +kernel
  obtain ⟨-, answers, others⟩ := suspicion_is_refuted self 0 events
    (show (4 : UInt64) < 0xFFFFFFFFFFFFFFFF by decide) 2 other.gossip
  obtain ⟨-, -, -, sent⟩ := answers newer
  obtain ⟨taken, unmoved⟩ := others peer _ known (by decide) 3 self.gossip
  obtain ⟨-, same⟩ := unmoved [(4, other.gossip, 4), (5, other.gossip, 2)] (by decide)
  exact ⟨newer, sent.trans (by decide +kernel), by rw [known]; rfl, taken, same (by decide)⟩

end Table

end ShardedView.Gossip
