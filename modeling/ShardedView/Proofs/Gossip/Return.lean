import ShardedView.Proofs.Gossip.Run

/-!
What the ack of a member makes of what is known of the member itself.

An ack is a word of its sender, which raises the incarnation and leaves what is believed, and then
a row of reports. So the record that the sender has of itself comes second, and is no more recent
than what is known by then: it lifts a suspicion, but it wakes no dead.
-/

namespace ShardedView.Gossip

def cleared (member : Member) : Member :=
  { member with state := if member.state = .dead then .dead else .alive }

theorem cleared_cleared (member : Member) : cleared (cleared member) = cleared member := by
  simp only [cleared]
  split <;> rfl

/-- The report that a member is alive, as recent as what is known of it, lifts a suspicion and does
nothing else. -/
theorem Contact.member_merge_of_level {contact : Contact} {told : Member}
    (alive : told.state = .alive) (level : told.incarnation = contact.member.incarnation)
    (now : Nat) : (contact.merge now told).member = cleared contact.member := by
  have old : ¬ contact.member.incarnation < told.incarnation := by
    rw [level]
    exact Std.lt_irrefl
  rw [member_merge, stateTold, if_neg old, level, max_of_ge (Std.le_refl _), cleared]
  cases contact.member.state <;> simp [alive]

namespace Table

variable {table : Table} {id : String} {member : Member}

theorem receive_ack (table : Table) (now : Nat) (source : Net.Address) (sender : String)
    (incarnation : UInt64) (members : List Member) :
    (table.receive now source (.ack sender incarnation members)).1 =
      (table.take now (.heard sender incarnation)).mergeAll now members := rfl

/-- A word of the member itself raises the incarnation, and leaves what is believed. -/
theorem known?_take_heard (known : table.known? id = some member) (now : Nat)
    (incarnation : UInt64) :
    (table.take now (.heard id incarnation)).known? id =
      some { member with incarnation := max member.incarnation incarnation } := by
  obtain ⟨contact, found, rfl⟩ := known?_eq_some_iff.1 known
  rw [known?_take found, turn, if_pos rfl, Contact.member_hear]

theorem known?_merge_of_level {told : Member} (known : table.known? id = some member)
    (alive : told.id = id → told.state = .alive)
    (level : told.id = id → told.incarnation = member.incarnation) (now : Nat) :
    (table.merge now told).known? id =
      some (if told.id = id then cleared member else member) := by
  obtain ⟨contact, found, rfl⟩ := known?_eq_some_iff.1 known
  have next := known?_take found now (.told told)
  rw [take, turn] at next
  rw [next]
  by_cases own : told.id = id
  · rw [if_pos own, if_pos own.symm, Contact.member_merge_of_level (alive own) (level own)]
  · rw [if_neg own, if_neg (Ne.symm own)]

/-- Any number of such reports, among reports of others, do what a single one does. -/
theorem known?_mergeAll_of_level {told : List Member} (known : table.known? id = some member)
    (level : ∀ record ∈ told, record.id = id →
      record.state = .alive ∧ record.incarnation = member.incarnation) (now : Nat) :
    (table.mergeAll now told).known? id =
      some (if ∃ record ∈ told, record.id = id then cleared member else member) := by
  induction told generalizing table member with
  | nil => simpa [mergeAll] using known
  | cons head rest ih =>
    have first := level head (.head _)
    have next := known?_merge_of_level known (fun own => (first own).1)
      (fun own => (first own).2) now
    have later : ∀ record ∈ rest, record.id = id →
        record.state = .alive ∧ record.incarnation = member.incarnation :=
      fun record listed => level record (.tail _ listed)
    show ((table.merge now head).mergeAll now rest).known? id = _
    simp only [List.mem_cons, exists_eq_or_imp]
    by_cases own : head.id = id
    · rw [if_pos own] at next
      rw [ih next later, cleared_cleared, ite_self, if_pos (.inl own)]
    · rw [if_neg own] at next
      rw [ih next later]
      simp only [own, false_or]

/-- The ack of a member that is back, and knows itself to be alive, with a greater incarnation than
any known before: it is taken to be alive with that one, unless it counted as dead. Then it is dead
with that one. -/
theorem ack_of_returned (table : Table) (now : Nat) (source : Net.Address) {id : String}
    {before : Member} {incarnation : UInt64} {members : List Member}
    (known : table.known? id = some before) (newer : before.incarnation < incarnation)
    (listed : ∃ record ∈ members, record.id = id)
    (returned : ∀ record ∈ members, record.id = id →
      record.state = .alive ∧ record.incarnation = incarnation) :
    (table.receive now source (.ack id incarnation members)).1.known? id = some { before with
      state := if before.state = .dead then .dead else .alive
      incarnation } := by
  have heard := known?_take_heard known now incarnation
  rw [max_of_le (Std.le_of_lt newer)] at heard
  rw [receive_ack, known?_mergeAll_of_level heard returned, if_pos listed]
  rfl

/-- A suspect that answers, and tells of others as well. -/
theorem ack_of_returned_suspect :
    let self : Member := ⟨"a", ⟨.v4 0x7F000001, 81, 0⟩, ⟨.v4 0x7F000001, 80, 0⟩, .alive, 1⟩
    let peer : Member := ⟨"b", ⟨.v4 0x7F000002, 81, 0⟩, ⟨.v4 0x7F000002, 80, 0⟩, .suspect, 1⟩
    let table := (start self 0).run [.merge 1 peer]
    let back : Member := { peer with state := .alive, incarnation := 3 }
    let ack : Message := .ack "b" 3 [self, back, { peer with id := "c", state := .dead }]
    (table.receive 2 peer.gossip ack).1.known? "b" = some back := by
  intro self peer table back ack
  exact table.ack_of_returned 2 peer.gossip (by decide +kernel : table.known? "b" = some peer)
    (by decide) ⟨back, by simp, rfl⟩ (by simp [self, back, peer])

/-- One that counted as dead and answers stays dead. The word that it is alive, or the same records
in the ack of another member, would have woken it. -/
theorem ack_of_returned_dead :
    let self : Member := ⟨"a", ⟨.v4 0x7F000001, 81, 0⟩, ⟨.v4 0x7F000001, 80, 0⟩, .alive, 1⟩
    let peer : Member := ⟨"b", ⟨.v4 0x7F000002, 81, 0⟩, ⟨.v4 0x7F000002, 80, 0⟩, .dead, 1⟩
    let table := (start self 0).run [.merge 1 peer]
    let back : Member := { peer with state := .alive, incarnation := 2 }
    let behind (message : Message) := (table.receive 2 peer.gossip message).1.known? "b"
    behind (.ack "b" 2 [self, back]) = some { back with state := .dead } ∧
      behind (.ack "c" 2 [self, back]) = some back ∧
      behind (.alive "b" 2) = some back := by
  decide +kernel

end Table

end ShardedView.Gossip
