import ShardedView.Proofs.Gossip.Suspicion

/-!
What a look for silent members does to the whole table, and what it sends.

Each member is looked at by itself and falls by one level at most, so that nobody dies who was not
suspected before. The words of the new suspects go out behind the look, when it is settled who of the
others still counts as alive.
-/

namespace ShardedView.Gossip

namespace Contact

variable {contact : Contact} {now : Nat}

def IsSilentFor (contact : Contact) (span now : Nat) : Prop :=
  ∃ seen, contact.seen = some seen ∧ seen + span < now

/-- A member behind a look. What is believed of it falls by one level, if it has been silent for long
enough; if there was no sign of it yet, its silence begins with the look. The rest stays. -/
structure AgesTo (before after : Contact) (now : Nat) : Prop where
  told : after.member = { before.member with state := after.member.state }
  seen : after.seen = some (before.seen.getD now)
  unseen : before.seen = none → after.member.state = before.member.state
  suspected : before.member.state ≠ .suspect ∧ after.member.state = .suspect ↔
    before.member.state = .alive ∧ before.IsSilentFor (5 * second) now
  died : before.member.state ≠ .dead ∧ after.member.state = .dead ↔
    before.member.state = .suspect ∧ before.IsSilentFor (10 * second) now
  undying : after.member.state = .alive → before.member.state = .alive

theorem check_of_unseen (unseen : contact.seen = none) :
    contact.check now = { contact with seen := some now } := by
  rw [check, unseen]

theorem check_of_seen {seen : Nat} (known : contact.seen = some seen) :
    contact.check now =
      ⟨{ contact.member with state := stateAfter (now - seen) contact.member.state },
        contact.seen⟩ := by
  rw [check, known]

theorem isSilentFor_iff {seen : Nat} (known : contact.seen = some seen) {span : Nat} :
    contact.IsSilentFor span now ↔ span < now - seen := by
  simp only [IsSilentFor, known, Option.some.injEq, exists_eq_left']
  omega

theorem agesTo_check (contact : Contact) (now : Nat) : contact.AgesTo (contact.check now) now := by
  cases known : contact.seen with
  | none =>
    have quiet : ∀ span, ¬ contact.IsSilentFor span now := by
      rintro span ⟨seen, same, -⟩
      rw [known] at same
      contradiction
    rw [check_of_unseen known]
    exact ⟨rfl, by rw [known]; rfl, fun _ => rfl, by simp [quiet], by simp [quiet], id⟩
  | some seen =>
    rw [check_of_seen known]
    refine ⟨rfl, by rw [known]; rfl, by simp [known], ?_, ?_, ?_⟩
    all_goals
      simp only [isSilentFor_iff known, stateAfter, suspectAfter, deadAfter]
      cases contact.member.state <;> grind

end Contact

namespace Table

variable {table : Table} {now : Nat}

/-- The members that are suspected in a later table and counted as alive in an earlier one. -/
def newSuspects (table later : Table) : List Member :=
  (later.contacts.filter fun id contact =>
    contact.member.state = .suspect ∧ (table.known? id).any (·.state = .alive)).values.map
      Contact.member

theorem keys_check (table : Table) (now : Nat) :
    (table.check now).contacts.keys = table.contacts.keys := by
  simp only [check, SortedMap.keys, SortedMap.mapValues, List.map_map]
  rfl

/-- The members that are found silent for the first time are suspected behind the look, and nobody
else newly is. -/
theorem newSuspects_check (table : Table) (now : Nat) :
    table.newSuspects (table.check now) =
      (table.suspects now).map fun member => { member with state := .suspect } := by
  have chosen : ∀ entry ∈ table.contacts.entries,
      decide ((if entry.1 = table.self.id then entry.2 else entry.2.check now).member.state =
          .suspect ∧ (table.known? entry.1).any (·.state = .alive) = true) =
        (entry.1 ≠ table.self.id && entry.2.fallsSilent now) := by
    intro entry listed
    have known : table.known? entry.1 = some entry.2.member :=
      known?_eq_some_iff.2 ⟨_, SortedMap.find?_eq_some_iff.2 listed, rfl⟩
    simp only [known, Option.any_some, Contact.fallsSilent]
    by_cases own : entry.1 = table.self.id <;> grind
  simp only [newSuspects, suspects, check, SortedMap.values, SortedMap.filter,
    SortedMap.mapValues, List.filter_map, List.map_map, Function.comp_def,
    List.filter_congr chosen]
  refine List.map_congr_left fun entry listed => ?_
  have silent := (List.mem_filter.1 listed).2
  simp only [Contact.fallsSilent, Bool.and_eq_true, decide_eq_true_eq] at silent
  obtain ⟨foreign, -, suspected⟩ := silent
  obtain ⟨state, checked⟩ := entry.2.exists_member_check now
  rw [checked] at suspected
  simp only [if_neg foreign, checked]
  rw [← suspected]

/-- A round of the look, for all tables and times: it leaves the own entry, and of the others their
ids, their addresses and their incarnations; each of the others ages by itself; and of each new
suspect one word goes to each of the others that still counts as alive. -/
theorem round_of_looks (table : Table) (now : Nat) :
    let round := table.detect now
    round.1.self = table.self ∧ round.1.incarnation = table.incarnation ∧
      round.1.contacts.keys = table.contacts.keys ∧
      round.1.contacts.find? table.self.id = table.contacts.find? table.self.id ∧
      (∀ id before, id ≠ table.self.id → table.contacts.find? id = some before →
        ∃ after, round.1.contacts.find? id = some after ∧ before.AgesTo after now) ∧
      round.2 = (table.newSuspects round.1).flatMap fun suspect =>
        (round.1.members.filter fun other =>
          other.state = .alive ∧ other.id ≠ table.self.id).map fun other =>
            ⟨other.gossip, .suspect suspect.id suspect.incarnation⟩ := by
  intro round
  have checked : round.1 = table.check now := rfl
  refine ⟨rfl, rfl, keys_check table now, ?_, fun id before foreign found => ?_, ?_⟩
  · rw [checked, find?_check]
    simp
  · refine ⟨before.check now, ?_, before.agesTo_check now⟩
    rw [checked, find?_check, found, Option.map_some, if_neg foreign]
  · have sent : round.2 = (table.suspects now).flatMap fun suspect =>
        (table.check now).spread (.suspect suspect.id suspect.incarnation) := rfl
    rw [sent, checked, newSuspects_check, List.flatMap_map]
    simp only [spread, audience, view, List.filter_filter]
    simp only [Bool.decide_and, Bool.and_comm]
    rfl

/-- Four members at the ends of the two spans, and one that there was no sign of yet. -/
theorem round_of_looks_bounds :
    let member (id : String) (host : BitVec 32) (state : MemberState) : Member :=
      ⟨id, ⟨.v4 host, 81, 0⟩, ⟨.v4 host, 80, 0⟩, state, 3⟩
    let met := (start (member "a" 0x7F000001 .alive) 0).run
      [.join (5 * Contact.second + 1) (member "b" 0x7F000002 .alive),
        .join (5 * Contact.second) (member "c" 0x7F000003 .alive),
        .join 1 (member "d" 0x7F000004 .suspect), .join 0 (member "e" 0x7F000005 .suspect)]
    let unseen : Contact := ⟨member "f" 0x7F000006 .alive, none⟩
    let table := { met with contacts := met.contacts.insert "f" unseen }
    let now := 10 * Contact.second + 1
    let round := table.detect now
    (["a", "b", "c", "d", "e"].map fun id => (round.1.known? id).map Member.state) =
        [some .alive, some .alive, some .suspect, some .suspect, some .dead] ∧
      (∃ after, round.1.contacts.find? "f" = some after ∧ after.seen = some now ∧
        after.member.state = .alive) ∧
      round.2 = [0x7F000002, 0x7F000006].map fun host =>
        ⟨⟨.v4 host, 81, 0⟩, .suspect "c" 3⟩ := by
  intro member met unseen table now round
  obtain ⟨-, -, -, -, aged, sent⟩ := round_of_looks table now
  have found : table.contacts.find? "f" = some unseen := by decide +kernel
  obtain ⟨after, looked, ages⟩ := aged "f" unseen (by decide +kernel) found
  exact ⟨by decide +kernel, ⟨after, looked, ages.seen, ages.unseen rfl⟩,
    sent.trans (by decide +kernel)⟩

end Table

end ShardedView.Gossip
