import ShardedView.Proofs.Gossip.Run

/-!
Who is told when a look at the members finds one of them silent.

The others are told behind the look, and only those that count as alive then. So all of them are
told of each suspect, but no suspect is: it hears of the suspicion, and can answer it, only if
somebody else is reached at the same address.
-/

namespace ShardedView.Gossip.Table

variable {table : Table} {now : Nat} {id : String} {contact : Contact}

theorem known?_detect (found : table.contacts.find? id = some contact) (now : Nat) :
    (table.detect now).1.known? id =
      some (if id = table.self.id then contact else contact.check now).member := by
  rw [known?, detect, find?_check, found]
  rfl

/-- The members that are found silent for the first time, as they were before the look. -/
theorem mem_suspects_iff {member : Member} :
    member ∈ table.suspects now ↔ ∃ id contact, table.contacts.find? id = some contact ∧
      id ≠ table.self.id ∧ contact.fallsSilent now = true ∧ contact.member = member := by
  simp only [suspects, SortedMap.values, SortedMap.filter, List.mem_map, List.mem_filter,
    Bool.and_eq_true, decide_eq_true_eq]
  constructor
  · rintro ⟨contact, ⟨⟨id, _⟩, ⟨listed, foreign, silent⟩, rfl⟩, rfl⟩
    exact ⟨id, _, SortedMap.find?_eq_some_iff.2 listed, foreign, silent, rfl⟩
  · rintro ⟨id, contact, found, foreign, silent, rfl⟩
    have listed := SortedMap.find?_eq_some_iff.1 found
    exact ⟨contact, ⟨(id, contact), ⟨listed, foreign, silent⟩, rfl⟩, rfl⟩

/-- All other members that count as alive get a message that is spread, and nobody else does. -/
theorem mem_spread_iff {message : Message} {letter : Letter} :
    letter ∈ table.spread message ↔
      letter.message = message ∧ ∃ other ∈ table.audience, other.gossip = letter.recipient := by
  obtain ⟨recipient, sent⟩ := letter
  simp only [spread, List.mem_map, Letter.mk.injEq]
  constructor
  · rintro ⟨other, among, rfl, rfl⟩
    exact ⟨rfl, other, among, rfl⟩
  · rintro ⟨rfl, other, among, rfl⟩
    exact ⟨other, among, rfl, rfl⟩

theorem state_of_mem_audience {member : Member} (among : member ∈ table.audience) :
    member.state = .alive :=
  of_decide_eq_true (List.mem_filter.1 (List.mem_filter.1 among).1).2

/-- A look sends word of each member that it finds silent for the first time to all that count as
alive behind it. -/
theorem mem_detect_iff {letter : Letter} :
    letter ∈ (table.detect now).2 ↔ ∃ suspect ∈ table.suspects now,
      letter.message = .suspect suspect.id suspect.incarnation ∧
        ∃ other ∈ (table.detect now).1.audience, other.gossip = letter.recipient := by
  rw [detect, List.mem_flatMap]
  simp only [mem_spread_iff]

/-- A member that counted as alive and is suspected behind a look is one that the look finds silent
for the first time. -/
theorem exists_suspect_of_demoted {before after : Member} (known : table.known? id = some before)
    (alive : before.state = .alive) (looked : (table.detect now).1.known? id = some after)
    (suspected : after.state = .suspect) :
    ∃ suspect ∈ table.suspects now, suspect.id = after.id ∧
      suspect.incarnation = after.incarnation := by
  obtain ⟨contact, found, rfl⟩ := known?_eq_some_iff.1 known
  rw [known?_detect found, Option.some.injEq] at looked
  have foreign : id ≠ table.self.id := by
    intro own
    rw [if_pos own] at looked
    rw [← looked, alive] at suspected
    contradiction
  rw [if_neg foreign] at looked
  subst looked
  obtain ⟨state, checked⟩ := contact.exists_member_check now
  refine ⟨contact.member, mem_suspects_iff.2 ⟨id, contact, found, foreign, ?_, rfl⟩, ?_, ?_⟩
  · exact decide_eq_true ⟨alive, suspected⟩
  · rw [checked]
  · rw [checked]

/-- Of a member that a look makes a suspect, word goes to all others that count as alive behind the
look, however many of them have fallen silent at once. The suspect is none of these, and so hears of
it only where another one that counts as alive is reached at its address. -/
theorem suspect_is_told_iff (table : Table) (now : Nat) {id : String} {before after : Member}
    (known : table.known? id = some before) (alive : before.state = .alive)
    (looked : (table.detect now).1.known? id = some after) (suspected : after.state = .suspect) :
    let round := table.detect now
    let word : Message := .suspect after.id after.incarnation
    after ∉ round.1.audience ∧
      (∀ address, ⟨address, word⟩ ∈ round.2 ↔
        ∃ other ∈ round.1.audience, other.gossip = address) ∧
      (⟨after.gossip, word⟩ ∈ round.2 ↔
        ∃ other ∈ round.1.audience, other ≠ after ∧ other.gossip = after.gossip) := by
  intro round word
  have absent : after ∉ round.1.audience := by
    intro among
    rw [state_of_mem_audience among] at suspected
    contradiction
  have told : ∀ address, ⟨address, word⟩ ∈ round.2 ↔
      ∃ other ∈ round.1.audience, other.gossip = address := by
    intro address
    rw [mem_detect_iff]
    constructor
    · rintro ⟨-, -, -, reached⟩
      exact reached
    · intro reached
      obtain ⟨suspect, silent, named, level⟩ :=
        exists_suspect_of_demoted known alive looked suspected
      exact ⟨suspect, silent, by rw [named, level], reached⟩
  refine ⟨absent, told, (told after.gossip).trans ?_⟩
  constructor
  · rintro ⟨other, among, same⟩
    exact ⟨other, among, fun equal => absent (equal ▸ among), same⟩
  · rintro ⟨other, among, -, same⟩
    exact ⟨other, among, same⟩

/-- Two members fall silent at once. One of them has come back under another id and at its old
address, where it is told of the suspicion; the other is not told. -/
theorem suspect_is_told_iff_returned :
    let self : Member := ⟨"a", ⟨.v4 0x7F000001, 81, 0⟩, ⟨.v4 0x7F000001, 80, 0⟩, .alive, 1⟩
    let gone : Member := ⟨"b", ⟨.v4 0x7F000002, 81, 0⟩, ⟨.v4 0x7F000002, 80, 0⟩, .alive, 2⟩
    let silent : Member := ⟨"c", ⟨.v4 0x7F000003, 81, 0⟩, ⟨.v4 0x7F000003, 80, 0⟩, .alive, 4⟩
    let table := (start self 0).run
      [.join 0 gone, .join 0 silent,
        .join (4 * Contact.second) { gone with id := "d", incarnation := 1 }]
    let now := 6 * Contact.second
    let round := table.detect now
    round.1.known? "b" = some { gone with state := .suspect } ∧
      ⟨gone.gossip, .suspect "b" 2⟩ ∈ round.2 ∧
      round.1.known? "c" = some { silent with state := .suspect } ∧
      ⟨silent.gossip, .suspect "c" 4⟩ ∉ round.2 := by
  intro self gone silent table now round
  have knownGone : table.known? "b" = some gone := by decide +kernel
  have suspectGone : round.1.known? "b" = some { gone with state := .suspect } := by
    decide +kernel
  have knownSilent : table.known? "c" = some silent := by decide +kernel
  have suspectSilent : round.1.known? "c" = some { silent with state := .suspect } := by
    decide +kernel
  obtain ⟨-, -, told⟩ := suspect_is_told_iff table now knownGone rfl suspectGone rfl
  obtain ⟨-, -, untold⟩ := suspect_is_told_iff table now knownSilent rfl suspectSilent rfl
  exact ⟨suspectGone, told.2 (by decide +kernel), suspectSilent,
    fun word => absurd (untold.1 word) (by decide +kernel)⟩

/-- Two members are suspected at once, and the only one that is told of them is a third. -/
theorem suspects_are_not_told :
    let member (id : String) (host : BitVec 32) : Member :=
      ⟨id, ⟨.v4 host, 81, 0⟩, ⟨.v4 host, 80, 0⟩, .alive, 1⟩
    let table := (start (member "a" 0x7F000001) 0).run
      [.join 0 (member "b" 0x7F000002), .join 0 (member "c" 0x7F000003),
        .join (4 * Contact.second) (member "d" 0x7F000004)]
    let round := table.detect (6 * Contact.second)
    (["b", "c"].map fun id => (round.1.known? id).map Member.state) =
        [some .suspect, some .suspect] ∧
      round.2 = ["b", "c"].map fun id => ⟨⟨.v4 0x7F000004, 81, 0⟩, .suspect id 1⟩ := by
  decide +kernel

end ShardedView.Gossip.Table
