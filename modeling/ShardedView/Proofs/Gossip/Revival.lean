import ShardedView.Proofs.Gossip.Run

/-!
What the newest claim that a member is alive comes to, in whatever order it is heard among older
rumours and words of the member itself.

The incarnation of the claim is reached in every order. At it, the claim lifts a suspicion, but
it wakes no dead: a word of the member itself, which raises the incarnation and leaves the rest,
takes the claim its force if it finds the member dead.
-/

namespace ShardedView.Gossip

/-- The sign is not of the member, or no more recent than a claim that it is alive: words of the
member and other such claims may have the same incarnation, rumours may not. -/
def Sign.IsBehind (id : String) (incarnation : UInt64) : Sign → Prop
  | .heard other own => other = id → own ≤ incarnation
  | .told member => member.id = id → member.incarnation < incarnation
  | .joined newcomer => newcomer.id ≠ id
  | .suspected other rumoured => other = id → rumoured < incarnation
  | .claimed other own => other = id → own ≤ incarnation
  | .silence => False

theorem Sign.incarnationOf_le {id : String} {incarnation : UInt64} {sign : Sign}
    (behind : sign.IsBehind id incarnation) : sign.incarnationOf id ≤ incarnation := by
  cases sign with
  | heard other own | claimed other own =>
    simp only [incarnationOf]
    split
    · next same => exact behind same.symm
    · exact UInt64.zero_le
  | told member =>
    simp only [incarnationOf]
    split
    · next same => exact Std.le_of_lt (behind same.symm)
    · exact UInt64.zero_le
  | suspected other rumoured =>
    simp only [incarnationOf]
    split
    · next same => exact Std.le_of_lt (behind same.symm)
    · exact UInt64.zero_le
  | joined _ | silence => exact UInt64.zero_le

/-- Only a word of the member or the claim itself is as recent as the claim. -/
theorem Sign.eq_of_incarnationOf_eq {id : String} {incarnation : UInt64} {sign : Sign}
    (behind : sign.IsBehind id incarnation) (positive : 0 < incarnation)
    (level : sign.incarnationOf id = incarnation) :
    sign = .heard id incarnation ∨ sign = .claimed id incarnation := by
  subst level
  cases sign with
  | heard other own => grind [incarnationOf]
  | claimed other own => grind [incarnationOf]
  | told member => grind [incarnationOf, IsBehind]
  | suspected other rumoured => grind [incarnationOf, IsBehind]
  | joined _ | silence => exact (Std.lt_irrefl positive).elim

namespace Table

variable {table : Table} {id : String} {contact : Contact} {incarnation : UInt64} {sign : Sign}

theorem not_overrides (foreign : id ≠ table.self.id) (behind : sign.IsBehind id incarnation) :
    ¬ table.Overrides id sign := by
  cases sign with
  | joined newcomer => exact behind
  | suspected other rumoured => exact fun own => foreign own.2
  | _ => exact False.elim

theorem incarnation_turn_of_reached (foreign : id ≠ table.self.id)
    (reached : contact.member.incarnation = incarnation) (behind : sign.IsBehind id incarnation)
    (now : Nat) : (table.turn now id contact sign).member.incarnation = incarnation := by
  obtain ⟨state, turned⟩ := exists_member_turn (not_overrides foreign behind) now contact
  rw [turned, reached]
  exact max_of_ge (Sign.incarnationOf_le behind)

theorem state_turn_of_reached (foreign : id ≠ table.self.id)
    (reached : contact.member.incarnation = incarnation) (behind : sign.IsBehind id incarnation)
    (now : Nat) : (table.turn now id contact sign).member.state =
      if sign = .claimed id incarnation ∧ contact.member.state = .suspect then .alive
      else contact.member.state := by
  subst reached
  cases sign with
  | heard sender own =>
    simp only [turn, reduceCtorEq, false_and, if_false]
    split <;> rfl
  | told member =>
    simp only [turn, reduceCtorEq, false_and, if_false]
    split
    · next same =>
      have older := behind same.symm
      rw [Contact.member_merge]
      simp only [Contact.stateTold]
      grind
    · rfl
  | joined newcomer =>
    have other : id ≠ newcomer.id := Ne.symm behind
    simp [turn, other]
  | suspected other rumoured =>
    simp only [turn, reduceCtorEq, false_and, if_false, foreign, ne_eq, not_false_eq_true, if_true]
    split
    · rfl
    · next same =>
      have older := behind (Decidable.not_not.1 same).symm
      rw [Contact.member_suspect]
      simp [older]
  | claimed other own =>
    simp only [turn, Sign.claimed.injEq]
    split
    · next same =>
      have older := behind same.symm
      rw [Contact.member_revive]
      simp only [same]
      grind
    · next different => simp [Ne.symm different]
  | silence => exact behind.elim

/-- Below the incarnation, it takes a word of the member or the claim to reach it. -/
theorem incarnation_turn_lt (foreign : id ≠ table.self.id)
    (below : contact.member.incarnation < incarnation) (behind : sign.IsBehind id incarnation)
    (unheard : sign ≠ .heard id incarnation) (unclaimed : sign ≠ .claimed id incarnation)
    (now : Nat) : (table.turn now id contact sign).member.incarnation < incarnation := by
  have positive : 0 < incarnation := Std.lt_of_le_of_lt UInt64.zero_le below
  have older : sign.incarnationOf id < incarnation := by
    refine Std.lt_of_le_of_ne (Sign.incarnationOf_le behind) fun level => ?_
    rcases Sign.eq_of_incarnationOf_eq behind positive level with heard | claimed
    · exact unheard heard
    · exact unclaimed claimed
  obtain ⟨state, turned⟩ := exists_member_turn (not_overrides foreign behind) now contact
  rw [turned]
  exact max_lt below older

/-- A word of the member itself raises its incarnation, whatever is believed of it. -/
theorem member_turn_heard (below : contact.member.incarnation < incarnation) (now : Nat) :
    (table.turn now id contact (.heard id incarnation)).member =
      { contact.member with incarnation } := by
  simp only [turn, if_true, Contact.member_hear, max_of_le (Std.le_of_lt below)]

theorem member_turn_claimed (below : contact.member.incarnation < incarnation) (now : Nat) :
    (table.turn now id contact (.claimed id incarnation)).member =
      { contact.member with state := .alive, incarnation } := by
  simp only [turn, if_true, Contact.member_revive, below, true_or,
    max_of_le (Std.le_of_lt below)]

/-- Behind the incarnation a suspicion waits for the claim, and death is final. -/
theorem takeAll_of_reached {signs : List (Nat × Sign)} (foreign : id ≠ table.self.id)
    {member : Member} (known : table.known? id = some member)
    (reached : member.incarnation = incarnation)
    (behind : ∀ sign ∈ signs, sign.2.IsBehind id incarnation) :
    ∃ last, (table.takeAll signs).known? id = some last ∧ last.incarnation = incarnation ∧
      (last.state = .alive ↔ member.state = .alive ∨
        member.state = .suspect ∧ .claimed id incarnation ∈ signs.map (·.2)) := by
  induction signs generalizing table member with
  | nil => exact ⟨member, known, reached, by simp⟩
  | cons head rest ih =>
    obtain ⟨now, sign⟩ := head
    obtain ⟨contact, found, rfl⟩ := known?_eq_some_iff.1 known
    have kept := incarnation_turn_of_reached foreign reached (behind _ (.head _)) now
    have state := state_turn_of_reached foreign reached (behind _ (.head _)) now
    obtain ⟨last, later, incarnated, believed⟩ := ih (by rw [self_take]; exact foreign)
      (known?_take found now sign) kept
      (fun sign listed => behind sign (.tail _ listed))
    refine ⟨last, later, incarnated, ?_⟩
    rw [believed, state, List.map_cons, List.mem_cons]
    by_cases lifted : sign = .claimed id incarnation ∧ contact.member.state = .suspect
    · simp [lifted]
    · rw [if_neg lifted]
      grind

/-- The first sign of the incarnation is a word of the member itself, and finds it dead. -/
def IsHeardDead (table : Table) (id : String) (incarnation : UInt64) :
    List (Nat × Sign) → Prop
  | [] => False
  | (now, sign) :: rest =>
    if sign = .heard id incarnation then ∃ member ∈ table.known? id, member.state = .dead
    else sign ≠ .claimed id incarnation ∧ (table.take now sign).IsHeardDead id incarnation rest

instance decidableIsHeardDead (table : Table) (id : String) (incarnation : UInt64) :
    (signs : List (Nat × Sign)) → Decidable (table.IsHeardDead id incarnation signs)
  | [] => inferInstanceAs (Decidable False)
  | (now, sign) :: rest =>
    have := decidableIsHeardDead (table.take now sign) id incarnation rest
    inferInstanceAs (Decidable (if sign = .heard id incarnation then
        ∃ member ∈ table.known? id, member.state = .dead
      else sign ≠ .claimed id incarnation ∧ (table.take now sign).IsHeardDead id incarnation rest))

/-- The incarnation of the newest claim is reached, and the member is alive unless the claim has
been anticipated while it was dead. -/
theorem takeAll_of_below {signs : List (Nat × Sign)} (foreign : id ≠ table.self.id)
    {member : Member} (known : table.known? id = some member)
    (below : member.incarnation < incarnation)
    (behind : ∀ sign ∈ signs, sign.2.IsBehind id incarnation)
    (claimed : .claimed id incarnation ∈ signs.map (·.2)) :
    ∃ last, (table.takeAll signs).known? id = some last ∧ last.incarnation = incarnation ∧
      (last.state = .alive ↔ ¬ table.IsHeardDead id incarnation signs) := by
  induction signs generalizing table member with
  | nil => cases claimed
  | cons head rest ih =>
    obtain ⟨now, sign⟩ := head
    obtain ⟨contact, found, rfl⟩ := known?_eq_some_iff.1 known
    have next := known?_take found now sign
    have foreignNext : id ≠ (table.take now sign).self.id := by rwa [self_take]
    have later : ∀ sign ∈ rest, sign.2.IsBehind id incarnation :=
      fun sign listed => behind sign (.tail _ listed)
    rw [List.map_cons, List.mem_cons] at claimed
    -- the first sign of the incarnation decides: behind it death is final
    by_cases heard : sign = .heard id incarnation
    · subst heard
      rw [member_turn_heard below] at next
      obtain ⟨last, reached, incarnated, believed⟩ := takeAll_of_reached foreignNext next rfl later
      refine ⟨last, reached, incarnated, ?_⟩
      have waiting : Sign.claimed id incarnation ∈ rest.map (·.2) := by simpa using claimed
      rw [believed, IsHeardDead, if_pos rfl, known]
      simp only [waiting, and_true, Option.mem_def, Option.some.injEq, exists_eq_left']
      cases contact.member.state <;> simp
    · by_cases claims : sign = .claimed id incarnation
      · subst claims
        rw [member_turn_claimed below] at next
        obtain ⟨last, reached, incarnated, believed⟩ :=
          takeAll_of_reached foreignNext next rfl later
        refine ⟨last, reached, incarnated, iff_of_true (believed.2 (.inl rfl)) ?_⟩
        rw [IsHeardDead, if_neg heard]
        exact fun anticipated => anticipated.1 rfl
      · have still := incarnation_turn_lt foreign below (behind _ (.head _)) heard claims now
        have waiting : Sign.claimed id incarnation ∈ rest.map (·.2) :=
          claimed.resolve_left fun same => claims same.symm
        obtain ⟨last, reached, incarnated, believed⟩ := ih foreignNext next still later waiting
        refine ⟨last, reached, incarnated, ?_⟩
        rw [believed, IsHeardDead, if_neg heard]
        simp only [ne_eq, claims, not_false_eq_true, true_and]

theorem not_isHeardDead_of_unheard {signs : List (Nat × Sign)}
    (unheard : .heard id incarnation ∉ signs.map (·.2)) :
    ¬ table.IsHeardDead id incarnation signs := by
  induction signs generalizing table with
  | nil => exact False.elim
  | cons head rest ih =>
    rw [List.map_cons, List.mem_cons, not_or] at unheard
    rw [IsHeardDead, if_neg fun same => unheard.1 same.symm]
    exact fun anticipated => ih unheard.2 anticipated.2

theorem not_isHeardDead_of_undead {signs : List (Nat × Sign)} (foreign : id ≠ table.self.id)
    {member : Member} (known : table.known? id = some member)
    (behind : ∀ sign ∈ signs, sign.2.IsBehind id incarnation) (undead : member.state ≠ .dead)
    (unreported : ∀ told, .told told ∈ signs.map (·.2) → told.id = id → told.state = .dead →
      told.incarnation ≤ member.incarnation) :
    ¬ table.IsHeardDead id incarnation signs := by
  induction signs generalizing table member with
  | nil => exact False.elim
  | cons head rest ih =>
    obtain ⟨now, sign⟩ := head
    obtain ⟨contact, found, rfl⟩ := known?_eq_some_iff.1 known
    have own : sign.IsBehind id incarnation := behind _ (.head _)
    have kept := not_overrides foreign own
    have grown : contact.member.incarnation ≤
        (table.turn now id contact sign).member.incarnation := by
      obtain ⟨state, turned⟩ := exists_member_turn kept now contact
      rw [turned]
      exact le_max ..
    have next := turn_ne_dead kept (by rintro rfl; exact own) undead
      (fun told same => unreported told (same ▸ .head _)) now
    rw [IsHeardDead]
    split
    · simp [known, undead]
    · refine fun anticipated => ih (by rwa [self_take])
        (known?_take found now sign)
        (fun sign listed => behind sign (.tail _ listed)) next ?_ anticipated.2
      intro told listed same dead
      exact Std.le_trans (unreported told (.tail _ listed) same dead) grown

/-- Whatever is known of another member, and in whatever order its newest claim to be alive is
handled among older rumours and words of the member: the incarnation of the claim is reached, and
the member is alive, unless a word of it with that incarnation came before the claim and found it
dead. No order does that if there is no such word, or if the member is neither dead from the
beginning nor reported dead with an incarnation that is more recent than the known one. -/
theorem newest_claim_wins {events : List Event} {before : Member}
    (foreign : id ≠ table.self.id) (known : table.known? id = some before)
    (newer : before.incarnation < incarnation)
    (behind : ∀ event ∈ events, ∀ sign ∈ event.signs, sign.2.IsBehind id incarnation)
    (claimed : ∃ now source, .receive now source (.alive id incarnation) ∈ events) :
    let signs := events.flatMap Event.signs
    ∃ last, (table.run events).known? id = some last ∧ last.incarnation = incarnation ∧
      (last.state = .alive ↔ ¬ table.IsHeardDead id incarnation signs) ∧
      (.heard id incarnation ∉ signs.map (·.2) ∨
        before.state ≠ .dead ∧ (∀ told, .told told ∈ signs.map (·.2) → told.id = id →
          told.state = .dead → told.incarnation ≤ before.incarnation) →
        last.state = .alive) := by
  intro signs
  have each : ∀ sign ∈ signs, sign.2.IsBehind id incarnation := by
    intro sign listed
    obtain ⟨event, among, own⟩ := List.mem_flatMap.1 listed
    exact behind event among sign own
  have claims : .claimed id incarnation ∈ signs.map (·.2) := by
    obtain ⟨now, source, among⟩ := claimed
    exact List.mem_map.2 ⟨(now, .claimed id incarnation),
      List.mem_flatMap.2 ⟨_, among, List.mem_singleton.2 rfl⟩, rfl⟩
  obtain ⟨last, reached, incarnated, believed⟩ :=
    takeAll_of_below foreign known newer each claims
  rw [run_eq_takeAll]
  refine ⟨last, reached, incarnated, believed, fun order => believed.2 ?_⟩
  rcases order with unheard | ⟨undead, unreported⟩
  · exact not_isHeardDead_of_unheard unheard
  · exact not_isHeardDead_of_undead foreign known each undead unreported

/-- A dead member, whose claim comes between a suspicion and a word of it with the incarnation of
the claim. -/
theorem newest_claim_wins_early :
    let self : Member := ⟨"a", ⟨.v4 0x7F000001, 81, 0⟩, ⟨.v4 0x7F000001, 80, 0⟩, .alive, 1⟩
    let peer : Member := ⟨"b", ⟨.v4 0x7F000002, 81, 0⟩, ⟨.v4 0x7F000002, 80, 0⟩, .dead, 1⟩
    let table := (start self 0).run [.merge 1 peer]
    let events : List Event :=
      [.receive 2 peer.gossip (.ping "b" 2), .receive 3 self.gossip (.suspect "b" 2),
        .receive 4 peer.gossip (.alive "b" 3), .merge 5 { peer with incarnation := 2 },
        .receive 6 peer.gossip (.ping "b" 3)]
    table.known? "b" = some peer ∧
      ∃ last, (table.run events).known? "b" = some last ∧ last.incarnation = 3 ∧
        last.state = .alive := by
  intro self peer table events
  have known : table.known? "b" = some peer := by decide +kernel
  have behind : ∀ event ∈ events, ∀ sign ∈ event.signs, sign.2.IsBehind "b" 3 := by
    simp [events, Event.signs, Message.signs, Sign.IsBehind]
  have claimed : ∃ now source, .receive now source (.alive "b" 3) ∈ events :=
    ⟨4, peer.gossip, by simp [events]⟩
  obtain ⟨last, reached, incarnated, believed, -⟩ :=
    newest_claim_wins (by decide +kernel) known (by decide +kernel) behind claimed
  exact ⟨known, last, reached, incarnated, believed.2 (by decide +kernel)⟩

/-- A dead member whose ping overtakes its claim stays dead; had the claim come first, it would
be alive. -/
theorem claim_of_dead_lost :
    let self : Member := ⟨"a", ⟨.v4 0x7F000001, 81, 0⟩, ⟨.v4 0x7F000001, 80, 0⟩, .alive, 1⟩
    let peer : Member := ⟨"b", ⟨.v4 0x7F000002, 81, 0⟩, ⟨.v4 0x7F000002, 80, 0⟩, .dead, 1⟩
    let table := (start self 0).run [.merge 1 peer]
    let ping : Event := .receive 2 peer.gossip (.ping "b" 2)
    let claim : Event := .receive 2 peer.gossip (.alive "b" 2)
    (table.run [ping, claim]).known? "b" = some { peer with incarnation := 2 } ∧
      (table.run [claim, ping]).known? "b" =
        some { peer with state := .alive, incarnation := 2 } := by
  decide +kernel

end Table

end ShardedView.Gossip
