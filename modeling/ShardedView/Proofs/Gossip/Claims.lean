import ShardedView.Proofs.Gossip.Contact

/-!
What is known of a member behind the claims that others make about it.

Of all claims, those of the greatest incarnation count. Among these the first counts, but a
suspicion is lifted by any claim that the member is alive. So the order of the claims decides in
one case only: the first that counts is not the known one, and some of those that count say that
the member is dead while others do not.
-/

namespace ShardedView.Gossip

def verdict (first : Member) (later : List Member) : MemberState :=
  if first.state = .suspect ∧ ∃ claim ∈ later, claim.state = .alive then .alive else first.state

theorem verdict_of_ne_suspect {first : Member} (certain : first.state ≠ .suspect)
    (later : List Member) : verdict first later = first.state :=
  if_neg fun both => certain both.1

theorem verdict_of_ne_dead {first : Member} (undead : first.state ≠ .dead) (later : List Member) :
    verdict first later =
      if ∃ claim ∈ first :: later, claim.state = .alive then .alive else .suspect := by
  unfold verdict
  cases state : first.state with
  | alive => simp [state]
  | suspect => simp [state]
  | dead => exact absurd state undead

theorem verdict_append (first : Member) (later : List Member) (told : Member) :
    verdict first (later ++ [told]) =
      if told.state = .alive ∧ verdict first later = .suspect then .alive
      else verdict first later := by
  unfold verdict
  by_cases lifted : ∃ claim ∈ later, claim.state = .alive
  · cases first.state <;> simp [or_and_right, exists_or, lifted]
  · cases first.state <;> simp [or_and_right, exists_or, lifted]

/-- Where all say that the member is dead or none, it does not matter which claim is the
first. -/
theorem verdict_eq_of_mem_iff {first other : Member} {later others : List Member}
    (same : ∀ claim, claim ∈ first :: later ↔ claim ∈ other :: others)
    (united : ∀ claim ∈ first :: later, claim.state = .dead →
      ∀ twin ∈ first :: later, twin.state = .dead) :
    verdict first later = verdict other others := by
  have among : other ∈ first :: later := (same other).2 (.head _)
  by_cases dead : first.state = .dead
  · have twin := united first (.head _) dead other among
    rw [verdict_of_ne_suspect (by simp [dead]), verdict_of_ne_suspect (by simp [twin]), dead, twin]
  · have undead : other.state ≠ .dead := fun twin => dead (united other among twin first (.head _))
    rw [verdict_of_ne_dead dead, verdict_of_ne_dead undead]
    simp only [same]

/-- What is known of a member behind claims: the greatest incarnation, and the verdict of the claims
that have it. -/
structure Settles (claims : List Member) (member : Member) : Prop where
  newest : ∀ claim ∈ claims, claim.incarnation ≤ member.incarnation
  state : ∃ first later,
    claims.filter (·.incarnation = member.incarnation) = first :: later ∧
      member.state = verdict first later

theorem settles_singleton (told : Member) : Settles [told] told where
  newest claim listed := Std.le_of_eq (by rw [List.mem_singleton.1 listed])
  state := ⟨told, [], by simp, by simp [verdict]⟩

variable {claims others : List Member} {member twin : Member}

theorem Settles.exists_newest (settles : Settles claims member) :
    ∃ claim ∈ claims, claim.incarnation = member.incarnation := by
  obtain ⟨first, later, listed, -⟩ := settles.state
  have among : first ∈ claims.filter (·.incarnation = member.incarnation) := by
    rw [listed]
    exact .head _
  exact ⟨first, (List.mem_filter.1 among).1, of_decide_eq_true (List.mem_filter.1 among).2⟩

theorem Settles.merge_of_newer {contact : Contact} (settles : Settles claims contact.member)
    {told : Member} (newer : contact.member.incarnation < told.incarnation) (now : Nat) :
    Settles (claims ++ [told]) (contact.merge now told).member := by
  have top : max contact.member.incarnation told.incarnation = told.incarnation :=
    max_of_le (Std.le_of_lt newer)
  have older : ∀ claim ∈ claims, claim.incarnation < told.incarnation :=
    fun claim among => Std.lt_of_le_of_lt (settles.newest claim among) newer
  rw [Contact.member_merge]
  constructor
  · intro claim among
    simp only [top]
    rcases List.mem_append.1 among with earlier | last
    · exact Std.le_of_lt (older claim earlier)
    · exact Std.le_of_eq (by rw [List.mem_singleton.1 last])
  · refine ⟨told, [], ?_, ?_⟩
    · simp only [top]
      rw [List.filter_append, List.filter_eq_nil_iff.2]
      · simp
      · intro claim among same
        exact Std.ne_of_lt (older claim among) (of_decide_eq_true same)
    · simp [Contact.stateTold, newer, verdict]

theorem Settles.merge_of_not_newer {contact : Contact} (settles : Settles claims contact.member)
    {told : Member} (older : ¬ contact.member.incarnation < told.incarnation) (now : Nat) :
    Settles (claims ++ [told]) (contact.merge now told).member := by
  have top : max contact.member.incarnation told.incarnation = contact.member.incarnation :=
    max_of_ge (Std.not_lt.1 older)
  obtain ⟨first, later, listed, state⟩ := settles.state
  rw [Contact.member_merge]
  constructor
  · intro claim among
    simp only [top]
    rcases List.mem_append.1 among with earlier | last
    · exact settles.newest claim earlier
    · rw [List.mem_singleton.1 last]
      exact Std.not_lt.1 older
  · simp only [top]
    rw [List.filter_append, listed]
    by_cases same : told.incarnation = contact.member.incarnation
    · refine ⟨first, later ++ [told], by simp [same], ?_⟩
      rw [verdict_append, ← state, Contact.stateTold, if_neg older]
      simp only [same, true_and]
    · refine ⟨first, later, by simp [same], ?_⟩
      rw [← state, Contact.stateTold, if_neg older, if_neg fun level => same level.1]

theorem Settles.merge {contact : Contact} (settles : Settles claims contact.member) (now : Nat)
    (told : Member) : Settles (claims ++ [told]) (contact.merge now told).member := by
  by_cases newer : contact.member.incarnation < told.incarnation
  · exact settles.merge_of_newer newer now
  · exact settles.merge_of_not_newer newer now

theorem Settles.incarnation_le (settles : Settles claims member) (twins : Settles others twin)
    (within : ∀ claim ∈ claims, claim ∈ others) : member.incarnation ≤ twin.incarnation := by
  obtain ⟨claim, listed, top⟩ := settles.exists_newest
  rw [← top]
  exact twins.newest claim (within claim listed)

theorem Settles.incarnation_eq (settles : Settles claims member) (twins : Settles others twin)
    (same : ∀ claim, claim ∈ claims ↔ claim ∈ others) : member.incarnation = twin.incarnation :=
  Std.le_antisymm (settles.incarnation_le twins fun claim => (same claim).1)
    (twins.incarnation_le settles fun claim => (same claim).2)

/-- Of the newest claims, the first is the known one, or all say that the member is dead or
none. -/
theorem Settles.state_eq {known : Option Member}
    (settles : Settles (known.toList ++ claims) member)
    (twins : Settles (known.toList ++ others) twin)
    (same : ∀ claim, claim ∈ claims ↔ claim ∈ others)
    (united : (∀ first ∈ known, first.incarnation < member.incarnation) →
      ∀ claim ∈ claims, claim.incarnation = member.incarnation → claim.state = .dead →
        ∀ other ∈ claims, other.incarnation = member.incarnation → other.state = .dead) :
    member.state = twin.state := by
  have level := settles.incarnation_eq twins fun claim => by
    rw [List.mem_append, List.mem_append, same]
  obtain ⟨first, later, listed, state⟩ := settles.state
  obtain ⟨other, rest, twinListed, twinState⟩ := twins.state
  rw [← level] at twinListed
  rw [state, twinState]
  have kept : ∀ claim, claim ∈ claims.filter (·.incarnation = member.incarnation) ↔
      claim ∈ others.filter (·.incarnation = member.incarnation) := by
    intro claim
    rw [List.mem_filter, List.mem_filter, same]
  rw [List.filter_append] at listed twinListed
  by_cases leads : ∃ front ∈ known, front.incarnation = member.incarnation
  · obtain ⟨front, rfl, top⟩ := leads
    simp only [Option.toList_some, List.filter_cons, top, decide_true, if_true, List.filter_nil,
      List.cons_append, List.nil_append, List.cons.injEq] at listed twinListed
    obtain ⟨rfl, rfl⟩ := listed
    obtain ⟨rfl, rfl⟩ := twinListed
    simp only [verdict, kept]
  · have behind : known.toList.filter (·.incarnation = member.incarnation) = [] := by
      rw [List.filter_eq_nil_iff]
      intro front among top
      exact leads ⟨front, Option.mem_toList.1 among, of_decide_eq_true top⟩
    rw [behind, List.nil_append] at listed twinListed
    rw [listed, twinListed] at kept
    refine verdict_eq_of_mem_iff kept fun claim among dead twin amongToo => ?_
    rw [← listed, List.mem_filter, decide_eq_true_iff] at among amongToo
    refine united (fun front held => ?_) claim among.1 among.2 dead twin amongToo.1 amongToo.2
    have le := settles.newest front (List.mem_append_left _ (Option.mem_toList.2 held))
    exact Std.lt_of_le_of_ne le fun top => leads ⟨front, held, top⟩

theorem verdict_eq_dead_iff (first : Member) (later : List Member) :
    verdict first later = .dead ↔ first.state = .dead := by
  unfold verdict
  split
  · next lifted => simp [lifted.1]
  · rfl

/-- The first claim that no other one is ahead of decides whether the member counts as dead. -/
theorem Settles.dead_iff {known : Option Member} {front : Member} {rest : List Member}
    (settles : Settles (known.toList ++ front :: rest) member)
    (newest : ∀ claim ∈ rest, claim.incarnation ≤ front.incarnation)
    (ahead : ∀ first ∈ known, first.incarnation < front.incarnation) :
    member.state = .dead ↔ front.state = .dead := by
  have bound : ∀ claim ∈ known.toList ++ front :: rest,
      claim.incarnation ≤ front.incarnation := by
    intro claim among
    rw [List.mem_append, Option.mem_toList, List.mem_cons] at among
    rcases among with held | rfl | later
    · exact Std.le_of_lt (ahead claim held)
    · exact Std.le_refl _
    · exact newest claim later
  have top : front.incarnation = member.incarnation := by
    obtain ⟨claim, among, level⟩ := settles.exists_newest
    refine Std.le_antisymm (settles.newest front (List.mem_append_right _ (.head _))) ?_
    rw [← level]
    exact bound claim among
  have behind : known.toList.filter (·.incarnation = member.incarnation) = [] := by
    rw [List.filter_eq_nil_iff]
    intro claim held level
    have less := ahead claim (Option.mem_toList.1 held)
    exact Std.ne_of_lt less ((of_decide_eq_true level).trans top.symm)
  obtain ⟨first, later, listed, state⟩ := settles.state
  rw [List.filter_append, behind, List.nil_append, List.filter_cons_of_pos (by simpa using top),
    List.cons.injEq] at listed
  rw [state, verdict_eq_dead_iff, listed.1]

/-- What is known of a member, if anything is, comes from these claims. -/
def IsSettled (claims : List Member) : Option Member → Prop
  | none => claims = []
  | some member => Settles claims member

theorem isSettled_toList (known : Option Member) : IsSettled known.toList known := by
  cases known with
  | none => rfl
  | some member => exact settles_singleton member

theorem Settles.ne_nil (settles : Settles claims member) : claims ≠ [] := by
  obtain ⟨claim, listed, -⟩ := settles.exists_newest
  exact List.ne_nil_of_mem listed

theorem IsSettled.both {known twin : Option Member} (settled : IsSettled claims known)
    (twins : IsSettled others twin)
    (same : ∀ claim, claim ∈ claims ↔ claim ∈ others) :
    (known = none ∧ twin = none) ∨ ∃ member other, known = some member ∧ twin = some other ∧
      Settles claims member ∧ Settles others other := by
  have empty : claims = [] ↔ others = [] := by
    simp only [List.eq_nil_iff_forall_not_mem, same]
  cases known with
  | none =>
    cases twin with
    | none => exact .inl ⟨rfl, rfl⟩
    | some other => exact absurd (empty.1 settled) (Settles.ne_nil twins)
  | some member =>
    cases twin with
    | none => exact absurd (empty.2 twins) (Settles.ne_nil settled)
    | some other => exact .inr ⟨member, other, rfl, rfl, settled, twins⟩

end ShardedView.Gossip
