import ShardedView.Proofs.Gossip.Reports

/-!
When the order of reports does not matter.

The same reports in two orders leave the same known of a member unless its newest records are
ahead of what was known and disagree on whether it is dead.
-/

namespace ShardedView.Gossip

namespace Table

/-- The newest record of a member says that it is alive, and nothing that is more recent than what
is known says that it is dead. -/
structure Vouches (table : Table) (records : List Member) (claim : Member) : Prop where
  listed : claim ∈ records
  alive : claim.state = .alive
  newest : ∀ record ∈ records, record.id = claim.id → record.incarnation ≤ claim.incarnation
  known : ∀ known ∈ table.known? claim.id,
    known.state ≠ .dead ∧ known.incarnation ≤ claim.incarnation
  undead : ∀ record ∈ records, record.id = claim.id → record.state = .dead →
    ∃ known ∈ table.known? claim.id, record.incarnation ≤ known.incarnation

/-- A word of a member with this incarnation is not ahead of what is known of it, or told of it if
nothing is known. -/
def IsOld (table : Table) (records : List Member) (id : String) (incarnation : UInt64) : Prop :=
  (∀ known ∈ table.known? id, incarnation ≤ known.incarnation) ∧
    (table.known? id = none → ∀ record ∈ records, record.id = id →
      incarnation ≤ record.incarnation)

/-- The events are acks and merges that tell these records, in whatever order and however often,
and no sender is ahead of what is known or told of it, unless somebody vouches for it. -/
structure Conveys (table : Table) (events : List Event) (records : List Member) : Prop where
  reports : ∀ sign ∈ events.flatMap Event.signs, sign.2.IsReport
  tells : ∀ record, .told record ∈ (events.flatMap Event.signs).map (·.2) ↔ record ∈ records
  covered : ∀ id incarnation,
    .heard id incarnation ∈ (events.flatMap Event.signs).map (·.2) →
      table.IsOld records id incarnation ∨
        ∃ claim, table.Vouches records claim ∧ claim.id = id ∧ incarnation ≤ claim.incarnation

/-- The newest records of a member are ahead of what is known of it, and disagree on whether it is
dead. -/
def IsTorn (table : Table) (records : List Member) (id : String) : Prop :=
  ∃ dead ∈ records, ∃ other ∈ records,
    dead.id = id ∧ other.id = id ∧ dead.state = .dead ∧ other.state ≠ .dead ∧
      other.incarnation = dead.incarnation ∧
      (∀ record ∈ records, record.id = id → record.incarnation ≤ dead.incarnation) ∧
      ∀ known ∈ table.known? id, known.incarnation < dead.incarnation

variable {table twin : Table} {events first second : List Event} {records : List Member}
  {id : String}

theorem Conveys.mem_toldOf_iff (conveys : table.Conveys events records) (id : String)
    (record : Member) :
    record ∈ toldOf id (events.flatMap Event.signs) ↔ record ∈ records ∧ record.id = id := by
  rw [mem_toldOf, conveys.tells]

theorem Conveys.whereabouts (conveys : table.Conveys events records) (id : String) :
    ((table.run events).known? id).map whereabouts =
      ((table.known? id).toList ++ toldOf id (events.flatMap Event.signs)).head?.map
        whereabouts := by
  rw [run_eq_takeAll]
  exact whereabouts_takeAll conveys.reports

/-- What is known of a member afterwards comes from what was known and from the records of it. -/
theorem Conveys.isSettled (conveys : table.Conveys events records) (id : String)
    (old : ∀ incarnation, .heard id incarnation ∈ (events.flatMap Event.signs).map (·.2) →
      table.IsOld records id incarnation) :
    IsSettled ((table.known? id).toList ++ toldOf id (events.flatMap Event.signs))
      ((table.run events).known? id) := by
  rw [run_eq_takeAll]
  refine isSettled_takeAll (isSettled_toList _) conveys.reports ?_
  intro incarnation heard first front
  obtain ⟨ofKnown, ofRecords⟩ := old incarnation heard
  cases known : table.known? id with
  | some member =>
    rw [known] at front
    obtain rfl := Option.some.inj front
    exact ofKnown _ known
  | none =>
    rw [known] at front
    obtain ⟨listed, own⟩ := (conveys.mem_toldOf_iff id first).1 (List.mem_of_mem_head? front)
    exact ofRecords known first listed own

/-! ### Members that somebody vouches for -/

variable {claim : Member}

theorem Vouches.le_of_isOld (vouches : table.Vouches records claim) {incarnation : UInt64}
    (old : table.IsOld records claim.id incarnation) : incarnation ≤ claim.incarnation := by
  cases known : table.known? claim.id with
  | some member => exact Std.le_trans (old.1 member known) (vouches.known member known).2
  | none => exact old.2 known claim vouches.listed rfl

theorem Conveys.incarnationOf_le (conveys : table.Conveys events records)
    (vouches : table.Vouches records claim) {sign : Nat × Sign}
    (listed : sign ∈ events.flatMap Event.signs) :
    sign.2.incarnationOf claim.id ≤ claim.incarnation := by
  obtain ⟨now, sign⟩ := sign
  have among : sign ∈ (events.flatMap Event.signs).map (·.2) := List.mem_map_of_mem listed
  cases sign with
  | heard sender incarnation =>
    simp only [Sign.incarnationOf]
    split
    · next same =>
      subst same
      rcases conveys.covered _ incarnation among with old | ⟨other, twin, same, below⟩
      · exact vouches.le_of_isOld old
      · exact Std.le_trans below (vouches.newest other twin.listed same)
    · exact UInt64.zero_le
  | told record =>
    simp only [Sign.incarnationOf]
    split
    · next same => exact vouches.newest record ((conveys.tells record).1 among) same.symm
    · exact UInt64.zero_le
  | _ => exact (conveys.reports _ listed).elim

theorem Conveys.exists_alive (conveys : table.Conveys events records)
    (vouches : table.Vouches records claim) :
    ∃ last, (table.run events).known? claim.id = some last ∧ last.state = .alive ∧
      last.incarnation = claim.incarnation := by
  have below : ∀ sign ∈ events.flatMap Event.signs,
      sign.2.incarnationOf claim.id ≤ claim.incarnation :=
    fun sign listed => conveys.incarnationOf_le vouches listed
  have told : claim ∈ toldOf claim.id (events.flatMap Event.signs) :=
    (conveys.mem_toldOf_iff _ claim).2 ⟨vouches.listed, rfl⟩
  have undead : ∀ record ∈ toldOf claim.id (events.flatMap Event.signs), record.state = .dead →
      ∃ known ∈ table.known? claim.id, record.incarnation ≤ known.incarnation := by
    intro record listed dead
    obtain ⟨listed, own⟩ := (conveys.mem_toldOf_iff _ record).1 listed
    exact vouches.undead record listed own dead
  rw [run_eq_takeAll]
  cases known : table.known? claim.id with
  | some member =>
    obtain ⟨lively, older⟩ := vouches.known member known
    refine takeAll_of_vouched known lively older conveys.reports below ?_ vouches.alive (.inl told)
    intro record listed dead
    obtain ⟨same, front, newer⟩ := undead record listed dead
    obtain rfl : same = member := Option.some.inj (front.symm.trans known)
    exact newer
  | none =>
    refine takeAll_of_vouched_unknown known conveys.reports below ?_ vouches.alive told
    intro record listed dead
    obtain ⟨same, front, -⟩ := undead record listed dead
    cases front.symm.trans known

theorem Vouches.of_known?_eq (vouches : table.Vouches records claim)
    (same : table.known? claim.id = twin.known? claim.id) : twin.Vouches records claim where
  listed := vouches.listed
  alive := vouches.alive
  newest := vouches.newest
  known := same ▸ vouches.known
  undead := same ▸ vouches.undead

/-! ### The same reports in different orders -/

theorem Conveys.mem_claims_iff (same : table.known? id = twin.known? id)
    (early : table.Conveys first records) (late : twin.Conveys second records) (claim : Member) :
    claim ∈ (table.known? id).toList ++ toldOf id (first.flatMap Event.signs) ↔
      claim ∈ (twin.known? id).toList ++ toldOf id (second.flatMap Event.signs) := by
  rw [List.mem_append, List.mem_append, early.mem_toldOf_iff, late.mem_toldOf_iff, same]

/-- From the same claims in two orders the same is believed, unless they are torn. -/
theorem state_eq_of_settles {told others : List Member} {member other : Member}
    (settles : Settles ((table.known? id).toList ++ told) member)
    (twins : Settles ((table.known? id).toList ++ others) other)
    (tells : ∀ record, record ∈ told ↔ record ∈ records ∧ record.id = id)
    (retells : ∀ record, record ∈ others ↔ record ∈ records ∧ record.id = id)
    (whole : ¬ table.IsTorn records id) : member.state = other.state := by
  refine settles.state_eq twins (fun record => (tells record).trans (retells record).symm) ?_
  intro behind dead among top isDead twin amongToo topToo
  refine Decidable.byContradiction fun undead => whole ?_
  obtain ⟨listed, own⟩ := (tells dead).1 among
  obtain ⟨listedToo, ownToo⟩ := (tells twin).1 amongToo
  refine ⟨dead, listed, twin, listedToo, own, ownToo, isDead, undead, topToo.trans top.symm,
    fun record given named => ?_, fun front held => ?_⟩
  · rw [top]
    exact settles.newest record (List.mem_append_right _ ((tells record).2 ⟨given, named⟩))
  · rw [top]
    exact behind front held

/-- Whether a member is known, and its incarnation, do not depend on the order of reports. Nor does
what is believed of it, unless the reports are torn. -/
theorem Conveys.both (same : table.known? id = twin.known? id)
    (early : table.Conveys first records) (late : twin.Conveys second records) :
    ((table.run first).known? id = none ∧ (twin.run second).known? id = none) ∨
      ∃ member other,
        (table.run first).known? id = some member ∧ (twin.run second).known? id = some other ∧
          member.incarnation = other.incarnation ∧
          (¬ table.IsTorn records id → member.state = other.state) := by
  by_cases vouched : ∃ claim, table.Vouches records claim ∧ claim.id = id
  · obtain ⟨claim, vouches, rfl⟩ := vouched
    obtain ⟨member, known, alive, newest⟩ := early.exists_alive vouches
    obtain ⟨other, known', alive', newest'⟩ := late.exists_alive (vouches.of_known?_eq same)
    exact .inr ⟨member, other, known, known', newest.trans newest'.symm,
      fun _ => alive.trans alive'.symm⟩
  · have settled := early.isSettled id fun incarnation heard =>
      (early.covered id incarnation heard).resolve_right fun ⟨claim, vouches, own, _⟩ =>
        vouched ⟨claim, vouches, own⟩
    have settled' := late.isSettled id fun incarnation heard =>
      (late.covered id incarnation heard).resolve_right fun ⟨claim, vouches, own, _⟩ =>
        vouched ⟨claim, vouches.of_known?_eq (own ▸ same.symm), own⟩
    have claims := early.mem_claims_iff same late
    rcases settled.both settled' claims with none | ⟨member, other, known, known', settles, twins⟩
    · exact .inl none
    · refine .inr ⟨member, other, known, known', settles.incarnation_eq twins claims, ?_⟩
      rw [← same] at twins
      exact state_eq_of_settles settles twins (early.mem_toldOf_iff id) (late.mem_toldOf_iff id)

theorem Conveys.incarnation_eq (same : table.known? id = twin.known? id)
    (early : table.Conveys first records) (late : twin.Conveys second records) :
    ((table.run first).known? id).map Member.incarnation =
      ((twin.run second).known? id).map Member.incarnation := by
  rcases early.both same late with ⟨none, none'⟩ | ⟨member, other, known, known', level, -⟩
  · rw [none, none']
  · rw [known, known', Option.map_some, Option.map_some, level]

theorem Conveys.whereabouts_eq (same : table.known? id = twin.known? id)
    (early : table.Conveys first records) (late : twin.Conveys second records)
    (agreeing : ∀ one ∈ records, ∀ other ∈ records, one.id = other.id →
      one.gossip = other.gossip ∧ one.http = other.http) :
    ((table.run first).known? id).map Gossip.whereabouts =
      ((twin.run second).known? id).map Gossip.whereabouts := by
  rw [early.whereabouts, late.whereabouts, same]
  cases twin.known? id with
  | some before => rfl
  | none =>
    rw [Option.toList_none, List.nil_append, List.nil_append]
    apply head?_map_eq
    · intro record
      rw [early.mem_toldOf_iff, late.mem_toldOf_iff]
    · intro one listed other listed'
      obtain ⟨among, own⟩ := (early.mem_toldOf_iff id one).1 listed
      obtain ⟨among', own'⟩ := (early.mem_toldOf_iff id other).1 listed'
      have named := own.trans own'.symm
      obtain ⟨gossip, http⟩ := agreeing one among other among' named
      rw [Gossip.whereabouts, Gossip.whereabouts, named, gossip, http]

theorem Conveys.known?_eq (same : table.known? id = twin.known? id)
    (early : table.Conveys first records) (late : twin.Conveys second records)
    (agreeing : ∀ one ∈ records, ∀ other ∈ records, one.id = other.id →
      one.gossip = other.gossip ∧ one.http = other.http)
    (whole : ¬ table.IsTorn records id) :
    (table.run first).known? id = (twin.run second).known? id := by
  have place := early.whereabouts_eq same late agreeing
  rcases early.both same late with ⟨none, none'⟩ | ⟨member, other, known, known', level, state⟩
  · rw [none, none']
  · rw [known, known', Option.map_some, Option.map_some, Option.some.injEq] at place
    rw [known, known', eq_of_whereabouts place (state whole) level]

/-- Records that are merged one after another, each at its own time. -/
def merges (told : List (Nat × Member)) : List Event :=
  told.map fun record => .merge record.1 record.2

theorem signs_merges (told : List (Nat × Member)) :
    (merges told).flatMap Event.signs = told.map fun record => (record.1, .told record.2) := by
  rw [merges, List.flatMap_map]
  exact (List.map_eq_flatMap ..).symm

theorem not_heard_of_merges {told : List (Nat × Member)} {incarnation : UInt64} :
    .heard id incarnation ∉ ((merges told).flatMap Event.signs).map (·.2) := by
  rw [signs_merges]
  simp

theorem conveys_merges (table : Table) (told : List (Nat × Member))
    (permuted : (told.map (·.2)).Perm records) : table.Conveys (merges told) records := by
  constructor
  · rw [signs_merges]
    intro sign listed
    obtain ⟨record, -, rfl⟩ := List.mem_map.1 listed
    exact trivial
  · intro record
    rw [signs_merges, ← permuted.mem_iff]
    simp
  · exact fun id incarnation heard => absurd heard not_heard_of_merges

/-- The first of the records that are most recent, and ahead of what is known, decides whether the
member counts as dead. -/
theorem dead_iff_of_leads {now : Nat} {front : Member} {rest : List (Nat × Member)}
    (newest : ∀ record ∈ rest.map (·.2), record.id = front.id →
      record.incarnation ≤ front.incarnation)
    (ahead : ∀ known ∈ table.known? front.id, known.incarnation < front.incarnation) :
    ∃ member, (table.run (merges ((now, front) :: rest))).known? front.id = some member ∧
      (member.state = .dead ↔ front.state = .dead) := by
  have settled := (table.conveys_merges ((now, front) :: rest) (.refl _)).isSettled
    front.id fun incarnation heard => absurd heard not_heard_of_merges
  have told : toldOf front.id ((merges ((now, front) :: rest)).flatMap Event.signs) =
      front :: toldOf front.id ((merges rest).flatMap Event.signs) := by
    simp [signs_merges, toldOf, Sign.record?]
  have own : ∀ record ∈ toldOf front.id ((merges rest).flatMap Event.signs),
      record.incarnation ≤ front.incarnation := by
    intro record listed
    obtain ⟨listed, same⟩ :=
      ((table.conveys_merges rest (.refl _)).mem_toldOf_iff front.id record).1 listed
    exact newest record listed same
  rw [told] at settled
  cases known : (table.run (merges ((now, front) :: rest))).known? front.id with
  | none =>
    rw [known] at settled
    have empty : (table.known? front.id).toList ++ front :: _ = [] := settled
    simp at empty
  | some member =>
    rw [known] at settled
    exact ⟨member, rfl, Settles.dead_iff settled own ahead⟩

/-- Where reports are torn, two orders of merging them lead to different beliefs. -/
theorem IsTorn.exists_ne {id : String} (torn : table.IsTorn records id) :
    ∃ first second : List (Nat × Member),
      (first.map (·.2)).Perm records ∧ (second.map (·.2)).Perm records ∧
        ((table.run (merges first)).known? id).map Member.state ≠
          ((table.run (merges second)).known? id).map Member.state := by
  obtain ⟨dead, deadListed, other, otherListed, rfl, same, isDead, undead, level, newest, ahead⟩ :=
    torn
  have leads : ∀ front ∈ records, front.id = dead.id → front.incarnation = dead.incarnation →
      ∃ told : List (Nat × Member), (told.map (·.2)).Perm records ∧
        ∃ member, (table.run (merges told)).known? dead.id = some member ∧
          (member.state = .dead ↔ front.state = .dead) := by
    intro front listed own top
    have permuted : (front :: records.erase front).Perm records :=
      (List.perm_cons_erase listed).symm
    refine ⟨(0, front) :: (records.erase front).map (0, ·), ?_, ?_⟩
    · simpa [List.map_map, Function.comp_def] using permuted
    · rw [← own]
      apply dead_iff_of_leads
      · intro record among ofMember
        simp only [List.map_map, Function.comp_def, List.map_id'] at among
        rw [top]
        exact newest record (List.mem_of_mem_erase among) (ofMember.trans own)
      · rw [own, top]
        exact ahead
  obtain ⟨first, firstPerm, member, known, memberDead⟩ := leads dead deadListed rfl rfl
  obtain ⟨second, secondPerm, twin, twinKnown, twinDead⟩ := leads other otherListed same level
  refine ⟨first, second, firstPerm, secondPerm, ?_⟩
  rw [known, twinKnown, Option.map_some, Option.map_some, Ne, Option.some.injEq,
    memberDead.2 isDead]
  exact fun equal => undead (twinDead.1 equal.symm)

def contents (table : Table) : SortedMap String Member :=
  table.contacts.mapValues fun _ => Contact.member

theorem find?_contents (table : Table) (id : String) :
    table.contents.find? id = table.known? id :=
  SortedMap.find?_mapValues ..

theorem members_eq_values (table : Table) : table.members = table.contents.values := by
  simp [members, contents, SortedMap.values, SortedMap.mapValues]

theorem alive_eq_of_known? (same : ∀ id, table.known? id = twin.known? id) :
    table.view.alive = twin.view.alive := by
  have contents : table.contents = twin.contents :=
    SortedMap.ext_find? fun id => by rw [find?_contents, find?_contents, same]
  rw [view, view, members_eq_values, members_eq_values, contents]

/-- The same reports in two orders, such as merges of the same records, to members that know the
same before, and with records that agree on where a member is: both know the same members
afterwards, with the same incarnations, and believe the same of each unless the reports of it are
torn; if none are, both count on the same members. Torn reports are told apart by the order in
which they are merged. -/
theorem reports_converge (table twin : Table) (records : List Member)
    (same : ∀ id, table.known? id = twin.known? id)
    (agreeing : ∀ one ∈ records, ∀ other ∈ records, one.id = other.id →
      one.gossip = other.gossip ∧ one.http = other.http) :
    (∀ told : List (Nat × Member), (told.map (·.2)).Perm records →
      table.Conveys (merges told) records ∧ twin.Conveys (merges told) records) ∧
    (∀ first second, table.Conveys first records → twin.Conveys second records →
      (∀ id, ((table.run first).known? id).map Member.incarnation =
          ((twin.run second).known? id).map Member.incarnation ∧
        (¬ table.IsTorn records id →
          (table.run first).known? id = (twin.run second).known? id)) ∧
      ((∀ id, ¬ table.IsTorn records id) →
        (table.run first).view.alive = (twin.run second).view.alive)) ∧
    ∀ id, table.IsTorn records id → ∃ first second : List (Nat × Member),
      (first.map (·.2)).Perm records ∧ (second.map (·.2)).Perm records ∧
        ((table.run (merges first)).known? id).map Member.state ≠
          ((table.run (merges second)).known? id).map Member.state := by
  refine ⟨fun told permuted => ⟨?_, ?_⟩, fun first second early late => ⟨fun id => ⟨?_, ?_⟩, ?_⟩,
    fun id torn => torn.exists_ne⟩
  · exact table.conveys_merges told permuted
  · exact twin.conveys_merges told permuted
  · exact early.incarnation_eq (same id) late
  · exact early.known?_eq (same id) late agreeing
  · intro whole
    exact alive_eq_of_known? fun id => early.known?_eq (same id) late agreeing (whole id)

/-- Two members that know a third one, which is suspected. One of them is told record by record
that it is alive, and that a fourth one is dead, and the other one in an ack of the suspected member
that is ahead of what is known of it. -/
theorem reports_converge_mixed :
    let self : Member := ⟨"a", ⟨.v4 0x7F000001, 81, 0⟩, ⟨.v4 0x7F000001, 80, 0⟩, .alive, 1⟩
    let mate : Member := ⟨"b", ⟨.v4 0x7F000002, 81, 0⟩, ⟨.v4 0x7F000002, 80, 0⟩, .alive, 1⟩
    let peer : Member := ⟨"c", ⟨.v4 0x7F000003, 81, 0⟩, ⟨.v4 0x7F000003, 80, 0⟩, .suspect, 2⟩
    let well : Member := { peer with state := .alive, incarnation := 3 }
    let old : Member := { peer with state := .dead, incarnation := 1 }
    let gone : Member := ⟨"d", ⟨.v4 0x7F000004, 81, 0⟩, ⟨.v4 0x7F000004, 80, 0⟩, .dead, 3⟩
    let table := (start self 0).run [.join 1 mate, .merge 2 peer]
    let twin := (start mate 0).run [.merge 1 peer, .merge 2 self]
    let records := [old, well, gone]
    let first := merges [(3, old), (4, well), (5, gone)]
    let second : List Event := [.receive 3 peer.gossip (.ack "c" 3 [gone, well, old])]
    (∀ id, table.known? id = twin.known? id) ∧
      (∀ one ∈ records, ∀ other ∈ records, one.id = other.id →
        one.gossip = other.gossip ∧ one.http = other.http) ∧
      table.Conveys first records ∧ twin.Conveys second records ∧
      (∀ id, ¬ table.IsTorn records id) ∧
      ((table.run first).known? "c").map Member.state = some .alive ∧
      (table.run first).view.alive = (twin.run second).view.alive := by
  intro self mate peer well old gone table twin records first second
  have same : ∀ id, table.known? id = twin.known? id := by
    intro id
    have contents : table.contents = twin.contents := SortedMap.ext (by decide +kernel)
    rw [← find?_contents, contents, find?_contents]
  have agreeing : ∀ one ∈ records, ∀ other ∈ records, one.id = other.id →
      one.gossip = other.gossip ∧ one.http = other.http := by decide +kernel
  have early : table.Conveys first records :=
    ((reports_converge table twin records same agreeing).1 _ (.refl _)).1
  have known : twin.known? "c" = some peer := by decide +kernel
  have vouches : twin.Vouches records well := by
    constructor
    · simp [records]
    · rfl
    · decide +kernel
    · simp [well, peer, known]
    · simp [well, old, peer, gone, records, known]
  have late : twin.Conveys second records := by
    have told : (second.flatMap Event.signs).map (·.2) =
      [.heard "c" 3, .told gone, .told well, .told old] := rfl
    constructor
    · simp [second, Event.signs, Message.signs, Sign.IsReport]
    · intro record
      simp only [told, records, List.mem_cons, List.not_mem_nil, or_false, reduceCtorEq,
        Sign.told.injEq, false_or]
      rw [or_comm, or_assoc, or_left_comm]
    · intro id incarnation heard
      obtain ⟨rfl, rfl⟩ : id = "c" ∧ incarnation = 3 := by simpa [told] using heard
      exact .inr ⟨well, vouches, rfl, by decide⟩
  have whole : ∀ id, ¬ table.IsTorn records id := by
    have united : ∀ dead ∈ records, ∀ other ∈ records, other.id = dead.id → dead.state = .dead →
        other.state ≠ .dead → other.incarnation ≠ dead.incarnation := by decide +kernel
    rintro id ⟨dead, deadListed, other, otherListed, rfl, same, isDead, undead, level, -⟩
    exact united dead deadListed other otherListed same isDead undead level
  exact ⟨same, agreeing, early, late, whole, by decide +kernel,
    ((reports_converge table twin records same agreeing).2.1 first second early late).2 whole⟩

/-- Of a death and of a claim to the contrary, both at the first incarnation, whichever is merged
first is believed. So are they with two acks, one of which raises the incarnation of its sender
while the other one tells that the sender is suspected. -/
theorem order_of_reports_matters :
    let self : Member := ⟨"a", ⟨.v4 0x7F000001, 81, 0⟩, ⟨.v4 0x7F000001, 80, 0⟩, .alive, 1⟩
    let peer : Member := ⟨"b", ⟨.v4 0x7F000002, 81, 0⟩, ⟨.v4 0x7F000002, 80, 0⟩, .alive, 1⟩
    let dead : Event := .merge 1 { peer with state := .dead }
    let alive : Event := .merge 1 peer
    let own : Event := .receive 2 peer.gossip (.ack "b" 5 [])
    let foreign : Event :=
      .receive 2 self.gossip (.ack "c" 1 [{ peer with state := .suspect, incarnation := 3 }])
    (((start self 0).run [dead, alive]).known? "b").map Member.state = some .dead ∧
      (((start self 0).run [alive, dead]).known? "b").map Member.state = some .alive ∧
      (((start self 0).run [alive, own, foreign]).known? "b").map Member.state = some .alive ∧
      (((start self 0).run [alive, foreign, own]).known? "b").map Member.state =
        some .suspect := by
  decide +kernel

end Table

end ShardedView.Gossip
