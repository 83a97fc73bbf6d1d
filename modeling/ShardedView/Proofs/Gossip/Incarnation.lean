import ShardedView.Proofs.Gossip.Run

/-!
Which events set incarnations back.

Rumours are weighed by incarnation, so it should only ever grow. Two events let one fall: a
member is taken up anew with a smaller one, and the answer to a suspicion of the own member
goes by the own incarnation, beyond which the own entry in the table may be. All others raise
incarnations or leave them.
-/

namespace ShardedView.Gossip

namespace Table

def SetsBack (table : Table) (id : String) (incarnation : UInt64) : Sign → Prop
  | .joined newcomer => newcomer.id = id ∧ newcomer.incarnation < incarnation
  | .suspected other rumoured =>
    other = id ∧ id = table.self.id ∧ table.incarnation ≤ rumoured ∧ rumoured + 1 < incarnation
  | _ => False

theorem SetsBack.overrides {table : Table} {id : String} {incarnation : UInt64} {sign : Sign}
    (back : table.SetsBack id incarnation sign) : table.Overrides id sign := by
  cases sign with
  | joined newcomer => exact back.1
  | suspected other rumoured => exact ⟨back.1, back.2.1⟩
  | _ => exact back.elim

theorem le_incarnation_turn (table : Table) (now : Nat) (id : String) (contact : Contact)
    (sign : Sign) :
    contact.member.incarnation ≤ (table.turn now id contact sign).member.incarnation ↔
      ¬ table.SetsBack id contact.member.incarnation sign := by
  by_cases overridden : table.Overrides id sign
  · cases sign with
    | joined newcomer =>
      have same : newcomer.id = id := overridden
      simp only [turn, SetsBack, same, if_true, true_and, Std.not_lt]
      rfl
    | suspected other incarnation =>
      obtain ⟨rfl, own⟩ := overridden
      simp only [turn, SetsBack, ne_eq, not_true_eq_false, if_false, true_and]
      rw [if_neg (not_not_intro own)]
      split
      · next older =>
        exact iff_of_true (Std.le_refl _) fun back => Std.not_lt.2 back.2.1 older
      · next newer =>
        simp only [refuted, own, Std.not_lt.1 newer, true_and, Std.not_lt]
    | _ => exact overridden.elim
  · obtain ⟨state, turned⟩ := exists_member_turn overridden now contact
    rw [turned]
    exact iff_of_true (le_max ..) fun back => overridden back.overrides

/-- The greatest incarnation that a suspicion can have is answered with the least one. -/
def Overflows (table : Table) (sign : Sign) : Prop :=
  sign = .suspected table.self.id 0xFFFFFFFFFFFFFFFF ∧ 0 < table.incarnation

theorem le_incarnation_take (table : Table) (now : Nat) (sign : Sign) :
    table.incarnation ≤ (table.take now sign).incarnation ↔ ¬ table.Overflows sign := by
  rw [incarnation_take]
  cases sign with
  | suspected id incarnation =>
    simp only [Overflows, Sign.suspected.injEq]
    grind
  | _ => exact iff_of_true (Std.le_refl _) fun wraps => nomatch wraps.1

/-- A later table knows all members that an earlier one knows, and no incarnation is smaller,
the own one included. -/
structure GrowsInto (table later : Table) : Prop where
  members : ∀ id before, table.known? id = some before →
    ∃ after, later.known? id = some after ∧ before.incarnation ≤ after.incarnation
  own : table.incarnation ≤ later.incarnation

theorem GrowsInto.refl (table : Table) : table.GrowsInto table :=
  ⟨fun _ before known => ⟨before, known, Std.le_refl _⟩, Std.le_refl _⟩

theorem GrowsInto.trans {first second third : Table} (early : first.GrowsInto second)
    (late : second.GrowsInto third) : first.GrowsInto third where
  members id before known := by
    obtain ⟨between, known, grown⟩ := early.members id before known
    obtain ⟨after, known, more⟩ := late.members id between known
    exact ⟨after, known, Std.le_trans grown more⟩
  own := Std.le_trans early.own late.own

theorem exists_known?_take {table : Table} {id : String} {before : Member}
    (known : table.known? id = some before) (now : Nat) (sign : Sign) :
    ∃ after, (table.take now sign).known? id = some after ∧
      (before.incarnation ≤ after.incarnation ↔ ¬ table.SetsBack id before.incarnation sign) := by
  obtain ⟨contact, found, rfl⟩ := known?_eq_some_iff.1 known
  exact ⟨_, known?_take found now sign, table.le_incarnation_turn now id contact sign⟩

theorem not_setsBack_of_report {table : Table} {id : String} {incarnation : UInt64} {sign : Sign}
    (report : sign.IsReport) : ¬ table.SetsBack id incarnation sign :=
  fun back => not_overrides_of_report report back.overrides

theorem not_overflows_of_report {table : Table} {sign : Sign} (report : sign.IsReport) :
    ¬ table.Overflows sign := by
  rintro ⟨rfl, -⟩
  exact report

theorem growsInto_take {table : Table} {sign : Sign} (now : Nat)
    (kept : ∀ id before, table.known? id = some before →
      ¬ table.SetsBack id before.incarnation sign) (fits : ¬ table.Overflows sign) :
    table.GrowsInto (table.take now sign) where
  members id before known := by
    obtain ⟨after, next, grown⟩ := exists_known?_take known now sign
    exact ⟨after, next, grown.2 (kept id before known)⟩
  own := (table.le_incarnation_take now sign).2 fits

theorem growsInto_takeAll_of_reports {table : Table} {signs : List (Nat × Sign)}
    (reports : ∀ now sign, (now, sign) ∈ signs → sign.IsReport) :
    table.GrowsInto (table.takeAll signs) := by
  refine takeAll_induction (motive := table.GrowsInto) (.refl table) ?_
  intro later now sign listed grown
  exact grown.trans (growsInto_take now
    (fun id before _ => not_setsBack_of_report (reports now sign listed))
    (not_overflows_of_report (reports now sign listed)))

/-- Whoever is known stays known behind an event, and its incarnation is no smaller unless a
sign of the event sets it back. -/
theorem exists_known?_apply {table : Table} {id : String} {before : Member}
    (known : table.known? id = some before) (event : Event) :
    ∃ after, (table.apply event).known? id = some after ∧
      (before.incarnation ≤ after.incarnation ↔
        ¬ ∃ sign ∈ event.signs, table.SetsBack id before.incarnation sign.2) := by
  rw [apply_eq_takeAll]
  rcases event.signs_cases with ⟨now, sign, single⟩ | reports
  · simp only [single, List.mem_singleton, exists_eq_left]
    exact exists_known?_take known now sign
  · obtain ⟨after, next, grown⟩ := (growsInto_takeAll_of_reports reports).members id before known
    refine ⟨after, next, iff_of_true grown ?_⟩
    rintro ⟨⟨now, sign⟩, listed, back⟩
    exact not_setsBack_of_report (reports now sign listed) back

theorem le_incarnation_apply (table : Table) (event : Event) :
    table.incarnation ≤ (table.apply event).incarnation ↔
      ¬ ∃ sign ∈ event.signs, table.Overflows sign.2 := by
  rw [apply_eq_takeAll]
  rcases event.signs_cases with ⟨now, sign, single⟩ | reports
  · simp only [single, List.mem_singleton, exists_eq_left]
    exact table.le_incarnation_take now sign
  · refine iff_of_true (growsInto_takeAll_of_reports reports).own ?_
    rintro ⟨⟨now, sign⟩, listed, wraps⟩
    exact not_overflows_of_report (reports now sign listed) wraps

/-- The incarnations that one event leaves: those of members grow unless the member is taken up
anew with a smaller one, or is the own one and refutes a suspicion with a smaller one. The own
incarnation grows unless it overflows. -/
theorem incarnations_behind_event (table : Table) (event : Event) :
    (∀ id before, table.known? id = some before →
      ∃ after, (table.apply event).known? id = some after ∧
        (before.incarnation ≤ after.incarnation ↔
          ¬ ∃ sign ∈ event.signs, table.SetsBack id before.incarnation sign.2)) ∧
      (table.incarnation ≤ (table.apply event).incarnation ↔
        ¬ ∃ sign ∈ event.signs, table.Overflows sign.2) :=
  ⟨fun _ _ known => exists_known?_apply known event, table.le_incarnation_apply event⟩

/-- A suspected member, of which an older incarnation is reported. -/
theorem incarnations_behind_old_report :
    let self : Member := ⟨"a", ⟨.v4 0x7F000001, 81, 0⟩, ⟨.v4 0x7F000001, 80, 0⟩, .alive, 1⟩
    let peer : Member := ⟨"b", ⟨.v4 0x7F000002, 81, 0⟩, ⟨.v4 0x7F000002, 80, 0⟩, .suspect, 4⟩
    let table := (start self 0).run [.merge 1 peer]
    let event : Event :=
      .receive 2 self.gossip (.ack "c" 1 [{ peer with state := .dead, incarnation := 3 }])
    table.known? "b" = some peer ∧
      ∃ after, (table.apply event).known? "b" = some after ∧
        peer.incarnation ≤ after.incarnation := by
  intro self peer table event
  have known : table.known? "b" = some peer := by decide +kernel
  refine ⟨known, ?_⟩
  obtain ⟨after, next, grown⟩ := (incarnations_behind_event table event).1 "b" peer known
  refine ⟨after, next, grown.2 ?_⟩
  simp [event, Event.signs, Message.signs, SetsBack]

/-- A member that joins again with an old record, and one that answers a suspicion after a
report of itself with a greater incarnation than its own. -/
theorem incarnations_fall :
    let self : Member := ⟨"a", ⟨.v4 0x7F000001, 81, 0⟩, ⟨.v4 0x7F000001, 80, 0⟩, .alive, 1⟩
    let peer : Member := ⟨"b", ⟨.v4 0x7F000002, 81, 0⟩, ⟨.v4 0x7F000002, 80, 0⟩, .alive, 9⟩
    let joined := (start self 0).run [.join 1 peer]
    let reported := (start self 0).run [.merge 1 { self with incarnation := 9 }]
    (joined.known? "b").map Member.incarnation = some 9 ∧
      ((joined.apply (.receive 2 peer.gossip (.join { peer with incarnation := 3 }))).known?
        "b").map Member.incarnation = some 3 ∧
      (reported.known? "a").map Member.incarnation = some 9 ∧
      ((reported.apply (.receive 2 peer.gossip (.suspect "a" 1))).known?
        "a").map Member.incarnation = some 2 := by
  decide +kernel

def IsSetBackBy (table : Table) (event : Event) : Prop :=
  ∃ sign ∈ event.signs, table.Overflows sign.2 ∨
    ∃ id before, table.known? id = some before ∧ table.SetsBack id before.incarnation sign.2

theorem growsInto_run {table : Table} {events : List Event}
    (kept : ∀ earlier event, earlier ++ [event] <+: events →
      ¬ (table.run earlier).IsSetBackBy event) : table.GrowsInto (table.run events) := by
  induction events generalizing table with
  | nil => exact .refl table
  | cons event rest ih =>
    have first : ¬ table.IsSetBackBy event := kept [] event ⟨rest, rfl⟩
    have step : table.GrowsInto (table.apply event) := by
      constructor
      · intro id before known
        obtain ⟨after, next, grown⟩ := exists_known?_apply known event
        exact ⟨after, next, grown.2 fun ⟨sign, listed, back⟩ =>
          first ⟨sign, listed, .inr ⟨id, before, known, back⟩⟩⟩
      · exact (table.le_incarnation_apply event).2 fun ⟨sign, listed, wraps⟩ =>
          first ⟨sign, listed, .inl wraps⟩
    refine step.trans (ih fun earlier next within => ?_)
    exact kept (event :: earlier) next ((List.prefix_cons_inj event).2 within)

end Table

end ShardedView.Gossip
