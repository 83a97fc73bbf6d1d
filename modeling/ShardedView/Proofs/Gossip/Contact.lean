import ShardedView.Gossip.Contact

/-!
The member behind each change of a contact. Whatever is heard of a member, its incarnation
becomes the greater one of the known and the told, and its id and its addresses stay.
-/

namespace ShardedView.Gossip

theorem max_of_le {older newer : UInt64} (le : older ≤ newer) : max older newer = newer :=
  if_pos le

theorem max_of_ge {older newer : UInt64} (le : older ≤ newer) : max newer older = newer := by
  show (if newer ≤ older then older else newer) = newer
  split
  · next ge => exact Std.le_antisymm le ge
  · rfl

theorem le_max (incarnation other : UInt64) : incarnation ≤ max incarnation other := by
  show incarnation ≤ if incarnation ≤ other then other else incarnation
  split
  · next le => exact le
  · exact Std.le_refl _

theorem max_le {incarnation other bound : UInt64} (own : incarnation ≤ bound)
    (others : other ≤ bound) : max incarnation other ≤ bound := by
  show (if incarnation ≤ other then other else incarnation) ≤ bound
  split
  · exact others
  · exact own

theorem max_lt {incarnation other bound : UInt64} (own : incarnation < bound)
    (others : other < bound) : max incarnation other < bound := by
  show (if incarnation ≤ other then other else incarnation) < bound
  split
  · exact others
  · exact own

namespace Contact

variable (contact : Contact) (now : Nat) (incarnation : UInt64) (told : Member)

theorem member_hear : (contact.hear now incarnation).member =
    { contact.member with incarnation := max contact.member.incarnation incarnation } := rfl

/-- What is believed of a member behind the report of another one. -/
def stateTold : MemberState :=
  if contact.member.incarnation < told.incarnation then told.state
  else if told.incarnation = contact.member.incarnation ∧ told.state = .alive ∧
      contact.member.state = .suspect then .alive
  else contact.member.state

theorem member_merge : (contact.merge now told).member =
    { contact.member with
      state := contact.stateTold told
      incarnation := max contact.member.incarnation told.incarnation } := by
  unfold merge stateTold
  split
  · next newer => rw [max_of_le (Std.le_of_lt newer)]
  · next older =>
    rw [max_of_ge (Std.not_lt.1 older)]
    split <;> rfl

theorem member_suspect : (contact.suspect incarnation).member =
    { contact.member with
      state := if ¬ incarnation < contact.member.incarnation ∧ contact.member.state = .alive
        then .suspect else contact.member.state
      incarnation := max contact.member.incarnation incarnation } := by
  unfold suspect
  split
  · next older => simp [max_of_ge (Std.le_of_lt older), older]
  · next newer => simp [max_of_le (Std.not_lt.1 newer), newer]

theorem member_revive : (contact.revive now incarnation).member =
    { contact.member with
      state := if contact.member.incarnation < incarnation ∨
          incarnation = contact.member.incarnation ∧ contact.member.state = .suspect
        then .alive else contact.member.state
      incarnation := max contact.member.incarnation incarnation } := by
  unfold revive
  split
  · next taken =>
    have newer : contact.member.incarnation ≤ incarnation := by
      rcases taken with newer | ⟨same, -⟩
      · exact Std.le_of_lt newer
      · exact Std.le_of_eq same.symm
    rw [max_of_le newer]
  · next ignored =>
    have older : ¬ contact.member.incarnation < incarnation := fun newer => ignored (.inl newer)
    rw [max_of_ge (Std.not_lt.1 older)]

/-- A look at how long a member has been silent changes no more than what is believed of it. -/
theorem exists_member_check :
    ∃ state, (contact.check now).member = { contact.member with state } := by
  unfold check
  split
  · exact ⟨contact.member.state, rfl⟩
  · exact ⟨_, rfl⟩

end Contact

end ShardedView.Gossip
