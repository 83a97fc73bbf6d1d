import ShardedView.Member

/-!
A member as another one knows it, and how rumours and silence change what is
believed about it.
-/

namespace ShardedView.Gossip

structure Contact where
  member : Member
  seen : Option Nat
  deriving DecidableEq, Repr

namespace Contact

/-- In nanoseconds, as all times here are. -/
def second : Nat := 1000000000

/-- After how long a silence a member is suspected. -/
def suspectAfter : Nat := 5 * second

/-- After how long a silence a suspected member counts as dead. -/
def deadAfter : Nat := 10 * second

def met (now : Nat) (member : Member) : Contact :=
  ⟨member, some now⟩

def hear (contact : Contact) (now : Nat) (incarnation : UInt64) : Contact where
  member :=
    { contact.member with incarnation := max contact.member.incarnation incarnation }
  seen := some now

/-- Another member has told all that it knows of the member: a greater incarnation
counts, and an equal one only if it lifts a suspicion. -/
def merge (contact : Contact) (now : Nat) (told : Member) : Contact :=
  if contact.member.incarnation < told.incarnation then
    ⟨{ contact.member with state := told.state, incarnation := told.incarnation }, some now⟩
  else if told.incarnation = contact.member.incarnation ∧ told.state = .alive ∧
      contact.member.state = .suspect then
    ⟨{ contact.member with state := .alive }, some now⟩
  else contact

def suspect (contact : Contact) (incarnation : UInt64) : Contact :=
  if incarnation < contact.member.incarnation then contact
  else
    let state := if contact.member.state = .alive then .suspect else contact.member.state
    { contact with member := { contact.member with state, incarnation } }

def revive (contact : Contact) (now : Nat) (incarnation : UInt64) : Contact :=
  if contact.member.incarnation < incarnation ∨
      incarnation = contact.member.incarnation ∧ contact.member.state = .suspect then
    ⟨{ contact.member with state := .alive, incarnation }, some now⟩
  else contact

def stateAfter (silence : Nat) : MemberState → MemberState
  | .alive => if suspectAfter < silence then .suspect else .alive
  | .suspect => if deadAfter < silence then .dead else .suspect
  | .dead => .dead

/-- Looks how long the member has been silent. A silence begins no earlier than the
first look. -/
def check (contact : Contact) (now : Nat) : Contact :=
  match contact.seen with
  | none => { contact with seen := some now }
  | some seen =>
    let state := stateAfter (now - seen) contact.member.state
    { contact with member := { contact.member with state } }

def fallsSilent (contact : Contact) (now : Nat) : Bool :=
  contact.member.state = .alive ∧ (contact.check now).member.state = .suspect

end Contact

end ShardedView.Gossip
