import ShardedView.Gossip.Table
import ShardedView.Proofs.Gossip.Contact
import ShardedView.Proofs.SortedMap

/-!
Runs of a member that gossips, and what they do to what is known of one member.

Every event is a row of signs, each of a single member or a look at all of them: an ack is a
sign of life of its sender and then a report of each member in it. What a sign does is said
once (`find?_take`), and what holds along a run follows by induction on its signs.
-/

namespace ShardedView.Gossip

inductive Event
  | receive (now : Nat) (source : Net.Address) (message : Message)
  | merge (now : Nat) (told : Member)
  | join (now : Nat) (newcomer : Member)
  | detect (now : Nat)

inductive Sign
  /-- A word of the member itself. -/
  | heard (id : String) (incarnation : UInt64)
  /-- All that another one knows of the member. -/
  | told (member : Member)
  | joined (newcomer : Member)
  | suspected (id : String) (incarnation : UInt64)
  | claimed (id : String) (incarnation : UInt64)
  /-- A look for members that have been silent. -/
  | silence
  deriving DecidableEq

def Message.signs : Message → List Sign
  | .ping sender incarnation => [.heard sender incarnation]
  | .ack sender incarnation members => .heard sender incarnation :: members.map .told
  | .join newcomer => [.joined newcomer]
  | .suspect id incarnation => [.suspected id incarnation]
  | .alive id incarnation => [.claimed id incarnation]

def Event.signs : Event → List (Nat × Sign)
  | .receive now _ message => message.signs.map (now, ·)
  | .merge now told => [(now, .told told)]
  | .join now newcomer => [(now, .joined newcomer)]
  | .detect now => [(now, .silence)]

/-- The incarnation that a sign has of a member, or the least one if it has none. -/
def Sign.incarnationOf (id : String) : Sign → UInt64
  | .heard other incarnation | .suspected other incarnation | .claimed other incarnation =>
    if id = other then incarnation else 0
  | .told member => if id = member.id then member.incarnation else 0
  | .joined _ | .silence => 0

/-- A word of a member itself, or of another one about it, as acks consist of. -/
def Sign.IsReport : Sign → Prop
  | .heard _ _ | .told _ => True
  | _ => False

theorem Event.signs_cases (event : Event) :
    (∃ now sign, event.signs = [(now, sign)]) ∨
      ∀ now sign, (now, sign) ∈ event.signs → sign.IsReport := by
  cases event with
  | receive now source message =>
    cases message with
    | ack sender incarnation members =>
      right
      intro time sign listed
      simp only [signs, Message.signs, List.map_cons, List.map_map, List.mem_cons, List.mem_map,
        Prod.mk.injEq, Function.comp_apply] at listed
      rcases listed with ⟨-, rfl⟩ | ⟨member, -, -, rfl⟩ <;> exact trivial
    | ping sender incarnation => exact .inl ⟨now, _, rfl⟩
    | join newcomer => exact .inl ⟨now, _, rfl⟩
    | suspect id incarnation => exact .inl ⟨now, _, rfl⟩
    | alive id incarnation => exact .inl ⟨now, _, rfl⟩
  | merge now told => exact .inl ⟨now, _, rfl⟩
  | join now newcomer => exact .inl ⟨now, _, rfl⟩
  | detect now => exact .inl ⟨now, _, rfl⟩

namespace Table

def apply (table : Table) : Event → Table
  | .receive now source message => (table.receive now source message).1
  | .merge now told => table.merge now told
  | .join now newcomer => table.join now newcomer
  | .detect now => (table.detect now).1

def run (table : Table) (events : List Event) : Table :=
  events.foldl apply table

def take (table : Table) (now : Nat) : Sign → Table
  | .heard sender incarnation => table.change sender (·.hear now incarnation)
  | .told member => table.merge now member
  | .joined newcomer => table.join now newcomer
  | .suspected id incarnation =>
    if id = table.self.id then (table.refute incarnation).1
    else table.change id (·.suspect incarnation)
  | .claimed id incarnation => table.change id (·.revive now incarnation)
  | .silence => table.check now

def takeAll (table : Table) (signs : List (Nat × Sign)) : Table :=
  signs.foldl (fun table sign => table.take sign.1 sign.2) table

theorem takeAll_append (table : Table) (first second : List (Nat × Sign)) :
    table.takeAll (first ++ second) = (table.takeAll first).takeAll second :=
  List.foldl_append

theorem apply_eq_takeAll (table : Table) (event : Event) :
    table.apply event = table.takeAll event.signs := by
  cases event with
  | receive now source message =>
    cases message with
    | ack sender incarnation members =>
      simp only [apply, receive, mergeAll, takeAll, Event.signs, Message.signs, List.map_cons,
        List.map_map, List.foldl_cons, List.foldl_map, Function.comp_apply, take]
    | suspect id incarnation =>
      simp only [apply, receive, takeAll, Event.signs, Message.signs, List.map_cons, List.map_nil,
        List.foldl_cons, List.foldl_nil, take]
      split <;> rfl
    | ping sender incarnation => rfl
    | join newcomer => rfl
    | alive id incarnation => rfl
  | merge now told => rfl
  | join now newcomer => rfl
  | detect now => rfl

theorem run_eq_takeAll (table : Table) (events : List Event) :
    table.run events = table.takeAll (events.flatMap Event.signs) := by
  induction events generalizing table with
  | nil => rfl
  | cons event rest ih =>
    rw [run, List.foldl_cons, ← run, ih, apply_eq_takeAll, List.flatMap_cons, takeAll_append]

theorem takeAll_induction {motive : Table → Prop} {table : Table} {signs : List (Nat × Sign)}
    (initial : motive table)
    (preserved : ∀ table now sign, (now, sign) ∈ signs → motive table →
      motive (table.take now sign)) : motive (table.takeAll signs) := by
  induction signs generalizing table with
  | nil => exact initial
  | cons sign rest ih =>
    exact ih (preserved table sign.1 sign.2 (.head _) initial) fun table now sign later =>
      preserved table now sign (.tail _ later)

/-! ### What is known of one member -/

/-- What is known of a member, but for when there was a sign of it. -/
def known? (table : Table) (id : String) : Option Member :=
  (table.contacts.find? id).map Contact.member

theorem known?_eq_some_iff {table : Table} {id : String} {member : Member} :
    table.known? id = some member ↔
      ∃ contact, table.contacts.find? id = some contact ∧ contact.member = member :=
  Option.map_eq_some_iff

theorem find?_change (table : Table) (id other : String) (next : Contact → Contact) :
    (table.change id next).contacts.find? other =
      if other = id then (table.contacts.find? other).map next
      else table.contacts.find? other := by
  rw [change, SortedMap.find?_mapValues]
  split
  · rfl
  · exact Option.map_id'

theorem find?_join (table : Table) (now : Nat) (newcomer : Member) (id : String) :
    (table.join now newcomer).contacts.find? id =
      if id = newcomer.id then some (.met now newcomer) else table.contacts.find? id :=
  SortedMap.find?_insert ..

theorem find?_merge (table : Table) (now : Nat) (told : Member) (id : String) :
    (table.merge now told).contacts.find? id =
      if id = told.id then
        some (((table.contacts.find? id).map (·.merge now told)).getD (.met now told))
      else table.contacts.find? id := by
  unfold merge
  split
  · next known =>
    rw [find?_change]
    split
    · next same =>
      obtain ⟨contact, found⟩ := Option.isSome_iff_exists.1 (same ▸ known)
      rw [found]
      rfl
    · rfl
  · next unknown =>
    rw [find?_join]
    split
    · next same =>
      have missing : table.contacts.find? id = none := by
        rw [same]
        simpa [SortedMap.contains] using unknown
      rw [missing]
      rfl
    · rfl

theorem find?_check (table : Table) (now : Nat) (id : String) :
    (table.check now).contacts.find? id = (table.contacts.find? id).map fun contact =>
      if id = table.self.id then contact else contact.check now :=
  SortedMap.find?_mapValues ..

/-- What a member has of itself behind the answer to a suspicion. -/
def refuted (contact : Contact) (incarnation : UInt64) : Contact :=
  { contact with member := { contact.member with state := .alive, incarnation } }

theorem find?_refute (table : Table) (incarnation : UInt64) (id : String) :
    (table.refute incarnation).1.contacts.find? id =
      if id = table.self.id ∧ ¬ incarnation < table.incarnation then
        (table.contacts.find? id).map (refuted · (incarnation + 1))
      else table.contacts.find? id := by
  unfold refute
  split
  · next older => rw [if_neg fun both => both.2 older]
  · next newer =>
    simp only [newer, not_false_eq_true, and_true]
    exact find?_change ..

/-- What a sign makes of what is known of a member. The own one is not looked at, and a
suspicion of it is answered. -/
def turn (table : Table) (now : Nat) (id : String) (contact : Contact) : Sign → Contact
  | .heard sender incarnation => if id = sender then contact.hear now incarnation else contact
  | .told member => if id = member.id then contact.merge now member else contact
  | .joined newcomer => if id = newcomer.id then .met now newcomer else contact
  | .suspected other incarnation =>
    if id ≠ other then contact
    else if id ≠ table.self.id then contact.suspect incarnation
    else if incarnation < table.incarnation then contact
    else refuted contact (incarnation + 1)
  | .claimed other incarnation => if id = other then contact.revive now incarnation else contact
  | .silence => if id = table.self.id then contact else contact.check now

theorem find?_take {table : Table} {id : String} {contact : Contact}
    (found : table.contacts.find? id = some contact) (now : Nat) (sign : Sign) :
    (table.take now sign).contacts.find? id = some (table.turn now id contact sign) := by
  cases sign with
  | heard sender incarnation =>
    simp only [take, turn, find?_change, found]
    split <;> rfl
  | told member =>
    simp only [take, turn, find?_merge, found]
    split <;> rfl
  | joined newcomer =>
    simp only [take, turn, find?_join, found]
    split <;> rfl
  | suspected other incarnation =>
    simp only [take, turn]
    split
    · next own =>
      simp only [find?_refute, found, own]
      grind
    · next foreign =>
      simp only [find?_change, found]
      grind
  | claimed other incarnation =>
    simp only [take, turn, find?_change, found]
    split <;> rfl
  | silence =>
    simp only [take, turn, find?_check, found]
    rfl

theorem known?_take {table : Table} {id : String} {contact : Contact}
    (found : table.contacts.find? id = some contact) (now : Nat) (sign : Sign) :
    (table.take now sign).known? id = some (table.turn now id contact sign).member :=
  known?_eq_some_iff.2 ⟨_, find?_take found now sign, rfl⟩

/-- The member is taken up anew, or it is the own one, which answers suspicions. -/
def Overrides (table : Table) (id : String) : Sign → Prop
  | .joined newcomer => newcomer.id = id
  | .suspected other _ => other = id ∧ id = table.self.id
  | _ => False

/-- Any other sign keeps the id and the addresses of the member, and the greater one of the known
incarnation and its own. -/
theorem exists_member_turn {table : Table} {id : String} {sign : Sign}
    (kept : ¬ table.Overrides id sign) (now : Nat) (contact : Contact) :
    ∃ state, (table.turn now id contact sign).member =
      { contact.member with
        state, incarnation := max contact.member.incarnation (sign.incarnationOf id) } := by
  have same : ∃ state, contact.member =
      { contact.member with state, incarnation := max contact.member.incarnation 0 } :=
    ⟨contact.member.state, by rw [max_of_ge UInt64.zero_le]⟩
  cases sign with
  | heard sender incarnation =>
    simp only [turn, Sign.incarnationOf]
    split
    · exact ⟨_, contact.member_hear now incarnation⟩
    · exact same
  | told member =>
    simp only [turn, Sign.incarnationOf]
    split
    · exact ⟨_, contact.member_merge now member⟩
    · exact same
  | joined newcomer =>
    simp only [turn, Sign.incarnationOf]
    rw [if_neg (Ne.symm kept)]
    exact same
  | suspected other incarnation =>
    simp only [turn, Sign.incarnationOf, ite_not]
    split
    · next named =>
      rw [if_neg fun own => kept ⟨named.symm, own⟩]
      exact ⟨_, contact.member_suspect incarnation⟩
    · exact same
  | claimed other incarnation =>
    simp only [turn, Sign.incarnationOf]
    split
    · exact ⟨_, contact.member_revive now incarnation⟩
    · exact same
  | silence =>
    simp only [turn, Sign.incarnationOf, max_of_ge UInt64.zero_le]
    split
    · exact ⟨contact.member.state, rfl⟩
    · exact contact.exists_member_check now

theorem not_overrides_of_report {table : Table} {id : String} {sign : Sign}
    (report : sign.IsReport) : ¬ table.Overrides id sign := by
  cases sign with
  | heard sender incarnation => exact False.elim
  | told member => exact False.elim
  | _ => exact report.elim

/-- Nobody dies of such a sign but by a report of its death that is more recent than what is
known. -/
theorem turn_ne_dead {table : Table} {id : String} {contact : Contact} {sign : Sign}
    (kept : ¬ table.Overrides id sign) (sounds : sign ≠ .silence)
    (undead : contact.member.state ≠ .dead)
    (unreported : ∀ told, sign = .told told → told.id = id → told.state = .dead →
      told.incarnation ≤ contact.member.incarnation) (now : Nat) :
    (table.turn now id contact sign).member.state ≠ .dead := by
  cases sign with
  | heard sender incarnation =>
    simp only [turn]
    split <;> exact undead
  | told member =>
    simp only [turn]
    split
    · next same =>
      rw [Contact.member_merge]
      simp only [Contact.stateTold]
      split
      · next newer =>
        exact fun dead => Std.not_lt.2 (unreported member rfl same.symm dead) newer
      · split
        · nofun
        · exact undead
    · exact undead
  | joined newcomer =>
    simp only [turn]
    rw [if_neg (Ne.symm kept)]
    exact undead
  | suspected other incarnation =>
    simp only [turn, ite_not]
    split
    · next named =>
      rw [if_neg fun own => kept ⟨named.symm, own⟩, Contact.member_suspect]
      show (if _ then _ else _) ≠ MemberState.dead
      split
      · nofun
      · exact undead
    · exact undead
  | claimed other incarnation =>
    simp only [turn]
    split
    · rw [Contact.member_revive]
      show (if _ then _ else _) ≠ MemberState.dead
      split
      · nofun
      · exact undead
    · exact undead
  | silence => exact absurd rfl sounds

theorem self_take (table : Table) (now : Nat) (sign : Sign) :
    (table.take now sign).self = table.self := by
  cases sign with
  | told member =>
    simp only [take, merge]
    split <;> rfl
  | suspected other incarnation =>
    simp only [take, refute]
    split
    · split <;> rfl
    · rfl
  | _ => rfl

theorem self_takeAll (table : Table) (signs : List (Nat × Sign)) :
    (table.takeAll signs).self = table.self :=
  takeAll_induction (motive := fun later => later.self = table.self) rfl
    fun later now sign _ same => (self_take later now sign).trans same

/-- The own incarnation changes with the answer to a suspicion, and with nothing else. -/
theorem incarnation_take (table : Table) (now : Nat) (sign : Sign) :
    (table.take now sign).incarnation =
      match sign with
      | .suspected id incarnation =>
        if id = table.self.id ∧ ¬ incarnation < table.incarnation then incarnation + 1
        else table.incarnation
      | _ => table.incarnation := by
  cases sign with
  | told member =>
    simp only [take, merge]
    split <;> rfl
  | suspected other incarnation =>
    simp only [take, refute]
    grind [change]
  | _ => rfl

end Table

end ShardedView.Gossip
