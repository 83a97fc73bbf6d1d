import ShardedView.Gossip.Contact
import ShardedView.Gossip.Message
import ShardedView.SortedMap

/-!
What one member knows of the cluster, how messages change it, and what the member
sends in return.

A member answers the suspicion of itself with an incarnation of its own that is
greater than that of the rumour.
-/

namespace ShardedView.Gossip

/-- The members by id, among them the own one, and the own incarnation as it is
told to others. -/
structure Table where
  self : Member
  incarnation : UInt64
  contacts : SortedMap String Contact

namespace Table

def start (self : Member) (now : Nat) : Table :=
  ⟨self, 1, SortedMap.empty.insert self.id (.met now self)⟩

def announce (table : Table) (seeds : List Net.Address) : List Letter :=
  seeds.map (⟨·, .join table.self⟩)

def members (table : Table) : List Member :=
  table.contacts.values.map Contact.member

def view (table : Table) : MemberView :=
  ⟨table.self, table.members.filter (·.state = .alive)⟩

def audience (table : Table) : List Member :=
  table.view.alive.filter (·.id ≠ table.self.id)

def spread (table : Table) (message : Message) : List Letter :=
  table.audience.map (⟨·.gossip, message⟩)

/-- What the member tells of itself from time to time. -/
def ping (table : Table) : Message :=
  .ping table.self.id table.incarnation

def ack (table : Table) : Message :=
  .ack table.self.id table.incarnation table.members

def change (table : Table) (id : String) (next : Contact → Contact) : Table where
  self := table.self
  incarnation := table.incarnation
  contacts := table.contacts.mapValues fun other contact =>
    if other = id then next contact else contact

def join (table : Table) (now : Nat) (newcomer : Member) : Table :=
  { table with contacts := table.contacts.insert newcomer.id (.met now newcomer) }

def merge (table : Table) (now : Nat) (told : Member) : Table :=
  if table.contacts.contains told.id then table.change told.id (·.merge now told)
  else table.join now told

def mergeAll (table : Table) (now : Nat) (told : List Member) : Table :=
  told.foldl (·.merge now ·) table

/-- Answers the suspicion of the member itself, unless it is older than the own
incarnation. -/
def refute (table : Table) (incarnation : UInt64) : Table × List Letter :=
  if incarnation < table.incarnation then (table, [])
  else
    let incarnation := incarnation + 1
    let table := { table with incarnation }.change table.self.id fun contact =>
      { contact with member := { contact.member with state := .alive, incarnation } }
    (table, table.spread (.alive table.self.id incarnation))

def receive (table : Table) (now : Nat) (source : Net.Address) :
    Message → Table × List Letter
  | .ping sender incarnation =>
    let table := table.change sender (·.hear now incarnation)
    (table, [⟨source, table.ack⟩])
  | .ack sender incarnation members =>
    ((table.change sender (·.hear now incarnation)).mergeAll now members, [])
  | .join newcomer => (table.join now newcomer, [])
  | .suspect id incarnation =>
    if id = table.self.id then table.refute incarnation
    else (table.change id (·.suspect incarnation), [])
  | .alive id incarnation => (table.change id (·.revive now incarnation), [])

def check (table : Table) (now : Nat) : Table :=
  { table with contacts := table.contacts.mapValues fun id contact =>
      if id = table.self.id then contact else contact.check now }

def suspects (table : Table) (now : Nat) : List Member :=
  (table.contacts.filter fun id contact =>
    id ≠ table.self.id && contact.fallsSilent now).values.map Contact.member

/-- Looks for silent members, and tells the others of those that are suspected. -/
def detect (table : Table) (now : Nat) : Table × List Letter :=
  let checked := table.check now
  (checked, (table.suspects now).flatMap fun member =>
    checked.spread (.suspect member.id member.incarnation))

end Table

end ShardedView.Gossip
