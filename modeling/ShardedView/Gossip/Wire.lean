import ShardedView.Gossip.Format
import ShardedView.Gossip.Message

/-!
Messages as the bytes of a datagram. Bytes behind the message are ignored.
-/

namespace ShardedView.Gossip

namespace Format

/-- A socket address: four or sixteen octets, then the number of the service. A
scope is not written. -/
def address : Format Net.Address where
  write address :=
    (match address.ip with
      | .v4 bits => tag.write 0 ++ (big 4).write bits.toNat
      | .v6 bits => tag.write 1 ++ (big 16).write bits.toNat) ++
    halfWord.write address.portNumber
  read? bytes := do
    let (form, rest) ← tag.read? bytes
    let (ip, rest) ←
      match form with
      | 0 => ((big 4).read? rest).map fun (number, rest) =>
        (Net.IpAddress.v4 (.ofNat _ number), rest)
      | 1 => ((big 16).read? rest).map fun (number, rest) =>
        (Net.IpAddress.v6 (.ofNat _ number), rest)
      | _ => none
    let (number, rest) ← halfWord.read? rest
    return (⟨ip, number, 0⟩, rest)

def state : Format MemberState :=
  tag.of
    (fun
      | .alive => 0
      | .suspect => 1
      | .dead => 2)
    (fun
      | 0 => some .alive
      | 1 => some .suspect
      | 2 => some .dead
      | _ => none)

def member : Format Member :=
  (text.pair (address.pair (address.pair (state.pair word)))).of
    (fun member => (member.id, member.gossip, member.http, member.state, member.incarnation))
    (fun (id, gossip, http, state, incarnation) => some ⟨id, gossip, http, state, incarnation⟩)

def claim : Format (String × UInt64) :=
  text.pair word

def message : Format Message where
  write
    | .ping sender incarnation => tag.write 0 ++ claim.write (sender, incarnation)
    | .ack sender incarnation members =>
      tag.write 1 ++ (claim.pair member.list).write ((sender, incarnation), members)
    | .join newcomer => tag.write 2 ++ member.write newcomer
    | .suspect id incarnation => tag.write 3 ++ claim.write (id, incarnation)
    | .alive id incarnation => tag.write 4 ++ claim.write (id, incarnation)
  read? bytes := do
    let (form, rest) ← tag.read? bytes
    match form with
    | 0 => (claim.read? rest).map fun ((sender, incarnation), rest) =>
      (.ping sender incarnation, rest)
    | 1 => ((claim.pair member.list).read? rest).map fun (((sender, incarnation), members), rest) =>
      (.ack sender incarnation members, rest)
    | 2 => (member.read? rest).map fun (newcomer, rest) => (.join newcomer, rest)
    | 3 => (claim.read? rest).map fun ((id, incarnation), rest) => (.suspect id incarnation, rest)
    | 4 => (claim.read? rest).map fun ((id, incarnation), rest) => (.alive id incarnation, rest)
    | _ => none

end Format

namespace Message

def encode (message : Message) : Bytes :=
  Format.message.write message

def decode? (bytes : Bytes) : Option Message :=
  (Format.message.read? bytes).map (·.1)

end Message

end ShardedView.Gossip
