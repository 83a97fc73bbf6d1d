import ShardedView.Gossip.Wire
import ShardedView.Proofs.Gossip.Format

/-!
Messages against the bytes of a datagram. A message is read back from what it is written as,
whatever follows, and nothing else than what is written is read as a message.
-/

namespace ShardedView.Gossip

/-- A member whose bytes tell all of it: a scope is not written. -/
structure Tells (member : Member) : Prop where
  id : Format.IsShort member.id
  gossip : member.gossip.scope = 0
  http : member.http.scope = 0

namespace Format

/-- What is behind the tag of an address: the octets of a host and the number of the service. -/
theorem host_eq_some_iff (width : Nat) (ip : Nat → Net.IpAddress) {bytes : Bytes}
    {address : Net.Address} {rest : Bytes} :
    (do
      let (ip, rest) ← ((big width).read? bytes).map fun (number, rest) => (ip number, rest)
      let (number, rest) ← halfWord.read? rest
      return ((⟨ip, number, 0⟩ : Net.Address), rest)) = some (address, rest) ↔
    ∃ number service, number < Nat.pow 256 width ∧
      bytes = (big width).write number ++ (halfWord.write service ++ rest) ∧
      address = ⟨ip number, service, 0⟩ := by
  simp only [Option.bind_eq_bind, Option.bind_eq_some_iff]
  constructor
  · rintro ⟨⟨host, behind⟩, octets, ⟨service, after⟩, last, ⟨⟩⟩
    obtain ⟨number, ⟨small, rfl⟩, rfl⟩ := ((isExact_big width).map_eq_some_iff ip ..).1 octets
    obtain ⟨-, rfl⟩ := (isExact_halfWord ..).1 last
    exact ⟨number, service, small, rfl, rfl⟩
  · rintro ⟨number, service, small, rfl, rfl⟩
    exact ⟨_, ((isExact_big width).map_eq_some_iff ip ..).2 ⟨number, ⟨small, rfl⟩, rfl⟩,
      _, (isExact_halfWord ..).2 ⟨trivial, rfl⟩, rfl⟩

theorem isExact_address : address.IsExact (·.scope = 0) := by
  rintro bytes address rest
  refine tag_bind_eq_some_iff.trans ?_
  constructor
  · rintro ⟨_ | _ | form, body, ⟨-, rfl⟩, done⟩
    · obtain ⟨number, service, small, rfl, rfl⟩ := (host_eq_some_iff 4 (.v4 <| .ofNat _ ·)).1 done
      refine ⟨rfl, ?_⟩
      simp [Format.address, BitVec.toNat_ofNat, Nat.mod_eq_of_lt small]
    · obtain ⟨number, service, small, rfl, rfl⟩ := (host_eq_some_iff 16 (.v6 <| .ofNat _ ·)).1 done
      refine ⟨rfl, ?_⟩
      simp [Format.address, BitVec.toNat_ofNat, Nat.mod_eq_of_lt small]
    · contradiction
  · rintro ⟨unscoped, rfl⟩
    obtain ⟨ip, service, scope⟩ := address
    obtain rfl : scope = 0 := unscoped
    cases ip with
    | v4 bits =>
      have small : bits.toNat < Nat.pow 256 4 := bits.isLt
      have same : BitVec.ofNat 32 bits.toNat = bits := by simp
      exact ⟨0, _, ⟨by decide, by simp [Format.address]⟩,
        (host_eq_some_iff 4 (.v4 <| .ofNat _ ·)).2 ⟨bits.toNat, service, small, rfl, by rw [same]⟩⟩
    | v6 bits =>
      have small : bits.toNat < Nat.pow 256 16 := bits.isLt
      have same : BitVec.ofNat 128 bits.toNat = bits := by simp
      exact ⟨1, _, ⟨by decide, by simp [Format.address]⟩,
        (host_eq_some_iff 16 (.v6 <| .ofNat _ ·)).2
          ⟨bits.toNat, service, small, rfl, by rw [same]⟩⟩

theorem isExact_state : state.IsExact fun _ => True := by
  apply isExact_tag.of
  intro number value
  constructor
  · rintro ⟨-, meant⟩
    split at meant <;> cases meant <;> exact ⟨trivial, rfl⟩
  · rintro ⟨-, rfl⟩
    cases value <;> exact ⟨by decide, rfl⟩

theorem isExact_member : member.IsExact Tells := by
  apply (isExact_text.pair (isExact_address.pair
    (isExact_address.pair (isExact_state.pair isExact_word)))).of
  rintro ⟨id, gossip, http, state, incarnation⟩ value
  constructor
  · rintro ⟨⟨short, near, far, -, -⟩, ⟨⟩⟩
    exact ⟨⟨short, near, far⟩, rfl⟩
  · rintro ⟨⟨short, near, far⟩, ⟨⟩⟩
    exact ⟨⟨short, near, far, trivial, trivial⟩, rfl⟩

theorem isExact_claim : claim.IsExact fun value => IsShort value.1 ∧ True :=
  isExact_text.pair isExact_word

end Format

/-- The messages whose texts and members can be counted and whose members have no scope. -/
def Message.IsTellable : Message → Prop
  | ping sender _ => Format.IsShort sender
  | ack sender _ members =>
    Format.IsShort sender ∧ members.length < UInt64.size ∧ ∀ member ∈ members, Tells member
  | join newcomer => Tells newcomer
  | suspect id _ => Format.IsShort id
  | alive id _ => Format.IsShort id

namespace Format

theorem isExact_message : message.IsExact Message.IsTellable := by
  have ping := isExact_claim.map_eq_some_iff fun value => Message.ping value.1 value.2
  have ack := (isExact_claim.pair isExact_member.list).map_eq_some_iff
    fun value => Message.ack value.1.1 value.1.2 value.2
  have join := isExact_member.map_eq_some_iff Message.join
  have suspect := isExact_claim.map_eq_some_iff fun value => Message.suspect value.1 value.2
  have alive := isExact_claim.map_eq_some_iff fun value => Message.alive value.1 value.2
  intro bytes told rest
  refine tag_bind_eq_some_iff.trans ?_
  constructor
  · rintro ⟨_ | _ | _ | _ | _ | form, body, ⟨-, rfl⟩, done⟩
    · obtain ⟨value, ⟨fit, rfl⟩, rfl⟩ := (ping ..).1 done
      exact ⟨fit.1, (List.append_assoc ..).symm⟩
    · obtain ⟨value, ⟨fit, rfl⟩, rfl⟩ := (ack ..).1 done
      exact ⟨⟨fit.1.1, fit.2⟩, (List.append_assoc ..).symm⟩
    · obtain ⟨value, ⟨fit, rfl⟩, rfl⟩ := (join ..).1 done
      exact ⟨fit, (List.append_assoc ..).symm⟩
    · obtain ⟨value, ⟨fit, rfl⟩, rfl⟩ := (suspect ..).1 done
      exact ⟨fit.1, (List.append_assoc ..).symm⟩
    · obtain ⟨value, ⟨fit, rfl⟩, rfl⟩ := (alive ..).1 done
      exact ⟨fit.1, (List.append_assoc ..).symm⟩
    · contradiction
  · rintro ⟨fit, rfl⟩
    cases told with
    | ping sender incarnation =>
      exact ⟨0, _, ⟨by decide, List.append_assoc ..⟩,
        (ping ..).2 ⟨(sender, incarnation), ⟨⟨fit, trivial⟩, rfl⟩, rfl⟩⟩
    | ack sender incarnation members =>
      exact ⟨1, _, ⟨by decide, List.append_assoc ..⟩,
        (ack ..).2 ⟨((sender, incarnation), members), ⟨⟨⟨fit.1, trivial⟩, fit.2⟩, rfl⟩, rfl⟩⟩
    | join newcomer =>
      exact ⟨2, _, ⟨by decide, List.append_assoc ..⟩, (join ..).2 ⟨newcomer, ⟨fit, rfl⟩, rfl⟩⟩
    | suspect id incarnation =>
      exact ⟨3, _, ⟨by decide, List.append_assoc ..⟩,
        (suspect ..).2 ⟨(id, incarnation), ⟨⟨fit, trivial⟩, rfl⟩, rfl⟩⟩
    | alive id incarnation =>
      exact ⟨4, _, ⟨by decide, List.append_assoc ..⟩,
        (alive ..).2 ⟨(id, incarnation), ⟨⟨fit, trivial⟩, rfl⟩, rfl⟩⟩

end Format

namespace Message

/-- Bytes are read as a message exactly if it can be told and they begin with what it is written
as. A time of contact is no part of what is told of a member, so none is read. -/
theorem decode?_eq_some_iff (bytes : Bytes) (message : Message) :
    decode? bytes = some message ↔ message.IsTellable ∧ message.encode <+: bytes := by
  unfold decode?
  rw [Option.map_eq_some_iff]
  constructor
  · rintro ⟨⟨told, rest⟩, done, rfl⟩
    obtain ⟨tellable, rfl⟩ := (Format.isExact_message ..).1 done
    exact ⟨tellable, rest, rfl⟩
  · rintro ⟨tellable, rest, rfl⟩
    exact ⟨(message, rest), (Format.isExact_message ..).2 ⟨tellable, rfl⟩, rfl⟩

/-- The answer to a ping, with more bytes behind it. -/
example :
    let member : Member := ⟨"ä", ⟨.v4 0x7F000001, 7000, 0⟩, ⟨.v6 1, 80, 0⟩, .suspect, 3⟩
    decode? ((ack "a" 1 [member]).encode ++ [255]) = some (ack "a" 1 [member]) := by
  decide +kernel

end Message

end ShardedView.Gossip
