import ShardedView.Proofs.Gossip.Claims
import ShardedView.Proofs.Gossip.Run

/-!
What is known of a member behind a row of reports.

It comes from what was known and from the records of the member in the reports, as long as no
word of the member itself is ahead of these, since it raises the incarnation and says nothing
else. A word that is ahead does no harm if the newest record says that the member is alive, and
nobody that it is dead.
-/

namespace ShardedView.Gossip

def Sign.record? (id : String) : Sign → Option Member
  | .told member => if member.id = id then some member else none
  | _ => none

def toldOf (id : String) (signs : List (Nat × Sign)) : List Member :=
  signs.filterMap (·.2.record? id)

theorem Sign.record?_eq_some_iff {id : String} {sign : Sign} {member : Member} :
    sign.record? id = some member ↔ sign = .told member ∧ member.id = id := by
  cases sign with
  | told record =>
    simp only [record?, Option.ite_none_right_eq_some, Option.some.injEq, told.injEq]
    exact ⟨fun ⟨own, same⟩ => ⟨same, same ▸ own⟩, fun ⟨same, own⟩ => ⟨same ▸ own, same⟩⟩
  | _ => simp [record?]

theorem mem_toldOf {id : String} {signs : List (Nat × Sign)} {member : Member} :
    member ∈ toldOf id signs ↔ .told member ∈ signs.map (·.2) ∧ member.id = id := by
  simp only [toldOf, List.mem_filterMap, Sign.record?_eq_some_iff, List.mem_map]
  constructor
  · rintro ⟨sign, listed, told, own⟩
    exact ⟨⟨sign, listed, told⟩, own⟩
  · rintro ⟨⟨sign, listed, told⟩, own⟩
    exact ⟨sign, listed, told, own⟩

theorem toldOf_cons (id : String) (now : Nat) (sign : Sign) (rest : List (Nat × Sign)) :
    toldOf id ((now, sign) :: rest) = (sign.record? id).toList ++ toldOf id rest := by
  rw [toldOf, List.filterMap_cons]
  cases sign.record? id <;> rfl

def whereabouts (member : Member) : String × Net.Address × Net.Address :=
  (member.id, member.gossip, member.http)

theorem eq_of_whereabouts {member other : Member}
    (place : whereabouts member = whereabouts other) (state : member.state = other.state)
    (incarnation : member.incarnation = other.incarnation) : member = other := by
  cases member
  cases other
  simp_all [whereabouts]

theorem head?_map_eq {told others : List Member}
    (mem : ∀ record, record ∈ told ↔ record ∈ others)
    (alike : ∀ one ∈ told, ∀ other ∈ told, whereabouts one = whereabouts other) :
    told.head?.map whereabouts = others.head?.map whereabouts := by
  cases told with
  | nil =>
    have empty : others = [] :=
      List.eq_nil_iff_forall_not_mem.2 fun record listed => nomatch (mem record).2 listed
    rw [empty]
  | cons one rest =>
    have nonempty : others ≠ [] := List.ne_nil_of_mem ((mem one).1 (.head _))
    obtain ⟨other, more, rfl⟩ := List.exists_cons_of_ne_nil nonempty
    exact congrArg some (alike one (.head _) other ((mem other).2 (.head _)))

namespace Table

variable {table : Table} {id : String} {sign : Sign} {signs : List (Nat × Sign)}

theorem known?_take_of_unknown (unknown : table.known? id = none) (report : sign.IsReport)
    (now : Nat) : (table.take now sign).known? id = sign.record? id := by
  have missing : table.contacts.find? id = none := Option.map_eq_none_iff.1 unknown
  cases sign with
  | heard sender incarnation =>
    simp only [known?, take, find?_change, missing, Sign.record?]
    split <;> rfl
  | told member =>
    simp only [known?, take, find?_merge, missing, Sign.record?, eq_comm]
    split <;> rfl
  | _ => exact report.elim

theorem whereabouts_takeAll (reports : ∀ sign ∈ signs, sign.2.IsReport) :
    ((table.takeAll signs).known? id).map whereabouts =
      (((table.known? id).toList ++ toldOf id signs).head?).map whereabouts := by
  induction signs generalizing table with
  | nil => cases known : table.known? id <;> simp [takeAll, toldOf, known]
  | cons head rest ih =>
    obtain ⟨now, sign⟩ := head
    have report : sign.IsReport := reports _ (.head _)
    show ((takeAll (table.take now sign) rest).known? id).map whereabouts = _
    rw [ih fun sign listed => reports sign (.tail _ listed), toldOf_cons]
    cases known : table.known? id with
    | none => rw [known?_take_of_unknown known report, Option.toList_none, List.nil_append]
    | some member =>
      obtain ⟨contact, found, rfl⟩ := known?_eq_some_iff.1 known
      obtain ⟨state, turned⟩ := exists_member_turn (not_overrides_of_report report) now contact
      rw [known?_take found now sign, turned]
      rfl

/-- A report adds what it tells. A word of the member itself adds nothing if its incarnation is
known. -/
theorem isSettled_take {claims : List Member} (settled : IsSettled claims (table.known? id))
    (report : sign.IsReport)
    (old : ∀ incarnation, sign = .heard id incarnation →
      ∀ first ∈ claims.head?, incarnation ≤ first.incarnation) (now : Nat) :
    IsSettled (claims ++ (sign.record? id).toList) ((table.take now sign).known? id) := by
  cases known : table.known? id with
  | none =>
    rw [known] at settled
    rw [known?_take_of_unknown known report, show claims = [] from settled]
    exact isSettled_toList (sign.record? id)
  | some member =>
    obtain ⟨contact, found, rfl⟩ := known?_eq_some_iff.1 known
    rw [known] at settled
    have settles : Settles claims contact.member := settled
    rw [known?_take found now sign]
    cases sign with
    | heard sender incarnation =>
      simp only [turn, Sign.record?, Option.toList_none, List.append_nil]
      split
      · next same =>
        obtain ⟨first, rest, rfl⟩ := List.exists_cons_of_ne_nil settles.ne_nil
        have below : incarnation ≤ contact.member.incarnation :=
          Std.le_trans (old incarnation (same ▸ rfl) first rfl) (settles.newest first (.head _))
        rw [Contact.member_hear, max_of_ge below]
        exact settles
      · exact settles
    | told record =>
      simp only [turn, Sign.record?]
      split
      · next same =>
        rw [if_pos same.symm]
        exact settles.merge now record
      · next different =>
        rw [if_neg (Ne.symm different), Option.toList_none, List.append_nil]
        exact settles
    | _ => exact report.elim

/-- Reports one after another: what is known of a member comes from what was known and what they
tell of it. -/
theorem isSettled_takeAll {claims : List Member} (settled : IsSettled claims (table.known? id))
    (reports : ∀ sign ∈ signs, sign.2.IsReport)
    (old : ∀ incarnation, .heard id incarnation ∈ signs.map (·.2) →
      ∀ first ∈ (claims ++ toldOf id signs).head?, incarnation ≤ first.incarnation) :
    IsSettled (claims ++ toldOf id signs) ((table.takeAll signs).known? id) := by
  induction signs generalizing table claims with
  | nil => simpa [toldOf, takeAll] using settled
  | cons head rest ih =>
    obtain ⟨now, sign⟩ := head
    rw [toldOf_cons, ← List.append_assoc] at old ⊢
    refine ih (isSettled_take settled (reports _ (.head _)) ?_ now)
      (fun sign listed => reports sign (.tail _ listed))
      (fun incarnation heard => old incarnation (.tail _ heard))
    intro incarnation same first front
    refine old incarnation (by rw [← same]; exact .head _) first ?_
    rw [List.append_assoc, List.head?_append, front]
    rfl

/-! ### Members that somebody vouches for -/

variable {claim : Member} {contact : Contact}

/-- The claim that a member is alive makes it so, unless it is dead or known with a greater
incarnation. -/
theorem turn_told_alive (alive : claim.state = .alive) (undead : contact.member.state ≠ .dead)
    (older : contact.member.incarnation ≤ claim.incarnation) (now : Nat) :
    (table.turn now claim.id contact (.told claim)).member.state = .alive ∧
      (table.turn now claim.id contact (.told claim)).member.incarnation = claim.incarnation := by
  simp only [turn, if_true, Contact.member_merge]
  refine ⟨?_, max_of_le older⟩
  simp only [Contact.stateTold, alive]
  cases state : contact.member.state with
  | alive => grind
  | suspect => grind
  | dead => exact absurd state undead

theorem turn_alive (report : sign.IsReport) (alive : contact.member.state = .alive)
    (below : sign.incarnationOf id ≤ contact.member.incarnation) (now : Nat) :
    (table.turn now id contact sign).member.state = .alive ∧
      (table.turn now id contact sign).member.incarnation = contact.member.incarnation := by
  constructor
  · cases sign with
    | heard sender incarnation =>
      simp only [turn]
      split <;> exact alive
    | told record =>
      simp only [turn]
      split
      · next same =>
        have older : record.incarnation ≤ contact.member.incarnation := by
          simpa only [Sign.incarnationOf, if_pos same] using below
        rw [Contact.member_merge]
        simp only [Contact.stateTold, alive]
        grind
      · exact alive
    | _ => exact report.elim
  · obtain ⟨state, turned⟩ := exists_member_turn (not_overrides_of_report report) now contact
    rw [turned]
    exact max_of_ge below

/-- Behind reports of a member that is not dead it is alive, with the greatest incarnation of all,
if one of them says so and none that is more recent than what is known says that it is dead. -/
theorem takeAll_of_vouched {member : Member} (known : table.known? claim.id = some member)
    (undead : member.state ≠ .dead) (older : member.incarnation ≤ claim.incarnation)
    (reports : ∀ sign ∈ signs, sign.2.IsReport)
    (below : ∀ sign ∈ signs, sign.2.incarnationOf claim.id ≤ claim.incarnation)
    (unreported : ∀ record ∈ toldOf claim.id signs, record.state = .dead →
      record.incarnation ≤ member.incarnation)
    (alive : claim.state = .alive)
    (vouched : claim ∈ toldOf claim.id signs ∨
      member.state = .alive ∧ member.incarnation = claim.incarnation) :
    ∃ last, (table.takeAll signs).known? claim.id = some last ∧ last.state = .alive ∧
      last.incarnation = claim.incarnation := by
  induction signs generalizing table member with
  | nil => exact ⟨member, known, vouched.resolve_left List.not_mem_nil⟩
  | cons head rest ih =>
    obtain ⟨now, sign⟩ := head
    obtain ⟨contact, found, rfl⟩ := known?_eq_some_iff.1 known
    have report : sign.IsReport := reports _ (.head _)
    have kept : ¬ table.Overrides claim.id sign := not_overrides_of_report report
    have own : sign.incarnationOf claim.id ≤ claim.incarnation := below _ (.head _)
    obtain ⟨state, turned⟩ := exists_member_turn kept now contact
    simp only [toldOf_cons, List.mem_append, Option.mem_toList] at unreported vouched
    refine ih (known?_take found now sign) ?_ ?_
      (fun sign listed => reports sign (.tail _ listed))
      (fun sign listed => below sign (.tail _ listed)) ?_ ?_
    · refine turn_ne_dead kept (by rintro rfl; exact report) undead ?_ now
      rintro record rfl same dead
      exact unreported record (.inl (if_pos same)) dead
    · rw [turned]
      exact max_le older own
    · intro record listed dead
      rw [turned]
      exact Std.le_trans (unreported record (.inr listed) dead) (le_max ..)
    · rcases vouched with (told | later) | ⟨lively, level⟩
      · obtain ⟨rfl, -⟩ := Sign.record?_eq_some_iff.1 told
        exact .inr (table.turn_told_alive alive undead older now)
      · exact .inl later
      · right
        have next := table.turn_alive report lively (level ▸ own) now
        exact ⟨next.1, next.2.trans level⟩

/-- So it is if nothing was known of the member and none says that it is dead. -/
theorem takeAll_of_vouched_unknown (unknown : table.known? claim.id = none)
    (reports : ∀ sign ∈ signs, sign.2.IsReport)
    (below : ∀ sign ∈ signs, sign.2.incarnationOf claim.id ≤ claim.incarnation)
    (undead : ∀ record ∈ toldOf claim.id signs, record.state ≠ .dead)
    (alive : claim.state = .alive) (vouched : claim ∈ toldOf claim.id signs) :
    ∃ last, (table.takeAll signs).known? claim.id = some last ∧ last.state = .alive ∧
      last.incarnation = claim.incarnation := by
  induction signs generalizing table with
  | nil => cases vouched
  | cons head rest ih =>
    obtain ⟨now, sign⟩ := head
    have next := known?_take_of_unknown unknown (reports _ (.head _)) now
    have reportsNext : ∀ sign ∈ rest, sign.2.IsReport :=
      fun sign listed => reports sign (.tail _ listed)
    have belowNext : ∀ sign ∈ rest, sign.2.incarnationOf claim.id ≤ claim.incarnation :=
      fun sign listed => below sign (.tail _ listed)
    simp only [toldOf_cons, List.mem_append, Option.mem_toList] at undead vouched
    cases told : sign.record? claim.id with
    | none =>
      rw [told] at next vouched
      exact ih next reportsNext belowNext (fun record listed => undead record (.inr listed))
        (vouched.resolve_left nofun)
    | some record =>
      obtain ⟨rfl, own⟩ := Sign.record?_eq_some_iff.1 told
      have older : record.incarnation ≤ claim.incarnation := by
        simpa only [Sign.incarnationOf, own, if_true] using below _ (.head _)
      show ∃ last, (takeAll (table.take now (.told record)) rest).known? claim.id = some last ∧ _
      refine takeAll_of_vouched (next.trans told) (undead record (.inl told)) older reportsNext
        belowNext (fun other listed dead => absurd dead (undead other (.inr listed))) alive ?_
      rcases vouched with first | later
      · obtain rfl : record = claim := Option.some.inj (told.symm.trans first)
        exact .inr ⟨alive, rfl⟩
      · exact .inl later

end Table

end ShardedView.Gossip
