import ShardedView.Gossip.Format
import ShardedView.Proofs.Bytes
import ShardedView.Proofs.Text.Utf8

/-!
Formats against the bytes that they write. Reading takes a value from the front of exactly those
byte strings that begin with what the value is written as, and each way to put formats together
keeps this.
-/

namespace ShardedView

namespace Gossip.Format

variable {α β : Type}

/-- The values that fit, and no others, are read, each from what it is written as and whatever
follows. -/
def IsExact (format : Format α) (fits : α → Prop) : Prop :=
  ∀ bytes value rest, format.read? bytes = some (value, rest) ↔
    fits value ∧ bytes = format.write value ++ rest

theorem split?_eq_some_iff {width : Nat} {bytes front rest : Bytes} :
    split? width bytes = some (front, rest) ↔ front.length = width ∧ bytes = front ++ rest := by
  unfold split?
  constructor
  · intro done
    split at done
    case isTrue enough =>
      cases done
      exact ⟨List.length_take_of_le enough, (List.take_append_drop ..).symm⟩
    case isFalse => contradiction
  · rintro ⟨rfl, rfl⟩
    simp

theorem isExact_of_digits {format : Format Nat} {width : Nat} {spell : Bytes → Nat}
    (reads : ∀ bytes, format.read? bytes =
      (split? width bytes).map fun (front, rest) => (spell front, rest))
    (length : ∀ number, (format.write number).length = width)
    (back : ∀ number < Nat.pow 256 width, spell (format.write number) = number)
    (small : ∀ bytes : Bytes, bytes.length = width → spell bytes < Nat.pow 256 width)
    (same : ∀ bytes : Bytes, bytes.length = width → format.write (spell bytes) = bytes) :
    format.IsExact (· < Nat.pow 256 width) := by
  intro bytes number rest
  rw [reads, Option.map_eq_some_iff]
  constructor
  · rintro ⟨⟨front, rest⟩, done, ⟨⟩⟩
    obtain ⟨wide, rfl⟩ := split?_eq_some_iff.1 done
    exact ⟨small front wide, by rw [same front wide]⟩
  · rintro ⟨less, rfl⟩
    exact ⟨(format.write number, rest), split?_eq_some_iff.2 ⟨length number, rfl⟩,
      Prod.ext (back number less) rfl⟩

theorem isExact_little (width : Nat) : (little width).IsExact (· < Nat.pow 256 width) := by
  apply isExact_of_digits (fun _ => rfl)
  · exact Bytes.length_ofNatLittle width
  · intro number less
    exact (Bytes.toNatLittle_ofNatLittle ..).trans (Nat.mod_eq_of_lt less)
  · rintro bytes rfl
    exact Bytes.toNatLittle_lt bytes
  · rintro bytes rfl
    exact Bytes.ofNatLittle_toNatLittle bytes

theorem isExact_big (width : Nat) : (big width).IsExact (· < Nat.pow 256 width) := by
  apply isExact_of_digits (fun _ => rfl)
  · exact Bytes.length_ofNatBig width
  · intro number less
    exact (Bytes.toNatBig_ofNatBig ..).trans (Nat.mod_eq_of_lt less)
  · rintro bytes rfl
    exact Bytes.toNatBig_lt bytes
  · rintro bytes rfl
    exact Bytes.ofNatBig_toNatBig bytes

/-- Values that stand for others are read where these are and can be taken for one. -/
theorem IsExact.of {format : Format α} {fits : α → Prop} (exact : format.IsExact fits)
    {toOther : β → α} {ofOther? : α → Option β} {suits : β → Prop}
    (stands : ∀ other value, fits other ∧ ofOther? other = some value ↔
      suits value ∧ other = toOther value) :
    (format.of toOther ofOther?).IsExact suits := by
  intro bytes value rest
  have read : (format.of toOther ofOther?).read? bytes = some (value, rest) ↔
      ∃ other, format.read? bytes = some (other, rest) ∧ ofOther? other = some value := by
    simp only [Format.of, Option.bind_eq_bind, Option.bind_eq_some_iff]
    constructor
    · rintro ⟨⟨other, behind⟩, done, meaning, meant, ⟨⟩⟩
      exact ⟨other, done, meant⟩
    · rintro ⟨other, done, meant⟩
      exact ⟨(other, rest), done, value, meant, rfl⟩
  rw [read]
  constructor
  · rintro ⟨other, done, meant⟩
    obtain ⟨fit, rfl⟩ := (exact ..).1 done
    obtain ⟨suit, rfl⟩ := (stands ..).1 ⟨fit, meant⟩
    exact ⟨suit, rfl⟩
  · rintro ⟨suit, rfl⟩
    obtain ⟨fit, meant⟩ := (stands ..).2 ⟨suit, rfl⟩
    exact ⟨toOther value, (exact ..).2 ⟨fit, rfl⟩, meant⟩

theorem IsExact.pair {first : Format α} {second : Format β} {fits : α → Prop} {suits : β → Prop}
    (exact : first.IsExact fits) (others : second.IsExact suits) :
    (first.pair second).IsExact fun value => fits value.1 ∧ suits value.2 := by
  rintro bytes ⟨left, right⟩ rest
  have read : (first.pair second).read? bytes = some ((left, right), rest) ↔
      ∃ between, first.read? bytes = some (left, between) ∧
        second.read? between = some (right, rest) := by
    simp only [Format.pair, Option.bind_eq_bind, Option.bind_eq_some_iff]
    constructor
    · rintro ⟨⟨other, between⟩, done, ⟨another, behind⟩, later, ⟨⟩⟩
      exact ⟨between, done, later⟩
    · rintro ⟨between, done, later⟩
      exact ⟨(left, between), done, (right, rest), later, rfl⟩
  rw [read]
  constructor
  · rintro ⟨between, done, later⟩
    obtain ⟨fit, rfl⟩ := (exact ..).1 done
    obtain ⟨suit, rfl⟩ := (others ..).1 later
    exact ⟨⟨fit, suit⟩, (List.append_assoc ..).symm⟩
  · rintro ⟨⟨fit, suit⟩, rfl⟩
    exact ⟨second.write right ++ rest, (exact ..).2 ⟨fit, List.append_assoc ..⟩,
      (others ..).2 ⟨suit, rfl⟩⟩

/-- A number of items is read from what they are written as, one behind the other. -/
theorem IsExact.readItems? {item : Format α} {fits : α → Prop} (exact : item.IsExact fits)
    (count : Nat) (bytes : Bytes) (values : List α) (rest : Bytes) :
    item.readItems? count bytes = some (values, rest) ↔
      values.length = count ∧ (∀ value ∈ values, fits value) ∧
        bytes = values.flatMap item.write ++ rest := by
  induction count generalizing bytes values with
  | zero =>
    rw [Format.readItems?, Option.some.injEq, Prod.mk.injEq]
    constructor
    · rintro ⟨rfl, rfl⟩
      exact ⟨rfl, nofun, rfl⟩
    · rintro ⟨empty, -, rfl⟩
      obtain rfl := List.eq_nil_of_length_eq_zero empty
      exact ⟨rfl, rfl⟩
  | succ count ih =>
    have read : item.readItems? (count + 1) bytes = some (values, rest) ↔
        ∃ head between, item.read? bytes = some (head, between) ∧
          ∃ tail, item.readItems? count between = some (tail, rest) ∧ head :: tail = values := by
      simp [Format.readItems?, Option.bind_eq_some_iff]
    rw [read]
    constructor
    · rintro ⟨head, between, done, tail, later, rfl⟩
      obtain ⟨fit, rfl⟩ := (exact ..).1 done
      obtain ⟨rfl, others, rfl⟩ := (ih ..).1 later
      refine ⟨rfl, List.forall_mem_cons.2 ⟨fit, others⟩, ?_⟩
      rw [List.flatMap_cons, List.append_assoc]
    · rintro ⟨length, each, rfl⟩
      cases values with
      | nil => contradiction
      | cons head tail =>
        obtain ⟨fit, others⟩ := List.forall_mem_cons.1 each
        refine ⟨head, tail.flatMap item.write ++ rest, (exact ..).2 ⟨fit, ?_⟩, tail,
          (ih ..).2 ⟨Nat.succ.inj length, others, rfl⟩, rfl⟩
        rw [List.flatMap_cons, List.append_assoc]

theorem isExact_length : length.IsExact (· < UInt64.size) :=
  isExact_little 8

theorem IsExact.list {item : Format α} {fits : α → Prop} (exact : item.IsExact fits) :
    item.list.IsExact fun values =>
      values.length < UInt64.size ∧ ∀ value ∈ values, fits value := by
  intro bytes values rest
  have read : item.list.read? bytes = some (values, rest) ↔
      ∃ count between, length.read? bytes = some (count, between) ∧
        item.readItems? count between = some (values, rest) := by
    simp [Format.list, Option.bind_eq_some_iff]
  rw [read]
  constructor
  · rintro ⟨count, between, done, later⟩
    obtain ⟨small, rfl⟩ := (isExact_length ..).1 done
    obtain ⟨rfl, each, rfl⟩ := (exact.readItems? ..).1 later
    exact ⟨⟨small, each⟩, (List.append_assoc ..).symm⟩
  · rintro ⟨⟨small, each⟩, rfl⟩
    exact ⟨values.length, values.flatMap item.write ++ rest,
      (isExact_length ..).2 ⟨small, List.append_assoc ..⟩,
      (exact.readItems? ..).2 ⟨rfl, each, rfl⟩⟩

theorem isExact_counted : counted.IsExact (·.length < UInt64.size) := by
  intro bytes value rest
  have read : counted.read? bytes = some (value, rest) ↔
      ∃ count between, length.read? bytes = some (count, between) ∧
        split? count between = some (value, rest) := by
    simp [Format.counted, Option.bind_eq_some_iff]
  rw [read]
  constructor
  · rintro ⟨count, between, done, later⟩
    obtain ⟨small, rfl⟩ := (isExact_length ..).1 done
    obtain ⟨rfl, rfl⟩ := split?_eq_some_iff.1 later
    exact ⟨small, (List.append_assoc ..).symm⟩
  · rintro ⟨small, rfl⟩
    exact ⟨value.length, value ++ rest, (isExact_length ..).2 ⟨small, List.append_assoc ..⟩,
      split?_eq_some_iff.2 ⟨rfl, rfl⟩⟩

/-- A text whose bytes can be counted. -/
def IsShort (text : String) : Prop :=
  (Utf8.encode text).length < UInt64.size

theorem isExact_text : text.IsExact IsShort := by
  apply isExact_counted.of
  intro bytes value
  constructor
  · rintro ⟨small, meant⟩
    cases decoded : Utf8.decode bytes with
    | error fault =>
      rw [decoded] at meant
      contradiction
    | ok other =>
      rw [decoded] at meant
      obtain rfl : other = value := Option.some.inj meant
      have same := Utf8.encode_of_decode decoded
      exact ⟨by rwa [IsShort, same], same.symm⟩
  · rintro ⟨small, rfl⟩
    exact ⟨small, by rw [Utf8.decode_encode]; rfl⟩

theorem isExact_word : word.IsExact fun _ => True := by
  apply (isExact_little 8).of
  intro number value
  constructor
  · rintro ⟨small, ⟨⟩⟩
    exact ⟨trivial, (UInt64.toNat_ofNat_of_lt' small).symm⟩
  · rintro ⟨-, rfl⟩
    exact ⟨value.toNat_lt, by rw [UInt64.ofNat_toNat]⟩

theorem isExact_halfWord : halfWord.IsExact fun _ => True := by
  apply (isExact_little 2).of
  intro number value
  constructor
  · rintro ⟨small, ⟨⟩⟩
    exact ⟨trivial, (UInt16.toNat_ofNat_of_lt' small).symm⟩
  · rintro ⟨-, rfl⟩
    exact ⟨value.toNat_lt, by rw [UInt16.ofNat_toNat]⟩

theorem isExact_tag : tag.IsExact (· < UInt32.size) :=
  isExact_little 4

theorem IsExact.map_eq_some_iff {format : Format α} {fits : α → Prop} (exact : format.IsExact fits)
    (make : α → β) (bytes : Bytes) (made : β) (rest : Bytes) :
    (format.read? bytes).map (fun (value, rest) => (make value, rest)) = some (made, rest) ↔
      ∃ value, (fits value ∧ bytes = format.write value ++ rest) ∧ make value = made := by
  rw [Option.map_eq_some_iff]
  constructor
  · rintro ⟨⟨value, behind⟩, done, ⟨⟩⟩
    exact ⟨value, (exact ..).1 done, rfl⟩
  · rintro ⟨value, written, rfl⟩
    exact ⟨(value, rest), (exact ..).2 written, rfl⟩

theorem tag_bind_eq_some_iff {read : Nat × Bytes → Option (β × Bytes)} {bytes : Bytes} {made : β}
    {rest : Bytes} :
    (tag.read? bytes).bind read = some (made, rest) ↔
      ∃ form body, (form < UInt32.size ∧ bytes = tag.write form ++ body) ∧
        read (form, body) = some (made, rest) := by
  rw [Option.bind_eq_some_iff]
  constructor
  · rintro ⟨⟨form, body⟩, tagged, done⟩
    exact ⟨form, body, (isExact_tag ..).1 tagged, done⟩
  · rintro ⟨form, body, tagged, done⟩
    exact ⟨(form, body), (isExact_tag ..).2 tagged, done⟩

end Gossip.Format

end ShardedView
