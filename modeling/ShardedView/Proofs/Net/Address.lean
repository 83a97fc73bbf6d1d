import ShardedView.Net.Address
import ShardedView.Proofs.Text.Digits

/-!
The characters of addresses: none has a meaning in a URL outside the server's
name.
-/

namespace ShardedView.Net

def isAddressChar (char : Char) : Bool :=
  char.isAlphanum || char ∈ ['.', ':', '[', ']', '%']

theorem isAddressChar_of_isDigit {char : Char} (digit : Digits.isDigit char = true) :
    isAddressChar char = true := by
  rw [isAddressChar, Digits.isAlphanum_of_isDigit digit, Bool.true_or]

theorem isAddressChar_hexDigit {digit : Nat} (small : digit < 16) :
    isAddressChar (Bytes.hexDigit false digit) = true := by
  have each : ∀ digit : Fin 16, isAddressChar (Bytes.hexDigit false digit) = true := by decide
  exact each ⟨digit, small⟩

theorem mem_intercalate {sep char : Char} {parts : List (List Char)}
    (member : char ∈ [sep].intercalate parts) : char = sep ∨ ∃ part ∈ parts, char ∈ part := by
  induction parts with
  | nil => contradiction
  | cons part rest ih =>
    cases rest with
    | nil =>
      rw [List.intercalate_singleton] at member
      exact .inr ⟨part, .head _, member⟩
    | cons next rest =>
      rw [List.intercalate_cons_cons, List.append_assoc] at member
      rcases List.mem_append.1 member with first | member
      · exact .inr ⟨part, .head _, first⟩
      · rcases List.mem_append.1 member with sign | later
        · exact .inl (List.mem_singleton.1 sign)
        · rcases ih later with sign | ⟨part, found, inside⟩
          · exact .inl sign
          · exact .inr ⟨part, .tail _ found, inside⟩

namespace IpAddress

theorem isAddressChar_of_mem_dotted {number : Nat} {char : Char} (member : char ∈ dotted number) :
    isAddressChar char = true := by
  rcases mem_intercalate member with rfl | ⟨part, found, inside⟩
  · rfl
  · obtain ⟨octet, -, rfl⟩ := List.mem_map.1 found
    exact isAddressChar_of_isDigit (Digits.isDigit_of_mem_ofNat inside)

theorem isAddressChar_of_mem_hexDigits {group : Nat} (small : group < 0x10000) {char : Char}
    (member : char ∈ hexDigits group) : isAddressChar char = true := by
  obtain ⟨digit, found, rfl⟩ := List.mem_map.1 member
  apply isAddressChar_hexDigit
  rcases List.mem_append.1 found with front | last
  · have among := (List.dropWhile_sublist _).subset front
    simp only [List.mem_cons, List.not_mem_nil, or_false] at among
    omega
  · rw [List.mem_singleton.1 last]
    omega

theorem isAddressChar_of_mem_groups {groups : List Nat} (small : ∀ group ∈ groups, group < 0x10000)
    {char : Char} (member : char ∈ [':'].intercalate (groups.map hexDigits)) :
    isAddressChar char = true := by
  rcases mem_intercalate member with rfl | ⟨part, found, inside⟩
  · rfl
  · obtain ⟨group, among, rfl⟩ := List.mem_map.1 found
    exact isAddressChar_of_mem_hexDigits (small group among) inside

theorem isAddressChar_of_mem_compressed {groups : List Nat}
    (small : ∀ group ∈ groups, group < 0x10000) {char : Char} (member : char ∈ compressed groups) :
    isAddressChar char = true := by
  unfold compressed at member
  simp only at member
  split at member
  · exact isAddressChar_of_mem_groups small member
  · rcases List.mem_append.1 member with front | member
    · exact isAddressChar_of_mem_groups
        (fun group among => small group (List.mem_of_mem_take among)) front
    · rcases List.mem_cons.1 member with rfl | member
      · rfl
      · rcases List.mem_cons.1 member with rfl | back
        · rfl
        · exact isAddressChar_of_mem_groups
            (fun group among => small group (List.mem_of_mem_drop among)) back

theorem isAddressChar_of_mem_chars {ip : IpAddress} {char : Char} (member : char ∈ ip.chars) :
    isAddressChar char = true := by
  cases ip with
  | v4 bits => exact isAddressChar_of_mem_dotted member
  | v6 bits =>
    rw [chars] at member
    split at member
    · rcases List.mem_append.1 member with front | octets
      · have each : [':', ':', 'f', 'f', 'f', 'f', ':'].all isAddressChar = true := rfl
        exact List.all_eq_true.1 each char front
      · exact isAddressChar_of_mem_dotted octets
    · refine isAddressChar_of_mem_compressed (fun group among => ?_) member
      obtain ⟨index, -, rfl⟩ := List.mem_map.1 among
      exact Nat.mod_lt _ (by decide)

end IpAddress

namespace Address

theorem isAddressChar_of_mem_chars {address : Address} {char : Char}
    (member : char ∈ address.chars) : isAddressChar char = true := by
  have digits : ∀ {number : Nat}, char ∈ Digits.ofNat number → isAddressChar char = true :=
    fun inside => isAddressChar_of_isDigit (Digits.isDigit_of_mem_ofNat inside)
  have behind : ∀ {number : Nat},
      char ∈ ':' :: Digits.ofNat number → isAddressChar char = true := by
    intro number inside
    rcases List.mem_cons.1 inside with rfl | inside
    · rfl
    · exact digits inside
  unfold chars at member
  split at member
  · rcases List.mem_append.1 member with front | back
    · exact IpAddress.isAddressChar_of_mem_chars front
    · exact behind back
  · rcases List.mem_append.1 member with front | back
    · rcases List.mem_append.1 front with bracketed | scope
      · rcases List.mem_cons.1 bracketed with rfl | inside
        · rfl
        · exact IpAddress.isAddressChar_of_mem_chars inside
      · split at scope
        · contradiction
        · rcases List.mem_cons.1 scope with rfl | inside
          · rfl
          · exact digits inside
    · rcases List.mem_cons.1 back with rfl | inside
      · rfl
      · exact behind inside

theorem chars_ne_nil (address : Address) : address.chars ≠ [] := by
  unfold chars
  split
  · exact List.append_ne_nil_of_right_ne_nil _ (List.cons_ne_nil _ _)
  · exact List.append_ne_nil_of_right_ne_nil _ (List.cons_ne_nil _ _)

end Address

end ShardedView.Net
