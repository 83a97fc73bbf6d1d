import ShardedView.Http.Form
import ShardedView.Proofs.Text.Utf8

/-!
Percent-encoding and form encoding are faithful: what was encoded is decoded to the
same bytes, and what was encoded holds no character that has a meaning in a URL.
-/

namespace ShardedView

namespace Utf8

theorem encodeChar_of_lt {char : Char} (ascii : char.toNat < 0x80) :
    encodeChar char = [UInt8.ofNat char.toNat] := by
  rw [encodeChar, if_pos ascii]

theorem toNat_of_mem_encodeChar {char : Char} {byte : UInt8} (member : byte ∈ encodeChar char)
    (ascii : byte.toNat < 0x80) : char.toNat = byte.toNat := by
  have valid := valid_toNat char
  unfold encodeChar at member
  simp only at member
  split at member
  · rw [List.mem_singleton.1 member, toNat_byte (by omega)]
  · exfalso
    have tail : ∀ part : Nat, byte ≠ UInt8.ofNat (0x80 + part % 64) := by
      rintro part rfl
      rw [toNat_byte (by omega)] at ascii
      omega
    split at member
    · rcases List.mem_cons.1 member with rfl | member
      · rw [toNat_byte (by omega)] at ascii
        omega
      · exact tail _ (List.mem_singleton.1 member)
    · split at member
      · rcases List.mem_cons.1 member with rfl | member
        · rw [toNat_byte (by omega)] at ascii
          omega
        · rcases List.mem_cons.1 member with same | member
          · exact tail _ same
          · exact tail _ (List.mem_singleton.1 member)
      · rcases List.mem_cons.1 member with rfl | member
        · rw [toNat_byte (by omega)] at ascii
          omega
        · rcases List.mem_cons.1 member with same | member
          · exact tail _ same
          · rcases List.mem_cons.1 member with same | member
            · exact tail _ same
            · exact tail _ (List.mem_singleton.1 member)

theorem not_mem_flatMap_encodeChar {chars : List Char} {char : Char}
    (absent : char ∉ chars) {byte : UInt8} (ascii : byte.toNat < 0x80)
    (same : char.toNat = byte.toNat) : byte ∉ chars.flatMap encodeChar := by
  intro member
  obtain ⟨other, found, member⟩ := List.mem_flatMap.1 member
  have equal : other = char := by
    rw [← Char.ofNat_toNat other, toNat_of_mem_encodeChar member ascii, ← same, Char.ofNat_toNat]
  exact absent (equal ▸ found)

end Utf8

namespace Percent

theorem encodeChar_hexDigit {digit : Nat} (small : digit < 16) :
    ∃ byte, Utf8.encodeChar (Bytes.hexDigit true digit) = [byte] ∧
      Bytes.hexValue? (Char.ofNat byte.toNat) = some digit ∧ byte ≠ 0x2B := by
  have each : ∀ digit : Fin 16,
      let byte := UInt8.ofNat (Bytes.hexDigit true digit).toNat
      Utf8.encodeChar (Bytes.hexDigit true digit) = [byte] ∧
        Bytes.hexValue? (Char.ofNat byte.toNat) = some digit.val ∧ byte ≠ 0x2B := by
    decide
  exact ⟨_, each ⟨digit, small⟩⟩

theorem encodeChar_triplet (byte : UInt8) :
    ∃ high low, (triplet byte).flatMap Utf8.encodeChar = [0x25, high, low] ∧
      Bytes.hexValue? (Char.ofNat high.toNat) = some (byte.toNat / 16) ∧
      Bytes.hexValue? (Char.ofNat low.toNat) = some (byte.toNat % 16) ∧
      high ≠ 0x2B ∧ low ≠ 0x2B := by
  have bound := byte.toNat_lt
  obtain ⟨high, highWritten, highRead, highPlain⟩ :=
    encodeChar_hexDigit (show byte.toNat / 16 < 16 by omega)
  obtain ⟨low, lowWritten, lowRead, lowPlain⟩ :=
    encodeChar_hexDigit (show byte.toNat % 16 < 16 by omega)
  refine ⟨high, low, ?_, highRead, lowRead, highPlain, lowPlain⟩
  rw [triplet, List.flatMap_cons, List.flatMap_cons, List.flatMap_cons, highWritten, lowWritten]
  rfl

theorem decode_of_hexValue? {byte high low : UInt8}
    (highRead : Bytes.hexValue? (Char.ofNat high.toNat) = some (byte.toNat / 16))
    (lowRead : Bytes.hexValue? (Char.ofNat low.toNat) = some (byte.toNat % 16)) (rest : Bytes) :
    decode (0x25 :: high :: low :: rest) = byte :: decode rest := by
  have whole : UInt8.ofNat (16 * (byte.toNat / 16) + byte.toNat % 16) = byte :=
    Utf8.ofNat_byte byte (by omega)
  rw [decode]
  simp only [highRead, lowRead, whole, if_true]

theorem decode_triplet_append (byte : UInt8) (rest : Bytes) :
    decode ((triplet byte).flatMap Utf8.encodeChar ++ rest) = byte :: decode rest := by
  obtain ⟨high, low, written, highRead, lowRead, -⟩ := encodeChar_triplet byte
  rw [written]
  exact decode_of_hexValue? highRead lowRead rest

theorem decode_cons {byte : UInt8} (plain : byte ≠ 0x25) (rest : Bytes) :
    decode (byte :: rest) = byte :: decode rest := by
  rw [decode.eq_def]
  simp only [plain, if_false]

theorem decode_triplets_append (bytes rest : Bytes) :
    decode ((bytes.flatMap triplet).flatMap Utf8.encodeChar ++ rest) = bytes ++ decode rest := by
  induction bytes with
  | nil => rfl
  | cons byte bytes ih =>
    rw [List.flatMap_cons, List.flatMap_append, List.append_assoc, decode_triplet_append, ih,
      List.cons_append]

/-- Where the percent sign is reserved, what was encoded is decoded to the same text. -/
theorem decode_encode_append {reserved : Char → Bool} (percent : reserved '%' = true)
    (chars : List Char) (rest : Bytes) :
    decode ((encode reserved chars).flatMap Utf8.encodeChar ++ rest) =
      chars.flatMap Utf8.encodeChar ++ decode rest := by
  induction chars with
  | nil => rfl
  | cons char chars ih =>
    rw [encode, List.flatMap_cons, ← encode, List.flatMap_append, List.append_assoc,
      List.flatMap_cons, List.append_assoc, ← ih]
    split
    · exact decode_triplets_append ..
    · next plain =>
      simp only [Bool.or_eq_true, decide_eq_true_eq, not_or] at plain
      obtain ⟨⟨-, low⟩, free⟩ := plain
      have code : (UInt8.ofNat char.toNat).toNat = char.toNat := Utf8.toNat_byte (by omega)
      have noPercent : UInt8.ofNat char.toNat ≠ 0x25 := by
        intro same
        rw [same] at code
        have known : char = '%' := by
          rw [← Char.ofNat_toNat char, ← code]
          rfl
        exact free (known ▸ percent)
      rw [List.flatMap_cons, List.flatMap_nil, List.append_nil,
        Utf8.encodeChar_of_lt (by omega)]
      exact decode_cons noPercent _

theorem decode_encode {reserved : Char → Bool} (percent : reserved '%' = true)
    (chars : List Char) :
    decode ((encode reserved chars).flatMap Utf8.encodeChar) = chars.flatMap Utf8.encodeChar := by
  have whole := decode_encode_append percent chars []
  rwa [List.append_nil, decode, List.append_nil] at whole

theorem mem_triplet {byte : UInt8} {char : Char} (member : char ∈ triplet byte) :
    char = '%' ∨ char.isAlphanum = true := by
  have bound := byte.toNat_lt
  have each : ∀ digit : Fin 16, (Bytes.hexDigit true digit).isAlphanum = true := by decide
  rcases List.mem_cons.1 member with rfl | member
  · exact .inl rfl
  · rcases List.mem_cons.1 member with rfl | member
    · exact .inr (each ⟨byte.toNat / 16, by omega⟩)
    · rw [List.mem_singleton.1 member]
      exact .inr (each ⟨byte.toNat % 16, by omega⟩)

theorem not_mem_encode {reserved : Char → Bool} {char : Char} (taken : reserved char = true)
    (noPercent : char ≠ '%') (symbol : char.isAlphanum = false) (chars : List Char) :
    char ∉ encode reserved chars := by
  intro member
  obtain ⟨other, -, member⟩ := List.mem_flatMap.1 member
  split at member
  · obtain ⟨byte, -, member⟩ := List.mem_flatMap.1 member
    rcases mem_triplet member with same | alphanumeric
    · exact noPercent same
    · rw [symbol] at alphanumeric
      contradiction
  · next free =>
    rw [List.mem_singleton.1 member] at taken
    exact free (by rw [taken, Bool.or_true])

end Percent

end ShardedView
