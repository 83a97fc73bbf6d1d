import ShardedView.Text.Utf8

/-!
UTF-8 is faithful: reading what was written gives the text back, strictly and
leniently, and a byte string that can be read is the one that its text is written
as.
-/

namespace ShardedView.Utf8

theorem valid_toNat (char : Char) :
    char.toNat < 0xD800 ∨ 0xDFFF < char.toNat ∧ char.toNat < 0x110000 :=
  char.valid

theorem toNat_ofNat {code : Nat} (valid : code < 0xD800 ∨ 0xDFFF < code ∧ code < 0x110000) :
    (Char.ofNat code).toNat = code := by
  rw [Char.ofNat, dif_pos (show code.isValidChar from valid)]
  exact UInt32.toNat_ofNatLT

theorem isContinuation_iff {byte : UInt8} :
    isContinuation byte = true ↔ 0x80 ≤ byte.toNat ∧ byte.toNat ≤ 0xBF := by
  simp only [isContinuation, Bool.and_eq_true, decide_eq_true_eq, UInt8.le_iff_toNat_le]
  rfl

theorem isSecondOfThree_iff {lead second : UInt8} :
    isSecondOfThree lead second = true ↔
      if lead.toNat = 0xE0 then 0xA0 ≤ second.toNat ∧ second.toNat ≤ 0xBF
      else if lead.toNat = 0xED then 0x80 ≤ second.toNat ∧ second.toNat ≤ 0x9F
      else 0x80 ≤ second.toNat ∧ second.toNat ≤ 0xBF := by
  have first : lead = 0xE0 ↔ lead.toNat = 0xE0 := UInt8.toNat_inj.symm
  have last : lead = 0xED ↔ lead.toNat = 0xED := UInt8.toNat_inj.symm
  simp only [isSecondOfThree, first, last]
  split
  · simp only [Bool.and_eq_true, decide_eq_true_eq, UInt8.le_iff_toNat_le]
    rfl
  · split
    · simp only [Bool.and_eq_true, decide_eq_true_eq, UInt8.le_iff_toNat_le]
      rfl
    · exact isContinuation_iff

theorem isSecondOfFour_iff {lead second : UInt8} :
    isSecondOfFour lead second = true ↔
      if lead.toNat = 0xF0 then 0x90 ≤ second.toNat ∧ second.toNat ≤ 0xBF
      else if lead.toNat = 0xF4 then 0x80 ≤ second.toNat ∧ second.toNat ≤ 0x8F
      else 0x80 ≤ second.toNat ∧ second.toNat ≤ 0xBF := by
  have first : lead = 0xF0 ↔ lead.toNat = 0xF0 := UInt8.toNat_inj.symm
  have last : lead = 0xF4 ↔ lead.toNat = 0xF4 := UInt8.toNat_inj.symm
  simp only [isSecondOfFour, first, last]
  split
  · simp only [Bool.and_eq_true, decide_eq_true_eq, UInt8.le_iff_toNat_le]
    rfl
  · split
    · simp only [Bool.and_eq_true, decide_eq_true_eq, UInt8.le_iff_toNat_le]
      rfl
    · exact isContinuation_iff

/-! ### The units at the start of a byte string -/

theorem lt_iff {left right : UInt8} : left < right ↔ left.toNat < right.toNat :=
  UInt8.lt_iff_toNat_lt

theorem le_iff {left right : UInt8} : left ≤ right ↔ left.toNat ≤ right.toNat :=
  UInt8.le_iff_toNat_le

theorem scan_one {lead : UInt8} (first : lead.toNat < 0x80) (rest : Bytes) :
    scan (lead :: rest) = .scalar (Char.ofNat lead.toNat) :: scan rest := by
  have ascii : lead < 0x80 := lt_iff.2 first
  rw [scan.eq_def]
  simp [ascii]

theorem scan_two {lead second : UInt8} (first : 0xC2 ≤ lead.toNat ∧ lead.toNat ≤ 0xDF)
    (next : 0x80 ≤ second.toNat ∧ second.toNat ≤ 0xBF) (rest : Bytes) :
    scan (lead :: second :: rest) =
      .scalar (Char.ofNat (lead.toNat % 32 * 64 + low second)) :: scan rest := by
  have wide : ¬ lead < 0x80 := fun less => by have := lt_iff.1 less; simp at this; omega
  have two : 0xC2 ≤ lead ∧ lead ≤ 0xDF := ⟨le_iff.2 first.1, le_iff.2 first.2⟩
  rw [scan.eq_def]
  simp [wide, two, isContinuation_iff.2 next]

theorem scan_three {lead second third : UInt8} (first : 0xE0 ≤ lead.toNat ∧ lead.toNat ≤ 0xEF)
    (next : isSecondOfThree lead second = true) (last : 0x80 ≤ third.toNat ∧ third.toNat ≤ 0xBF)
    (rest : Bytes) :
    scan (lead :: second :: third :: rest) =
      .scalar (Char.ofNat (lead.toNat % 16 * 4096 + low second * 64 + low third)) ::
        scan rest := by
  have wide : ¬ lead < 0x80 := fun less => by have := lt_iff.1 less; simp at this; omega
  have notTwo : ¬ lead ≤ 0xDF := fun below => by have := le_iff.1 below; simp at this; omega
  have three : 0xE0 ≤ lead ∧ lead ≤ 0xEF := ⟨le_iff.2 first.1, le_iff.2 first.2⟩
  rw [scan.eq_def]
  simp [wide, notTwo, three, next, isContinuation_iff.2 last]

theorem scan_four {lead second third fourth : UInt8}
    (first : 0xF0 ≤ lead.toNat ∧ lead.toNat ≤ 0xF4) (next : isSecondOfFour lead second = true)
    (middle : 0x80 ≤ third.toNat ∧ third.toNat ≤ 0xBF)
    (last : 0x80 ≤ fourth.toNat ∧ fourth.toNat ≤ 0xBF) (rest : Bytes) :
    scan (lead :: second :: third :: fourth :: rest) =
      .scalar (Char.ofNat (lead.toNat % 8 * 262144 + low second * 4096 + low third * 64 +
        low fourth)) :: scan rest := by
  have wide : ¬ lead < 0x80 := fun less => by have := lt_iff.1 less; simp at this; omega
  have notTwo : ¬ lead ≤ 0xDF := fun below => by have := le_iff.1 below; simp at this; omega
  have notThree : ¬ lead ≤ 0xEF := fun below => by have := le_iff.1 below; simp at this; omega
  have four : 0xF0 ≤ lead ∧ lead ≤ 0xF4 := ⟨le_iff.2 first.1, le_iff.2 first.2⟩
  rw [scan.eq_def]
  simp [wide, notTwo, notThree, four, next, isContinuation_iff.2 middle,
    isContinuation_iff.2 last]

theorem toNat_byte {code : Nat} (small : code < 256) : (UInt8.ofNat code).toNat = code :=
  UInt8.toNat_ofNat_of_lt' small

theorem scan_encodeChar_append (char : Char) (rest : Bytes) :
    scan (encodeChar char ++ rest) = .scalar char :: scan rest := by
  have valid := valid_toNat char
  have back : Char.ofNat char.toNat = char := Char.ofNat_toNat char
  unfold encodeChar
  generalize char.toNat = code at valid back
  rw [← back]
  simp only
  split
  case isTrue one =>
    have lead := toNat_byte (show code < 256 by omega)
    rw [List.singleton_append, scan_one (by omega), lead]
  case isFalse wide =>
    have tail : ∀ part : Nat, (UInt8.ofNat (0x80 + part % 64)).toNat = 0x80 + part % 64 :=
      fun part => toNat_byte (by omega)
    have payload : ∀ part : Nat, low (UInt8.ofNat (0x80 + part % 64)) = part % 64 := fun part => by
      rw [low, tail]
      omega
    have within : ∀ part : Nat, 0x80 ≤ (UInt8.ofNat (0x80 + part % 64)).toNat ∧
        (UInt8.ofNat (0x80 + part % 64)).toNat ≤ 0xBF := fun part => by
      rw [tail]
      omega
    split
    case isTrue two =>
      have lead := toNat_byte (show 0xC0 + code / 64 < 256 by omega)
      rw [List.cons_append, List.singleton_append, scan_two (by omega) (within _), lead, payload]
      congr 3
      omega
    case isFalse notTwo =>
      split
      case isTrue three =>
        have lead := toNat_byte (show 0xE0 + code / 4096 < 256 by omega)
        have next : isSecondOfThree (UInt8.ofNat (0xE0 + code / 4096))
            (UInt8.ofNat (0x80 + code / 64 % 64)) = true := by
          rw [isSecondOfThree_iff, lead, tail]
          repeat' split
          all_goals omega
        rw [List.cons_append, List.cons_append, List.singleton_append,
          scan_three (by omega) next (within _), lead, payload, payload]
        congr 3
        omega
      case isFalse notThree =>
        have lead := toNat_byte (show 0xF0 + code / 262144 < 256 by omega)
        have next : isSecondOfFour (UInt8.ofNat (0xF0 + code / 262144))
            (UInt8.ofNat (0x80 + code / 4096 % 64)) = true := by
          rw [isSecondOfFour_iff, lead, tail]
          repeat' split
          all_goals omega
        rw [List.cons_append, List.cons_append, List.cons_append, List.singleton_append,
          scan_four (by omega) next (within _) (within _), lead, payload, payload, payload]
        congr 3
        omega

theorem scan_flatMap_encodeChar (chars : List Char) :
    scan (chars.flatMap encodeChar) = chars.map .scalar := by
  induction chars with
  | nil => rfl
  | cons char rest ih => rw [List.flatMap_cons, scan_encodeChar_append, ih, List.map_cons]

theorem scan_encode (text : String) : scan (encode text) = text.toList.map .scalar :=
  scan_flatMap_encodeChar text.toList

theorem collect_scalars (index : Nat) (chars : List Char) :
    collect index (chars.map .scalar) = .ok chars := by
  induction chars generalizing index with
  | nil => rfl
  | cons char rest ih => simp [collect, ih, Except.map]

theorem decode_encode (text : String) : decode (encode text) = .ok text := by
  simp [decode, scan_encode, collect_scalars, Except.map]

theorem decodeLossy_encode (text : String) : decodeLossy (encode text) = text := by
  have same : Unit.orReplacement ∘ Unit.scalar = id := rfl
  rw [decodeLossy, scan_encode, List.map_map, same, List.map_id, String.ofList_toList]

/-! ### The bytes of a text that was read -/

theorem ofNat_byte {code : Nat} (byte : UInt8) (equal : code = byte.toNat) :
    UInt8.ofNat code = byte := by
  rw [equal, UInt8.ofNat_toNat]

theorem encodeChar_one {lead : UInt8} (first : lead < 0x80) :
    encodeChar (Char.ofNat lead.toNat) = [lead] := by
  have small := lt_iff.1 first
  simp only [UInt8.reduceToNat] at small
  have code : (Char.ofNat lead.toNat).toNat = lead.toNat := toNat_ofNat (by omega)
  rw [encodeChar, code, if_pos small, UInt8.ofNat_toNat]

theorem encodeChar_two {lead second : UInt8} (first : 0xC2 ≤ lead.toNat ∧ lead.toNat ≤ 0xDF)
    (next : 0x80 ≤ second.toNat ∧ second.toNat ≤ 0xBF) :
    encodeChar (Char.ofNat (lead.toNat % 32 * 64 + low second)) = [lead, second] := by
  rw [low, encodeChar, toNat_ofNat (by omega), if_neg (by omega), if_pos (by omega),
    ofNat_byte lead (by omega), ofNat_byte second (by omega)]

theorem encodeChar_three {lead second third : UInt8}
    (first : 0xE0 ≤ lead.toNat ∧ lead.toNat ≤ 0xEF) (next : isSecondOfThree lead second = true)
    (last : 0x80 ≤ third.toNat ∧ third.toNat ≤ 0xBF) :
    encodeChar (Char.ofNat (lead.toNat % 16 * 4096 + low second * 64 + low third)) =
      [lead, second, third] := by
  rw [isSecondOfThree_iff] at next
  have bounds : 0x80 ≤ second.toNat ∧ second.toNat ≤ 0xBF ∧
      (lead.toNat = 0xE0 → 0xA0 ≤ second.toNat) ∧ (lead.toNat = 0xED → second.toNat ≤ 0x9F) := by
    split at next
    · omega
    · split at next <;> omega
  rw [low, low, encodeChar, toNat_ofNat (by omega), if_neg (by omega), if_neg (by omega),
    if_pos (by omega), ofNat_byte lead (by omega),
    ofNat_byte second (by omega), ofNat_byte third (by omega)]

theorem encodeChar_four {lead second third fourth : UInt8}
    (first : 0xF0 ≤ lead.toNat ∧ lead.toNat ≤ 0xF4) (next : isSecondOfFour lead second = true)
    (middle : 0x80 ≤ third.toNat ∧ third.toNat ≤ 0xBF)
    (last : 0x80 ≤ fourth.toNat ∧ fourth.toNat ≤ 0xBF) :
    encodeChar (Char.ofNat (lead.toNat % 8 * 262144 + low second * 4096 + low third * 64 +
      low fourth)) = [lead, second, third, fourth] := by
  rw [isSecondOfFour_iff] at next
  have bounds : 0x80 ≤ second.toNat ∧ second.toNat ≤ 0xBF ∧
      (lead.toNat = 0xF0 → 0x90 ≤ second.toNat) ∧ (lead.toNat = 0xF4 → second.toNat ≤ 0x8F) := by
    split at next
    · omega
    · split at next <;> omega
  rw [low, low, low, encodeChar, toNat_ofNat (by omega), if_neg (by omega), if_neg (by omega),
    if_neg (by omega), ofNat_byte lead (by omega),
    ofNat_byte second (by omega), ofNat_byte third (by omega),
    ofNat_byte fourth (by omega)]

theorem collect_scalar {index : Nat} {char : Char} {units : List Unit} {chars : List Char}
    (collected : collect index (.scalar char :: units) = .ok chars) :
    ∃ later, chars = char :: later ∧
      collect (index + (encodeChar char).length) units = .ok later := by
  rw [collect] at collected
  cases rest : collect (index + (encodeChar char).length) units with
  | error fault => rw [rest] at collected; contradiction
  | ok later =>
    rw [rest] at collected
    exact ⟨later, (Except.ok.inj collected).symm, rfl⟩

theorem within_of_le {lower upper byte : UInt8}
    (within : (decide (lower ≤ byte) && decide (byte ≤ upper)) = true) :
    lower.toNat ≤ byte.toNat ∧ byte.toNat ≤ upper.toNat := by
  simpa [le_iff] using within

theorem flatMap_encodeChar_of_collect {bytes : Bytes} {index : Nat} {chars : List Char}
    (collected : collect index (scan bytes) = .ok chars) : chars.flatMap encodeChar = bytes := by
  fun_induction scan bytes generalizing index chars
  case case1 =>
    obtain rfl := Except.ok.inj collected
    rfl
  case case2 lead rest ascii ih =>
    obtain ⟨later, rfl, remaining⟩ := collect_scalar collected
    rw [List.flatMap_cons, ih remaining, encodeChar_one ascii]
    rfl
  case case4 lead _ first second rest next ih =>
    obtain ⟨later, rfl, remaining⟩ := collect_scalar collected
    rw [List.flatMap_cons, ih remaining,
      encodeChar_two (within_of_le first) (isContinuation_iff.1 next)]
    rfl
  case case8 lead _ _ first second next third rest last ih =>
    obtain ⟨later, rfl, remaining⟩ := collect_scalar collected
    rw [List.flatMap_cons, ih remaining,
      encodeChar_three (within_of_le first) next (isContinuation_iff.1 last)]
    rfl
  case case14 lead _ _ _ first second next third middle fourth rest last ih =>
    obtain ⟨later, rfl, remaining⟩ := collect_scalar collected
    rw [List.flatMap_cons, ih remaining, encodeChar_four (within_of_le first) next
      (isContinuation_iff.1 middle) (isContinuation_iff.1 last)]
    rfl
  -- every other unit is a fault, at which reading ends
  all_goals contradiction

theorem encode_of_decode {bytes : Bytes} {text : String} (decoded : decode bytes = .ok text) :
    encode text = bytes := by
  rw [decode] at decoded
  cases collected : collect 0 (scan bytes) with
  | error fault => rw [collected] at decoded; contradiction
  | ok chars =>
    rw [collected] at decoded
    obtain rfl := Except.ok.inj decoded
    rw [encode, String.toList_ofList, flatMap_encodeChar_of_collect collected]

theorem encode_injective {left right : String} (equal : encode left = encode right) :
    left = right := by
  have decoded := decode_encode left
  rw [equal, decode_encode] at decoded
  exact (Except.ok.inj decoded).symm

end ShardedView.Utf8
