import ShardedView.Partition.Murmur

/-!
The hash against the one that producers compute.

Theirs counts positions: round by round it reads four bytes from a position on, and what is left
falls through three cases. Its positions are words of 32 bits as its hash is, and its bytes are
signed. The hash of this library takes words off the front of a list. On all byte strings whose
length has no sign bit the two are the same, so that a key is looked up on the partition that its
records are put on.
-/

namespace ShardedView.Murmur

namespace ByIndex

/-- The byte at a position as an unsigned number: the mask clears what the sign of the byte fills
the word with. -/
def byteAt? (data : Bytes) (position : UInt32) : Option UInt32 :=
  data[position.toNat]?.map fun byte => byte.toInt8.toInt32.toUInt32 &&& 0xff

/-- Mixes four bytes into the hash, least significant first. -/
def round? (data : Bytes) (position hash : UInt32) : Option UInt32 := do
  let first ← byteAt? data position
  let second ← byteAt? data (position + 1)
  let third ← byteAt? data (position + 2)
  let fourth ← byteAt? data (position + 3)
  let word := first + second <<< 8 + third <<< 16 + fourth <<< 24
  let word := word * 0x5bd1e995
  let word := word ^^^ word >>> 24
  let word := word * 0x5bd1e995
  let hash := hash * 0x5bd1e995
  return hash ^^^ word

def rounds? (data : Bytes) (count index hash : UInt32) : Option UInt32 :=
  if below : index < count then do
    let hash ← round? data (4 * index) hash
    rounds? data count (index + 1) hash
  else some hash
termination_by count.toNat - index.toNat
decreasing_by
  have bound := count.toNat_lt
  rw [UInt32.lt_iff_toNat_lt] at below
  rw [UInt32.toNat_add, UInt32.toNat_one]
  omega

/-- Folds the bytes that are left into the hash; each case falls through to the next. -/
def leftover? (data : Bytes) (position : UInt32) : Nat → UInt32 → Option UInt32
  | 3, hash => do
    let byte ← byteAt? data (position + 2)
    leftover? data position 2 (hash ^^^ byte <<< 16)
  | 2, hash => do
    let byte ← byteAt? data (position + 1)
    leftover? data position 1 (hash ^^^ byte <<< 8)
  | 1, hash => do
    let byte ← byteAt? data position
    return (hash ^^^ byte) * 0x5bd1e995
  | _, hash => some hash

/-- The producers' hash; none if it reads a position outside the byte string. -/
def hash? (data : Bytes) : Option UInt32 := do
  let length := UInt32.ofNat data.length
  let hash ← rounds? data (length / 4) 0 (0x9747b28c ^^^ length)
  let hash ← leftover? data (4 * (length / 4)) (length % 4).toNat hash
  let hash := hash ^^^ hash >>> 13
  let hash := hash * 0x5bd1e995
  return hash ^^^ hash >>> 15

end ByIndex

/-! ### Bytes in words -/

theorem mask_signed (byte : UInt8) : byte.toInt8.toInt32.toUInt32 &&& 0xff = byte.toUInt32 := by
  have small := byte.toNat_lt
  have low : byte.toInt8.toInt32.toUInt32.toNat % 256 = byte.toNat := by
    have extended : byte.toInt8.toInt32.toUInt32.toNat = (byte.toBitVec.signExtend 32).toNat := rfl
    rw [extended, BitVec.toNat_signExtend, BitVec.toNat_setWidth, UInt8.toNat_toBitVec]
    split <;> omega
  apply UInt32.toNat_inj.1
  rw [UInt32.toNat_and, UInt8.toNat_toUInt32, ← low]
  exact Nat.and_two_pow_sub_one_eq_mod _ 8

theorem word_eq_add (first second third fourth : UInt8) :
    word first second third fourth =
      first.toUInt32 + second.toUInt32 <<< 8 + third.toUInt32 <<< 16 +
        fourth.toUInt32 <<< 24 := by
  apply UInt32.toBitVec_inj.1
  change _ = first.toBitVec.setWidth 32 + second.toBitVec.setWidth 32 <<< 8 +
    third.toBitVec.setWidth 32 <<< 16 + fourth.toBitVec.setWidth 32 <<< 24
  rw [BitVec.add_eq_or_of_and_eq_zero (first.toBitVec.setWidth 32),
    BitVec.add_eq_or_of_and_eq_zero (_ ||| _), BitVec.add_eq_or_of_and_eq_zero (_ ||| _)]
  · rfl
  -- No two of them meet at a place, since a byte ends at its eighth bit.
  all_goals
    ext place within
    simp only [BitVec.getElem_and, BitVec.getElem_or, BitVec.getElem_setWidth,
      BitVec.getElem_shiftLeft, BitVec.getElem_zero]
    grind

theorem xor_word (hash : UInt32) (first second third : UInt8) :
    hash ^^^ word first second third 0 =
      hash ^^^ third.toUInt32 <<< 16 ^^^ second.toUInt32 <<< 8 ^^^ first.toUInt32 := by
  have filled : word first second third 0 =
      first.toUInt32 ||| second.toUInt32 <<< 8 ||| third.toUInt32 <<< 16 := UInt32.or_zero
  rw [filled]
  apply UInt32.toBitVec_inj.1
  change hash.toBitVec ^^^ (first.toBitVec.setWidth 32 ||| second.toBitVec.setWidth 32 <<< 8 |||
    third.toBitVec.setWidth 32 <<< 16) = hash.toBitVec ^^^ third.toBitVec.setWidth 32 <<< 16 ^^^
      second.toBitVec.setWidth 32 <<< 8 ^^^ first.toBitVec.setWidth 32
  ext place within
  simp only [BitVec.getElem_xor, BitVec.getElem_or, BitVec.getElem_setWidth,
    BitVec.getElem_shiftLeft]
  grind

namespace ByIndex

variable {data rest : Bytes} {position : UInt32} {first second third fourth : UInt8}

theorem exists_word {place : Nat} (inside : place + 4 ≤ data.length) :
    ∃ first second third fourth,
      data.drop place = first :: second :: third :: fourth :: data.drop (place + 4) := by
  refine ⟨data[place], data[place + 1], data[place + 2], data[place + 3], ?_⟩
  rw [List.drop_eq_getElem_cons (i := place) (by omega),
    List.drop_eq_getElem_cons (i := place + 1) (by omega),
    List.drop_eq_getElem_cons (i := place + 2) (by omega),
    List.drop_eq_getElem_cons (i := place + 3) (by omega)]

section Short

variable (short : data.length < Nat.pow 2 31)
include short

/-! ### Positions that do not wrap -/

theorem toNat_four_mul {index : UInt32} (inside : 4 * index.toNat ≤ data.length) :
    (4 * index).toNat = 4 * index.toNat := by
  have bound : Nat.pow 2 31 = 2147483648 := rfl
  rw [UInt32.toNat_mul]
  exact Nat.mod_eq_of_lt (show 4 * index.toNat < 4294967296 by omega)

theorem byteAt?_add (behind : data.drop position.toNat = rest) (distance : UInt32)
    {byte : UInt8} (listed : rest[distance.toNat]? = some byte) :
    byteAt? data (position + distance) = some byte.toUInt32 := by
  rw [← behind, List.getElem?_drop] at listed
  have within := (List.getElem?_eq_some_iff.1 listed).1
  have place : (position + distance).toNat = position.toNat + distance.toNat := by
    have bound : Nat.pow 2 31 = 2147483648 := rfl
    rw [UInt32.toNat_add]
    omega
  rw [byteAt?, place, listed, Option.map_some, mask_signed]

theorem byteAt?_eq (behind : data.drop position.toNat = first :: rest) :
    byteAt? data position = some first.toUInt32 := by
  have own := byteAt?_add short behind 0 rfl
  rwa [UInt32.add_zero] at own

/-! ### The rounds -/

theorem round?_eq (behind : data.drop position.toNat = first :: second :: third :: fourth :: rest)
    (hash : UInt32) :
    round? data position hash = some (mix hash (word first second third fourth)) := by
  rw [round?, byteAt?_eq short behind, byteAt?_add short behind 1 rfl,
    byteAt?_add short behind 2 rfl, byteAt?_add short behind 3 rfl, word_eq_add]
  rfl

/-- The rounds come to an end, and to absorb what they leave gives what it gives to absorb all from
their first position on. -/
theorem exists_rounds? {count index : UInt32} (order : index ≤ count)
    (whole : 4 * count.toNat ≤ data.length) (hash : UInt32) :
    ∃ after, rounds? data count index hash = some after ∧
      absorb after (data.drop (4 * count.toNat)) = absorb hash (data.drop (4 * index.toNat)) := by
  -- The invariant of the loop: a round takes a word off what is still to be absorbed.
  fun_induction rounds? data count index hash with
  | case1 index hash below ih =>
    have less := UInt32.lt_iff_toNat_lt.1 below
    have next : (index + 1).toNat = index.toNat + 1 := by
      have bound := count.toNat_lt
      rw [UInt32.toNat_add, UInt32.toNat_one]
      omega
    obtain ⟨first, second, third, fourth, ahead⟩ :=
      exists_word (show 4 * index.toNat + 4 ≤ data.length by omega)
    have place := toNat_four_mul short (show 4 * index.toNat ≤ data.length by omega)
    have mixed := round?_eq short (place ▸ ahead) hash
    obtain ⟨after, looped, same⟩ := ih (mix hash (word first second third fourth))
      (UInt32.le_iff_toNat_le.2 (next ▸ less))
    refine ⟨after, ?_, ?_⟩
    · rw [mixed]
      exact looped
    · rw [same, next, ahead, absorb, Nat.mul_succ]
  | case2 index hash above =>
    have same : index = count := UInt32.le_antisymm order (UInt32.not_lt.1 above)
    exact ⟨hash, rfl, by rw [same]⟩

/-! ### What the rounds leave -/

theorem leftover?_one (behind : data.drop position.toNat = first :: rest) (hash : UInt32) :
    leftover? data position 1 hash = some ((hash ^^^ first.toUInt32) * multiplier) := by
  rw [leftover?, byteAt?_eq short behind]
  rfl

theorem leftover?_two (behind : data.drop position.toNat = first :: second :: rest)
    (hash : UInt32) :
    leftover? data position 2 hash =
      some ((hash ^^^ second.toUInt32 <<< 8 ^^^ first.toUInt32) * multiplier) := by
  rw [leftover?, byteAt?_add short behind 1 rfl]
  exact leftover?_one short behind _

theorem leftover?_three (behind : data.drop position.toNat = first :: second :: third :: rest)
    (hash : UInt32) :
    leftover? data position 3 hash =
      some ((hash ^^^ third.toUInt32 <<< 16 ^^^ second.toUInt32 <<< 8 ^^^ first.toUInt32) *
        multiplier) := by
  rw [leftover?, byteAt?_add short behind 2 rfl]
  exact leftover?_two short behind _

theorem leftover?_eq (behind : data.drop position.toNat = rest) (few : rest.length < 4)
    (hash : UInt32) :
    leftover? data position rest.length hash = some (absorb hash rest) := by
  match rest, few with
  | [], _ => simp [leftover?, absorb]
  | [first], _ => exact leftover?_one short behind hash
  | [first, second], _ =>
    have zero : hash ^^^ (0 : UInt8).toUInt32 <<< 16 = hash := UInt32.xor_zero
    rw [absorb, xor_word, zero]
    exact leftover?_two short behind hash
  | [first, second, third], _ =>
    rw [absorb, xor_word]
    exact leftover?_three short behind hash

end Short

end ByIndex

/-- On every byte string whose length has no sign bit, the producers' hash reads no position
outside and is the hash of this library. -/
theorem hash_agrees_by_index (data : Bytes) (short : data.length < Nat.pow 2 31) :
    ByIndex.hash? data = some (hash data) := by
  have bound : Nat.pow 2 31 = 2147483648 := rfl
  have length : (UInt32.ofNat data.length).toNat = data.length :=
    UInt32.toNat_ofNat_of_lt (show data.length < 4294967296 by omega)
  have count : (UInt32.ofNat data.length / 4).toNat = data.length / 4 := by
    rw [UInt32.toNat_div, length]
    rfl
  have left : (UInt32.ofNat data.length % 4).toNat = data.length % 4 := by
    rw [UInt32.toNat_mod, length]
    rfl
  have whole : 4 * (UInt32.ofNat data.length / 4).toNat ≤ data.length := by omega
  have stop := ByIndex.toNat_four_mul short whole
  have remaining : (data.drop (4 * (UInt32.ofNat data.length / 4).toNat)).length =
      data.length % 4 := by
    rw [List.length_drop]
    omega
  have first : (0 : UInt32) ≤ UInt32.ofNat data.length / 4 :=
    UInt32.le_iff_toNat_le.2 (Nat.zero_le _)
  obtain ⟨after, looped, same⟩ := ByIndex.exists_rounds? short first whole
    (0x9747b28c ^^^ UInt32.ofNat data.length)
  have folded := ByIndex.leftover?_eq short (congrArg (data.drop ·) stop) (by omega) after
  rw [remaining, same] at folded
  simp only [ByIndex.hash?, looped, left, folded, Option.bind_eq_bind, Option.bind_some]
  rfl

/-- Bytes with a sign, in a round and in all three cases of what is left. -/
theorem hash_agrees_by_index_signed :
    ([0xff, 0xfe, 0x80, 0x81, 0xc8, 0x00, 0xab] : Bytes).length < Nat.pow 2 31 ∧
      ByIndex.hash? [0xff, 0xfe, 0x80, 0x81, 0xc8, 0x00, 0xab] = some 919228533 := by
  have short : ([0xff, 0xfe, 0x80, 0x81, 0xc8, 0x00, 0xab] : Bytes).length < Nat.pow 2 31 := by
    decide
  exact ⟨short, (hash_agrees_by_index _ short).trans (by decide)⟩

end ShardedView.Murmur
