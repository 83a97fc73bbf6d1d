import ShardedView.Proofs.Http.Percent
import ShardedView.Proofs.Net.Address

/-!
The pairs of a query are read back from their form encoding.
-/

namespace ShardedView.Form

/-- A plus sign stands for a blank. -/
def unplus (byte : UInt8) : UInt8 :=
  if byte = 0x2B then 0x20 else byte

theorem unplus_of_ne {byte : UInt8} (plain : byte ≠ 0x2B) : unplus byte = byte :=
  if_neg plain

def isEncoded (char : Char) : Bool :=
  char.isAlphanum || char ∈ ['*', '-', '.', '_', '+', '%']

theorem isEncoded_of_mem_encodeByte {byte : UInt8} {char : Char}
    (member : char ∈ encodeByte byte) : isEncoded char = true := by
  unfold encodeByte at member
  simp only at member
  split at member
  · rw [List.mem_singleton.1 member]
    rfl
  · split at member
    · next plain =>
      rw [List.mem_singleton.1 member]
      simp only [Bool.and_eq_true, Bool.or_eq_true, decide_eq_true_eq, List.mem_cons] at plain
      simp only [isEncoded, Bool.or_eq_true, decide_eq_true_eq, List.mem_cons]
      rcases plain.2 with alphanumeric | star | minus | point | line | nothing
      · exact .inl alphanumeric
      · exact .inr (.inl star)
      · exact .inr (.inr (.inl minus))
      · exact .inr (.inr (.inr (.inl point)))
      · exact .inr (.inr (.inr (.inr (.inl line))))
      · contradiction
    · rcases Percent.mem_triplet member with rfl | alphanumeric
      · rfl
      · rw [isEncoded, alphanumeric, Bool.true_or]

theorem not_mem_encode (char : Char) (foreign : isEncoded char = false) (text : String) :
    char ∉ encode text := by
  intro member
  obtain ⟨byte, -, member⟩ := List.mem_flatMap.1 member
  rw [isEncoded_of_mem_encodeByte member] at foreign
  contradiction

theorem decode_encodeByte_append (byte : UInt8) (rest : Bytes) :
    Percent.decode (((encodeByte byte).flatMap Utf8.encodeChar).map unplus ++ rest) =
      byte :: Percent.decode rest := by
  unfold encodeByte
  simp only
  split
  · next blank =>
    subst blank
    exact Percent.decode_cons (by decide) rest
  · split
    · next plain =>
      simp only [Bool.and_eq_true, Bool.or_eq_true, decide_eq_true_eq] at plain
      have noPlus : byte ≠ 0x2B := by
        rintro rfl
        exact absurd plain.2 (by decide)
      have noPercent : byte ≠ 0x25 := by
        rintro rfl
        exact absurd plain.2 (by decide)
      rw [List.flatMap_cons, List.flatMap_nil, List.append_nil, Utf8.encodeChar_one plain.1,
        List.map_cons, List.map_nil, unplus_of_ne noPlus]
      exact Percent.decode_cons noPercent rest
    · obtain ⟨high, low, written, highRead, lowRead, highPlain, lowPlain⟩ :=
        Percent.encodeChar_triplet byte
      rw [written, List.map_cons, List.map_cons, List.map_cons, List.map_nil,
        unplus_of_ne highPlain, unplus_of_ne lowPlain]
      exact Percent.decode_of_hexValue? highRead lowRead rest

theorem decode_encodeBytes (bytes : Bytes) :
    Percent.decode (((bytes.flatMap encodeByte).flatMap Utf8.encodeChar).map unplus) = bytes := by
  induction bytes with
  | nil => rfl
  | cons byte rest ih =>
    rw [List.flatMap_cons, List.flatMap_append, List.map_append, decode_encodeByte_append, ih]

theorem decode_encode (text : String) : decode ((encode text).flatMap Utf8.encodeChar) = text := by
  have bytes : Percent.decode (((encode text).flatMap Utf8.encodeChar).map unplus) =
      Utf8.encode text := decode_encodeBytes _
  show Utf8.decodeLossy (Percent.decode (((encode text).flatMap Utf8.encodeChar).map unplus)) = text
  rw [bytes, Utf8.decodeLossy_encode]

/-! ### Pairs -/

theorem splitPairs_ne_nil (bytes : Bytes) : splitPairs bytes ≠ [] := by
  cases bytes with
  | nil => nofun
  | cons byte rest =>
    rw [splitPairs]
    split
    · nofun
    · split <;> nofun

theorem splitPairs_of_not_mem {run : Bytes} (whole : 0x26 ∉ run) : splitPairs run = [run] := by
  induction run with
  | nil => rfl
  | cons byte run ih =>
    rw [splitPairs, ih fun member => whole (.tail _ member)]
    have plain : byte ≠ 0x26 := fun same => whole (same ▸ .head _)
    simp only [plain, if_false]

theorem splitPairs_append {run : Bytes} (whole : 0x26 ∉ run) (rest : Bytes) :
    splitPairs (run ++ 0x26 :: rest) = run :: splitPairs rest := by
  induction run with
  | nil =>
    rw [List.nil_append, splitPairs]
    cases runs : splitPairs rest with
    | nil => exact absurd runs (splitPairs_ne_nil rest)
    | cons first later => rfl
  | cons byte run ih =>
    rw [List.cons_append, splitPairs, ih fun member => whole (.tail _ member)]
    have plain : byte ≠ 0x26 := fun same => whole (same ▸ .head _)
    simp only [plain, if_false]

def pairBytes (pair : String × String) : Bytes :=
  (encode pair.1).flatMap Utf8.encodeChar ++ 0x3D :: (encode pair.2).flatMap Utf8.encodeChar

theorem flatMap_encodePairs_cons (pair next : String × String) (rest : List (String × String)) :
    (encodePairs (pair :: next :: rest)).flatMap Utf8.encodeChar =
      pairBytes pair ++ 0x26 :: (encodePairs (next :: rest)).flatMap Utf8.encodeChar := by
  simp only [encodePairs, List.map_cons, List.intercalate_cons_cons, List.flatMap_append,
    List.flatMap_cons, pairBytes, List.append_assoc]
  rfl

theorem flatMap_encodePairs_singleton (pair : String × String) :
    (encodePairs [pair]).flatMap Utf8.encodeChar = pairBytes pair := by
  simp only [encodePairs, List.map_cons, List.map_nil, List.intercalate_singleton,
    List.flatMap_append, List.flatMap_cons, pairBytes]
  rfl

theorem not_mem_pairBytes (pair : String × String) : 0x26 ∉ pairBytes pair := by
  intro member
  rcases List.mem_append.1 member with name | member
  · exact Utf8.not_mem_flatMap_encodeChar (not_mem_encode '&' rfl _) (by decide) rfl name
  · rcases List.mem_cons.1 member with sign | value
    · contradiction
    · exact Utf8.not_mem_flatMap_encodeChar (not_mem_encode '&' rfl _) (by decide) rfl
        value

theorem splitPair_pairBytes (pair : String × String) :
    splitPair (pairBytes pair) =
      ((encode pair.1).flatMap Utf8.encodeChar, (encode pair.2).flatMap Utf8.encodeChar) := by
  have plain : ∀ byte ∈ (encode pair.1).flatMap Utf8.encodeChar, decide (byte ≠ 0x3D) = true := by
    intro byte member
    refine decide_eq_true ?_
    rintro rfl
    exact Utf8.not_mem_flatMap_encodeChar (not_mem_encode '=' rfl _) (by decide) rfl
      member
  rw [splitPair, pairBytes, List.takeWhile_append_of_pos plain, List.dropWhile_append_of_pos plain]
  simp

theorem splitPairs_encodePairs (pair : String × String) (rest : List (String × String)) :
    splitPairs ((encodePairs (pair :: rest)).flatMap Utf8.encodeChar) =
      (pair :: rest).map pairBytes := by
  induction rest generalizing pair with
  | nil =>
    rw [flatMap_encodePairs_singleton, splitPairs_of_not_mem (not_mem_pairBytes pair)]
    rfl
  | cons next rest ih =>
    rw [flatMap_encodePairs_cons, splitPairs_append (not_mem_pairBytes pair), ih]
    rfl

theorem not_mem_encodePairs (char : Char) (foreign : isEncoded char = false)
    (noAmpersand : char ≠ '&') (noEquals : char ≠ '=') (pairs : List (String × String)) :
    char ∉ encodePairs pairs := by
  intro member
  rcases Net.mem_intercalate member with sign | ⟨part, found, inside⟩
  · exact noAmpersand sign
  · obtain ⟨pair, -, rfl⟩ := List.mem_map.1 found
    rcases List.mem_append.1 inside with name | inside
    · exact not_mem_encode char foreign pair.1 name
    · rcases List.mem_cons.1 inside with sign | value
      · exact noEquals sign
      · exact not_mem_encode char foreign pair.2 value

theorem decodePairs_encodePairs (pairs : List (String × String)) :
    decodePairs ((encodePairs pairs).flatMap Utf8.encodeChar) = pairs := by
  cases pairs with
  | nil => rfl
  | cons pair rest =>
    have nonempty : ((pair :: rest).map pairBytes).filter (!·.isEmpty) =
        (pair :: rest).map pairBytes := by
      refine List.filter_eq_self.2 fun run member => ?_
      obtain ⟨pair, -, rfl⟩ := List.mem_map.1 member
      simp [pairBytes]
    rw [decodePairs, splitPairs_encodePairs, nonempty, List.map_map]
    refine (List.map_congr_left fun pair _ => ?_).trans (List.map_id _)
    simp only [Function.comp_apply, splitPair_pairBytes, decode_encode, id]

end ShardedView.Form
