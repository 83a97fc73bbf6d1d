import ShardedView.Proofs.Text.Utf8
import ShardedView.Text.Digits

/-!
Texts against their bytes: the order of texts is the order of their bytes, so that a map that is
kept in the one is kept in the other, the beginnings of texts are the beginnings of their bytes,
and digits take one byte each.
-/

namespace ShardedView.Utf8

theorem ofNat_cons_lt_of_lt {left right : Nat} (less : left < right) (small : right < 256)
    (leftTail rightTail : Bytes) :
    UInt8.ofNat left :: leftTail < UInt8.ofNat right :: rightTail := by
  rw [List.cons_lt_cons_iff, lt_iff, toNat_byte (by omega), toNat_byte small]
  exact .inl less

theorem ofNat_cons_lt_of_le {left right : Nat} {leftTail rightTail : Bytes} (le : left ≤ right)
    (small : right < 256) (later : left = right → leftTail < rightTail) :
    UInt8.ofNat left :: leftTail < UInt8.ofNat right :: rightTail := by
  rcases Nat.lt_or_eq_of_le le with less | rfl
  · exact ofNat_cons_lt_of_lt less small _ _
  · exact List.cons_lt_cons_iff.2 (.inr ⟨rfl, later rfl⟩)

/-- Scalar values are in the order of their bytes, whatever follows: the longer form has the
greater lead, and forms of one length are compared from the high digits on. -/
theorem encodeChar_append_lt {left right : Char} (less : left < right) (leftTail rightTail : Bytes) :
    encodeChar left ++ leftTail < encodeChar right ++ rightTail := by
  have less : left.toNat < right.toNat := UInt32.lt_iff_toNat_lt.1 less
  have valid := valid_toNat right
  unfold encodeChar
  generalize left.toNat = low at *
  generalize right.toNat = high at *
  dsimp only
  split
  · repeat' split
    all_goals exact ofNat_cons_lt_of_lt (by omega) (by omega) _ _
  · rw [if_neg (show ¬high < 0x80 by omega)]
    split
    · split
      · refine ofNat_cons_lt_of_le (by omega) (by omega) fun lead => ?_
        exact ofNat_cons_lt_of_lt (by omega) (by omega) _ _
      · split
        all_goals exact ofNat_cons_lt_of_lt (by omega) (by omega) _ _
    · rw [if_neg (show ¬high < 0x800 by omega)]
      split
      · split
        · refine ofNat_cons_lt_of_le (by omega) (by omega) fun lead => ?_
          refine ofNat_cons_lt_of_le (by omega) (by omega) fun second => ?_
          exact ofNat_cons_lt_of_lt (by omega) (by omega) _ _
        · exact ofNat_cons_lt_of_lt (by omega) (by omega) _ _
      · rw [if_neg (show ¬high < 0x10000 by omega)]
        refine ofNat_cons_lt_of_le (by omega) (by omega) fun lead => ?_
        refine ofNat_cons_lt_of_le (by omega) (by omega) fun second => ?_
        refine ofNat_cons_lt_of_le (by omega) (by omega) fun third => ?_
        exact ofNat_cons_lt_of_lt (by omega) (by omega) _ _

theorem encodeChar_ne_nil (char : Char) : encodeChar char ≠ [] := by
  unfold encodeChar
  dsimp only
  repeat' split
  all_goals exact List.cons_ne_nil _ _

theorem flatMap_encodeChar_lt {left right : List Char} (less : left < right) :
    left.flatMap encodeChar < right.flatMap encodeChar := by
  induction left generalizing right with
  | nil =>
    cases right with
    | nil => exact absurd less (List.not_lt_nil [])
    | cons char rest =>
      obtain ⟨lead, tail, first⟩ := List.exists_cons_of_ne_nil (encodeChar_ne_nil char)
      rw [List.flatMap_cons, first]
      exact List.nil_lt_cons _ _
  | cons char rest ih =>
    cases right with
    | nil => exact absurd less (List.not_lt_nil _)
    | cons other others =>
      rw [List.flatMap_cons, List.flatMap_cons]
      rcases List.cons_lt_cons_iff.1 less with first | ⟨rfl, later⟩
      · exact encodeChar_append_lt first _ _
      · exact List.append_left_lt (ih later)

theorem encode_lt_encode_iff {left right : String} :
    encode left < encode right ↔ left < right := by
  constructor
  · intro less
    rcases Std.lt_trichotomy left right with own | rfl | greater
    · exact own
    · exact absurd less Std.lt_irrefl
    · have turned := flatMap_encodeChar_lt (String.lt_iff.1 greater)
      exact absurd (Std.lt_trans less turned) Std.lt_irrefl
  · exact fun less => flatMap_encodeChar_lt (String.lt_iff.1 less)

theorem flatMap_encodeChar_isPrefix_iff {left right : List Char} :
    left.flatMap encodeChar <+: right.flatMap encodeChar ↔ left <+: right := by
  constructor
  · intro shared
    induction left generalizing right with
    | nil => exact List.nil_prefix
    | cons char rest ih =>
      cases right with
      | nil =>
        rw [List.flatMap_cons, List.flatMap_nil, List.prefix_nil, List.append_eq_nil_iff] at shared
        exact absurd shared.1 (encodeChar_ne_nil char)
      | cons other others =>
        -- Different scalar values are in strict order whatever follows, so neither can go on
        -- to the other's bytes.
        have same : char = other := by
          obtain ⟨tail, equal⟩ := shared
          rw [List.flatMap_cons, List.flatMap_cons, List.append_assoc] at equal
          rcases Std.lt_trichotomy char other with less | same | greater
          · exact absurd (equal ▸ encodeChar_append_lt less _ _) Std.lt_irrefl
          · exact same
          · exact absurd (equal ▸ encodeChar_append_lt greater _ _) Std.lt_irrefl
        subst same
        rw [List.flatMap_cons, List.flatMap_cons, List.prefix_append_right_inj] at shared
        exact List.cons_prefix_cons.2 ⟨rfl, ih shared⟩
  · rintro ⟨tail, rfl⟩
    rw [List.flatMap_append]
    exact List.prefix_append ..

theorem encode_isPrefix_encode_iff {left right : String} :
    encode left <+: encode right ↔ left.toList <+: right.toList :=
  flatMap_encodeChar_isPrefix_iff

theorem encodeChar_of_isDigit {char : Char} (digit : Digits.isDigit char = true) :
    encodeChar char = [UInt8.ofNat char.toNat] := by
  simp only [Digits.isDigit, Bool.and_eq_true, decide_eq_true_eq] at digit
  rw [encodeChar, if_pos (by omega)]

theorem length_flatMap_encodeChar_of_digits {chars : List Char}
    (digits : ∀ char ∈ chars, Digits.isDigit char = true) :
    (chars.flatMap encodeChar).length = chars.length := by
  induction chars with
  | nil => rfl
  | cons char rest ih =>
    rw [List.flatMap_cons, encodeChar_of_isDigit (digits char (.head _)), List.length_append,
      ih fun other member => digits other (.tail _ member), List.length_singleton,
      List.length_cons, Nat.add_comm]

end ShardedView.Utf8
