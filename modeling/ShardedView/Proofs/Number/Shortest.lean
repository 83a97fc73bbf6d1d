import ShardedView.Number.Shortest
import ShardedView.Proofs.Text.Digits

/-!
The shortest decimal of a number has no needless zeros in front: its digits are zero for the
number zero only, at the place zero.
-/

namespace ShardedView

namespace Digits

theorem pow_count_le {number : Nat} (positive : 0 < number) :
    Nat.pow 10 (count number - 1) ≤ number := by
  fun_induction count number with
  | case1 number small => exact positive
  | case2 number large ih =>
    have shorter := ih (by omega)
    have leading : 0 < count (number / 10) := by
      rw [count]
      split <;> omega
    obtain ⟨places, equal⟩ := Nat.exists_eq_succ_of_ne_zero (Nat.ne_of_gt leading)
    have power : Nat.pow 10 (places + 1) = Nat.pow 10 places * 10 := rfl
    simp only [equal, Nat.succ_eq_add_one, Nat.add_sub_cancel] at shorter ⊢
    omega

end Digits

namespace Shortest

open Binary64 (Magnitude)

variable {value : Magnitude}

theorem digits_ne_zero_of_contains (positive : 0 < value.significand) {decimal : Decimal}
    (inside : (Interval.ofMagnitude value).contains decimal = true) : decimal.digits ≠ 0 := by
  intro zero
  have lower : 0 < (Interval.ofMagnitude value).lower := by
    simp only [Interval.ofMagnitude]
    split <;> omega
  have denominator : 0 < decimal.denominator := Nat.pow_pos (by decide)
  have scale : 0 < (Interval.ofMagnitude value).lower *
      decimal.denominator <<< (Interval.ofMagnitude value).exponent.toNat := by
    rw [Nat.shiftLeft_eq]
    exact Nat.mul_pos lower (Nat.mul_pos denominator (Nat.two_pow_pos _))
  simp only [Interval.contains, Decimal.numerator, zero, Nat.zero_mul, Nat.zero_shiftLeft] at inside
  split at inside
  all_goals
    have below := of_decide_eq_true (Bool.and_eq_true_iff.1 inside).1
    omega

theorem contains_of_nearest? {interval : Interval} {exponent : Int} {decimal : Decimal}
    (found : interval.nearest? exponent = some decimal) : interval.contains decimal = true := by
  simp only [Interval.nearest?] at found
  split at found
  · contradiction
  · next below _ => exact Option.some.inj found ▸ below
  · next _ above => exact Option.some.inj found ▸ above
  · next below above =>
    split at found
    · exact Option.some.inj found ▸ below
    · exact Option.some.inj found ▸ above

theorem centre_mul_denominator (value : Magnitude) :
    ((Interval.ofMagnitude value).centre <<< (Interval.ofMagnitude value).exponent.toNat) *
        value.denominator =
      value.numerator * (1 <<< (-(Interval.ofMagnitude value).exponent).toNat) := by
  obtain ⟨significand, exponent⟩ := value
  have places : (exponent - 2).toNat + (-exponent).toNat + 2 =
      exponent.toNat + (-(exponent - 2)).toNat := by omega
  have powers : Nat.pow 2 (exponent - 2).toNat * Nat.pow 2 (-exponent).toNat * 4 =
      Nat.pow 2 exponent.toNat * Nat.pow 2 (-(exponent - 2)).toNat := by
    have sum : ∀ first second,
        Nat.pow 2 (first + second) = Nat.pow 2 first * Nat.pow 2 second := Nat.pow_add 2
    rw [← sum, ← sum, ← places, sum _ 2]
  simp only [Interval.ofMagnitude, Magnitude.numerator, Magnitude.denominator, Nat.shiftLeft_eq,
    Nat.one_mul]
  show 4 * significand * Nat.pow 2 (exponent - 2).toNat * Nat.pow 2 (-exponent).toNat =
    significand * Nat.pow 2 exponent.toNat * Nat.pow 2 (-(exponent - 2)).toNat
  rw [Nat.mul_assoc significand, ← powers]
  ac_rfl

/-- On a grid finer than the place of its leading digit the number does not fall short of
the first multiple. -/
theorem digits_floor_ne_zero (positive : 0 < value.significand) {exponent : Int}
    (fine : exponent < leadingDigit value) :
    ((Interval.ofMagnitude value).floor exponent).digits ≠ 0 := by
  have numerator : 0 < value.numerator := by
    rw [Magnitude.numerator, Nat.shiftLeft_eq]
    exact Nat.mul_pos positive (Nat.two_pow_pos _)
  have denominator : 0 < value.denominator := by
    rw [Magnitude.denominator, Nat.shiftLeft_eq, Nat.one_mul]
    exact Nat.two_pow_pos _
  have reached : value.denominator * Nat.pow 10 exponent.toNat ≤
      value.numerator * Nat.pow 10 (-exponent).toNat := by
    have grows : ∀ {first second : Nat}, first ≤ second → Nat.pow 10 first ≤ Nat.pow 10 second :=
      Nat.pow_le_pow_right (by decide)
    simp only [leadingDigit] at fine
    split at fine
    case isTrue small =>
      have below : exponent.toNat = 0 := by omega
      have less := Digits.lt_pow_count (value.denominator / value.numerator)
      have finer := grows (show Digits.count (value.denominator / value.numerator) ≤
        (-exponent).toNat by omega)
      rw [below]
      show value.denominator * 1 ≤ _
      rw [Nat.mul_one, Nat.mul_comm]
      exact Nat.le_of_lt ((Nat.div_lt_iff_lt_mul numerator).1 (Nat.lt_of_lt_of_le less finer))
    case isFalse large =>
      have leading := Digits.pow_count_le (Nat.pos_of_ne_zero large)
      have finer := grows (show exponent.toNat ≤
        Digits.count (value.numerator / value.denominator) - 1 by omega)
      have whole := (Nat.le_div_iff_mul_le denominator).1 (Nat.le_trans finer leading)
      rw [Nat.mul_comm]
      exact Nat.le_trans whole (Nat.le_mul_of_pos_right _ (Nat.pow_pos (by decide)))
  have centre := centre_mul_denominator value
  simp only [Interval.floor]
  apply Nat.ne_of_gt
  apply Nat.div_pos
  · apply Nat.le_of_mul_le_mul_right _ denominator
    calc (1 <<< (-(Interval.ofMagnitude value).exponent).toNat * Nat.pow 10 exponent.toNat) *
          value.denominator
        = 1 <<< (-(Interval.ofMagnitude value).exponent).toNat *
          (value.denominator * Nat.pow 10 exponent.toNat) := by ac_rfl
      _ ≤ 1 <<< (-(Interval.ofMagnitude value).exponent).toNat *
          (value.numerator * Nat.pow 10 (-exponent).toNat) := Nat.mul_le_mul_left _ reached
      _ = value.numerator * 1 <<< (-(Interval.ofMagnitude value).exponent).toNat *
          Nat.pow 10 (-exponent).toNat := by ac_rfl
      _ = (Interval.ofMagnitude value).centre <<< (Interval.ofMagnitude value).exponent.toNat *
          Nat.pow 10 (-exponent).toNat * value.denominator := by
        rw [← centre]
        ac_rfl
  · rw [Nat.shiftLeft_eq, Nat.one_mul]
    exact Nat.mul_pos (Nat.two_pow_pos _) (Nat.pow_pos (by decide))

/-- Any grid that reads back to the number does, and so does the finest one tried. -/
theorem digits_search_ne_zero (positive : 0 < value.significand) (steps : Nat) {exponent : Int}
    (fine : exponent - steps < leadingDigit value) :
    (search (.ofMagnitude value) exponent steps).digits ≠ 0 := by
  induction steps generalizing exponent with
  | zero => exact digits_floor_ne_zero positive (by omega)
  | succ steps ih =>
    simp only [search]
    split
    · next decimal found =>
      exact digits_ne_zero_of_contains positive (contains_of_nearest? found)
    · exact ih (by omega)

theorem digits_stripZeros_ne_zero (fuel : Nat) {decimal : Decimal} (nonzero : decimal.digits ≠ 0) :
    (stripZeros fuel decimal).digits ≠ 0 := by
  fun_induction stripZeros fuel decimal with
  | case1 decimal => exact nonzero
  | case2 fuel decimal trailing ih => exact ih (by simp only; omega)
  | case3 fuel decimal stop => exact nonzero

theorem digits_ofMagnitude_ne_zero (positive : value.significand ≠ 0) :
    (ofMagnitude value).digits ≠ 0 := by
  rw [ofMagnitude, if_neg positive]
  apply digits_stripZeros_ne_zero
  exact digits_search_ne_zero (Nat.pos_of_ne_zero positive) _ (by omega)

theorem ofMagnitude_of_digits_eq_zero (zero : (ofMagnitude value).digits = 0) :
    ofMagnitude value = ⟨0, 0⟩ := by
  by_cases significand : value.significand = 0
  · rw [ofMagnitude, if_pos significand]
  · exact absurd zero (digits_ofMagnitude_ne_zero significand)

end Shortest

namespace FloatFormat

theorem mem_positional {digits : List Char} {exponent : Int} {char : Char}
    (member : char ∈ positional digits exponent) : char ∈ digits ∨ char = '0' ∨ char = '.' := by
  simp only [positional] at member
  split at member
  · simp only [List.mem_append, List.mem_replicate, List.mem_cons] at member
    grind
  · split at member
    · simp only [List.mem_append, List.mem_replicate, List.mem_cons] at member
      grind
    · simp only [List.mem_append, List.mem_cons] at member
      grind [List.mem_of_mem_take, List.mem_of_mem_drop]

theorem mem_scientific {digits : List Char} {leading : Int} {char : Char}
    (member : char ∈ scientific digits leading) :
    char ∈ digits ∨ char ∈ ['.', 'e', '-', '+'] ∨ Digits.isDigit char = true := by
  simp only [scientific, List.mem_append, List.mem_cons] at member
  grind [Digits.isDigit_of_mem_ofNat]

/-- A number is written in digits, signs, a point and the mark of the exponent. -/
theorem mem_write {format : FloatFormat} {number : Finite64} {char : Char}
    (member : char ∈ format.write number) :
    Digits.isDigit char = true ∨ char ∈ ['-', '+', '.', 'e'] := by
  have zero : Digits.isDigit '0' = true := rfl
  simp only [write] at member
  grind [mem_positional, mem_scientific, Digits.isDigit_of_mem_ofNat]

end FloatFormat

end ShardedView
