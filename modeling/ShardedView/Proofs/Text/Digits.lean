import ShardedView.Number.Integer

/-!
Decimal digits: reading what was written gives the number back, and numbers written
with one width are in the order of their texts.
-/

namespace ShardedView

namespace Digits

theorem toNat_toChar {digit : Nat} (small : digit < 10) : (toChar digit).toNat = 48 + digit := by
  have each : ∀ digit : Fin 10, (toChar digit).toNat = 48 + digit := by decide
  exact each ⟨digit, small⟩

theorem isDigit_toChar {digit : Nat} (small : digit < 10) : isDigit (toChar digit) = true := by
  simp only [isDigit, toNat_toChar small, Bool.and_eq_true, decide_eq_true_eq]
  omega

theorem isAlphanum_of_isDigit {char : Char} (digit : isDigit char = true) :
    char.isAlphanum = true := by
  simp only [isDigit, Bool.and_eq_true, decide_eq_true_eq] at digit
  have own : char.isDigit = true := by
    rw [Char.isDigit, Bool.and_eq_true, decide_eq_true_iff, decide_eq_true_iff]
    exact ⟨UInt32.le_iff_toNat_le.2 digit.1, UInt32.le_iff_toNat_le.2 digit.2⟩
  rw [Char.isAlphanum, own, Bool.or_true]

theorem toChar_lt_toChar {left right : Nat} (leftSmall : left < 10) (rightSmall : right < 10) :
    toChar left < toChar right ↔ left < right := by
  have value : ∀ {digit : Nat}, digit < 10 → (toChar digit).val.toNat = 48 + digit :=
    fun small => toNat_toChar small
  rw [Char.lt_def, UInt32.lt_iff_toNat_lt, value leftSmall, value rightSmall]
  omega

/-! ### Digits of a fixed width -/

theorem fixedOnto_eq (width number : Nat) (tail : List Char) :
    fixedOnto width number tail = fixed width number ++ tail := by
  induction width generalizing number tail with
  | zero => rfl
  | succ width ih =>
    rw [fixed, fixedOnto, fixedOnto, ih, ih (number / 10) [_], List.append_assoc]
    rfl

@[simp]
theorem fixed_zero (number : Nat) : fixed 0 number = [] := rfl

theorem fixed_succ (width number : Nat) :
    fixed (width + 1) number = fixed width (number / 10) ++ [toChar (number % 10)] := by
  rw [fixed, fixedOnto, fixedOnto_eq]

@[simp]
theorem length_fixed (width number : Nat) : (fixed width number).length = width := by
  induction width generalizing number with
  | zero => rfl
  | succ width ih => simp [fixed_succ, ih]

theorem isDigit_of_mem_fixed {width number : Nat} {char : Char}
    (member : char ∈ fixed width number) : isDigit char = true := by
  induction width generalizing number with
  | zero => simp at member
  | succ width ih =>
    rw [fixed_succ, List.mem_append, List.mem_singleton] at member
    rcases member with earlier | rfl
    · exact ih earlier
    · exact isDigit_toChar (Nat.mod_lt _ (by decide))

theorem valueFrom_append (start : Nat) (first second : List Char) :
    valueFrom start (first ++ second) = valueFrom (valueFrom start first) second :=
  List.foldl_append

theorem valueFrom_fixed {width number : Nat} (fits : number < Nat.pow 10 width) :
    valueFrom 0 (fixed width number) = number := by
  induction width generalizing number with
  | zero =>
    have zero : number = 0 := Nat.lt_one_iff.1 fits
    simp [zero, valueFrom]
  | succ width ih =>
    have fits : number < Nat.pow 10 width * 10 := fits
    rw [fixed_succ, valueFrom_append, ih (by omega)]
    simp only [valueFrom, List.foldl_cons, List.foldl_nil,
      toNat_toChar (Nat.mod_lt number (by decide))]
    omega

theorem toChar_of_isDigit {char : Char} (digit : isDigit char = true) :
    toChar (char.toNat - 48) = char := by
  simp only [isDigit, Bool.and_eq_true, decide_eq_true_eq] at digit
  rw [toChar, Nat.add_sub_cancel' digit.1, Char.ofNat_toNat]

theorem sub_lt_of_isDigit {char : Char} (digit : isDigit char = true) : char.toNat - 48 < 10 := by
  simp only [isDigit, Bool.and_eq_true, decide_eq_true_eq] at digit
  omega

/-- Digits behind others are the last ones of the number that all of them spell. -/
theorem fixed_add_valueFrom {chars : List Char} (digits : ∀ char ∈ chars, isDigit char = true)
    (width start : Nat) :
    fixed (width + chars.length) (valueFrom start chars) = fixed width start ++ chars := by
  induction chars generalizing width start with
  | nil => exact (List.append_nil _).symm
  | cons char rest ih =>
    have small := sub_lt_of_isDigit (digits char (.head _))
    have later := ih (fun other member => digits other (.tail _ member)) (width + 1)
      (start * 10 + (char.toNat - 48))
    have high : (start * 10 + (char.toNat - 48)) / 10 = start := by omega
    have low : (start * 10 + (char.toNat - 48)) % 10 = char.toNat - 48 := by omega
    rw [fixed_succ, high, low, toChar_of_isDigit (digits char (.head _)), List.append_assoc,
      Nat.add_right_comm] at later
    exact later

theorem fixed_valueFrom {chars : List Char} (digits : ∀ char ∈ chars, isDigit char = true) :
    fixed chars.length (valueFrom 0 chars) = chars := by
  have whole := fixed_add_valueFrom digits 0 0
  rwa [Nat.zero_add] at whole

theorem fixed_injective {width left right : Nat} (leftFits : left < Nat.pow 10 width)
    (rightFits : right < Nat.pow 10 width) (equal : fixed width left = fixed width right) :
    left = right := by
  rw [← valueFrom_fixed leftFits, equal, valueFrom_fixed rightFits]

theorem append_lt_append_of_length_eq {left right : List Char} (leftTail rightTail : List Char)
    (same : left.length = right.length) :
    left ++ leftTail < right ++ rightTail ↔ left < right ∨ left = right ∧ leftTail < rightTail := by
  induction left generalizing right with
  | nil =>
    obtain rfl : right = [] := List.length_eq_zero_iff.1 same.symm
    simp
  | cons head rest ih =>
    cases right with
    | nil => simp at same
    | cons other others =>
      simp only [List.cons_append, List.cons_lt_cons_iff, List.cons.injEq,
        ih (Nat.succ.inj same)]
      constructor
      · rintro (less | ⟨equal, less | ⟨tails, less⟩⟩)
        · exact .inl (.inl less)
        · exact .inl (.inr ⟨equal, less⟩)
        · exact .inr ⟨⟨equal, tails⟩, less⟩
      · rintro ((less | ⟨equal, less⟩) | ⟨⟨equal, tails⟩, less⟩)
        · exact .inl less
        · exact .inr ⟨equal, .inl less⟩
        · exact .inr ⟨equal, .inr ⟨tails, less⟩⟩

theorem fixed_lt_fixed_iff {width left right : Nat} (leftFits : left < Nat.pow 10 width)
    (rightFits : right < Nat.pow 10 width) :
    fixed width left < fixed width right ↔ left < right := by
  induction width generalizing left right with
  | zero =>
    have leftZero : left = 0 := Nat.lt_one_iff.1 leftFits
    have rightZero : right = 0 := Nat.lt_one_iff.1 rightFits
    simp [leftZero, rightZero]
  | succ width ih =>
    have leftFits : left < Nat.pow 10 width * 10 := leftFits
    have rightFits : right < Nat.pow 10 width * 10 := rightFits
    have leftHigh : left / 10 < Nat.pow 10 width := by omega
    have rightHigh : right / 10 < Nat.pow 10 width := by omega
    have leftLow : left % 10 < 10 := Nat.mod_lt _ (by decide)
    have rightLow : right % 10 < 10 := Nat.mod_lt _ (by decide)
    rw [fixed_succ, fixed_succ, append_lt_append_of_length_eq _ _ (by simp), ih leftHigh rightHigh]
    simp only [List.cons_lt_cons_iff, List.not_lt_nil, and_false, or_false,
      toChar_lt_toChar leftLow rightLow]
    constructor
    · rintro (less | ⟨equal, less⟩)
      · omega
      · have := fixed_injective leftHigh rightHigh equal
        omega
    · intro less
      by_cases high : left / 10 = right / 10
      · exact .inr ⟨by rw [high], by omega⟩
      · exact .inl (by omega)

/-! ### Digits of a number -/

theorem lt_pow_count (number : Nat) : number < Nat.pow 10 (count number) := by
  fun_induction count number with
  | case1 number small => exact small
  | case2 number large ih =>
    have power : Nat.pow 10 (count (number / 10) + 1) = Nat.pow 10 (count (number / 10)) * 10 := rfl
    omega

theorem count_le {width number : Nat} (positive : 0 < width) (fits : number < Nat.pow 10 width) :
    count number ≤ width := by
  fun_induction count number generalizing width with
  | case1 number small => exact positive
  | case2 number large ih =>
    obtain ⟨width, rfl⟩ := Nat.exists_eq_succ_of_ne_zero (Nat.ne_of_gt positive)
    have fits : number < Nat.pow 10 width * 10 := fits
    have positive : 0 < width := by
      refine Nat.pos_of_ne_zero fun zero => ?_
      subst zero
      exact large fits
    exact Nat.succ_le_succ (ih positive (by omega))

theorem padded_eq_fixed {width number : Nat} (positive : 0 < width)
    (fits : number < Nat.pow 10 width) : padded width number = fixed width number := by
  rw [padded, Nat.max_eq_left (count_le positive fits)]

theorem ofNat_of_lt {number : Nat} (small : number < 10) : ofNat number = [toChar number] := by
  have one : count number = 1 := by rw [count, if_pos small]
  rw [ofNat, one, fixed_succ, fixed_zero, Nat.mod_eq_of_lt small, List.nil_append]

theorem ofNat_of_le {number : Nat} (large : 10 ≤ number) :
    ofNat number = ofNat (number / 10) ++ [toChar (number % 10)] := by
  have more : count number = count (number / 10) + 1 := by rw [count, if_neg (by omega)]
  rw [ofNat, more, fixed_succ, ← ofNat]

theorem isDigit_of_mem_ofNat {number : Nat} {char : Char} (member : char ∈ ofNat number) :
    isDigit char = true :=
  isDigit_of_mem_fixed member

@[simp]
theorem valueFrom_ofNat (number : Nat) : valueFrom 0 (ofNat number) = number :=
  valueFrom_fixed (lt_pow_count number)

theorem exists_cons_of_pos {number : Nat} (positive : 0 < number) :
    ∃ digit rest, ofNat number = toChar digit :: rest ∧ 0 < digit ∧ digit < 10 := by
  induction number using Nat.strongRecOn with
  | ind number ih =>
    by_cases small : number < 10
    · exact ⟨number, [], ofNat_of_lt small, positive, small⟩
    · obtain ⟨digit, rest, equal, bounds⟩ := ih (number / 10) (by omega) (by omega)
      exact ⟨digit, rest ++ [toChar (number % 10)],
        by rw [ofNat_of_le (by omega), equal, List.cons_append], bounds⟩

theorem ofNat_zero : ofNat 0 = ['0'] := ofNat_of_lt (by decide)

theorem exists_cons (number : Nat) :
    ∃ digit rest, ofNat number = toChar digit :: rest ∧ digit < 10 := by
  rcases Nat.eq_zero_or_pos number with rfl | positive
  · exact ⟨0, [], ofNat_zero, by decide⟩
  · obtain ⟨digit, rest, equal, -, small⟩ := exists_cons_of_pos positive
    exact ⟨digit, rest, equal, small⟩

theorem ofNat_ne_nil (number : Nat) : ofNat number ≠ [] := by
  obtain ⟨digit, rest, equal, -⟩ := exists_cons number
  simp [equal]

/-- A sign or a digit. -/
theorem mem_ofInt {number : Int} {char : Char} (member : char ∈ ofInt number) :
    char = '-' ∨ isDigit char = true := by
  cases number with
  | ofNat number => exact .inr (isDigit_of_mem_ofNat member)
  | negSucc number =>
    rcases List.mem_cons.1 member with rfl | digit
    · exact .inl rfl
    · exact .inr (isDigit_of_mem_ofNat digit)

end Digits

namespace Integer

theorem le_valueFrom (start : Nat) (chars : List Char) : start ≤ Digits.valueFrom start chars := by
  induction chars generalizing start with
  | nil => exact Nat.le_refl _
  | cons char rest ih =>
    refine Nat.le_trans ?_ (ih (start * 10 + (char.toNat - 48)))
    omega

theorem ofChar?_of_isDigit {char : Char} (digit : Digits.isDigit char = true) :
    Digits.ofChar? char = some (char.toNat - 48) := by
  simp only [Digits.isDigit, Bool.and_eq_true, decide_eq_true_eq] at digit
  rw [Digits.ofChar?, if_pos digit]

/-- Digits are read as the number that they spell, if it is within the bound. -/
theorem readDigits_eq_valueFrom {bound start : Nat} {overflow : IntegerFault} {chars : List Char}
    (digits : ∀ char ∈ chars, Digits.isDigit char = true)
    (within : Digits.valueFrom start chars ≤ bound) :
    readDigits bound overflow start chars = .ok (Digits.valueFrom start chars) := by
  induction chars generalizing start with
  | nil => rfl
  | cons char rest ih =>
    have next : start * 10 + (char.toNat - 48) ≤ bound :=
      Nat.le_trans (le_valueFrom _ rest) within
    rw [readDigits, ofChar?_of_isDigit (digits char (.head _))]
    simp only [next, if_true]
    exact ih (fun char member => digits char (.tail _ member)) within

theorem isDigit_of_ofChar? {char : Char} {digit : Nat} (read : Digits.ofChar? char = some digit) :
    Digits.isDigit char = true ∧ digit = char.toNat - 48 := by
  unfold Digits.ofChar? at read
  split at read
  · next within =>
    refine ⟨?_, (Option.some.inj read).symm⟩
    simpa only [Digits.isDigit, Bool.and_eq_true, decide_eq_true_eq] using within
  · contradiction

theorem readDigits_eq_ok_iff {bound start number : Nat} {overflow : IntegerFault}
    {chars : List Char} (small : start ≤ bound) :
    readDigits bound overflow start chars = .ok number ↔
      (∀ char ∈ chars, Digits.isDigit char = true) ∧ Digits.valueFrom start chars = number ∧
        number ≤ bound := by
  constructor
  · intro read
    induction chars generalizing start with
    | nil =>
      obtain rfl := Except.ok.inj read
      exact ⟨nofun, rfl, small⟩
    | cons char rest ih =>
      rw [readDigits] at read
      split at read
      · contradiction
      · next digit known =>
        obtain ⟨own, rfl⟩ := isDigit_of_ofChar? known
        dsimp only at read
        split at read
        · next within =>
          obtain ⟨digits, value, least⟩ := ih within read
          exact ⟨List.forall_mem_cons.2 ⟨own, digits⟩, value, least⟩
        · contradiction
  · rintro ⟨digits, rfl, within⟩
    exact readDigits_eq_valueFrom digits within

theorem readMagnitude_eq_ok_iff {bound number : Nat} {overflow : IntegerFault}
    {chars : List Char} :
    readMagnitude bound overflow chars = .ok number ↔
      chars ≠ [] ∧ (∀ char ∈ chars, Digits.isDigit char = true) ∧
        Digits.valueFrom 0 chars = number ∧ number ≤ bound := by
  cases chars with
  | nil => exact ⟨nofun, fun digits => absurd rfl digits.1⟩
  | cons char rest =>
    rw [readMagnitude, readDigits_eq_ok_iff (Nat.zero_le bound)]
    · exact (and_iff_right (List.cons_ne_nil char rest)).symm
    · exact List.cons_ne_nil char rest

theorem map_toNat_map_ofNat (read : Except IntegerFault Nat) :
    (read.map Int.ofNat).map Int.toNat = read := by
  cases read <;> rfl

/-- A number without sign is read from its digits, also with a plus in front of them. -/
theorem readUnsigned_eq_ok_iff {size number : Nat} {chars : List Char} :
    readUnsigned size chars = .ok number ↔
      ∃ digits, (chars = digits ∨ chars = '+' :: digits) ∧ digits ≠ [] ∧
        (∀ char ∈ digits, Digits.isDigit char = true) ∧
        Digits.valueFrom 0 digits = number ∧ number ≤ size - 1 := by
  unfold readUnsigned read
  split
  · refine ⟨nofun, ?_⟩
    rintro ⟨digits, rfl | same, nonempty, -⟩
    · exact absurd rfl nonempty
    · contradiction
  · next rest =>
    rw [map_toNat_map_ofNat, readMagnitude_eq_ok_iff]
    constructor
    · exact fun digits => ⟨rest, .inr rfl, digits⟩
    · rintro ⟨digits, rfl | same, spelt⟩
      · exact absurd (spelt.2.1 '+' (.head _)) (by decide)
      · exact (List.cons.inj same).2 ▸ spelt
  · next rest =>
    rw [if_pos rfl]
    refine ⟨nofun, ?_⟩
    rintro ⟨digits, rfl | same, spelt⟩
    · exact absurd (spelt.2.1 '-' (.head _)) (by decide)
    · exact absurd (List.cons.inj same).1 (by decide)
  · next noPlus noMinus =>
    rw [map_toNat_map_ofNat, readMagnitude_eq_ok_iff]
    constructor
    · exact fun digits => ⟨chars, .inl rfl, digits⟩
    · rintro ⟨digits, rfl | rfl, spelt⟩
      · exact spelt
      · exact absurd rfl (noPlus digits)

theorem readMagnitude_ofNat {bound number : Nat} (overflow : IntegerFault)
    (within : number ≤ bound) :
    readMagnitude bound overflow (Digits.ofNat number) = .ok number := by
  obtain ⟨digit, rest, equal, -⟩ := Digits.exists_cons number
  have read : readDigits bound overflow 0 (Digits.ofNat number) = .ok number := by
    rw [readDigits_eq_valueFrom (fun char => Digits.isDigit_of_mem_ofNat) (by simpa using within)]
    simp
  rw [equal] at read ⊢
  exact read

theorem read_ofInt {below above : Nat} {number : Int} (least : -(below : Int) ≤ number)
    (greatest : number ≤ above) : read below above (Digits.ofInt number) = .ok number := by
  cases number with
  | ofNat number =>
    obtain ⟨digit, rest, equal, small⟩ := Digits.exists_cons number
    have code := Digits.toNat_toChar small
    have noPlus : Digits.toChar digit ≠ '+' := fun same => by
      rw [same] at code
      have plus : '+'.toNat = 43 := rfl
      omega
    have noMinus : Digits.toChar digit ≠ '-' := fun same => by
      rw [same] at code
      have minus : '-'.toNat = 45 := rfl
      omega
    have magnitude := readMagnitude_ofNat .tooLarge (Int.ofNat_le.1 greatest)
    rw [Digits.ofInt]
    rw [equal] at magnitude ⊢
    unfold read
    split
    · contradiction
    · next same => exact absurd (List.cons.inj same).1 noPlus
    · next same => exact absurd (List.cons.inj same).1 noMinus
    · rw [magnitude]
      rfl
  | negSucc number =>
    have within : number + 1 ≤ below := by omega
    have positive : below ≠ 0 := by omega
    rw [Digits.ofInt]
    simp only [read, positive, if_false, readMagnitude_ofNat .tooSmall within]
    rfl

theorem read32_ofInt (number : Int32) :
    read32 (String.ofList (Digits.ofInt number.toInt)) = .ok number := by
  have least := number.le_toInt
  have greatest := number.toInt_lt
  rw [read32, String.toList_ofList, read_ofInt (by omega) (by omega)]
  simp [Except.map]

theorem read64_ofInt (number : Int64) :
    read64 (String.ofList (Digits.ofInt number.toInt)) = .ok number := by
  have least := number.le_toInt
  have greatest := number.toInt_lt
  rw [read64, String.toList_ofList, read_ofInt (by omega) (by omega)]
  simp [Except.map]

end Integer

end ShardedView
