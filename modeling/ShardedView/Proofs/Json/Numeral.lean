import ShardedView.Json.Token
import ShardedView.Proofs.Number.Shortest

/-!
Printed numbers are numerals: integers as well as floating-point numbers, positional or with
an exponent.
-/

namespace ShardedView.Json.Numeral

def EndsDigits (chars : List Char) : Prop :=
  ∀ char, chars.head? = some char → Digits.isDigit char = false

inductive IsWhole : List Char → Prop
  | zero : IsWhole ['0']
  | digits {first : Char} {rest : List Char} (nonzero : first ≠ '0')
    (all : ∀ char ∈ first :: rest, Digits.isDigit char = true) : IsWhole (first :: rest)

theorem IsWhole.isDigit {whole : List Char} (isWhole : IsWhole whole) :
    ∀ char ∈ whole, Digits.isDigit char = true := by
  cases isWhole with
  | zero => simp [Digits.isDigit]
  | digits nonzero all => exact all

theorem IsWhole.take {whole : List Char} (isWhole : IsWhole whole) {places : Nat}
    (positive : 0 < places) : IsWhole (whole.take places) := by
  obtain ⟨places, rfl⟩ := Nat.exists_eq_succ_of_ne_zero (Nat.ne_of_gt positive)
  cases isWhole with
  | zero => simpa using .zero
  | @digits first rest nonzero all =>
    apply IsWhole.digits nonzero
    intro char member
    exact all char (List.mem_of_mem_take (i := places + 1) member)

theorem IsWhole.append {whole digits : List Char} (isWhole : IsWhole whole)
    (nonzero : whole ≠ ['0']) (all : ∀ char ∈ digits, Digits.isDigit char = true) :
    IsWhole (whole ++ digits) := by
  cases isWhole with
  | zero => contradiction
  | digits first own =>
    apply IsWhole.digits first
    intro char member
    exact (List.mem_append.1 member).elim (own char) (all char)

theorem IsWhole.append_ne {whole behind rest : List Char} (isWhole : IsWhole whole) {char : Char}
    (noDigit : Digits.isDigit char = false) : whole ++ behind ≠ char :: rest := by
  intro same
  have digit := isWhole.isDigit
  cases isWhole with
  | zero =>
    rw [← (List.cons.inj same).1] at noDigit
    contradiction
  | digits nonzero all =>
    rw [← (List.cons.inj same).1, digit _ (.head _)] at noDigit
    contradiction

theorem isWhole_ofNat (number : Nat) : IsWhole (Digits.ofNat number) := by
  rcases Nat.eq_zero_or_pos number with rfl | positive
  · rw [Digits.ofNat_zero]
    exact .zero
  · obtain ⟨digit, rest, equal, nonzero, small⟩ := Digits.exists_cons_of_pos positive
    have digits : ∀ char ∈ Digits.ofNat number, Digits.isDigit char = true :=
      fun char => Digits.isDigit_of_mem_ofNat
    rw [equal] at digits ⊢
    apply IsWhole.digits _ digits
    intro zero
    have code := Digits.toNat_toChar small
    have zeroCode : '0'.toNat = 48 := rfl
    rw [zero] at code
    omega

/-! ### The parts of a number -/

section Parts

variable {digits rest : List Char}

theorem takeWhile_digits (all : ∀ char ∈ digits, Digits.isDigit char = true)
    (ends : EndsDigits rest) : (digits ++ rest).takeWhile Digits.isDigit = digits := by
  rw [List.takeWhile_append_of_pos all]
  cases rest with
  | nil => simp
  | cons char rest => simp [ends char rfl]

theorem dropWhile_digits (all : ∀ char ∈ digits, Digits.isDigit char = true)
    (ends : EndsDigits rest) : (digits ++ rest).dropWhile Digits.isDigit = rest := by
  rw [List.dropWhile_append_of_pos all]
  cases rest with
  | nil => simp
  | cons char rest => simp [ends char rfl]

theorem splitWhole?_append (isWhole : IsWhole digits) (ends : EndsDigits rest) :
    splitWhole? (digits ++ rest) = some (digits, rest) := by
  cases isWhole with
  | zero => rfl
  | digits nonzero all =>
    have taken := takeWhile_digits all ends
    have dropped := dropWhile_digits all ends
    unfold splitWhole?
    split
    · next zero => exact absurd (List.cons.inj zero).1 nonzero
    · rw [taken, dropped]

theorem splitFraction?_point (nonempty : digits ≠ [])
    (all : ∀ char ∈ digits, Digits.isDigit char = true) (ends : EndsDigits rest) :
    splitFraction? ('.' :: (digits ++ rest)) = some (some digits, rest) := by
  simp only [splitFraction?, takeWhile_digits all ends, dropWhile_digits all ends]

theorem splitFraction?_noPoint {chars : List Char} (noPoint : ∀ rest, chars ≠ '.' :: rest) :
    splitFraction? chars = some (none, chars) := by
  unfold splitFraction?
  split
  · next rest => exact absurd rfl (noPoint rest)
  · rfl

theorem readExponent?_mark {sign : Char} (signed : sign = '-' ∨ sign = '+')
    (nonempty : digits ≠ []) (all : ∀ char ∈ digits, Digits.isDigit char = true) :
    readExponent? ('e' :: sign :: digits) = some (some (sign == '-', digits)) := by
  rcases signed with rfl | rfl <;> simp [readExponent?, nonempty, List.all_eq_true.2 all]

end Parts

/-- A number without a sign: its whole part, and what is read of the rest. -/
structure IsUnsigned (chars : List Char) (whole : List Char) (fraction : Option (List Char))
    (exponent : Option (Bool × List Char)) : Prop where
  isWhole : IsWhole whole
  parts : ∃ behind last, chars = whole ++ behind ∧ EndsDigits behind ∧
    splitFraction? behind = some (fraction, last) ∧ readExponent? last = some exponent

theorem read?_of_isUnsigned {chars whole : List Char} {fraction : Option (List Char)}
    {exponent : Option (Bool × List Char)} (negative : Bool)
    (unsigned : IsUnsigned chars whole fraction exponent) :
    read? (if negative then '-' :: chars else chars) =
      some ⟨negative, whole, fraction, exponent⟩ := by
  obtain ⟨isWhole, behind, last, rfl, ends, split, read⟩ := unsigned
  have whole := splitWhole?_append isWhole ends
  cases negative with
  | true => simp [read?, whole, split, read]
  | false =>
    rw [if_neg Bool.false_ne_true, read?, whole]
    · simp [split, read]
    · exact fun rest => isWhole.append_ne rfl

theorem isUnsigned_ofNat (number : Nat) :
    IsUnsigned (Digits.ofNat number) (Digits.ofNat number) none none :=
  ⟨isWhole_ofNat number, [], [], (List.append_nil _).symm, nofun, rfl, rfl⟩

/-! ### Floating-point numbers -/

theorem endsDigits_cons {char : Char} (noDigit : Digits.isDigit char = false) (rest : List Char) :
    EndsDigits (char :: rest) := by
  rintro _ ⟨⟩
  exact noDigit

theorem isUnsigned_point {whole digits rest : List Char} {exponent : Option (Bool × List Char)}
    (isWhole : IsWhole whole) (nonempty : digits ≠ [])
    (all : ∀ char ∈ digits, Digits.isDigit char = true) (ends : EndsDigits rest)
    (read : readExponent? rest = some exponent) :
    IsUnsigned (whole ++ '.' :: (digits ++ rest)) whole (some digits) exponent :=
  ⟨isWhole, '.' :: (digits ++ rest), rest, rfl, endsDigits_cons rfl _,
    splitFraction?_point nonempty all ends, read⟩

theorem isUnsigned_fraction {whole digits : List Char} (isWhole : IsWhole whole)
    (nonempty : digits ≠ []) (all : ∀ char ∈ digits, Digits.isDigit char = true) :
    IsUnsigned (whole ++ '.' :: digits) whole (some digits) none := by
  have last : EndsDigits [] := nofun
  have unsigned := isUnsigned_point isWhole nonempty all last rfl
  rwa [List.append_nil] at unsigned

theorem exists_isUnsigned_positional {number : Nat} {exponent : Int}
    (places : number = 0 → exponent = 0) :
    ∃ whole fraction,
      IsUnsigned (FloatFormat.positional (Digits.ofNat number) exponent) whole fraction none := by
  have isWhole := isWhole_ofNat number
  have all := isWhole.isDigit
  have zeros : ∀ count, ∀ char ∈ List.replicate count '0', Digits.isDigit char = true := by
    intro count char member
    rw [List.eq_of_mem_replicate member]
    rfl
  simp only [FloatFormat.positional]
  split
  · have longer : IsWhole (Digits.ofNat number ++ List.replicate exponent.toNat '0') := by
      by_cases zero : number = 0
      · simpa [places zero] using isWhole
      · apply isWhole.append _ (zeros _)
        intro same
        have value := congrArg (Digits.valueFrom 0) same
        rw [Digits.valueFrom_ofNat] at value
        exact zero value
    exact ⟨_, _, isUnsigned_fraction longer (List.cons_ne_nil _ _) (zeros 1)⟩
  · split
    · have behind : ∀ count, ∀ char ∈ List.replicate count '0' ++ Digits.ofNat number,
          Digits.isDigit char = true :=
        fun count char member => (List.mem_append.1 member).elim (zeros count char) (all char)
      have nonempty := List.append_ne_nil_of_right_ne_nil
        (List.replicate (exponent.natAbs - (Digits.ofNat number).length) '0')
        (Digits.ofNat_ne_nil number)
      exact ⟨_, _, isUnsigned_fraction .zero nonempty (behind _)⟩
    · next negative long =>
      have behind : (Digits.ofNat number).drop
          ((Digits.ofNat number).length - exponent.natAbs) ≠ [] := by
        rw [ne_eq, List.drop_eq_nil_iff]
        omega
      exact ⟨_, _, isUnsigned_fraction (isWhole.take (Nat.pos_of_ne_zero long)) behind
        fun char member => all char (List.mem_of_mem_drop member)⟩

theorem exists_isUnsigned_scientific (number : Nat) (leading : Int) :
    ∃ whole fraction exponent,
      IsUnsigned (FloatFormat.scientific (Digits.ofNat number) leading) whole fraction exponent := by
  have isWhole := isWhole_ofNat number
  have all := isWhole.isDigit
  have signed : (if leading < 0 then '-' else '+') = '-' ∨
      (if leading < 0 then '-' else '+') = '+' := by
    split
    · exact .inl rfl
    · exact .inr rfl
  have exponent := readExponent?_mark signed (Digits.ofNat_ne_nil leading.natAbs)
    fun char => Digits.isDigit_of_mem_ofNat
  simp only [FloatFormat.scientific]
  split
  · next first second rest equal =>
    rw [equal] at isWhole all
    exact ⟨[first], some (second :: rest), _, isUnsigned_point (isWhole.take Nat.one_pos)
      (List.cons_ne_nil _ _) (fun char member => all char (.tail _ member))
      (endsDigits_cons rfl _) exponent⟩
  · refine ⟨_, none, _, isWhole, _, _, rfl, endsDigits_cons rfl _, ?_, exponent⟩
    apply splitFraction?_noPoint
    intro rest same
    cases same

theorem isSome_read?_write (value : Finite64) :
    (read? (FloatFormat.record.write value)).isSome = true := by
  have signed : ∀ {chars : List Char},
      (∃ whole fraction exponent, IsUnsigned chars whole fraction exponent) →
        (read? (if value.number.isNegative then '-' :: chars else chars)).isSome = true := by
    rintro chars ⟨whole, fraction, exponent, unsigned⟩
    simp [read?_of_isUnsigned _ unsigned]
  apply signed
  split
  · obtain ⟨whole, fraction, unsigned⟩ := exists_isUnsigned_positional fun zero =>
      congrArg Decimal.exponent (Shortest.ofMagnitude_of_digits_eq_zero zero)
    exact ⟨whole, fraction, none, unsigned⟩
  · exact exists_isUnsigned_scientific _ _

def ofFloat (value : Finite64) : Numeral :=
  (read? (FloatFormat.record.write value)).get (isSome_read?_write value)

theorem read?_write (value : Finite64) :
    read? (FloatFormat.record.write value) = some (ofFloat value) :=
  (Option.some_get _).symm

def ofInt (value : Int) : Numeral :=
  ⟨decide (value < 0), Digits.ofNat value.natAbs, none, none⟩

theorem read?_ofInt (value : Int) : read? (Digits.ofInt value) = some (ofInt value) := by
  cases value with
  | ofNat number => exact read?_of_isUnsigned false (isUnsigned_ofNat number)
  | negSucc number =>
    have negative : decide (Int.negSucc number < 0) = true := decide_eq_true (Int.negSucc_lt_zero _)
    rw [ofInt, negative]
    exact read?_of_isUnsigned true (isUnsigned_ofNat (number + 1))

end ShardedView.Json.Numeral
