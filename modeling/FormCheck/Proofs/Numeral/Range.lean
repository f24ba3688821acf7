import FormCheck.Judgement.Test
import FormCheck.Proofs.Numeral.Notation
import FormCheck.Proofs.Numeral.Rounding
import Mathlib.Algebra.Order.Field.Basic

/-!
Which numerals are numbers. A numeral is finite exactly if its value lies below the midpoint
between the greatest binary64 number and `2 ^ 1024`, and the test for numbers accepts the
finite numerals with any blanks around them.
-/

set_option autoImplicit false

namespace FormCheck.Numeral

open Binary64 Text

def numerator (numeral : Numeral) : Nat :=
  match numeral.exponent with
  | .ofNat shift => numeral.coefficient * 10 ^ shift
  | .negSucc _ => numeral.coefficient

def denominator (numeral : Numeral) : Nat :=
  match numeral.exponent with
  | .ofNat _ => 1
  | .negSucc shift => 10 ^ (shift + 1)

theorem denominator_pos (numeral : Numeral) : 0 < numeral.denominator := by
  unfold denominator
  split
  · exact Nat.one_pos
  · exact Nat.pow_pos (by norm_num)

theorem value_eq (numeral : Numeral) :
    numeral.value =
      (if numeral.negative then -1 else 1) * ((numeral.numerator : ℚ) / numeral.denominator) := by
  rw [value, mul_assoc]
  unfold numerator denominator
  cases numeral.exponent with
  | ofNat shift => simp
  | negSucc shift => simp [zpow_negSucc, div_eq_mul_inv]

theorem abs_value (numeral : Numeral) :
    |numeral.value| = (numeral.numerator : ℚ) / numeral.denominator := by
  have sign : |(if numeral.negative then -1 else 1 : ℚ)| = 1 := by
    split
    · simp
    · simp
  rw [value_eq, abs_mul, sign, one_mul, abs_of_nonneg (by positivity)]

theorem div_lt_midpoint_iff (numerator : Nat) {denominator : Nat} (positive : 0 < denominator)
    (scale unit : Nat) :
    (numerator : ℚ) / denominator < 2 ^ (scale + 54) - 2 ^ scale ↔
      numerator * 2 ^ unit < (2 ^ 54 - 1) * 2 ^ (scale + unit) * denominator := by
  have bound : (2 : ℚ) ^ (scale + 54) - 2 ^ scale = ((2 ^ 54 - 1) * 2 ^ scale : Nat) := by
    rw [pow_add]
    push_cast
    ring
  have units : (2 ^ 54 - 1) * 2 ^ (scale + unit) * denominator =
      (2 ^ 54 - 1) * 2 ^ scale * denominator * 2 ^ unit := by
    rw [pow_add]
    ring
  rw [div_lt_iff₀ (Nat.cast_pos.mpr positive), bound, units, Nat.mul_lt_mul_right (by positivity)]
  norm_cast

/-- The bound on values, counted in units. -/
theorem abs_value_lt_iff (numeral : Numeral) :
    |numeral.value| < 2 ^ 1024 - 2 ^ 970 ↔
      numeral.numerator * unitsPerOne < overflowBound * numeral.denominator := by
  have top : 1024 = 970 + 54 := by norm_num
  have bound : 2044 = 970 + 1074 := by norm_num
  rw [abs_value]
  delta unitsPerOne overflowBound
  rewrite [top, bound]
  generalize 970 = scale
  generalize 1074 = unit
  exact div_lt_midpoint_iff numeral.numerator numeral.denominator_pos scale unit

theorem finite?_isSome_iff (units : Nat) : (finite? units).isSome = true ↔ units < overflow := by
  simp [finite?]

theorem finite?_eq_none_iff (units : Nat) : finite? units = none ↔ overflow ≤ units := by
  simp [finite?]

/-- The short cuts for powers of ten that need not be computed make no difference: a magnitude
is the quotient of the numeral, rounded and found finite. -/
theorem magnitude?_eq (numeral : Numeral) :
    numeral.magnitude? =
      finite? (nearest (numeral.numerator * unitsPerOne) numeral.denominator) := by
  have zero : finite? 0 = some 0 := if_pos overflow_pos
  unfold magnitude? numerator denominator
  cases numeral.exponent with
  | ofNat shift =>
      simp only
      split
      · rename_i nothing
        rw [nothing, Nat.zero_mul, Nat.zero_mul, nearest_eq_zero (by norm_num), zero]
      · split
        · rename_i nonzero large
          have powers (low : Nat) (below : low ≤ shift) : 10 ^ low ≤ 10 ^ shift :=
            Nat.pow_le_pow_right (by norm_num) below
          have beyond : overflowBound ≤ numeral.coefficient * 10 ^ shift * unitsPerOne := by
            calc overflowBound ≤ 10 ^ 309 * unitsPerOne := overflowBound_le
              _ ≤ 10 ^ shift * unitsPerOne := Nat.mul_le_mul_right _ (powers 309 large)
              _ ≤ numeral.coefficient * (10 ^ shift * unitsPerOne) :=
                  Nat.le_mul_of_pos_left _ (Nat.pos_of_ne_zero nonzero)
              _ = numeral.coefficient * 10 ^ shift * unitsPerOne := (Nat.mul_assoc _ _ _).symm
          symm
          rw [finite?_eq_none_iff, ← Nat.not_lt, nearest_lt_overflow_iff _ Nat.one_pos, mul_one]
          exact Nat.not_lt.mpr beyond
        · rfl
  | negSucc shift =>
      simp only
      split
      · rename_i tiny
        rw [← zero, ← nearest_eq_zero_of_log2 tiny]
        rfl
      · rfl

/-- Rounding is finite exactly below the bound. -/
theorem magnitude?_isSome_iff (numeral : Numeral) :
    numeral.magnitude?.isSome = true ↔
      numeral.numerator * unitsPerOne < overflowBound * numeral.denominator := by
  rw [magnitude?_eq, finite?_isSome_iff, nearest_lt_overflow_iff _ numeral.denominator_pos]

theorem units?_isSome_iff (numeral : Numeral) :
    numeral.units?.isSome = true ↔ |numeral.value| < 2 ^ 1024 - 2 ^ 970 := by
  rw [abs_value_lt_iff, ← magnitude?_isSome_iff, units?, Option.isSome_map]
  cases numeral.magnitude? with
  | none => rfl
  | some magnitude => rfl

/-- A text that is a numeral with blanks around it at most, and the number that it denotes. -/
def Spells (text : String) (number : ℚ) : Prop :=
  ∃ core, Framed core text.toList ∧ Denotes core number

theorem spells_iff (text : String) (number : ℚ) :
    Spells text number ↔
      ∃ numeral, ofChars? (trim text.toList) = some numeral ∧ numeral.value = number := by
  rw [← denotes_iff]
  constructor
  · intro spelled
    obtain ⟨core, framed, denoted⟩ := spelled
    rw [trim_of_framed_bare framed denoted.not_blank]
    exact denoted
  · intro denoted
    exact ⟨_, framed_trim text.toList, denoted⟩

/-- A text spells a finite number exactly if it is a numeral below the bound, with blanks
around it at most. -/
theorem unitsOfText?_isSome_iff (text : String) :
    (unitsOfText? text).isSome = true ↔ ∃ core number, Framed core text.toList ∧
      Denotes core number ∧ |number| < 2 ^ 1024 - 2 ^ 970 := by
  constructor
  · intro spelled
    obtain ⟨units, read⟩ := Option.isSome_iff_exists.mp spelled
    obtain ⟨numeral, read, rounded⟩ := Option.bind_eq_some_iff.mp read
    obtain ⟨core, framed, denoted⟩ := (spells_iff text _).mpr ⟨numeral, read, rfl⟩
    refine ⟨core, numeral.value, framed, denoted, ?_⟩
    rw [← units?_isSome_iff, rounded]
    rfl
  · intro spelled
    obtain ⟨core, number, framed, denoted, below⟩ := spelled
    obtain ⟨numeral, read, rfl⟩ := (spells_iff text number).mp ⟨core, framed, denoted⟩
    rw [unitsOfText?, read, Option.bind_some, units?_isSome_iff]
    exact below

/-- The test for numbers accepts the decimal numerals, with blanks around them at most, whose
value does not round to infinity. Such a text holds nothing but digits, signs, a point, a
letter `e` and blanks; and a numeral whose digits are zeros is accepted with any exponent. -/
theorem numeric_accepts_finite_decimals :
    (∀ text : String, (Constraint.known (.plain .numeric)).finding? (.text text) = none ↔
        ∃ core number, Framed core text.toList ∧ Denotes core number ∧
          |number| < 2 ^ 1024 - 2 ^ 970) ∧
      (∀ text : String, (Constraint.known (.plain .numeric)).finding? (.text text) = none →
        ∀ c ∈ text.toList, isBlank c = true ∨ c.isDigit = true ∨ (c = '+' ∨ c = '-') ∨ c = '.' ∨
          c = 'e' ∨ c = 'E') ∧
      ∀ (text : String) (sign mantissa whole fraction exponent : List Char) (negative : Bool)
        (shift : Int), text.toList = sign ++ (mantissa ++ exponent) → Sign sign negative →
        Mantissa mantissa whole fraction → (∀ c ∈ whole ++ fraction, c = '0') →
        Exponent exponent shift →
        (Constraint.known (.plain .numeric)).finding? (.text text) = none := by
  have accepts : ∀ text : String,
      (Constraint.known (.plain .numeric)).finding? (.text text) = none ↔
        ∃ core number, Framed core text.toList ∧ Denotes core number ∧
          |number| < 2 ^ 1024 - 2 ^ 970 := by
    intro text
    rw [Constraint.finding?_known_eq_none_iff, ← unitsOfText?_isSome_iff]
    rfl
  refine ⟨accepts, ?_, ?_⟩
  · intro text accepted c member
    obtain ⟨core, number, framed, denoted, _⟩ := (accepts text).mp accepted
    rcases framed.mem_cases member with blank | inCore
    · exact .inl blank
    · exact .inr (denoted.mem_cases inCore)
  · intro text sign mantissa whole fraction exponent negative shift written signed digits zeros
      shifted
    have zeroDigits : Digits (whole ++ fraction) := by
      intro c member
      rw [zeros c member]
      rfl
    have wholeZeros := decimalValue_zeros fun c member => zeros c (List.mem_append_left _ member)
    have fractionZeros := decimalValue_zeros fun c member => zeros c (List.mem_append_right _ member)
    have denoted := Denotes.numeral signed digits
      (fun c member => zeroDigits c (List.mem_append_left _ member))
      (fun c member => zeroDigits c (List.mem_append_right _ member)) shifted
    rw [← written, wholeZeros, fractionZeros] at denoted
    apply (accepts text).mpr
    refine ⟨_, _, ⟨[], [], by simp, by simp, by simp⟩, denoted, ?_⟩
    have zero : (decimalValue [] + decimalValue [] / 10 ^ fraction.length : ℚ) = 0 := by simp
    rw [decimalValue_nil] at zero
    rw [zero, mul_zero, zero_mul, abs_zero, sub_pos]
    exact pow_lt_pow_right₀ one_lt_two (by norm_num)

/-- The exponent of a zero may be out of every range. -/
theorem numeric_accepts_zero_with_exponent :
    "-0.00E+9999999999".toList = ['-'] ++ ("0.00".toList ++ "E+9999999999".toList) ∧
      (Constraint.known (.plain .numeric)).finding? (.text "-0.00E+9999999999") = none := by
  have written : "-0.00E+9999999999".toList = ['-'] ++ ("0.00".toList ++ "E+9999999999".toList) := by
    decide
  refine ⟨written, ?_⟩
  have exponent : Exponent "E+9999999999".toList 9999999999 :=
    .some (.inr rfl) .plus ((isNumber_iff "9999999999".toList).mp (by decide))
  exact numeric_accepts_finite_decimals.2.2 _ _ _ ['0'] ['0', '0'] _ true _ written .minus
    (.pointBehind ['0', '0'] (List.cons_ne_nil '0' [])) (by simp) exponent

example : (["inf", "0x1F", "1_000", "+", ".", "1e", "1e+"].all fun text =>
    (ofChars? text.toList).isNone) = true := by
  decide

end FormCheck.Numeral
