import FormCheck.Proofs.Numeral.Range

/-!
The order of numbers. Rounding to binary64 keeps the order of the exact values, so the
comparisons order the texts that are numbers totally and never against what these texts spell,
though values that round together count as equal.
-/

set_option autoImplicit false

namespace FormCheck.Binary64

/-- Rounding a quotient keeps the order, whatever the denominators. -/
theorem roundQuotient_mono {numerator denominator other otherDenominator : Nat}
    (positive : 0 < denominator) (otherPositive : 0 < otherDenominator)
    (below : numerator * otherDenominator ≤ other * denominator) :
    roundQuotient numerator denominator ≤ roundQuotient other otherDenominator := by
  refine Nat.le_of_not_lt fun crossed => ?_
  generalize bound_eq : roundQuotient numerator denominator = bound at crossed
  -- Both quotients would be the midpoint under the bound, which is rounded up to the bound or
  -- not by the parity of the bound alone.
  have reached := mt (roundQuotient_lt_iff numerator positive bound).mpr
    (Nat.not_lt.mpr (Nat.le_of_eq bound_eq.symm))
  have missed := (roundQuotient_lt_iff other otherPositive bound).mp crossed
  have scaled := Nat.mul_le_mul_right otherDenominator (Nat.not_lt.mp reached)
  have otherScaled := Nat.mul_le_mul_right denominator (Nat.succ_le_of_lt missed)
  rcases Nat.mod_two_eq_zero_or_one bound with even | odd
  · rw [even] at scaled otherScaled
    linarith
  · rw [odd] at scaled otherScaled
    linarith

theorem spacing_pos (units : Nat) : 0 < spacing units :=
  Nat.two_pow_pos _

theorem spacing_dvd_pow {units exponent : Nat} (below : units < 2 ^ exponent) :
    spacing units ∣ 2 ^ exponent := by
  rw [spacing_eq]
  apply Nat.pow_dvd_pow
  by_cases zero : units = 0
  · subst zero
    simp
  · have leading := (Nat.log2_lt zero).mpr below
    omega

/-- A magnitude below a power of two is not rounded beyond it. -/
theorem nearest_le_pow {numerator denominator exponent : Nat}
    (below : numerator / denominator < 2 ^ exponent) :
    nearest numerator denominator ≤ 2 ^ exponent := by
  have rounded := roundQuotient_le numerator (denominator * spacing (numerator / denominator))
  rw [← Nat.div_div_eq_div_mul] at rounded
  obtain ⟨steps, whole⟩ := spacing_dvd_pow below
  unfold nearest
  simp only
  generalize numerator / denominator = units at *
  rw [whole] at below ⊢
  calc roundQuotient numerator (denominator * spacing units) * spacing units
      ≤ (units / spacing units + 1) * spacing units := Nat.mul_le_mul_right _ rounded
    _ ≤ steps * spacing units := Nat.mul_le_mul_right _ (Nat.div_lt_of_lt_mul below)
    _ = spacing units * steps := Nat.mul_comm _ _

theorem spacing_eq_of_close {units larger : Nat} (order : units ≤ larger)
    (close : 52 ≤ larger.log2 → 2 ^ larger.log2 ≤ units) : spacing units = spacing larger := by
  have leading : units.log2 ≤ larger.log2 := by
    rw [Nat.log2_eq_log_two, Nat.log2_eq_log_two]
    exact Nat.log_mono_right order
  rw [spacing_eq, spacing_eq]
  congr 1
  by_cases normal : 52 ≤ larger.log2
  · have reached := close normal
    have nonzero : units ≠ 0 := by
      have positive := Nat.two_pow_pos larger.log2
      omega
    have same := (Nat.le_log2 nonzero).mpr reached
    omega
  · omega

theorem div_le_div_of_mul_le {numerator denominator other otherDenominator : Nat}
    (positive : 0 < denominator) (otherPositive : 0 < otherDenominator)
    (below : numerator * otherDenominator ≤ other * denominator) :
    numerator / denominator ≤ other / otherDenominator := by
  rw [Nat.le_div_iff_mul_le otherPositive]
  refine Nat.le_of_mul_le_mul_right ?_ positive
  calc numerator / denominator * otherDenominator * denominator
      = numerator / denominator * denominator * otherDenominator := Nat.mul_right_comm _ _ _
    _ ≤ numerator * otherDenominator := Nat.mul_le_mul_right _ (Nat.div_mul_le_self _ _)
    _ ≤ other * denominator := below

/-- Rounding keeps the order: where the spacing is the same since whole steps are rounded alike,
and elsewhere since a power of two lies between the two magnitudes. -/
theorem nearest_mono {numerator denominator other otherDenominator : Nat}
    (positive : 0 < denominator) (otherPositive : 0 < otherDenominator)
    (below : numerator * otherDenominator ≤ other * denominator) :
    nearest numerator denominator ≤ nearest other otherDenominator := by
  have order := div_le_div_of_mul_le positive otherPositive below
  by_cases close : 52 ≤ (other / otherDenominator).log2 →
      2 ^ (other / otherDenominator).log2 ≤ numerator / denominator
  · unfold nearest
    simp only [spacing_eq_of_close order close]
    have unit := spacing_pos (other / otherDenominator)
    generalize spacing (other / otherDenominator) = step at *
    apply Nat.mul_le_mul_right
    apply roundQuotient_mono (Nat.mul_pos positive unit) (Nat.mul_pos otherPositive unit)
    rw [← Nat.mul_assoc, ← Nat.mul_assoc]
    exact Nat.mul_le_mul_right step below
  · obtain ⟨normal, apart⟩ := Classical.not_imp.mp close
    have nonzero : other / otherDenominator ≠ 0 := by
      intro zero
      rw [zero] at normal
      simp at normal
    exact (nearest_le_pow (Nat.not_le.mp apart)).trans
      (pow_le_nearest normal (Nat.log2_self_le nonzero))

end FormCheck.Binary64

namespace FormCheck.Numeral

open Binary64 Text

/-- The magnitude of a numeral rounded to binary64, be it finite or not. -/
def rounded (numeral : Numeral) : Nat :=
  nearest (numeral.numerator * unitsPerOne) numeral.denominator

theorem rounded_le {numeral other : Numeral} (order : |numeral.value| ≤ |other.value|) :
    numeral.rounded ≤ other.rounded := by
  rw [abs_value, abs_value, div_le_div_iff₀ (Nat.cast_pos.mpr numeral.denominator_pos)
    (Nat.cast_pos.mpr other.denominator_pos)] at order
  apply nearest_mono numeral.denominator_pos other.denominator_pos
  rw [Nat.mul_right_comm, Nat.mul_right_comm other.numerator]
  exact Nat.mul_le_mul_right unitsPerOne (by exact_mod_cast order)

theorem rounded_eq_zero {numeral : Numeral} (zero : numeral.value = 0) : numeral.rounded = 0 := by
  have magnitude := numeral.abs_value
  rw [zero, abs_zero, eq_comm, div_eq_zero_iff] at magnitude
  have nothing : numeral.numerator = 0 := by
    rcases magnitude with nothing | degenerate
    · exact_mod_cast nothing
    · exact absurd (Nat.cast_eq_zero.mp degenerate) (Nat.ne_of_gt numeral.denominator_pos)
  rw [rounded, nothing, Nat.zero_mul]
  apply nearest_eq_zero
  rw [Nat.mul_zero]
  exact numeral.denominator_pos

theorem magnitude?_eq_some {numeral : Numeral} {magnitude : Nat}
    (found : numeral.magnitude? = some magnitude) : magnitude = numeral.rounded := by
  rw [magnitude?_eq] at found
  unfold finite? at found
  split at found
  · exact (Option.some.inj found).symm
  · cases found

theorem units_eq_of_units? {numeral : Numeral} {units : Int} (read : numeral.units? = some units) :
    units = if numeral.negative then -(numeral.rounded : Int) else numeral.rounded := by
  unfold units? at read
  cases found : numeral.magnitude? with
  | none =>
      rw [found] at read
      cases read
  | some magnitude =>
      rw [found] at read
      cases read
      rw [magnitude?_eq_some found]

theorem value_eq_abs (numeral : Numeral) :
    numeral.value = if numeral.negative then -|numeral.value| else |numeral.value| := by
  rw [abs_value, value_eq]
  split
  · rw [neg_one_mul]
  · rw [one_mul]

/-- Numbers are rounded in the order of their exact values. -/
theorem units_le {numeral other : Numeral} {units otherUnits : Int}
    (read : numeral.units? = some units) (otherRead : other.units? = some otherUnits)
    (order : numeral.value ≤ other.value) : units ≤ otherUnits := by
  have value := numeral.value_eq_abs
  have otherValue := other.value_eq_abs
  rw [units_eq_of_units? read, units_eq_of_units? otherRead]
  cases sign : numeral.negative with
  | false =>
      cases otherSign : other.negative with
      | false =>
          simp only [sign, otherSign, Bool.false_eq_true, if_false] at *
          rw [value, otherValue] at order
          exact Int.ofNat_le.mpr (rounded_le order)
      | true =>
          -- The values are in this order only if both are zero.
          simp only [sign, otherSign, Bool.false_eq_true, if_false, if_true] at *
          have nonnegative := abs_nonneg numeral.value
          have otherNonnegative := abs_nonneg other.value
          rw [rounded_eq_zero (by linarith), rounded_eq_zero (by linarith)]
          rfl
  | true =>
      cases otherSign : other.negative with
      | false =>
          simp only [Bool.false_eq_true, if_false, if_true]
          omega
      | true =>
          simp only [sign, otherSign, if_true] at *
          rw [value, otherValue] at order
          exact neg_le_neg (Int.ofNat_le.mpr (rounded_le (neg_le_neg_iff.mp order)))

theorem existsUnique_spells {text : String} {units : Int} (read : unitsOfText? text = some units) :
    ∃! number, Spells text number := by
  obtain ⟨numeral, found, _⟩ := Option.bind_eq_some_iff.mp read
  refine ⟨numeral.value, (spells_iff text _).mpr ⟨numeral, found, rfl⟩, ?_⟩
  intro number spelled
  obtain ⟨other, otherFound, rfl⟩ := (spells_iff text number).mp spelled
  rw [found] at otherFound
  cases otherFound
  rfl

theorem unitsOfText?_le {text other : String} {number otherNumber : ℚ} {units otherUnits : Int}
    (spelled : Spells text number) (otherSpelled : Spells other otherNumber)
    (read : unitsOfText? text = some units) (otherRead : unitsOfText? other = some otherUnits)
    (order : number ≤ otherNumber) : units ≤ otherUnits := by
  obtain ⟨numeral, found, rfl⟩ := (spells_iff text number).mp spelled
  obtain ⟨otherNumeral, otherFound, rfl⟩ := (spells_iff other otherNumber).mp otherSpelled
  rw [unitsOfText?, found, Option.bind_some] at read
  rw [unitsOfText?, otherFound, Option.bind_some] at otherRead
  exact units_le read otherRead order

/-! ## The comparisons -/

/-- The comparison that numbers in a given order pass. -/
def comparison : Ordering → ArgumentTest
  | .lt => .lessThan
  | .eq => .equalThan
  | .gt => .greaterThan

def IsNumeric (text : String) : Prop :=
  (Test.plain .numeric).Accepts text

/-- Whether a text passes a test that takes another text as its argument. -/
def Passes (kind : ArgumentTest) (value argument : String) : Prop :=
  (Test.withArgument kind argument).Accepts value

theorem isNumeric_iff (text : String) :
    IsNumeric text ↔ ∃ units, unitsOfText? text = some units := by
  rw [IsNumeric, Test.accepts_iff, ← Option.isSome_iff_exists]
  rfl

theorem compareNumbers_iff (relation : Int → Int → Bool) (left right : String) :
    compareNumbers relation left right = true ↔ ∃ units otherUnits,
      unitsOfText? left = some units ∧ unitsOfText? right = some otherUnits ∧
        relation units otherUnits = true := by
  unfold compareNumbers
  cases unitsOfText? left with
  | none => simp
  | some units =>
      cases unitsOfText? right with
      | none => simp
      | some otherUnits => simp

theorem passes_comparison_iff (order : Ordering) (value argument : String) :
    Passes (comparison order) value argument ↔ ∃ units otherUnits,
      unitsOfText? value = some units ∧ unitsOfText? argument = some otherUnits ∧
        compare units otherUnits = order := by
  rw [Passes, Test.accepts_iff]
  cases order with
  | lt =>
      simp [comparison, Test.holds, Test.holdsArgument, Content.value, compareNumbers_iff,
        compare_lt_iff_lt]
  | eq => simp [comparison, Test.holds, Test.holdsArgument, Content.value, compareNumbers_iff]
  | gt =>
      simp [comparison, Test.holds, Test.holdsArgument, Content.value, compareNumbers_iff,
        compare_gt_iff_gt]

/-- How two texts compare. -/
structure Compared (value argument : String) : Prop where
  trichotomy : IsNumeric value → IsNumeric argument →
    ∃! order, Passes (comparison order) value argument
  incomparable : ¬ (IsNumeric value ∧ IsNumeric argument) →
    ∀ order, ¬ Passes (comparison order) value argument
  converse : ∀ order, Passes (comparison order) value argument ↔
    Passes (comparison order.swap) argument value
  transitive : ∀ order other, Passes (comparison order) value argument →
    Passes (comparison order) argument other → Passes (comparison order) value other
  /-- A number has one exact value. -/
  denotes : IsNumeric value → ∃! number, Spells value number
  /-- Texts of the same exact value are equal, however they are spelled. -/
  equal : IsNumeric value → IsNumeric argument →
    ∀ number, Spells value number → Spells argument number → Passes .equalThan value argument
  notGreater : ∀ number other, Spells value number → Spells argument other → number ≤ other →
    ¬ Passes .greaterThan value argument
  notLess : ∀ number other, Spells value number → Spells argument other → other ≤ number →
    ¬ Passes .lessThan value argument

theorem passes_comparison_of_units {value argument : String} {units otherUnits : Int}
    (read : unitsOfText? value = some units) (otherRead : unitsOfText? argument = some otherUnits)
    (order : Ordering) :
    Passes (comparison order) value argument ↔ compare units otherUnits = order := by
  simp [passes_comparison_iff, read, otherRead]

theorem passes_converse {order : Ordering} {value argument : String}
    (passed : Passes (comparison order) value argument) :
    Passes (comparison order.swap) argument value := by
  obtain ⟨units, otherUnits, read, otherRead, rfl⟩ := (passes_comparison_iff _ _ _).mp passed
  rw [passes_comparison_of_units otherRead read, Int.compare_swap]

theorem compare_trans {first second third : Int} {order : Ordering}
    (before : compare first second = order) (behind : compare second third = order) :
    compare first third = order := by
  cases order with
  | lt =>
      rw [compare_lt_iff_lt] at *
      exact before.trans behind
  | eq =>
      rw [compare_eq_iff_eq] at *
      exact before.trans behind
  | gt =>
      rw [compare_gt_iff_gt] at *
      exact behind.trans before

theorem passes_transitive {order : Ordering} {value argument other : String}
    (passed : Passes (comparison order) value argument)
    (otherPassed : Passes (comparison order) argument other) :
    Passes (comparison order) value other := by
  obtain ⟨units, middleUnits, read, middleRead, before⟩ := (passes_comparison_iff _ _ _).mp passed
  obtain ⟨same, otherUnits, again, otherRead, behind⟩ :=
    (passes_comparison_iff _ _ _).mp otherPassed
  rw [middleRead] at again
  cases again
  rw [passes_comparison_of_units read otherRead]
  exact compare_trans before behind

/-- A value that is no greater than another is rounded to none that is greater. -/
theorem not_passes_greaterThan {value argument : String} {number other : ℚ}
    (spelled : Spells value number) (otherSpelled : Spells argument other)
    (order : number ≤ other) : ¬ Passes .greaterThan value argument := by
  intro passed
  obtain ⟨units, otherUnits, read, otherRead, above⟩ :=
    (passes_comparison_iff .gt value argument).mp passed
  rw [compare_gt_iff_gt] at above
  exact absurd above (unitsOfText?_le spelled otherSpelled read otherRead order).not_gt

/-- The comparisons put the numbers among the texts into a total preorder, which never goes
against their exact values. -/
theorem comparisons_keep_order (value argument : String) : Compared value argument := by
  constructor
  case trichotomy =>
    intro numeric argumentNumeric
    obtain ⟨units, read⟩ := (isNumeric_iff value).mp numeric
    obtain ⟨otherUnits, otherRead⟩ := (isNumeric_iff argument).mp argumentNumeric
    simp only [passes_comparison_of_units read otherRead]
    exact existsUnique_eq'
  case incomparable =>
    intro unread order passed
    obtain ⟨units, otherUnits, read, otherRead, _⟩ := (passes_comparison_iff _ _ _).mp passed
    exact unread ⟨(isNumeric_iff value).mpr ⟨units, read⟩,
      (isNumeric_iff argument).mpr ⟨otherUnits, otherRead⟩⟩
  case converse =>
    intro order
    refine ⟨passes_converse, fun passed => ?_⟩
    rw [← order.swap_swap]
    exact passes_converse passed
  case transitive => exact fun _ _ => passes_transitive
  case denotes =>
    intro numeric
    obtain ⟨units, read⟩ := (isNumeric_iff value).mp numeric
    exact existsUnique_spells read
  case equal =>
    intro numeric argumentNumeric number spelled argumentSpelled
    obtain ⟨units, read⟩ := (isNumeric_iff value).mp numeric
    obtain ⟨otherUnits, otherRead⟩ := (isNumeric_iff argument).mp argumentNumeric
    apply (passes_comparison_of_units read otherRead .eq).mpr
    rw [compare_eq_iff_eq]
    exact le_antisymm (unitsOfText?_le spelled argumentSpelled read otherRead le_rfl)
      (unitsOfText?_le argumentSpelled spelled otherRead read le_rfl)
  case notGreater => exact fun _ _ => not_passes_greaterThan
  case notLess =>
    intro number other spelled otherSpelled order passed
    have below : Passes (comparison .lt) value argument := passed
    exact not_passes_greaterThan otherSpelled spelled order (passes_converse below)

-- Different values may round together, beyond the last bit as well as at zero.
example : compareNumbers (· == ·) "9007199254740993" "9007199254740992" = true := by
  decide +kernel

example : compareNumbers (· == ·) "-1e-324" "0" = true := by
  decide +kernel

end FormCheck.Numeral
