import FormCheck.Numeral.Binary64
import Mathlib.Data.Nat.Log
import Mathlib.Tactic.Linarith
import Mathlib.Tactic.Ring

/-!
Where rounding to binary64 leaves the finite numbers. A quotient is rounded up to a power of
two or beyond exactly if it is no less than the midpoint below it, since the tie goes to the
power of two. So the least quotient that overflows is the midpoint between the greatest
finite number and `2 ^ 1024`. The powers are taken out of the definitions as variables before
anything is done with them, since they are too large to be computed at every step.
-/

set_option autoImplicit false

namespace FormCheck.Binary64

theorem le_roundQuotient (numerator denominator : Nat) :
    numerator / denominator ≤ roundQuotient numerator denominator := by
  unfold roundQuotient
  simp only
  split
  · exact Nat.le_refl _
  · split
    · exact Nat.le_succ _
    · exact Nat.le_add_right _ _

theorem roundQuotient_le (numerator denominator : Nat) :
    roundQuotient numerator denominator ≤ numerator / denominator + 1 := by
  have parity := Nat.mod_lt (numerator / denominator) two_pos
  unfold roundQuotient
  simp only
  split
  · omega
  · split
    · omega
    · omega

/-- A quotient is rounded below a bound exactly if it is below the midpoint under the bound,
or is that midpoint and the bound is odd. -/
theorem roundQuotient_lt_iff (numerator : Nat) {denominator : Nat} (positive : 0 < denominator)
    (bound : Nat) :
    roundQuotient numerator denominator < bound ↔
      2 * numerator + denominator < 2 * bound * denominator + bound % 2 := by
  have division := Nat.div_add_mod numerator denominator
  have remainder := Nat.mod_lt numerator positive
  unfold roundQuotient
  simp only
  generalize numerator / denominator = quotient at *
  generalize numerator % denominator = rest at *
  subst division
  -- Whole quotients on either side of the bound differ from it by whole denominators.
  have reaches (steps : Nat) (reached : bound ≤ quotient + steps) :
      bound * denominator ≤ denominator * quotient + steps * denominator := by
    have scaled := Nat.mul_le_mul_right denominator reached
    rwa [Nat.add_mul, Nat.mul_comm quotient] at scaled
  have within (steps : Nat) (missed : quotient + steps ≤ bound) :
      denominator * quotient + steps * denominator ≤ bound * denominator := by
    have scaled := Nat.mul_le_mul_right denominator missed
    rwa [Nat.add_mul, Nat.mul_comm quotient] at scaled
  have above := reaches 0
  have next := reaches 1
  have below := within 1
  have farBelow := within 2
  rw [Nat.mul_assoc 2 bound]
  split
  · omega
  · split
    · omega
    · omega

theorem spacing_eq (units : Nat) : spacing units = 2 ^ (units.log2 - 52) :=
  rfl

theorem nearest_le (numerator denominator : Nat) :
    nearest numerator denominator ≤
      numerator / denominator + spacing (numerator / denominator) := by
  have rounded := roundQuotient_le numerator (denominator * spacing (numerator / denominator))
  rw [← Nat.div_div_eq_div_mul] at rounded
  unfold nearest
  simp only
  generalize numerator / denominator = units at *
  calc roundQuotient numerator (denominator * spacing units) * spacing units
      ≤ (units / spacing units + 1) * spacing units := Nat.mul_le_mul_right _ rounded
    _ = units / spacing units * spacing units + spacing units := Nat.succ_mul _ _
    _ ≤ units + spacing units := Nat.add_le_add_right (Nat.div_mul_le_self _ _) _

/-- A magnitude that has reached a power of two is not rounded below it. -/
theorem pow_le_nearest {numerator denominator exponent : Nat} (normal : 52 ≤ exponent)
    (reached : 2 ^ exponent ≤ numerator / denominator) :
    2 ^ exponent ≤ nearest numerator denominator := by
  have rounded := le_roundQuotient numerator (denominator * spacing (numerator / denominator))
  rw [← Nat.div_div_eq_div_mul] at rounded
  unfold nearest
  simp only
  generalize numerator / denominator = units at *
  have nonzero : units ≠ 0 := by
    have positive := Nat.two_pow_pos exponent
    omega
  have leading : exponent ≤ units.log2 := (Nat.le_log2 nonzero).mpr reached
  have split : 2 ^ units.log2 = 2 ^ 52 * spacing units := by
    rw [spacing_eq, ← Nat.pow_add]
    congr 1
    omega
  have significand : 2 ^ 52 ≤ units / spacing units := by
    rw [Nat.le_div_iff_mul_le (by rw [spacing_eq]; exact Nat.two_pow_pos _), ← split]
    exact Nat.log2_self_le nonzero
  calc 2 ^ exponent ≤ 2 ^ units.log2 := Nat.pow_le_pow_right two_pos leading
    _ = 2 ^ 52 * spacing units := split
    _ ≤ roundQuotient numerator (denominator * spacing units) * spacing units :=
        Nat.mul_le_mul_right _ (significand.trans rounded)

theorem spacing_le {units exponent : Nat} (below : units < 2 ^ (exponent + 53)) :
    spacing units ≤ 2 ^ exponent := by
  rw [spacing_eq]
  apply Nat.pow_le_pow_right two_pos
  by_cases zero : units = 0
  · subst zero
    simp
  · have leading := (Nat.log2_lt zero).mpr below
    omega

theorem spacing_of_leading {units exponent : Nat} (reached : 2 ^ (exponent + 52) ≤ units)
    (below : units < 2 ^ (exponent + 53)) : spacing units = 2 ^ exponent := by
  have nonzero : units ≠ 0 := by
    have positive := Nat.two_pow_pos (exponent + 52)
    omega
  have low := (Nat.le_log2 nonzero).mpr reached
  have high := (Nat.log2_lt nonzero).mpr below
  rw [spacing_eq]
  congr 1
  omega

/-- Below half of a power of two, rounding stays below the power. -/
theorem nearest_lt_of_half {numerator denominator exponent : Nat}
    (low : numerator / denominator < 2 ^ (exponent + 53)) :
    nearest numerator denominator < 2 ^ (exponent + 54) := by
  have step := spacing_le low
  have rounded := nearest_le numerator denominator
  have unit := Nat.pow_le_pow_right two_pos (Nat.le_add_right exponent 53)
  have double : 2 ^ (exponent + 54) = 2 * 2 ^ (exponent + 53) := by
    rw [Nat.pow_succ, Nat.mul_comm]
  generalize 2 ^ (exponent + 54) = whole at *
  generalize 2 ^ (exponent + 53) = half at *
  omega

/-- From half of a power of two on, rounding reaches the power from the midpoint on. -/
theorem nearest_lt_iff_of_half {numerator denominator exponent : Nat} (positive : 0 < denominator)
    (reached : 2 ^ (exponent + 53) ≤ numerator / denominator)
    (below : numerator / denominator < 2 ^ (exponent + 54)) :
    nearest numerator denominator < 2 ^ (exponent + 54) ↔
      numerator < (2 ^ 54 - 1) * 2 ^ exponent * denominator := by
  have step : spacing (numerator / denominator) = 2 * 2 ^ exponent := by
    have leading : spacing (numerator / denominator) = 2 ^ (exponent + 1) :=
      spacing_of_leading reached below
    rw [leading, Nat.pow_succ, Nat.mul_comm]
  have whole : 2 ^ (exponent + 54) = 2 ^ 53 * (2 * 2 ^ exponent) := by
    rw [Nat.add_comm, Nat.pow_add, Nat.pow_succ, Nat.mul_assoc]
  have unit : 0 < 2 * 2 ^ exponent := Nat.mul_pos two_pos (Nat.two_pow_pos exponent)
  unfold nearest
  simp only [step]
  have even : 2 ^ 53 % 2 = 0 := by norm_num
  rw [whole, Nat.mul_lt_mul_right unit,
    roundQuotient_lt_iff numerator (Nat.mul_pos positive unit), even, Nat.add_zero]
  generalize 2 ^ exponent = base
  have product : 2 * 2 ^ 53 * (denominator * (2 * base)) =
      2 * ((2 ^ 54 - 1) * base * denominator) + denominator * (2 * base) := by
    norm_num
    ring
  rw [product, Nat.add_lt_add_iff_right, Nat.mul_lt_mul_left two_pos]

/-- Rounding reaches a power of two exactly from the midpoint between it and the greatest
number below it on. -/
theorem nearest_lt_pow_iff (numerator : Nat) {denominator : Nat} (positive : 0 < denominator)
    (exponent : Nat) :
    nearest numerator denominator < 2 ^ (exponent + 54) ↔
      numerator < (2 ^ 54 - 1) * 2 ^ exponent * denominator := by
  have whole : 2 ^ (exponent + 54) = 2 ^ 54 * 2 ^ exponent := by
    rw [Nat.add_comm, Nat.pow_add]
  have half : 2 ^ (exponent + 53) = 2 ^ 53 * 2 ^ exponent := by
    rw [Nat.add_comm, Nat.pow_add]
  by_cases low : numerator / denominator < 2 ^ (exponent + 53)
  · have midpoint : 2 ^ (exponent + 53) ≤ (2 ^ 54 - 1) * 2 ^ exponent := by
      rw [half]
      exact Nat.mul_le_mul_right _ (by norm_num)
    have within : numerator < 2 ^ (exponent + 53) * denominator :=
      (Nat.div_lt_iff_lt_mul positive).mp low
    have below := within.trans_le (Nat.mul_le_mul_right denominator midpoint)
    exact iff_of_true (nearest_lt_of_half low) below
  · by_cases high : numerator / denominator < 2 ^ (exponent + 54)
    · exact nearest_lt_iff_of_half positive (Nat.not_lt.mp low) high
    · have midpoint : (2 ^ 54 - 1) * 2 ^ exponent ≤ 2 ^ (exponent + 54) := by
        rw [whole]
        exact Nat.mul_le_mul_right _ (by norm_num)
      have rounded := pow_le_nearest (by omega) (Nat.not_lt.mp high)
      have beyond : 2 ^ (exponent + 54) * denominator ≤ numerator :=
        (Nat.le_div_iff_mul_le positive).mp (Nat.not_lt.mp high)
      have above := (Nat.mul_le_mul_right denominator midpoint).trans beyond
      exact iff_of_false (Nat.not_lt.mpr rounded) (Nat.not_lt.mpr above)

/-- The midpoint between the greatest finite magnitude and the least that is not, in units. -/
def overflowBound : Nat :=
  (2 ^ 54 - 1) * Nat.pow 2 2044

theorem nearest_lt_overflow_iff (numerator : Nat) {denominator : Nat} (positive : 0 < denominator) :
    nearest numerator denominator < overflow ↔ numerator < overflowBound * denominator := by
  have top : 2098 = 2044 + 54 := by norm_num
  delta overflow overflowBound
  rewrite [top]
  generalize 2044 = exponent
  exact nearest_lt_pow_iff numerator positive exponent

theorem overflow_pos : 0 < overflow := by
  delta overflow
  generalize 2098 = exponent
  exact Nat.two_pow_pos exponent

theorem overflowBound_le : overflowBound ≤ 10 ^ 309 * unitsPerOne := by
  decide +kernel

theorem nearest_eq_zero {numerator denominator : Nat} (tiny : 2 * numerator < denominator) :
    nearest numerator denominator = 0 := by
  have whole : numerator / denominator = 0 := Nat.div_eq_of_lt (by omega)
  have rest : numerator % denominator = numerator := Nat.mod_eq_of_lt (by omega)
  have unit : spacing 0 = 1 := rfl
  simp only [nearest, whole, unit, Nat.mul_one, roundQuotient, rest, tiny, if_true]

/-- What is less than half a unit, as far as the number of bits tells, is rounded to zero. -/
theorem nearest_eq_zero_of_log2 {coefficient shift : Nat}
    (tiny : coefficient.log2 + 1076 ≤ 3 * (shift + 1)) :
    nearest (coefficient * unitsPerOne) (Nat.pow 10 (shift + 1)) = 0 := by
  have bits : 1076 = 1074 + 2 := by norm_num
  apply nearest_eq_zero
  delta unitsPerOne
  rewrite [bits] at tiny
  generalize 1074 = unit at *
  have leading : coefficient < 2 ^ (coefficient.log2 + 1) := Nat.lt_log2_self
  calc 2 * (coefficient * 2 ^ unit) < 2 * (2 ^ (coefficient.log2 + 1) * 2 ^ unit) :=
        Nat.mul_lt_mul_of_pos_left
          (Nat.mul_lt_mul_of_pos_right leading (Nat.two_pow_pos unit)) two_pos
    _ = 2 ^ (coefficient.log2 + 1 + unit + 1) := by rw [← Nat.pow_add, Nat.pow_succ']
    _ ≤ 2 ^ (3 * (shift + 1)) := Nat.pow_le_pow_right two_pos (by omega)
    _ = 8 ^ (shift + 1) := Nat.pow_mul 2 3 (shift + 1)
    _ ≤ 10 ^ (shift + 1) := Nat.pow_le_pow_left (by norm_num) (shift + 1)

end FormCheck.Binary64
