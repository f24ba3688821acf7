import FormCheck.Calendar.Moment

/-!
The days of the proleptic Gregorian calendar and the times of a clock, told without
computing: the leap rule by divisibility and the lengths of months by cases.
-/

set_option autoImplicit false

namespace FormCheck.Calendar

def LeapYear (year : Int) : Prop :=
  4 ∣ year ∧ (100 ∣ year → 400 ∣ year)

inductive MonthLength (year : Int) : Nat → Nat → Prop where
  | long {month : Nat} (listed : month ∈ [1, 3, 5, 7, 8, 10, 12]) : MonthLength year month 31
  | short {month : Nat} (listed : month ∈ [4, 6, 9, 11]) : MonthLength year month 30
  | leapFebruary (leap : LeapYear year) : MonthLength year 2 29
  | february (common : ¬ LeapYear year) : MonthLength year 2 28

/-- Whether a year, a month and a day name a day within the range of years. -/
structure IsDay (year : Int) (month day : Nat) : Prop where
  years : -262143 ≤ year ∧ year ≤ 262142
  months : 1 ≤ month ∧ month ≤ 12
  days : ∃ length, MonthLength year month length ∧ 1 ≤ day ∧ day ≤ length

structure Moment.Exists (moment : Moment) : Prop where
  day : IsDay moment.year moment.month moment.day
  time : moment.hour < 24 ∧ moment.minute < 60 ∧ moment.second ≤ 60

theorem isLeap_iff (year : Int) : isLeap year = true ↔ LeapYear year := by
  simp only [isLeap, LeapYear, Bool.and_eq_true, Bool.or_eq_true, beq_iff_eq, bne_iff_ne]
  omega

theorem MonthLength.eq {year : Int} {month length : Nat} (long : MonthLength year month length) :
    monthLength year month = length := by
  cases long with
  | long listed =>
      simp only [List.mem_cons, List.not_mem_nil, or_false] at listed
      rcases listed with rfl | rfl | rfl | rfl | rfl | rfl | rfl
      all_goals rfl
  | short listed =>
      simp only [List.mem_cons, List.not_mem_nil, or_false] at listed
      rcases listed with rfl | rfl | rfl | rfl
      all_goals rfl
  | leapFebruary leap => simp only [monthLength, (isLeap_iff year).mpr leap, if_true]
  | february common => simp only [monthLength, mt (isLeap_iff year).mp common, if_false,
      Bool.false_eq_true]

/-- Of all numbers only the months have days. -/
theorem monthLength_spec (year : Int) (month : Nat) :
    MonthLength year month (monthLength year month) ∧ 1 ≤ month ∧ month ≤ 12 ∨
      monthLength year month = 0 := by
  unfold monthLength
  split
  case h_12 =>
    split
    case isTrue leap => exact .inl ⟨.leapFebruary ((isLeap_iff year).mp leap), by decide⟩
    case isFalse common => exact .inl ⟨.february (mt (isLeap_iff year).mpr common), by decide⟩
  case h_13 => exact .inr rfl
  case h_8 | h_9 | h_10 | h_11 => exact .inl ⟨.short (by decide), by decide⟩
  all_goals exact .inl ⟨.long (by decide), by decide⟩

theorem Moment.dayExists_iff (moment : Moment) :
    moment.dayExists = true ↔ IsDay moment.year moment.month moment.day := by
  simp only [dayExists, Bool.and_eq_true, decide_eq_true_eq]
  constructor
  · intro exists'
    obtain ⟨⟨⟨first, last⟩, someDay⟩, fits⟩ := exists'
    rcases monthLength_spec moment.year moment.month with ⟨length, months⟩ | none
    · exact ⟨⟨first, last⟩, months, _, length, someDay, fits⟩
    · omega
  · intro day
    obtain ⟨length, long, someDay, fits⟩ := day.days
    exact ⟨⟨day.years, someDay⟩, long.eq ▸ fits⟩

theorem exists_monthLength (year : Int) {month : Nat} (months : 1 ≤ month ∧ month ≤ 12) :
    ∃ length, MonthLength year month length ∧ 28 ≤ length := by
  have listed : month ∈ [1, 3, 5, 7, 8, 10, 12] ∨ month ∈ [4, 6, 9, 11] ∨ month = 2 := by
    simp only [List.mem_cons, List.not_mem_nil, or_false]
    omega
  rcases listed with long | short | rfl
  · exact ⟨31, .long long, by decide⟩
  · exact ⟨30, .short short, by decide⟩
  · by_cases leap : LeapYear year
    · exact ⟨29, .leapFebruary leap, by decide⟩
    · exact ⟨28, .february leap, Nat.le_refl 28⟩

/-- Every month has a first day, so nothing but the year and the month can be wrong with one. -/
theorem isDay_one_iff (year : Int) (month : Nat) :
    IsDay year month 1 ↔ (-262143 ≤ year ∧ year ≤ 262142) ∧ 1 ≤ month ∧ month ≤ 12 := by
  constructor
  · exact fun day => ⟨day.years, day.months⟩
  · intro inside
    obtain ⟨years, months⟩ := inside
    obtain ⟨length, long, weeks⟩ := exists_monthLength year months
    exact ⟨years, months, length, long, Nat.le_refl 1, by omega⟩

instance (year : Int) (month day : Nat) : Decidable (IsDay year month day) :=
  decidable_of_iff _ (Moment.dayExists_iff { year, month, day })

theorem Moment.isReal_iff (moment : Moment) : moment.isReal = true ↔ moment.Exists := by
  simp only [isReal, timeExists, Bool.and_eq_true, decide_eq_true_eq, dayExists_iff, and_assoc]
  exact ⟨fun real => ⟨real.1, real.2⟩, fun real => ⟨real.day, real.time⟩⟩

end FormCheck.Calendar
