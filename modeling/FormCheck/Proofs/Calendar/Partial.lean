import FormCheck.Calendar.Partial
import FormCheck.Proofs.Calendar.Timestamp
import Mathlib.Data.List.Basic

/-!
The language of partial dates. A partial date is completed and read again, and nothing that
is appended to it can be taken for a part of it: the hyphens of the whole date stand where
the layout has them.
-/

set_option autoImplicit false

namespace FormCheck.Calendar

open Text

/-- A month behind a year, in three bytes. -/
inductive MonthText : List Char → Nat → Prop where
  | digits {month : List Char} (digits : Timestamp.Fixed 2 month) :
      MonthText ('-' :: month) (decimalValue month)
  | blank {space digit : Char} (blank : WhiteSpace space) (small : space.utf8Size = 1)
      (single : digit.isDigit = true) : MonthText ['-', space, digit] (digitValue digit)

inductive PartialText : List Char → Moment → Prop where
  | year {year : List Char} (digits : Timestamp.Fixed 4 year) :
      PartialText year
        { year := decimalValue year, month := 1, day := 1, hour := 0, minute := 0, second := 0 }
  | month {year text : List Char} {month : Nat} (digits : Timestamp.Fixed 4 year)
      (written : MonthText text month) :
      PartialText (year ++ text)
        { year := decimalValue year, month, day := 1, hour := 0, minute := 0, second := 0 }

theorem MonthText.byteCount_eq {text : List Char} {month : Nat} (written : MonthText text month) :
    byteCount text = 3 := by
  cases written with
  | digits digits =>
      rw [byteCount_cons, byteCount_digits digits.inside, digits.length]
      rfl
  | blank _ small single =>
      rw [byteCount_cons, byteCount_cons, byteCount_cons, small, utf8Size_of_isDigit single]
      rfl

theorem PartialText.length {text : List Char} {moment : Moment}
    (spelled : PartialText text moment) : text.length ≤ 7 := by
  cases spelled with
  | year digits => exact digits.length.le.trans (by decide)
  | @month year text _ digits written =>
      have short := length_le_byteCount text
      rw [written.byteCount_eq] at short
      rw [List.length_append, digits.length]
      omega

/-- A text is completed when it starts with four digits and is four or seven bytes long. -/
theorem complete?_append {year : List Char} (digits : Timestamp.Fixed 4 year) (rest : List Char) :
    complete? (year ++ rest) =
      if byteCount rest = 0 then some (year ++ "-01-01".toList)
      else if byteCount rest = 3 then some (year ++ (rest ++ "-01".toList))
      else none := by
  obtain ⟨inside, length⟩ := digits
  have all : year.all Char.isDigit = true := List.all_eq_true.mpr inside
  have front : (year ++ rest).take 4 = year := length ▸ List.take_left
  have bytes : byteCount (year ++ rest) = byteCount rest + 4 := by
    rw [byteCount_append, byteCount_digits inside, length, Nat.add_comm]
  simp only [complete?, front, length, all, BEq.rfl, Bool.and_self, if_true, bytes]
  split
  case h_1 none =>
    have nothing : byteCount rest = 0 := by omega
    rw [if_pos nothing, eq_nil_of_byteCount nothing, List.append_nil]
  case h_2 three =>
    have month : byteCount rest = 3 := by omega
    rw [if_neg (by omega), if_pos month, List.append_assoc]
  case h_3 notFour notSeven =>
    rw [if_neg fun none => notFour (by omega), if_neg fun month => notSeven (by omega)]

theorem digits_of_complete? {text whole : List Char} (completed : complete? text = some whole) :
    ∃ year rest, text = year ++ rest ∧ Timestamp.Fixed 4 year := by
  simp only [complete?] at completed
  split at completed
  case isTrue digits =>
    rw [Bool.and_eq_true, beq_iff_eq, List.all_eq_true] at digits
    exact ⟨text.take 4, text.drop 4, (List.take_append_drop 4 text).symm, digits.2, digits.1⟩
  case isFalse => cases completed

theorem complete?_eq_some_iff (text whole : List Char) :
    complete? text = some whole ↔ ∃ year rest, text = year ++ rest ∧ Timestamp.Fixed 4 year ∧
      (rest = [] ∧ whole = year ++ "-01-01".toList ∨
        byteCount rest = 3 ∧ whole = year ++ (rest ++ "-01".toList)) := by
  constructor
  · intro completed
    obtain ⟨year, rest, rfl, digits⟩ := digits_of_complete? completed
    rw [complete?_append digits] at completed
    refine ⟨year, rest, rfl, digits, ?_⟩
    split at completed
    case isTrue none =>
      cases completed
      exact .inl ⟨eq_nil_of_byteCount none, rfl⟩
    case isFalse =>
      split at completed
      case isTrue three =>
        cases completed
        exact .inr ⟨three, rfl⟩
      case isFalse => cases completed
  · intro written
    obtain ⟨year, rest, rfl, digits, behind⟩ := written
    rw [complete?_append digits]
    rcases behind with ⟨rfl, rfl⟩ | ⟨three, rfl⟩
    · rfl
    · rw [if_neg (by omega), if_pos three]

theorem readFrom?_yearFirst {year : List Char} (digits : Timestamp.Fixed 4 year)
    (rest : List Char) :
    (Layout.yearFirst '-').readFrom? {} (year ++ rest) =
      Layout.readFrom? { year := decimalValue year }
        [.literal '-', .number .month, .literal '-', .number .day] rest :=
  Layout.readFrom?_item (digits.takes_year {} rest)

theorem noHyphen {blanks digits : List Char} (blank : Blanks blanks) (inside : Digits digits) :
    '-' ∉ blanks ++ digits := by
  rw [List.mem_append]
  rintro (member | member)
  · exact absurd (blank _ member) (by decide)
  · exact absurd (inside _ member) (by decide)

/-- The digits of an appended day are the digits that are read as the day. -/
theorem decimalValue_firstDay {blanks digits : List Char} (blank : Blanks blanks)
    (split : blanks ++ digits = ['0', '1']) : decimalValue digits = 1 := by
  cases blanks with
  | nil =>
      obtain rfl : digits = ['0', '1'] := split
      rfl
  | cons c blanks =>
      obtain ⟨rfl, _⟩ := List.cons.inj split
      exact absurd (blank '0' List.mem_cons_self) (by decide)

/-- The month is all that stands between the hyphen behind the year and the appended one. -/
theorem reads_month_iff (moment last : Moment) (rest : List Char) :
    Layout.Reads moment [.literal '-', .number .month, .literal '-', .number .day]
        (rest ++ ['-', '0', '1']) last ↔
      ∃ blanks digits, rest = '-' :: (blanks ++ digits) ∧ Blanks blanks ∧
        Number 2 digits ['-', '0', '1'] ∧
          last = { moment with month := decimalValue digits, day := 1 } := by
  simp only [Layout.reads_cons_iff, Layout.reads_nil_iff, Item.takes_literal_iff,
    Item.takes_number_iff]
  constructor
  -- Blanks and digits have no hyphens, so the appended one is the second of the layout.
  · rintro ⟨_, _, ⟨whole, rfl⟩, _, _, ⟨blanks, digits, rfl, blank, number, rfl⟩, _, _, ⟨rfl, rfl⟩,
      _, _, ⟨blanks', digits', rfl, blank', number', rfl⟩, rfl, rfl⟩
    cases rest with
    | nil =>
        have hyphen : '-' ∈ blanks ++ (digits ++ '-' :: (blanks' ++ (digits' ++ []))) := by simp
        rw [← (List.cons.inj whole).2] at hyphen
        exact absurd hyphen (by decide)
    | cons c tail =>
        obtain ⟨rfl, behind⟩ := List.cons.inj whole
        rw [← List.append_assoc, List.append_nil] at behind
        obtain ⟨rfl, -, firstDay⟩ := (List.append_cons_inj_of_notMem (noHyphen blank number.inside)
          (noHyphen blank' number'.inside)).mp behind.symm
        rw [List.append_nil, firstDay] at number
        refine ⟨blanks, digits, rfl, blank, number, ?_⟩
        simp only [Moment.record, decimalValue_firstDay blank' firstDay]
  · rintro ⟨blanks, digits, rfl, blank, number, rfl⟩
    have one : Number 2 ['0', '1'] [] := ⟨by simp [Digits], by simp, by simp, .inl rfl⟩
    exact ⟨_, _, ⟨rfl, rfl⟩, _, ['-', '0', '1'], ⟨blanks, digits, by simp, blank, number, rfl⟩, _, _,
      ⟨rfl, rfl⟩, _, _, ⟨[], ['0', '1'], rfl, blanks_nil, one, rfl⟩,
      rfl, rfl⟩

/-- Three bytes are a month when they are a hyphen, blanks and a number. -/
theorem monthText_iff (rest : List Char) (month : Nat) :
    MonthText rest month ↔ byteCount rest = 3 ∧
      ∃ blanks digits, rest = '-' :: (blanks ++ digits) ∧ Blanks blanks ∧
        Number 2 digits ['-', '0', '1'] ∧ month = decimalValue digits := by
  constructor
  · intro written
    refine ⟨written.byteCount_eq, ?_⟩
    cases written with
    | @digits month fixed =>
        exact ⟨[], month, rfl, blanks_nil, fixed.number (by decide) _, rfl⟩
    | @blank space digit blank _ single =>
        refine ⟨[space], [digit], rfl, by simpa [Blanks] using blank, ?_, by simp [decimalValue]⟩
        have whole : Ends Char.isDigit ['-', '0', '1'] := (ends_cons_iff _ _ _).mpr rfl
        exact ⟨by simpa [Digits] using single, by simp, by simp, .inr whole⟩
  · rintro ⟨bytes, blanks, digits, rfl, blank, ⟨inside, nonempty, within, -⟩, rfl⟩
    rw [byteCount_cons, byteCount_append, byteCount_digits inside] at bytes
    have hyphen : '-'.utf8Size = 1 := rfl
    have some := List.length_pos_iff.mpr nonempty
    rcases Nat.lt_or_ge digits.length 2 with one | two
    · obtain ⟨space, rfl, small⟩ :=
        singleton_of_byteCount (show byteCount blanks = 1 by omega)
      obtain ⟨digit, rfl⟩ := List.length_eq_one_iff.mp (show digits.length = 1 by omega)
      have value : decimalValue [digit] = digitValue digit := by simp [decimalValue]
      rw [value]
      exact .blank (blank space List.mem_cons_self) small (inside digit List.mem_cons_self)
    · obtain rfl := eq_nil_of_byteCount (show byteCount blanks = 0 by omega)
      exact .digits ⟨inside, Nat.le_antisymm within two⟩

theorem readFrom?_firstDay (year : Int) :
    Layout.readFrom? { year } [.literal '-', .number .month, .literal '-', .number .day]
      "-01-01".toList = some { year } := by
  rfl

theorem PartialText.completed {text : List Char} {moment : Moment}
    (spelled : PartialText text moment) : ∃ whole, complete? text = some whole := by
  cases spelled with
  | year digits =>
      exact ⟨_, (complete?_eq_some_iff _ _).mpr
        ⟨text, [], (List.append_nil text).symm, digits, .inl ⟨rfl, rfl⟩⟩⟩
  | @month year behind _ digits written =>
      exact ⟨_, (complete?_eq_some_iff _ _).mpr
        ⟨year, behind, rfl, digits, .inr ⟨written.byteCount_eq, rfl⟩⟩⟩

theorem partialText_append_iff {year : List Char} (digits : Timestamp.Fixed 4 year)
    (rest : List Char) (moment : Moment) :
    PartialText (year ++ rest) moment ↔
      (rest = [] ∧ moment = { year := decimalValue year }) ∨
        ∃ month, MonthText rest month ∧ moment = { year := decimalValue year, month } := by
  constructor
  · intro spelled
    generalize split : year ++ rest = text at spelled
    cases spelled with
    | year digits' =>
        have same : year ++ rest = text ++ [] := by rw [split, List.append_nil]
        obtain ⟨rfl, rfl⟩ := List.append_inj same (digits.length.trans digits'.length.symm)
        exact .inl ⟨rfl, rfl⟩
    | month digits' written =>
        obtain ⟨rfl, rfl⟩ := List.append_inj split (digits.length.trans digits'.length.symm)
        exact .inr ⟨_, written, rfl⟩
  · intro written
    rcases written with ⟨rfl, rfl⟩ | ⟨month, written, rfl⟩
    · rw [List.append_nil]
      exact .year digits
    · exact .month digits written

/-- The whole date is read in one way, as the partial date that was completed: what is appended
stays the day, or the month and the day. -/
theorem reads_complete?_iff {text whole : List Char} (completed : complete? text = some whole)
    (moment : Moment) :
    Layout.Reads {} (Layout.yearFirst '-') whole moment ↔ PartialText text moment := by
  have noMonth (month : Nat) : ¬ MonthText [] month := by
    intro written
    cases written
  obtain ⟨year, rest, rfl, digits, behind⟩ := (complete?_eq_some_iff _ _).mp completed
  rw [partialText_append_iff digits]
  rcases behind with ⟨rfl, rfl⟩ | ⟨three, rfl⟩
  · rw [← Layout.readFrom?_eq_some_iff, readFrom?_yearFirst digits, readFrom?_firstDay]
    simp only [noMonth, Option.some.injEq, eq_comm, false_and, exists_const, or_false, true_and]
  · have some : rest ≠ [] := by
      intro nothing
      subst nothing
      cases three
    rw [← Layout.readFrom?_eq_some_iff, readFrom?_yearFirst digits, Layout.readFrom?_eq_some_iff]
    simp only [some, false_and, false_or, monthText_iff, three, true_and]
    rw [show "-01".toList = ['-', '0', '1'] from rfl, reads_month_iff]
    constructor
    · intro reads
      obtain ⟨blanks, run, split, blank, number, rfl⟩ := reads
      exact ⟨_, ⟨blanks, run, split, blank, number, rfl⟩, rfl⟩
    · intro written
      obtain ⟨_, ⟨blanks, run, split, blank, number, rfl⟩, rfl⟩ := written
      exact ⟨blanks, run, split, blank, number, rfl⟩

theorem isPartialDate_iff (text : List Char) :
    isPartialDate text = true ↔ ∃ moment, PartialText text moment ∧ moment.Exists := by
  rw [isPartialDate, Option.any_eq_true]
  constructor
  · intro accepted
    obtain ⟨whole, completed, fits⟩ := accepted
    obtain ⟨moment, reads, real⟩ := (Layout.fits_iff _ whole).mp fits
    exact ⟨moment, (reads_complete?_iff completed moment).mp reads, real⟩
  · intro partly
    obtain ⟨moment, spelled, real⟩ := partly
    obtain ⟨whole, completed⟩ := spelled.completed
    have reads := (reads_complete?_iff completed moment).mpr spelled
    exact ⟨whole, completed, (Layout.fits_iff _ whole).mpr ⟨moment, reads, real⟩⟩

/-! ## Years and months -/

/-- The texts that name a year, or a year and a month, by their numbers. A bare year is named with
its first month. -/
inductive PartialDate : List Char → Nat → Nat → Prop where
  | year {year : List Char} (digits : Timestamp.Fixed 4 year) :
      PartialDate year (decimalValue year) 1
  | month {year month : List Char} (yearDigits : Timestamp.Fixed 4 year)
      (monthDigits : Timestamp.Fixed 2 month)
      (named : 1 ≤ decimalValue month ∧ decimalValue month ≤ 12) :
      PartialDate (year ++ '-' :: month) (decimalValue year) (decimalValue month)
  | blankMonth {year : List Char} {space digit : Char} (yearDigits : Timestamp.Fixed 4 year)
      (blank : WhiteSpace space) (small : space.utf8Size = 1) (single : digit.isDigit = true)
      (named : digit ≠ '0') :
      PartialDate (year ++ ['-', space, digit]) (decimalValue year) (digitValue digit)

/-- Whether a cut behind a number of bytes falls inside a character. -/
def CutsCharacter (count : Nat) (text : List Char) : Prop :=
  ∃ front c behind, text = front ++ c :: behind ∧ byteCount front < count ∧
    count < byteCount front + c.utf8Size

theorem isDay_one_iff_of_fixed {year : List Char} (digits : Timestamp.Fixed 4 year) (month : Nat) :
    IsDay (decimalValue year) month 1 ↔ 1 ≤ month ∧ month ≤ 12 := by
  have small := decimalValue_lt digits.inside
  rw [digits.length] at small
  rw [isDay_one_iff]
  omega

theorem PartialDate.isDay {text : List Char} {year month : Nat}
    (date : PartialDate text year month) : IsDay year month 1 := by
  cases date with
  | year digits => exact (isDay_one_iff_of_fixed digits 1).mpr (by decide)
  | month digits _ named => exact (isDay_one_iff_of_fixed digits _).mpr named
  | @blankMonth year _ digit digits _ _ single named =>
      have atMost := digitValue_le single
      have atLeast := (digitValue_pos_iff single).mpr named
      exact (isDay_one_iff_of_fixed digits _).mpr ⟨atLeast, by omega⟩

theorem PartialDate.spelled {text : List Char} {year month : Nat}
    (date : PartialDate text year month) : PartialText text { year, month } := by
  cases date with
  | year digits => exact .year digits
  | month digits monthDigits _ => exact .month digits (.digits monthDigits)
  | blankMonth digits blank small single _ => exact .month digits (.blank blank small single)

/-- Of the texts with a reading those are partial dates that name a month of the calendar. -/
theorem partialDate_of_exists {text : List Char} {moment : Moment}
    (spelled : PartialText text moment) (real : moment.Exists) :
    ∃ year month, PartialDate text year month := by
  cases spelled with
  | year digits => exact ⟨_, _, .year digits⟩
  | month digits written =>
      have named := (isDay_one_iff_of_fixed digits _).mp real.day
      cases written with
      | digits monthDigits => exact ⟨_, _, .month digits monthDigits named⟩
      | blank blank small single =>
          exact ⟨_, _, .blankMonth digits blank small single ((digitValue_pos_iff single).mp named.1)⟩

theorem exists_partialDate_iff (text : List Char) :
    (∃ year month, PartialDate text year month) ↔
      ∃ moment, PartialText text moment ∧ moment.Exists := by
  constructor
  · intro named
    obtain ⟨year, month, date⟩ := named
    exact ⟨_, date.spelled, date.isDay, by simp⟩
  · intro partly
    obtain ⟨moment, spelled, real⟩ := partly
    exact partialDate_of_exists spelled real

theorem PartialDate.reads_iff {text whole : List Char} {year month : Nat}
    (date : PartialDate text year month) (completed : complete? text = some whole)
    (moment : Moment) :
    Layout.Reads {} (Layout.yearFirst '-') whole moment ↔ moment = { year, month, day := 1 } := by
  have reads := (reads_complete?_iff completed _).mpr date.spelled
  rw [← Layout.readFrom?_eq_some_iff] at reads
  rw [← Layout.readFrom?_eq_some_iff, reads, Option.some.injEq, eq_comm]

/-- Four digits take a byte each, so no character reaches over their end. -/
theorem not_cutsCharacter_of_fixed {year : List Char} (digits : Timestamp.Fixed 4 year)
    (rest : List Char) : ¬ CutsCharacter 4 (year ++ rest) := by
  intro cut
  obtain ⟨front, c, behind, split, before, after⟩ := cut
  have length := digits.length
  have short := length_le_byteCount front
  rcases List.append_eq_append_iff.mp split with ⟨longer, rfl, -⟩ | ⟨left, rfl, same⟩
  · rw [List.length_append] at short
    omega
  -- The cut is in front of the fourth byte, so its character is one of the digits.
  · cases left with
    | nil =>
        rw [List.append_nil] at length
        omega
    | cons d left =>
        obtain ⟨rfl, -⟩ := List.cons.inj same
        have single := utf8Size_of_isDigit (digits.inside c (by simp))
        omega

theorem isPartialDate_of_cutsCharacter {text : List Char} (cut : CutsCharacter 4 text) :
    isPartialDate text = false := by
  refine Bool.eq_false_iff.mpr ?_
  intro accepted
  obtain ⟨whole, completed, -⟩ := (Option.any_eq_true _ _).mp accepted
  obtain ⟨year, rest, rfl, digits⟩ := digits_of_complete? completed
  exact not_cutsCharacter_of_fixed digits rest cut

/-- A partial date is a year of four digits, alone or with a month that takes two digits, or one
behind a blank of one byte. What is appended to it is read as the day, which exists, and it does
not make a date of anything else. -/
theorem partial_dates_name_first_days :
    (∀ text : List Char, isPartialDate text = true ↔ ∃ year month, PartialDate text year month) ∧
    (∀ (text : List Char) (year month : Nat), PartialDate text year month →
      IsDay year month 1 ∧ ∃ whole, complete? text = some whole ∧
        ∀ moment, Layout.Reads {} (Layout.yearFirst '-') whole moment ↔
          moment = { year, month, day := 1 }) ∧
    (∀ year rest : List Char, Timestamp.Fixed 4 year → byteCount rest = 3 →
      ((Layout.yearFirst '-').fits (year ++ (rest ++ "-01".toList)) = true ↔
        ∃ number month, PartialDate (year ++ rest) number month)) ∧
    ∀ text : List Char, CutsCharacter 4 text → isPartialDate text = false := by
  refine ⟨?_, ?_, ?_, fun text => isPartialDate_of_cutsCharacter⟩
  · intro text
    rw [isPartialDate_iff, exists_partialDate_iff]
  · intro text year month date
    obtain ⟨whole, completed⟩ := date.spelled.completed
    exact ⟨date.isDay, whole, completed, date.reads_iff completed⟩
  · intro year rest digits three
    have completed : complete? (year ++ rest) = some (year ++ (rest ++ "-01".toList)) :=
      (complete?_eq_some_iff _ _).mpr ⟨year, rest, rfl, digits, .inr ⟨three, rfl⟩⟩
    rw [Layout.fits_iff, exists_partialDate_iff]
    simp only [reads_complete?_iff completed]

/-- A tab may stand for the first digit of a month, and a cut inside a letter is refused. -/
theorem partial_dates_name_first_days_tab :
    PartialDate "2024-\t7".toList 2024 7 ∧ IsDay 2024 7 1 ∧
      (Layout.yearFirst '-').fits ("2024".toList ++ ("-\t7".toList ++ "-01".toList)) = true ∧
      CutsCharacter 4 "202é-07".toList ∧ isPartialDate "202é-07".toList = false := by
  have main := partial_dates_name_first_days
  have digits : Timestamp.Fixed 4 "2024".toList := by decide
  have date : PartialDate "2024-\t7".toList 2024 7 :=
    @PartialDate.blankMonth _ '\t' '7' digits (by decide) (by decide) (by decide) (by decide)
  have cut : CutsCharacter 4 "202é-07".toList :=
    ⟨"202".toList, 'é', "-07".toList, by decide, by decide, by decide⟩
  refine ⟨date, (main.2.1 _ 2024 7 date).1, ?_, cut, main.2.2.2 _ cut⟩
  exact (main.2.2.1 "2024".toList "-\t7".toList digits (by decide)).mpr ⟨2024, 7, date⟩

end FormCheck.Calendar
