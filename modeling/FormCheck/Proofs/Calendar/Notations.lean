import FormCheck.Calendar.Written
import FormCheck.Proofs.Calendar.Partial

/-!
The notations of a date: a timestamp, a partial date, and the layouts, item by item. A text
is a date when one of them reads it as a moment that exists.
-/

set_option autoImplicit false

namespace FormCheck.Calendar

open Text

/-- The layouts of dates, and of dates with a time behind them. -/
inductive DateLayout : Layout → Prop where
  | hyphens : DateLayout [.year, .literal '-', .number .month, .literal '-', .number .day]
  | slashes : DateLayout [.year, .literal '/', .number .month, .literal '/', .number .day]
  | monthFirst : DateLayout [.number .month, .literal '/', .number .day, .literal '/', .year]
  | monthName : DateLayout [.monthName, .gap, .number .day, .literal ',', .gap, .year]
  | monthAbbreviation :
      DateLayout [.monthAbbreviation, .gap, .number .day, .literal ',', .gap, .year]
  | dayFirst : DateLayout [.number .day, .gap, .monthName, .gap, .year]
  | secondsBehindT :
      DateLayout [.year, .literal '-', .number .month, .literal '-', .number .day, .literal 'T',
        .number .hour, .literal ':', .number .minute, .literal ':', .number .second]
  | fractionBehindT :
      DateLayout [.year, .literal '-', .number .month, .literal '-', .number .day, .literal 'T',
        .number .hour, .literal ':', .number .minute, .literal ':', .number .second, .fraction]
  | minutesBehindT :
      DateLayout [.year, .literal '-', .number .month, .literal '-', .number .day, .literal 'T',
        .number .hour, .literal ':', .number .minute]
  | secondsBehindGap :
      DateLayout [.year, .literal '-', .number .month, .literal '-', .number .day, .gap,
        .number .hour, .literal ':', .number .minute, .literal ':', .number .second]
  | minutesBehindGap :
      DateLayout [.year, .literal '-', .number .month, .literal '-', .number .day, .gap,
        .number .hour, .literal ':', .number .minute]

theorem dateLayout_iff (layout : Layout) :
    DateLayout layout ↔ layout ∈ Layout.dates ++ Layout.dateTimes := by
  simp only [Layout.dates, Layout.dateTimes, Layout.yearFirst, Layout.hourMinuteSecond,
    Layout.hourMinute, List.cons_append, List.nil_append, List.mem_cons, List.not_mem_nil, or_false]
  constructor
  · intro listed
    cases listed
    all_goals decide
  · intro listed
    rcases listed with rfl | rfl | rfl | rfl | rfl | rfl | rfl | rfl | rfl | rfl | rfl
    all_goals constructor

/-- The readings of a text as a date, whether the date exists or not. A layout starts from the
first midnight of the year zero. -/
inductive DateText : List Char → Moment → Prop where
  | timestamp {text : List Char} {moment : Moment} (spelled : Timestamp.Spells text moment) :
      DateText text moment
  | partly {text : List Char} {moment : Moment} (spelled : PartialText text moment) :
      DateText text moment
  | layout {layout : Layout} {text : List Char} {moment : Moment} (listed : DateLayout layout)
      (reads : layout.Reads { year := 0, month := 1, day := 1, hour := 0, minute := 0, second := 0 }
        text moment) : DateText text moment

theorem isDate_iff (text : String) :
    isDate text = true ↔
      ∃ core moment, Stripped core text.toList ∧ DateText core moment ∧ moment.Exists := by
  simp only [isDate, Bool.or_eq_true, List.any_eq_true, Timestamp.fits_iff, isPartialDate_iff,
    Layout.fits_iff, stripped_iff, exists_and_left, exists_eq_left]
  constructor
  · intro accepted
    rcases accepted with ((⟨moment, spelled, real⟩ | ⟨moment, spelled, real⟩) |
      ⟨layout, listed, moment, reads, real⟩) | ⟨layout, listed, moment, reads, real⟩
    · exact ⟨moment, .timestamp spelled, real⟩
    · exact ⟨moment, .partly spelled, real⟩
    · exact ⟨moment, .layout ((dateLayout_iff _).mpr (List.mem_append_left _ listed)) reads, real⟩
    · exact ⟨moment, .layout ((dateLayout_iff _).mpr (List.mem_append_right _ listed)) reads, real⟩
  · intro read
    obtain ⟨moment, written, real⟩ := read
    cases written with
    | timestamp spelled => exact .inl (.inl (.inl ⟨moment, spelled, real⟩))
    | partly spelled => exact .inl (.inl (.inr ⟨moment, spelled, real⟩))
    | layout listed reads =>
        rcases List.mem_append.mp ((dateLayout_iff _).mp listed) with date | dateTime
        · exact .inl (.inr ⟨_, date, moment, reads, real⟩)
        · exact .inr ⟨_, dateTime, moment, reads, real⟩

end FormCheck.Calendar
