import FormCheck.Judgement.Test
import FormCheck.Proofs.Calendar.Notations

/-!
Which texts are dates. The notations overlap, but a full date written in digits has one
reading only, and so has one with a time behind it: an impossible day or time is not let
through by another notation.
-/

set_option autoImplicit false

namespace FormCheck.Calendar

open Text

/-! ## Texts that start with a year in digits -/

/-- What the layouts have behind the minutes of a time. -/
inductive SecondsLayout : Layout → Prop where
  | none : SecondsLayout []
  | seconds : SecondsLayout [.literal ':', .number .second]
  | fraction : SecondsLayout [.literal ':', .number .second, .fraction]

/-- What the layouts that start with the year and a hyphen have behind the day. -/
inductive TimeLayout : Layout → Prop where
  | none : TimeLayout []
  | behindT {items : Layout} (behind : SecondsLayout items) :
      TimeLayout (.literal 'T' :: (Layout.hourMinute ++ items))
  | behindGap {items : Layout} (behind : SecondsLayout items) :
      TimeLayout (.gap :: (Layout.hourMinute ++ items))

section Fronts

variable {layout : Layout} {moment : Moment}

theorem DateLayout.cases (listed : DateLayout layout) :
    (∃ items, layout = Layout.yearFirst '-' ++ items ∧ TimeLayout items) ∨
      layout = Layout.yearFirst '/' ∨
      layout = [.number .month, .literal '/', .number .day, .literal '/', .year] ∨
      (∃ items, layout = .number .day :: .gap :: .monthName :: items) ∨
      ∃ items, layout = .monthName :: items ∨ layout = .monthAbbreviation :: items := by
  cases listed with
  | hyphens => exact .inl ⟨[], rfl, .none⟩
  | slashes => exact .inr (.inl rfl)
  | monthFirst => exact .inr (.inr (.inl rfl))
  | monthName => exact .inr (.inr (.inr (.inr ⟨_, .inl rfl⟩)))
  | monthAbbreviation => exact .inr (.inr (.inr (.inr ⟨_, .inr rfl⟩)))
  | dayFirst => exact .inr (.inr (.inr (.inl ⟨_, rfl⟩)))
  | secondsBehindT => exact .inl ⟨_, rfl, .behindT .seconds⟩
  | fractionBehindT => exact .inl ⟨_, rfl, .behindT .fraction⟩
  | minutesBehindT => exact .inl ⟨_, rfl, .behindT .none⟩
  | secondsBehindGap => exact .inl ⟨_, rfl, .behindGap .seconds⟩
  | minutesBehindGap => exact .inl ⟨_, rfl, .behindGap .none⟩

theorem readFrom?_dayName {front : List Char} (digits : Timestamp.Fixed 2 front) (items : Layout)
    {c : Char} (visible : isBlank c = false) (noLetter : c.toLower.isLower = false)
    (rest : List Char) :
    Layout.readFrom? {} (.number .day :: .gap :: .monthName :: items) (front ++ c :: rest) =
      none := by
  rw [Layout.readFrom?_item (digits.takes_number {} .day _), Layout.readFrom?_gap _ _ visible]
  exact (Layout.readFrom?_name _ items noLetter rest).1

theorem readFrom?_names
    (names : ∃ items, layout = .monthName :: items ∨ layout = .monthAbbreviation :: items)
    {count : Nat} {digits : List Char} (fixed : Timestamp.Fixed (count + 1) digits)
    (rest : List Char) : Layout.readFrom? moment layout (digits ++ rest) = none := by
  obtain ⟨c, tail, rfl, digit⟩ := fixed.first
  have noLetter := noLetter_of_isDigit digit
  rcases names with ⟨items, rfl | rfl⟩
  · exact (Layout.readFrom?_name _ items noLetter _).1
  · exact (Layout.readFrom?_name _ items noLetter _).2

/-- A text that starts with a year in digits is read by the layouts that start with the year
only. -/
theorem yearFirst_of_readFrom? (listed : DateLayout layout) {year rest : List Char}
    (digits : Timestamp.Fixed 4 year)
    (read : Layout.readFrom? {} layout (year ++ rest) = some moment) :
    (∃ items, layout = Layout.yearFirst '-' ++ items ∧ TimeLayout items) ∨
      layout = Layout.yearFirst '/' := by
  obtain ⟨front, back, halves, frontDigits, backDigits⟩ := digits.halves
  obtain ⟨c, tail, rfl, digit⟩ := backDigits.first
  have split : year ++ rest = front ++ c :: (tail ++ rest) := by
    rw [halves, List.append_assoc, List.cons_append]
  rcases listed.cases with hyphens | slashes | rfl | ⟨items, rfl⟩ | names
  · exact .inl hyphens
  · exact .inr slashes
  -- The other layouts take half of the year for a month or a day, and a digit follows.
  · have other : c ≠ '/' := by
      intro same
      subst same
      cases digit
    rw [split, Layout.readFrom?_item (frontDigits.takes_number {} .month _),
      Layout.readFrom?_literal, if_neg other] at read
    cases read
  · rw [split, readFrom?_dayName frontDigits items (isBlank_eq_false_of_isDigit digit)
      (noLetter_of_isDigit digit)] at read
    cases read
  · rw [readFrom?_names names digits] at read
    cases read

end Fronts

/-! ## Full dates in digits -/

/-- The digits of a full date. -/
structure DateDigits (year month day : List Char) : Prop where
  year : Timestamp.Fixed 4 year
  month : Timestamp.Fixed 2 month
  day : Timestamp.Fixed 2 day

instance (year month day : List Char) : Decidable (DateDigits year month day) :=
  decidable_of_iff
    (Timestamp.Fixed 4 year ∧ Timestamp.Fixed 2 month ∧ Timestamp.Fixed 2 day)
    ⟨fun fixed => ⟨fixed.1, fixed.2.1, fixed.2.2⟩,
      fun digits => ⟨digits.year, digits.month, digits.day⟩⟩

/-- What a full date in digits stands for, at midnight. -/
def midnight (year month day : List Char) : Moment :=
  { year := decimalValue year, month := decimalValue month, day := decimalValue day,
    hour := 0, minute := 0, second := 0 }

/-- The notations of a full date in digits. -/
inductive FullDate (year month day : List Char) : List Char → Prop where
  | yearFirst {mark : Char} (marked : mark = '-' ∨ mark = '/') :
      FullDate year month day (year ++ mark :: (month ++ mark :: day))
  | yearLast : FullDate year month day (month ++ '/' :: (day ++ '/' :: year))

theorem midnight_exists_iff (year month day : List Char) :
    (midnight year month day).Exists ↔
      IsDay (decimalValue year) (decimalValue month) (decimalValue day) :=
  ⟨fun real => real.day, fun real => ⟨real, by simp [midnight]⟩⟩

section FullDates

variable {year month day : List Char} {moment : Moment}

theorem readFrom?_yearFirst_digits (digits : DateDigits year month day) (separator mark : Char)
    (items : Layout) (rest : List Char) :
    Layout.readFrom? {} (Layout.yearFirst separator ++ items)
        (year ++ mark :: (month ++ mark :: (day ++ rest))) =
      if mark = separator then Layout.readFrom? (midnight year month day) items rest else none := by
  rw [Layout.yearFirst, List.cons_append, Layout.readFrom?_item (digits.year.takes_year {} _),
    List.cons_append, Layout.readFrom?_literal]
  split
  case isTrue same =>
    subst same
    simp only [List.cons_append, List.nil_append]
    rw [Layout.readFrom?_item (digits.month.takes_number _ .month _), Layout.readFrom?_literal,
      if_pos rfl]
    exact Layout.readFrom?_item (digits.day.takes_number _ .day _)
  case isFalse => rfl

variable {layout : Layout}

theorem TimeLayout.eq_nil {items : Layout} (behind : TimeLayout items) {last : Moment}
    (read : Layout.readFrom? moment items [] = some last) : items = [] := by
  cases behind with
  | none => rfl
  | behindT => cases read
  | behindGap => cases read

theorem eq_midnight_of_yearFirst (digits : DateDigits year month day) {separator mark : Char}
    {items : Layout} (behind : TimeLayout items)
    (read : Layout.readFrom? {} (Layout.yearFirst separator ++ items)
      (year ++ mark :: (month ++ mark :: day)) = some moment) :
    moment = midnight year month day := by
  have front := readFrom?_yearFirst_digits digits separator mark items []
  rw [List.append_nil] at front
  rw [front] at read
  split at read
  case isTrue =>
    obtain rfl := behind.eq_nil read
    cases read
    rfl
  case isFalse => cases read

theorem readFrom?_yearFirst_eq (listed : DateLayout layout) (digits : DateDigits year month day)
    {mark : Char}
    (read : Layout.readFrom? {} layout (year ++ mark :: (month ++ mark :: day)) = some moment) :
    moment = midnight year month day := by
  rcases yearFirst_of_readFrom? listed digits.year read with ⟨items, rfl, behind⟩ | rfl
  · exact eq_midnight_of_yearFirst digits behind read
  · rw [← List.append_nil (Layout.yearFirst '/')] at read
    exact eq_midnight_of_yearFirst digits .none read

theorem readFrom?_yearLast_digits (digits : DateDigits year month day) :
    Layout.readFrom? {} [.number .month, .literal '/', .number .day, .literal '/', .year]
      (month ++ '/' :: (day ++ '/' :: year)) = some (midnight year month day) := by
  have yearTakes := digits.year.takes_year
    { month := decimalValue month, day := decimalValue day } []
  rw [List.append_nil] at yearTakes
  rw [Layout.readFrom?_item (digits.month.takes_number {} .month _), Layout.readFrom?_literal,
    if_pos rfl, Layout.readFrom?_item (digits.day.takes_number _ .day _), Layout.readFrom?_literal,
    if_pos rfl]
  exact Layout.readFrom?_item yearTakes

/-- Where a layout starts with the year, the month before a slash is taken for the year. -/
theorem readFrom?_shortYear (monthDigits : Timestamp.Fixed 2 month) (items : Layout)
    (rest : List Char) :
    Layout.readFrom? {} (.year :: items) (month ++ '/' :: rest) =
      Layout.readFrom? { year := decimalValue month } items ('/' :: rest) := by
  obtain ⟨inside, length⟩ := monthDigits
  have nonempty : month ≠ [] := List.length_pos_iff.mp (by omega)
  exact Layout.readFrom?_item
    (.year blanks_nil ⟨inside, nonempty, by omega, .inr ((ends_cons_iff _ _ _).mpr rfl)⟩)

/-- A full date in digits that ends with the year is read by one layout only. -/
theorem readFrom?_yearLast_eq (listed : DateLayout layout) (digits : DateDigits year month day)
    (read : Layout.readFrom? {} layout (month ++ '/' :: (day ++ '/' :: year)) = some moment) :
    moment = midnight year month day := by
  rcases listed.cases with ⟨items, rfl, -⟩ | rfl | rfl | ⟨items, rfl⟩ | names
  -- A slash follows what is taken for the year, where the layout has a hyphen.
  · rw [Layout.yearFirst, List.cons_append, readFrom?_shortYear digits.month, List.cons_append,
      Layout.readFrom?_literal, if_neg (by decide)] at read
    cases read
  -- Two digits of the year are taken for the day, and two are left.
  · obtain ⟨front, back, rfl, frontDigits, backDigits⟩ := digits.year.halves
    obtain ⟨c, tail, rfl, -⟩ := backDigits.first
    rw [Layout.yearFirst, readFrom?_shortYear digits.month, Layout.readFrom?_literal, if_pos rfl,
      Layout.readFrom?_item (digits.day.takes_number _ .month _), Layout.readFrom?_literal,
      if_pos rfl, Layout.readFrom?_item (frontDigits.takes_number _ .day _)] at read
    cases read
  · rw [readFrom?_yearLast_digits digits] at read
    cases read
    rfl
  · rw [readFrom?_dayName digits.month items (by decide) (by decide)] at read
    cases read
  · rw [readFrom?_names names digits.month] at read
    cases read

end FullDates

section

variable {year month day text : List Char} {moment : Moment} (digits : DateDigits year month day)
  (full : FullDate year month day text)

include digits full

theorem FullDate.length : text.length = 10 := by
  cases full with
  | yearFirst =>
      simp only [List.length_append, List.length_cons, digits.year.length, digits.month.length,
        digits.day.length]
  | yearLast =>
      simp only [List.length_append, List.length_cons, digits.year.length, digits.month.length,
        digits.day.length]

theorem FullDate.stripped : Stripped text text := by
  cases full with
  | @yearFirst mark =>
      have split : year ++ mark :: (month ++ mark :: day) =
          (year ++ mark :: (month ++ [mark])) ++ day := by simp
      exact stripped_of_digits rfl digits.year.inside digits.year.nonempty split digits.day.inside
        digits.day.nonempty
  | yearLast =>
      have split : month ++ '/' :: (day ++ '/' :: year) =
          (month ++ '/' :: (day ++ ['/'])) ++ year := by simp
      exact stripped_of_digits rfl digits.month.inside digits.month.nonempty split
        digits.year.inside digits.year.nonempty

/-- A full date in digits has one reading. -/
theorem FullDate.reading_iff : DateText text moment ↔ moment = midnight year month day := by
  have length := full.length digits
  constructor
  · intro written
    cases written with
    | timestamp spelled =>
        have long := spelled.length
        omega
    | partly spelled =>
        have short := spelled.length
        omega
    | layout listed reads =>
        rw [← Layout.readFrom?_eq_some_iff] at reads
        cases full with
        | yearFirst => exact readFrom?_yearFirst_eq listed digits reads
        | yearLast => exact readFrom?_yearLast_eq listed digits reads
  · intro same
    subst same
    cases full with
    | @yearFirst mark marked =>
        have listed : DateLayout (Layout.yearFirst mark) := by
          rcases marked with rfl | rfl
          · exact .hyphens
          · exact .slashes
        have read := readFrom?_yearFirst_digits digits mark mark [] []
        rw [List.append_nil, List.append_nil, if_pos rfl] at read
        exact .layout listed ((Layout.readFrom?_eq_some_iff _ _ _ _).mp read)
    | yearLast =>
        have read := readFrom?_yearLast_digits digits
        exact .layout .monthFirst ((Layout.readFrom?_eq_some_iff _ _ _ _).mp read)

end

/-! ## Full dates with a time -/

/-- What may stand behind the minutes of a time in digits, and the seconds that it tells. -/
inductive SecondsText : List Char → Nat → Prop where
  | none : SecondsText [] 0
  | seconds {second fraction : List Char} (digits : Timestamp.Fixed 2 second)
      (parts : Timestamp.Fraction fraction) :
      SecondsText (':' :: (second ++ fraction)) (decimalValue second)

/-- The notations of a full date with a time behind it, in digits. Behind a space there is no
fraction of a second. -/
inductive FullDateTime (year month day hour minute : List Char) : List Char → Nat → Prop where
  | digits {mark : Char} {seconds : List Char} {second : Nat}
      (marked : mark = 'T' ∨ mark = ' ' ∧ '.' ∉ seconds) (written : SecondsText seconds second) :
      FullDateTime year month day hour minute
        (year ++ '-' :: (month ++ '-' :: (day ++ mark :: (hour ++ ':' :: (minute ++ seconds)))))
        second

/-- What a full date stands for with a time behind it. -/
def atTime (year month day hour minute : List Char) (second : Nat) : Moment :=
  { year := decimalValue year, month := decimalValue month, day := decimalValue day,
    hour := decimalValue hour, minute := decimalValue minute, second }

theorem atTime_exists_iff (year month day hour minute : List Char) (second : Nat) :
    (atTime year month day hour minute second).Exists ↔
      IsDay (decimalValue year) (decimalValue month) (decimalValue day) ∧
        decimalValue hour < 24 ∧ decimalValue minute < 60 ∧ second ≤ 60 :=
  ⟨fun real => ⟨real.day, real.time⟩, fun real => ⟨real.1, real.2⟩⟩

section Times

variable {hour minute seconds : List Char} {second : Nat} {moment last : Moment} {items : Layout}

theorem readFrom?_hourMinute (hourDigits : Timestamp.Fixed 2 hour)
    (minuteDigits : Timestamp.Fixed 2 minute) (moment : Moment) (items : Layout)
    (rest : List Char) :
    Layout.readFrom? moment (Layout.hourMinute ++ items) (hour ++ ':' :: (minute ++ rest)) =
      Layout.readFrom? { moment with hour := decimalValue hour, minute := decimalValue minute }
        items rest := by
  simp only [Layout.hourMinute, List.cons_append, List.nil_append]
  rw [Layout.readFrom?_item (hourDigits.takes_number moment .hour _), Layout.readFrom?_literal,
    if_pos rfl]
  exact Layout.readFrom?_item (minuteDigits.takes_number _ .minute _)

theorem readFrom?_seconds {run : List Char} (digits : Timestamp.Fixed 2 run) (moment : Moment)
    (items : Layout) (rest : List Char) :
    Layout.readFrom? moment (.literal ':' :: .number .second :: items) (':' :: (run ++ rest)) =
      Layout.readFrom? { moment with second := decimalValue run } items rest := by
  rw [Layout.readFrom?_literal, if_pos rfl]
  exact Layout.readFrom?_item (digits.takes_number moment .second rest)

theorem readFrom?_fraction {fraction : List Char} (parts : Timestamp.Fraction fraction)
    (moment : Moment) : Layout.readFrom? moment [.fraction] fraction = some moment := by
  cases parts with
  | none => rfl
  | @some digits inside nonempty =>
      have takes : Item.Takes moment .fraction ('.' :: (digits ++ [])) moment [] :=
        .fraction ⟨inside, nonempty, ends_nil _⟩
      rw [List.append_nil] at takes
      exact Layout.readFrom?_item takes

/-- A layout takes all seconds that stand in a text, and none that do not. -/
theorem SecondsLayout.last_eq (behind : SecondsLayout items) (written : SecondsText seconds second)
    (whole : moment.second = 0) (read : Layout.readFrom? moment items seconds = some last) :
    last = { moment with second } := by
  cases written with
  | none =>
      rw [← whole]
      cases behind with
      | none =>
          cases read
          rfl
      | seconds => cases read
      | fraction => cases read
  | seconds digits parts =>
      cases behind with
      | none => cases read
      | seconds =>
          rw [readFrom?_seconds digits] at read
          cases parts with
          | none =>
              cases read
              rfl
          | some => cases read
      | fraction =>
          rw [readFrom?_seconds digits, readFrom?_fraction parts] at read
          cases read
          rfl

/-- Some layout takes the seconds, and one that takes a fraction is needed for a fraction only. -/
theorem SecondsText.exists_layout (written : SecondsText seconds second) :
    ∃ items, SecondsLayout items ∧ (.fraction ∈ items → '.' ∈ seconds) ∧
      ∀ moment : Moment, moment.second = 0 →
        Layout.readFrom? moment items seconds = some { moment with second } := by
  cases written with
  | none =>
      refine ⟨[], .none, by simp, ?_⟩
      intro moment whole
      rw [← whole]
      rfl
  | seconds digits parts =>
      cases parts with
      | none =>
          refine ⟨[.literal ':', .number .second], .seconds, by simp, ?_⟩
          exact fun moment _ => readFrom?_seconds digits moment [] []
      | some inside nonempty =>
          refine ⟨[.literal ':', .number .second, .fraction], .fraction, by simp, ?_⟩
          intro moment _
          rw [readFrom?_seconds digits]
          exact readFrom?_fraction (.some inside nonempty) _

theorem SecondsLayout.behindT (behind : SecondsLayout items) :
    DateLayout (Layout.yearFirst '-' ++ .literal 'T' :: (Layout.hourMinute ++ items)) := by
  cases behind with
  | none => exact .minutesBehindT
  | seconds => exact .secondsBehindT
  | fraction => exact .fractionBehindT

theorem SecondsLayout.behindGap (behind : SecondsLayout items) (whole : .fraction ∉ items) :
    DateLayout (Layout.yearFirst '-' ++ .gap :: (Layout.hourMinute ++ items)) := by
  cases behind with
  | none => exact .minutesBehindGap
  | seconds => exact .secondsBehindGap
  | fraction => simp at whole

theorem readFrom?_space (hourDigits : Timestamp.Fixed 2 hour) (moment : Moment) (items : Layout)
    (rest : List Char) :
    Layout.readFrom? moment (.gap :: items) (' ' :: (hour ++ rest)) =
      Layout.readFrom? moment items (hour ++ rest) := by
  have space : Blanks [' '] := by
    intro c member
    rw [List.mem_singleton.mp member]
    decide
  have whole : Ends isBlank (hour ++ rest) :=
    ends_of_run_append hourDigits.inside hourDigits.nonempty fun _ => isBlank_eq_false_of_isDigit
  exact Layout.readFrom?_item (.gap space whole)

theorem TimeLayout.clock (behind : TimeLayout items) (hourDigits : Timestamp.Fixed 2 hour)
    {mark : Char} (marked : mark = 'T' ∨ mark = ' ') {rest : List Char}
    (read : Layout.readFrom? moment items (mark :: (hour ++ rest)) = some last) :
    ∃ left, SecondsLayout left ∧
      Layout.readFrom? moment (Layout.hourMinute ++ left) (hour ++ rest) = some last := by
  cases behind with
  | none => cases read
  | @behindT left behind =>
      rw [Layout.readFrom?_literal] at read
      split at read
      case isTrue => exact ⟨left, behind, read⟩
      case isFalse => cases read
  | @behindGap left behind =>
      rcases marked with rfl | rfl
      -- A gap leaves the letter where it is, and no hour starts with it.
      · rw [Layout.readFrom?_gap _ _ (by decide)] at read
        cases read
      · rw [readFrom?_space hourDigits] at read
        exact ⟨left, behind, read⟩

variable {year month day text : List Char} (digits : DateDigits year month day)
  (hourDigits : Timestamp.Fixed 2 hour) (minuteDigits : Timestamp.Fixed 2 minute)

include digits hourDigits minuteDigits

/-- A time without an offset is none of a timestamp. -/
theorem timestamp_read?_eq_none {mark : Char} (marked : mark = 'T' ∨ mark = ' ')
    (written : SecondsText seconds second) :
    Timestamp.read? (year ++ '-' :: (month ++ '-' :: (day ++ mark :: (hour ++ ':' ::
      (minute ++ seconds))))) = none := by
  have separated (rest : List Char) :
      Timestamp.dropChar? (fun c => c == 'T' || c == 't' || c == ' ') (mark :: rest) =
        some rest := by
    apply Timestamp.dropChar?_cons
    rcases marked with rfl | rfl
    · rfl
    · rfl
  simp only [Timestamp.read?, bind, Option.bind_some, Timestamp.readFixed?_append digits.year,
    Timestamp.readFixed?_append digits.month, Timestamp.readFixed?_append digits.day, separated,
    Timestamp.readFixed?_append hourDigits, Timestamp.readFixed?_append minuteDigits,
    Timestamp.dropChar?_self]
  cases written with
  | none => rfl
  | @seconds _ fraction secondDigits parts =>
      have dropped : dropFraction? fraction = some [] := by
        rw [dropFraction?_eq_some_iff]
        cases parts with
        | none => exact .inl ⟨ends_nil _, rfl⟩
        | some inside nonempty =>
            exact .inr ⟨_, by rw [List.append_nil], inside, nonempty, ends_nil _⟩
      simp only [Timestamp.dropChar?_self, Option.bind_some,
        Timestamp.readFixed?_append secondDigits, dropped]
      rfl

theorem FullDateTime.read_eq (full : FullDateTime year month day hour minute text second)
    {layout : Layout} (listed : DateLayout layout)
    (read : Layout.readFrom? {} layout text = some moment) :
    moment = atTime year month day hour minute second := by
  cases full with
  | @digits mark seconds _ marked written =>
      have front := readFrom?_yearFirst_digits digits
      rcases yearFirst_of_readFrom? listed digits.year read with ⟨items, rfl, behind⟩ | rfl
      · rw [front, if_pos rfl] at read
        obtain ⟨left, behind, read⟩ := behind.clock hourDigits (marked.imp_right And.left) read
        rw [readFrom?_hourMinute hourDigits minuteDigits] at read
        exact behind.last_eq written rfl read
      · rw [← List.append_nil (Layout.yearFirst '/'), front, if_neg (by decide)] at read
        cases read

theorem FullDateTime.dateText (full : FullDateTime year month day hour minute text second) :
    DateText text (atTime year month day hour minute second) := by
  cases full with
  | @digits mark seconds _ marked written =>
      obtain ⟨items, behind, pointed, read⟩ := written.exists_layout
      have clock : Layout.readFrom? (midnight year month day) (Layout.hourMinute ++ items)
          (hour ++ ':' :: (minute ++ seconds)) =
            some (atTime year month day hour minute second) := by
        rw [readFrom?_hourMinute hourDigits minuteDigits]
        exact read (atTime year month day hour minute 0) rfl
      have front := readFrom?_yearFirst_digits digits '-' '-'
      rcases marked with rfl | ⟨rfl, whole⟩
      · refine .layout behind.behindT ((Layout.readFrom?_eq_some_iff _ _ _ _).mp ?_)
        rw [front, if_pos rfl, Layout.readFrom?_literal, if_pos rfl, clock]
      · refine .layout (behind.behindGap fun some => whole (pointed some))
          ((Layout.readFrom?_eq_some_iff _ _ _ _).mp ?_)
        rw [front, if_pos rfl, readFrom?_space hourDigits, clock]

/-- A full date with a time, in digits, has one reading. -/
theorem FullDateTime.reading_iff (full : FullDateTime year month day hour minute text second) :
    DateText text moment ↔ moment = atTime year month day hour minute second := by
  constructor
  · intro written
    cases written with
    | timestamp spelled =>
        rw [← Timestamp.read?_eq_some_iff] at spelled
        cases full with
        | digits marked seconds =>
            rw [timestamp_read?_eq_none digits hourDigits minuteDigits (marked.imp_right And.left)
              seconds] at spelled
            cases spelled
    | partly spelled =>
        have short := spelled.length
        cases full with
        | digits =>
            simp only [List.length_append, List.length_cons, digits.year.length,
              digits.month.length] at short
            omega
    | layout listed reads =>
        exact full.read_eq digits hourDigits minuteDigits listed
          ((Layout.readFrom?_eq_some_iff _ _ _ _).mpr reads)
  · intro same
    subst same
    exact full.dateText digits hourDigits minuteDigits

end Times

theorem SecondsText.ends {minute seconds : List Char} {second : Nat}
    (written : SecondsText seconds second) (minuteDigits : Timestamp.Fixed 2 minute) :
    ∃ front last, minute ++ seconds = front ++ last ∧ Digits last ∧ last ≠ [] := by
  cases written with
  | none => exact ⟨[], minute, by simp, minuteDigits.inside, minuteDigits.nonempty⟩
  | @seconds run _ digits parts =>
      cases parts with
      | none => exact ⟨minute ++ [':'], run, by simp, digits.inside, digits.nonempty⟩
      | @some fraction inside nonempty =>
          exact ⟨minute ++ ':' :: (run ++ ['.']), fraction, by simp, inside, nonempty⟩

theorem FullDateTime.stripped {year month day hour minute text : List Char} {second : Nat}
    (full : FullDateTime year month day hour minute text second)
    (digits : DateDigits year month day) (minuteDigits : Timestamp.Fixed 2 minute) :
    Stripped text text := by
  cases full with
  | @digits mark seconds _ _ written =>
      obtain ⟨front, last, split, inside, some⟩ := written.ends minuteDigits
      have whole :
          year ++ '-' :: (month ++ '-' :: (day ++ mark :: (hour ++ ':' :: (minute ++ seconds)))) =
            (year ++ '-' :: (month ++ '-' :: (day ++ mark :: (hour ++ ':' :: front)))) ++ last := by
        simp [split]
      exact stripped_of_digits rfl digits.year.inside digits.year.nonempty whole inside some

/-! ## The test for dates -/

/-- The test for dates accepts the texts that, blanks around them removed, some notation reads as
a moment that exists. In particular a full date in digits is accepted when its day exists and only
then, and with a time behind it when a clock can show that time on it. -/
theorem date_accepts_existing :
    (∀ text : String, (Constraint.known (.plain .date)).finding? (.text text) = none ↔
        ∃ core moment, Stripped core text.toList ∧ DateText core moment ∧ moment.Exists) ∧
      (∀ (text : String) (year month day : List Char), DateDigits year month day →
        FullDate year month day text.toList →
        ((Constraint.known (.plain .date)).finding? (.text text) = none ↔
          IsDay (decimalValue year) (decimalValue month) (decimalValue day))) ∧
      ∀ (text : String) (year month day hour minute : List Char) (second : Nat),
        DateDigits year month day → Timestamp.Fixed 2 hour → Timestamp.Fixed 2 minute →
        FullDateTime year month day hour minute text.toList second →
        ((Constraint.known (.plain .date)).finding? (.text text) = none ↔
          IsDay (decimalValue year) (decimalValue month) (decimalValue day) ∧
            decimalValue hour < 24 ∧ decimalValue minute < 60 ∧ second ≤ 60) := by
  have accepts (text : String) : (Constraint.known (.plain .date)).finding? (.text text) = none ↔
      ∃ core moment, Stripped core text.toList ∧ DateText core moment ∧ moment.Exists := by
    rw [Constraint.finding?_known_eq_none_iff, ← isDate_iff]
    rfl
  have bare {text : String} (stripped : Stripped text.toList text.toList) :
      (Constraint.known (.plain .date)).finding? (.text text) = none ↔
        ∃ moment, DateText text.toList moment ∧ moment.Exists := by
    simp only [accepts, stripped_iff, exists_and_left, exists_eq_left]
    rw [← (stripped_iff _ _).mp stripped]
  refine ⟨accepts, ?_, ?_⟩
  · intro text year month day digits full
    rw [bare (full.stripped digits)]
    simp only [full.reading_iff digits, exists_eq_left, midnight_exists_iff]
  · intro text year month day hour minute second digits hourDigits minuteDigits full
    rw [bare (full.stripped digits minuteDigits)]
    simp only [full.reading_iff digits hourDigits minuteDigits, exists_eq_left, atTime_exists_iff]

/-- The leap day of a leap year is a date, and that of another year is none. Half past ten is a
time of a day, and an hour of two nines is none. -/
theorem date_accepts_leapDay :
    (Constraint.known (.plain .date)).finding? (.text "02/29/2024") = none ∧
      (Constraint.known (.plain .date)).finding? (.text "2023-02-29") ≠ none ∧
      (Constraint.known (.plain .date)).finding? (.text "2024-01-15T10:30") = none ∧
      (Constraint.known (.plain .date)).finding? (.text "2024-01-15T99:99") ≠ none := by
  have accepts := date_accepts_existing.2.1
  refine ⟨?_, ?_, ?_, ?_⟩
  · rw [accepts _ "2024".toList "02".toList "29".toList (by decide) .yearLast]
    decide
  · rw [ne_eq, accepts _ "2023".toList "02".toList "29".toList (by decide) (.yearFirst (.inl rfl))]
    decide
  · rw [date_accepts_existing.2.2 _ "2024".toList "01".toList "15".toList "10".toList "30".toList 0
      (by decide) (by decide) (by decide) (.digits (.inl rfl) .none)]
    decide
  · rw [ne_eq, date_accepts_existing.2.2 _ "2024".toList "01".toList "15".toList "99".toList
      "99".toList 0 (by decide) (by decide) (by decide) (.digits (.inl rfl) .none)]
    decide

end FormCheck.Calendar
