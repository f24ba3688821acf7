import FormCheck.Calendar.Timestamp
import FormCheck.Proofs.Calendar.Layouts

/-!
The timestamps of RFC 3339. Every part has a fixed width, so a text is a timestamp in at
most one way.
-/

set_option autoImplicit false

namespace FormCheck.Calendar.Timestamp

open Text

/-- Exactly `count` digits. -/
structure Fixed (count : Nat) (digits : List Char) : Prop where
  inside : Digits digits
  length : digits.length = count

instance (count : Nat) (digits : List Char) : Decidable (Fixed count digits) :=
  decidable_of_iff (digits.all Char.isDigit = true ∧ digits.length = count)
    ⟨fun fixed => ⟨List.all_eq_true.mp fixed.1, fixed.2⟩,
      fun fixed => ⟨List.all_eq_true.mpr fixed.inside, fixed.length⟩⟩

theorem Fixed.nonempty {count : Nat} {digits : List Char} (fixed : Fixed (count + 1) digits) :
    digits ≠ [] :=
  List.ne_nil_of_length_eq_add_one fixed.length

theorem Fixed.number {count : Nat} {digits : List Char} (fixed : Fixed count digits)
    (some : 0 < count) (rest : List Char) : Number count digits rest := by
  obtain ⟨inside, rfl⟩ := fixed
  exact ⟨inside, List.length_pos_iff.mp some, Nat.le_refl _, .inl rfl⟩

theorem Fixed.takes_year {digits : List Char} (fixed : Fixed 4 digits) (moment : Moment)
    (rest : List Char) :
    Item.Takes moment .year (digits ++ rest) { moment with year := decimalValue digits } rest :=
  .year blanks_nil (fixed.number (by decide) rest)

theorem Fixed.takes_number {digits : List Char} (fixed : Fixed 2 digits) (moment : Moment)
    (part : Part) (rest : List Char) :
    Item.Takes moment (.number part) (digits ++ rest) (moment.record (decimalValue digits) part)
      rest :=
  .number blanks_nil (fixed.number (by decide) rest) ((Part.sets_iff part _ _ _).mpr rfl)

theorem Fixed.first {count : Nat} {digits : List Char} (fixed : Fixed (count + 1) digits) :
    ∃ c rest, digits = c :: rest ∧ c.isDigit = true := by
  cases digits with
  | nil => cases fixed.length
  | cons c rest => exact ⟨c, rest, rfl, fixed.inside c List.mem_cons_self⟩

theorem Fixed.halves {digits : List Char} (fixed : Fixed 4 digits) :
    ∃ front back, digits = front ++ back ∧ Fixed 2 front ∧ Fixed 2 back := by
  obtain ⟨inside, length⟩ := fixed
  refine ⟨digits.take 2, digits.drop 2, (List.take_append_drop 2 digits).symm, ⟨?_, ?_⟩, ?_, ?_⟩
  · exact fun c member => inside c (List.mem_of_mem_take member)
  · rw [List.length_take, length]
    rfl
  · exact fun c member => inside c (List.mem_of_mem_drop member)
  · rw [List.length_drop, length]

inductive Fraction : List Char → Prop where
  | none : Fraction []
  | some {digits : List Char} (inside : Digits digits) (nonempty : digits ≠ []) :
      Fraction ('.' :: digits)

/-- The offsets from universal time that a clock can show. -/
inductive Offset : List Char → Prop where
  | universal {letter : Char} (zulu : letter = 'Z' ∨ letter = 'z') : Offset [letter]
  | signed {sign : Char} {hour minute : List Char}
      (signed : sign = '+' ∨ sign = '-' ∨ sign = '\u2212')
      (hourDigits : Fixed 2 hour) (hours : decimalValue hour < 24)
      (minuteDigits : Fixed 2 minute) (minutes : decimalValue minute < 60) :
      Offset (sign :: (hour ++ ':' :: minute))

inductive Spells : List Char → Moment → Prop where
  | timestamp {year month day hour minute second fraction offset : List Char} {separator : Char}
      (yearDigits : Fixed 4 year) (monthDigits : Fixed 2 month) (dayDigits : Fixed 2 day)
      (separated : separator = 'T' ∨ separator = 't' ∨ separator = ' ') (hourDigits : Fixed 2 hour)
      (minuteDigits : Fixed 2 minute) (secondDigits : Fixed 2 second) (parts : Fraction fraction)
      (zone : Offset offset) :
      Spells (year ++ '-' :: (month ++ '-' :: (day ++ separator :: (hour ++ ':' ::
          (minute ++ ':' :: (second ++ (fraction ++ offset)))))))
        ⟨decimalValue year, decimalValue month, decimalValue day, decimalValue hour,
          decimalValue minute, decimalValue second⟩

theorem readFixed?_append {count : Nat} {digits : List Char} (fixed : Fixed count digits)
    (rest : List Char) : readFixed? count (digits ++ rest) = some (decimalValue digits, rest) := by
  obtain ⟨inside, rfl⟩ := fixed
  have all : digits.all Char.isDigit = true := List.all_eq_true.mpr inside
  simp only [readFixed?, List.take_left, List.drop_left, BEq.rfl, all, Bool.and_self, if_true]

theorem readFixed?_eq_some_iff (count : Nat) (text : List Char) (value : Nat) (rest : List Char) :
    readFixed? count text = some (value, rest) ↔
      ∃ digits, text = digits ++ rest ∧ Fixed count digits ∧ value = decimalValue digits := by
  constructor
  · intro read
    simp only [readFixed?, Bool.and_eq_true, beq_iff_eq, List.all_eq_true] at read
    split at read
    case isTrue shape =>
      cases read
      exact ⟨text.take count, (List.take_append_drop count text).symm, ⟨shape.2, shape.1⟩, rfl⟩
    case isFalse => cases read
  · intro written
    obtain ⟨digits, rfl, fixed, rfl⟩ := written
    exact readFixed?_append fixed rest

theorem dropChar?_cons (accepts : Char → Bool) {c : Char} (accepted : accepts c = true)
    (rest : List Char) : dropChar? accepts (c :: rest) = some rest :=
  if_pos accepted

theorem dropChar?_self (c : Char) (rest : List Char) : dropChar? (· == c) (c :: rest) = some rest :=
  dropChar?_cons _ BEq.rfl rest

theorem dropChar?_eq_some_iff (accepts : Char → Bool) (text rest : List Char) :
    dropChar? accepts text = some rest ↔ ∃ c, text = c :: rest ∧ accepts c = true := by
  cases text with
  | nil => simp [dropChar?]
  | cons c text =>
      simp only [dropChar?, Option.ite_none_right_eq_some, Option.some.injEq, List.cons.injEq]
      constructor
      · intro dropped
        exact ⟨c, ⟨rfl, dropped.2⟩, dropped.1⟩
      · intro written
        obtain ⟨_, ⟨rfl, same⟩, accepted⟩ := written
        exact ⟨accepted, same⟩

section Steps

variable {α : Type} {text : List Char} {result : α}

theorem digits_of_bind {count : Nat} {next : Nat × List Char → Option α}
    (read : (readFixed? count text).bind next = some result) :
    ∃ digits rest, text = digits ++ rest ∧ Fixed count digits ∧
      next (decimalValue digits, rest) = some result := by
  obtain ⟨⟨value, rest⟩, found, later⟩ := Option.bind_eq_some_iff.mp read
  obtain ⟨digits, rfl, fixed, rfl⟩ := (readFixed?_eq_some_iff count text value rest).mp found
  exact ⟨digits, rest, rfl, fixed, later⟩

theorem char_of_bind {accepts : Char → Bool} {next : List Char → Option α}
    (read : (dropChar? accepts text).bind next = some result) :
    ∃ c rest, text = c :: rest ∧ accepts c = true ∧ next rest = some result := by
  obtain ⟨rest, found, later⟩ := Option.bind_eq_some_iff.mp read
  obtain ⟨c, rfl, accepted⟩ := (dropChar?_eq_some_iff accepts text rest).mp found
  exact ⟨c, rest, rfl, accepted, later⟩

theorem mark_of_bind {mark : Char} {next : List Char → Option α}
    (read : (dropChar? (· == mark) text).bind next = some result) :
    ∃ rest, text = mark :: rest ∧ next rest = some result := by
  obtain ⟨c, rest, rfl, same, later⟩ := char_of_bind read
  exact ⟨rest, by rw [beq_iff_eq.mp same], later⟩

end Steps

theorem isSign_iff (c : Char) : isSign c = true ↔ c = '+' ∨ c = '-' ∨ c = '\u2212' := by
  simp only [isSign, Bool.or_eq_true, beq_iff_eq, or_assoc]

theorem readSignedOffset?_eq_some_iff (text : List Char) (hour minute : Nat) :
    readSignedOffset? text = some (hour, minute) ↔
      ∃ sign hourDigits minuteDigits, text = sign :: (hourDigits ++ ':' :: minuteDigits) ∧
        isSign sign = true ∧ Fixed 2 hourDigits ∧ Fixed 2 minuteDigits ∧
        hour = decimalValue hourDigits ∧ minute = decimalValue minuteDigits := by
  constructor
  · intro read
    obtain ⟨sign, _, rfl, signed, read⟩ := char_of_bind read
    obtain ⟨hourDigits, _, rfl, fixed, read⟩ := digits_of_bind read
    obtain ⟨_, rfl, read⟩ := mark_of_bind read
    obtain ⟨minuteDigits, rest, rfl, fixed', last⟩ := digits_of_bind read
    simp only at last
    split at last
    case isTrue nothing =>
      cases last
      obtain rfl := List.isEmpty_iff.mp nothing
      rw [List.append_nil]
      exact ⟨sign, hourDigits, minuteDigits, rfl, signed, fixed, fixed', rfl, rfl⟩
    case isFalse => cases last
  · intro written
    obtain ⟨sign, hourDigits, minuteDigits, rfl, signed, fixed, fixed', rfl, rfl⟩ := written
    have minuteRead := readFixed?_append fixed' []
    rw [List.append_nil] at minuteRead
    simp only [readSignedOffset?, dropChar?_cons isSign signed, bind, Option.bind_some,
      readFixed?_append fixed, dropChar?_self, minuteRead, if_true, List.isEmpty_nil]

theorem isOffset_iff (text : List Char) : isOffset text = true ↔ Offset text := by
  simp only [isOffset, Bool.or_eq_true, beq_iff_eq, Option.any_eq_true, Prod.exists,
    Bool.and_eq_true, decide_eq_true_eq, readSignedOffset?_eq_some_iff, isSign_iff]
  constructor
  · rintro ((rfl | rfl) | ⟨_, _, ⟨sign, hour, minute, rfl, signed, fixed, fixed', rfl, rfl⟩, clock⟩)
    · exact .universal (.inl rfl)
    · exact .universal (.inr rfl)
    · exact .signed signed fixed clock.1 fixed' clock.2
  · intro offset
    cases offset with
    | universal zulu =>
        rcases zulu with rfl | rfl
        · exact .inl (.inl rfl)
        · exact .inl (.inr rfl)
    | signed signed fixed hours fixed' minutes =>
        exact .inr ⟨_, _, ⟨_, _, _, rfl, signed, fixed, fixed', rfl, rfl⟩, hours, minutes⟩

theorem Offset.ends {text : List Char} (offset : Offset text) :
    Ends (· == '.') text ∧ Ends Char.isDigit text := by
  cases offset with
  | universal zulu =>
      rw [ends_cons_iff, ends_cons_iff]
      rcases zulu with rfl | rfl
      · exact ⟨rfl, rfl⟩
      · exact ⟨rfl, rfl⟩
  | signed signed =>
      rw [ends_cons_iff, ends_cons_iff]
      rcases signed with rfl | rfl | rfl
      · exact ⟨rfl, rfl⟩
      · exact ⟨rfl, rfl⟩
      · exact ⟨rfl, rfl⟩

theorem dropFraction?_append {fraction offset : List Char} (parts : Fraction fraction)
    (zone : Offset offset) : dropFraction? (fraction ++ offset) = some offset := by
  obtain ⟨pointless, whole⟩ := zone.ends
  rw [dropFraction?_eq_some_iff]
  cases parts with
  | none => exact .inl ⟨pointless, rfl⟩
  | some inside nonempty => exact .inr ⟨_, rfl, inside, nonempty, whole⟩

theorem fraction_of_dropFraction? {text rest : List Char}
    (dropped : dropFraction? text = some rest) :
    ∃ fraction, text = fraction ++ rest ∧ Fraction fraction := by
  rcases (dropFraction?_eq_some_iff text rest).mp dropped with ⟨_, rfl⟩ | ⟨digits, rfl, number⟩
  · exact ⟨[], rfl, .none⟩
  · exact ⟨'.' :: digits, rfl, .some number.inside number.nonempty⟩

theorem read?_eq_some_iff (text : List Char) (moment : Moment) :
    read? text = some moment ↔ Spells text moment := by
  constructor
  · intro read
    obtain ⟨year, _, rfl, yearFixed, read⟩ := digits_of_bind read
    obtain ⟨_, rfl, read⟩ := mark_of_bind read
    obtain ⟨month, _, rfl, monthFixed, read⟩ := digits_of_bind read
    obtain ⟨_, rfl, read⟩ := mark_of_bind read
    obtain ⟨day, _, rfl, dayFixed, read⟩ := digits_of_bind read
    obtain ⟨separator, _, rfl, separated, read⟩ := char_of_bind read
    obtain ⟨hour, _, rfl, hourFixed, read⟩ := digits_of_bind read
    obtain ⟨_, rfl, read⟩ := mark_of_bind read
    obtain ⟨minute, _, rfl, minuteFixed, read⟩ := digits_of_bind read
    obtain ⟨_, rfl, read⟩ := mark_of_bind read
    obtain ⟨second, _, rfl, secondFixed, read⟩ := digits_of_bind read
    obtain ⟨offset, dropped, last⟩ := Option.bind_eq_some_iff.mp read
    obtain ⟨fraction, rfl, parts⟩ := fraction_of_dropFraction? dropped
    split at last
    case isTrue zone =>
      cases last
      simp only [Bool.or_eq_true, beq_iff_eq, or_assoc] at separated
      exact .timestamp yearFixed monthFixed dayFixed separated hourFixed minuteFixed secondFixed
        parts ((isOffset_iff offset).mp zone)
    case isFalse => cases last
  · intro spelled
    cases spelled with
    | @timestamp _ _ _ _ _ _ _ _ separator yearDigits monthDigits dayDigits separated hourDigits
        minuteDigits secondDigits parts zone =>
        have separatorRead (rest : List Char) :
            dropChar? (fun c => c == 'T' || c == 't' || c == ' ') (separator :: rest) =
              some rest := by
          apply dropChar?_cons
          simpa only [Bool.or_eq_true, beq_iff_eq, or_assoc] using separated
        simp only [read?, bind, Option.bind_some, readFixed?_append yearDigits,
          readFixed?_append monthDigits, readFixed?_append dayDigits, separatorRead,
          readFixed?_append hourDigits, readFixed?_append minuteDigits,
          readFixed?_append secondDigits, dropChar?_self, dropFraction?_append parts zone,
          (isOffset_iff _).mpr zone, if_true]

theorem Offset.length_pos {text : List Char} (offset : Offset text) : 1 ≤ text.length := by
  cases offset with
  | universal => exact Nat.le_refl 1
  | signed => exact Nat.succ_le_succ (Nat.zero_le _)

theorem Spells.length {text : List Char} {moment : Moment} (spelled : Spells text moment) :
    20 ≤ text.length := by
  cases spelled with
  | timestamp yearDigits monthDigits dayDigits _ hourDigits minuteDigits secondDigits _ zone =>
      have some := zone.length_pos
      simp only [List.length_append, List.length_cons, yearDigits.length, monthDigits.length,
        dayDigits.length, hourDigits.length, minuteDigits.length, secondDigits.length]
      omega

theorem fits_iff (text : List Char) :
    fits text = true ↔ ∃ moment, Spells text moment ∧ moment.Exists := by
  simp only [fits, Option.any_eq_true, read?_eq_some_iff, Moment.isReal_iff]

end FormCheck.Calendar.Timestamp
