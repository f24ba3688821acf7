import FormCheck.Calendar.Layout
import FormCheck.Proofs.Calendar.Days
import FormCheck.Proofs.Text.Runs

/-!
What the items of a layout take. An item takes as much as it can and never gives anything
back, so what is left behind it matters: a number ends at its width or before a character
that is no digit.
-/

set_option autoImplicit false

namespace FormCheck.Calendar

open Text

def Blanks (text : List Char) : Prop :=
  ∀ c ∈ text, WhiteSpace c

theorem blanks_nil : Blanks [] :=
  fun _ member => absurd member List.not_mem_nil

theorem Blanks.isBlank {text : List Char} (blank : Blanks text) : ∀ c ∈ text, isBlank c = true :=
  fun c member => (isBlank_iff c).mpr (blank c member)

/-- The digits of a number in front of a text: at most `width`, and fewer only where the text
does not go on with a digit. -/
structure Number (width : Nat) (digits rest : List Char) : Prop where
  inside : Digits digits
  nonempty : digits ≠ []
  within : digits.length ≤ width
  whole : digits.length = width ∨ Ends Char.isDigit rest

/-- A run of digits that the text behind it does not continue. -/
structure LongNumber (digits rest : List Char) : Prop where
  inside : Digits digits
  nonempty : digits ≠ []
  whole : Ends Char.isDigit rest

/-- Whether letters of either case spell a word of lower case. -/
def SpellsWord (word letters : List Char) : Prop :=
  letters.map Char.toLower = word

/-- Whether a text starts with a word in letters of either case. -/
def StartsWithWord (word text : List Char) : Prop :=
  ∃ letters rest, text = letters ++ rest ∧ SpellsWord word letters

/-- What a number that is read as a part of a moment changes. -/
inductive Part.Sets (moment : Moment) (value : Nat) : Part → Moment → Prop where
  | month : Sets moment value .month { moment with month := value }
  | day : Sets moment value .day { moment with day := value }
  | hour : Sets moment value .hour { moment with hour := value }
  | minute : Sets moment value .minute { moment with minute := value }
  | second : Sets moment value .second { moment with second := value }

/-- The months by name: the letters of the abbreviation, those behind them, and the number. -/
inductive MonthName : String → String → Nat → Prop where
  | january : MonthName "jan" "uary" 1
  | february : MonthName "feb" "ruary" 2
  | march : MonthName "mar" "ch" 3
  | april : MonthName "apr" "il" 4
  | may : MonthName "may" "" 5
  | june : MonthName "jun" "e" 6
  | july : MonthName "jul" "y" 7
  | august : MonthName "aug" "ust" 8
  | september : MonthName "sep" "tember" 9
  | october : MonthName "oct" "ober" 10
  | november : MonthName "nov" "ember" 11
  | december : MonthName "dec" "ember" 12

inductive Item.Takes (moment : Moment) : Item → List Char → Moment → List Char → Prop where
  | year {blanks digits rest : List Char} (blank : Blanks blanks)
      (number : Number 4 digits rest) :
      Takes moment .year (blanks ++ (digits ++ rest))
        { moment with year := decimalValue digits } rest
  | yearBehindPlus {blanks digits rest : List Char} (blank : Blanks blanks)
      (number : LongNumber digits rest) :
      Takes moment .year (blanks ++ '+' :: (digits ++ rest))
        { moment with year := decimalValue digits } rest
  | yearBehindMinus {blanks digits rest : List Char} (blank : Blanks blanks)
      (number : LongNumber digits rest) :
      Takes moment .year (blanks ++ '-' :: (digits ++ rest))
        { moment with year := -decimalValue digits } rest
  | number {part : Part} {next : Moment} {blanks digits rest : List Char} (blank : Blanks blanks)
      (number : Number 2 digits rest) (set : part.Sets moment (decimalValue digits) next) :
      Takes moment (.number part) (blanks ++ (digits ++ rest)) next rest
  | noFraction {rest : List Char} (pointless : Ends (· == '.') rest) :
      Takes moment .fraction rest moment rest
  | fraction {digits rest : List Char} (number : LongNumber digits rest) :
      Takes moment .fraction ('.' :: (digits ++ rest)) moment rest
  | monthAbbreviation {short ending : String} {value : Nat} {letters rest : List Char}
      (named : MonthName short ending value) (spelled : SpellsWord short.toList letters) :
      Takes moment .monthAbbreviation (letters ++ rest) { moment with month := value } rest
  | monthName {short ending : String} {value : Nat} {letters completion rest : List Char}
      (named : MonthName short ending value) (spelled : SpellsWord short.toList letters)
      (completed : SpellsWord ending.toList completion) :
      Takes moment .monthName (letters ++ (completion ++ rest)) { moment with month := value } rest
  | shortMonthName {short ending : String} {value : Nat} {letters rest : List Char}
      (named : MonthName short ending value) (spelled : SpellsWord short.toList letters)
      (incomplete : ¬ StartsWithWord ending.toList rest) :
      Takes moment .monthName (letters ++ rest) { moment with month := value } rest
  | gap {blanks rest : List Char} (blank : Blanks blanks)
      (whole : Ends isBlank rest) : Takes moment .gap (blanks ++ rest) moment rest
  | literal (char : Char) (rest : List Char) :
      Takes moment (.literal char) (char :: rest) moment rest

/-- The texts that the items of a layout use up, with the moment that they record. -/
inductive Layout.Reads : Moment → Layout → List Char → Moment → Prop where
  | done (moment : Moment) : Reads moment [] [] moment
  | item {moment next last : Moment} {item : Item} {items : Layout} {text rest : List Char}
      (takes : item.Takes moment text next rest) (later : Reads next items rest last) :
      Reads moment (item :: items) text last

/-! ## Numbers -/

theorem Ends.take {allowed : Char → Bool} {text : List Char} (ends : Ends allowed text)
    (count : Nat) : Ends allowed (text.take count) := by
  cases count with
  | zero => exact ends_nil allowed
  | succ count =>
      cases text with
      | nil => exact ends
      | cons c text =>
          exact (ends_cons_iff allowed c _).mpr ((ends_cons_iff allowed c text).mp ends)

theorem ends_of_run_append {run rest : List Char} (inside : Digits run) {allowed : Char → Bool}
    (nonempty : run ≠ []) (other : ∀ c : Char, c.isDigit = true → allowed c = false) :
    Ends allowed (run ++ rest) := by
  obtain ⟨c, digits, rfl⟩ := List.exists_cons_of_ne_nil nonempty
  rw [List.cons_append, ends_cons_iff]
  exact other c (inside c List.mem_cons_self)

theorem Number.takeWhile_eq {width : Nat} {digits rest : List Char}
    (number : Number width digits rest) :
    ((digits ++ rest).take width).takeWhile Char.isDigit = digits := by
  rw [List.take_append, List.take_of_length_le number.within]
  apply takeWhile_run number.inside
  rcases number.whole with full | ends
  · rw [full, Nat.sub_self]
    exact ends_nil _
  · exact Ends.take ends _

/-- Every text that starts with a digit starts with a number of a given width. -/
theorem number_of_front (width : Nat) (text : List Char) {digits : List Char}
    (front : (text.take width).takeWhile Char.isDigit = digits) (nonempty : digits ≠ []) :
    ∃ rest, text = digits ++ rest ∧ Number width digits rest := by
  have split : digits ++ ((text.take width).dropWhile Char.isDigit ++ text.drop width) = text := by
    rw [← front, ← List.append_assoc, List.takeWhile_append_dropWhile, List.take_append_drop]
  have within : digits.length ≤ (text.take width).length := by
    rw [← front]
    exact (List.takeWhile_prefix Char.isDigit).length_le
  refine ⟨_, split.symm, ?_, nonempty, ?_, ?_⟩
  · exact front ▸ digits_takeWhile _
  · exact within.trans (List.length_take_le width text)
  · cases left : (text.take width).dropWhile Char.isDigit with
    | cons c rest =>
        have ends := ends_dropWhile Char.isDigit (text.take width)
        rw [left] at ends
        exact .inr ((ends_cons_iff _ c _).mpr ((ends_cons_iff _ c rest).mp ends))
    | nil =>
        have all : text.take width = digits := by
          rw [← front, ← List.takeWhile_append_dropWhile (p := Char.isDigit) (l := text.take width),
            left, List.append_nil, List.takeWhile_takeWhile]
          simp
        rcases Nat.le_total width text.length with long | short
        · exact .inl (by rw [← all, List.length_take, Nat.min_eq_left long])
        · rw [List.drop_of_length_le short]
          exact .inr (ends_nil _)

theorem blanks_append_trimStart (text : List Char) :
    ∃ blanks, text = blanks ++ trimStart text ∧ Blanks blanks :=
  ⟨text.takeWhile isBlank, List.takeWhile_append_dropWhile.symm,
    fun c member => (isBlank_iff c).mp (List.mem_takeWhile_imp member)⟩

theorem trimStart_digits {blanks digits rest : List Char} (blank : Blanks blanks)
    (inside : Digits digits) (nonempty : digits ≠ []) :
    trimStart (blanks ++ (digits ++ rest)) = digits ++ rest :=
  dropWhile_run blank.isBlank
    (ends_of_run_append inside nonempty fun _ => isBlank_eq_false_of_isDigit)

theorem readNumber?_eq_some_iff (width : Nat) (text : List Char) (value : Nat) (rest : List Char) :
    readNumber? width text = some (value, rest) ↔
      ∃ blanks digits, text = blanks ++ (digits ++ rest) ∧ Blanks blanks ∧
        Number width digits rest ∧ value = decimalValue digits := by
  constructor
  · intro read
    simp only [readNumber?] at read
    generalize front : ((trimStart text).take width).takeWhile Char.isDigit = digits at read
    split at read
    case isTrue => cases read
    case isFalse nonempty =>
      rw [List.isEmpty_iff] at nonempty
      obtain ⟨behind, split, number⟩ := number_of_front width (trimStart text) front nonempty
      rw [split, List.drop_left] at read
      cases read
      obtain ⟨blanks, whole, blank⟩ := blanks_append_trimStart text
      exact ⟨blanks, digits, split ▸ whole, blank, number, rfl⟩
  · intro written
    obtain ⟨blanks, digits, rfl, blank, number, rfl⟩ := written
    have start : trimStart (blanks ++ (digits ++ rest)) = digits ++ rest :=
      trimStart_digits blank number.inside number.nonempty
    simp only [readNumber?, start, number.takeWhile_eq, List.isEmpty_iff, number.nonempty, if_false,
      List.drop_left]

theorem readSignedYear?_eq_some_iff (sign : Int) (text : List Char) (value : Int)
    (rest : List Char) :
    readSignedYear? sign text = some (value, rest) ↔
      ∃ digits, text = digits ++ rest ∧ LongNumber digits rest ∧
        value = sign * decimalValue digits := by
  constructor
  · intro read
    simp only [readSignedYear?] at read
    split at read
    case isTrue => cases read
    case isFalse some =>
      rw [List.isEmpty_iff] at some
      cases read
      exact ⟨_, List.takeWhile_append_dropWhile.symm,
        ⟨digits_takeWhile text, some, ends_dropWhile Char.isDigit text⟩, rfl⟩
  · intro written
    obtain ⟨digits, rfl, number, rfl⟩ := written
    simp only [readSignedYear?, takeWhile_run number.inside number.whole,
      dropWhile_run number.inside number.whole, List.isEmpty_iff, number.nonempty, if_false]

/-- A fraction may be missing, but a point is followed by digits. -/
theorem dropFraction?_eq_some_iff (text rest : List Char) :
    dropFraction? text = some rest ↔
      (Ends (· == '.') text ∧ text = rest) ∨
        ∃ digits, text = '.' :: (digits ++ rest) ∧ LongNumber digits rest := by
  constructor
  · intro dropped
    unfold dropFraction? at dropped
    split at dropped
    case h_1 digits =>
      split at dropped
      case isTrue => cases dropped
      case isFalse nonempty =>
        rw [List.isEmpty_iff] at nonempty
        cases dropped
        refine .inr ⟨digits.takeWhile Char.isDigit, ?_, digits_takeWhile _, nonempty,
          ends_dropWhile Char.isDigit digits⟩
        rw [List.takeWhile_append_dropWhile]
    case h_2 pointless =>
      cases dropped
      refine .inl ⟨?_, rfl⟩
      intro c first
      obtain ⟨tail, rfl⟩ := List.head?_eq_some_iff.mp first
      simpa using fun same : c = '.' => pointless tail (same ▸ rfl)
  · intro written
    rcases written with ⟨pointless, rfl⟩ | ⟨digits, rfl, number⟩
    · cases text with
      | nil => rfl
      | cons c text =>
          rw [dropFraction?]
          intro digits same
          cases same
          exact absurd ((ends_cons_iff _ _ _).mp pointless) (by decide)
    · simp only [dropFraction?, takeWhile_run number.inside number.whole,
        dropWhile_run number.inside number.whole, List.isEmpty_iff, number.nonempty, if_false]

/-! ## Words -/

theorem dropWord?_eq_some_iff (word text rest : List Char) :
    dropWord? word text = some rest ↔
      ∃ letters, text = letters ++ rest ∧ SpellsWord word letters := by
  constructor
  · intro dropped
    simp only [dropWord?, beq_iff_eq] at dropped
    split at dropped
    case isTrue spelled =>
      cases dropped
      exact ⟨_, (List.take_append_drop _ _).symm, spelled⟩
    case isFalse => cases dropped
  · intro written
    obtain ⟨letters, rfl, spelled⟩ := written
    have same : word.length = letters.length := by
      rw [← spelled, List.length_map]
    simp only [dropWord?, same, List.take_left, List.drop_left, beq_iff_eq]
    exact if_pos spelled

theorem dropWord?_eq_none_iff (word text : List Char) :
    dropWord? word text = none ↔ ¬ StartsWithWord word text := by
  have starts : StartsWithWord word text ↔ ∃ rest, dropWord? word text = some rest := by
    simp only [dropWord?_eq_some_iff]
    exact exists_comm
  rw [starts]
  cases dropWord? word text with
  | none => simp
  | some rest => simp

theorem monthName_iff (short ending : String) (value : Nat) :
    MonthName short ending value ↔ ((short, ending), value) ∈ monthNames.zipIdx 1 := by
  simp only [monthNames, List.zipIdx_cons, List.zipIdx_nil, List.mem_cons, List.not_mem_nil,
    or_false, Prod.mk.injEq]
  constructor
  · intro named
    cases named
    all_goals decide
  · intro listed
    rcases listed with ⟨⟨rfl, rfl⟩, rfl⟩ | ⟨⟨rfl, rfl⟩, rfl⟩ | ⟨⟨rfl, rfl⟩, rfl⟩ |
      ⟨⟨rfl, rfl⟩, rfl⟩ | ⟨⟨rfl, rfl⟩, rfl⟩ | ⟨⟨rfl, rfl⟩, rfl⟩ | ⟨⟨rfl, rfl⟩, rfl⟩ |
      ⟨⟨rfl, rfl⟩, rfl⟩ | ⟨⟨rfl, rfl⟩, rfl⟩ | ⟨⟨rfl, rfl⟩, rfl⟩ | ⟨⟨rfl, rfl⟩, rfl⟩ |
      ⟨⟨rfl, rfl⟩, rfl⟩
    all_goals constructor

/-- No two months have one abbreviation. -/
theorem monthNames_distinct :
    ∀ entry ∈ monthNames.zipIdx 1, ∀ other ∈ monthNames.zipIdx 1,
      entry.1.1.toList = other.1.1.toList → entry = other := by
  decide

theorem length_abbreviation :
    ∀ entry ∈ monthNames.zipIdx 1, entry.1.1.toList.length = 3 := by
  decide

/-- A text starts with the abbreviation of at most one month. -/
theorem abbreviation_unique {entry other : (String × String) × Nat}
    (listed : entry ∈ monthNames.zipIdx 1) (listed' : other ∈ monthNames.zipIdx 1)
    {letters rest letters' rest' : List Char} (spelled : SpellsWord entry.1.1.toList letters)
    (spelled' : SpellsWord other.1.1.toList letters')
    (same : letters ++ rest = letters' ++ rest') : entry = other ∧ rest = rest' := by
  have three {entry : (String × String) × Nat} (listed : entry ∈ monthNames.zipIdx 1)
      {letters : List Char} (spelled : SpellsWord entry.1.1.toList letters) :
      letters.length = 3 := by
    rw [← length_abbreviation entry listed, ← spelled, List.length_map]
  have length : letters.length = letters'.length :=
    (three listed spelled).trans (three listed' spelled').symm
  obtain ⟨rfl, rfl⟩ := List.append_inj same length
  exact ⟨monthNames_distinct _ listed _ listed' (spelled.symm.trans spelled'), rfl⟩

theorem readAbbreviation?_eq_some_iff (text : List Char) (value : Nat) (ending rest : List Char) :
    readAbbreviation? text = some (value, ending, rest) ↔
      ∃ short ending' letters, MonthName short ending' value ∧
        ending = String.toList ending' ∧ text = letters ++ rest ∧
          SpellsWord short.toList letters := by
  simp only [monthName_iff]
  constructor
  · intro read
    obtain ⟨⟨⟨short, ending'⟩, number⟩, listed, dropped⟩ := List.exists_of_findSome?_eq_some read
    obtain ⟨behind, found, same⟩ := Option.map_eq_some_iff.mp dropped
    cases same
    obtain ⟨letters, split, spelled⟩ := (dropWord?_eq_some_iff _ _ _).mp found
    exact ⟨short, ending', letters, listed, rfl, split, spelled⟩
  · intro written
    obtain ⟨short, ending', letters, listed, rfl, split, spelled⟩ := written
    have found := (dropWord?_eq_some_iff _ _ _).mpr ⟨letters, split, spelled⟩
    cases read : readAbbreviation? text with
    | none =>
        have none := List.findSome?_eq_none_iff.mp read _ listed
        simp only [found] at none
        cases none
    | some result =>
        obtain ⟨⟨⟨short', other⟩, number⟩, listed', dropped⟩ :=
          List.exists_of_findSome?_eq_some read
        obtain ⟨behind, found', rfl⟩ := Option.map_eq_some_iff.mp dropped
        obtain ⟨letters', split', spelled'⟩ := (dropWord?_eq_some_iff _ _ _).mp found'
        obtain ⟨same, rfl⟩ :=
          abbreviation_unique listed' listed spelled' spelled (split'.symm.trans split)
        cases same
        rfl

theorem noLetter_of_isDigit {c : Char} (digit : c.isDigit = true) : c.toLower.isLower = false := by
  have bounds := (isDigit_iff c).mp digit
  have code : c.toNat = c.val.toNat := rfl
  have same : c.toLower = c := by
    refine dif_neg fun upper => ?_
    have above := UInt32.le_iff_toNat_le.mp upper.1
    have letter : 'A'.val.toNat = 65 := rfl
    omega
  rw [same]
  refine Bool.and_eq_false_iff.mpr (.inl (decide_eq_false fun lower => ?_))
  have above := UInt32.le_iff_toNat_le.mp lower
  have letter : 'a'.val.toNat = 97 := rfl
  omega

theorem letter_of_abbreviation :
    ∀ entry ∈ monthNames.zipIdx 1, ∀ c ∈ entry.1.1.toList, c.isLower = true := by
  have all : ((monthNames.zipIdx 1).all fun entry => entry.1.1.toList.all Char.isLower) = true := by
    decide
  simpa only [List.all_eq_true] using all

/-- No month is named by a text that starts with a digit or a separator. -/
theorem readAbbreviation?_eq_none {c : Char} (noLetter : c.toLower.isLower = false)
    (rest : List Char) : readAbbreviation? (c :: rest) = none := by
  cases read : readAbbreviation? (c :: rest) with
  | none => rfl
  | some found =>
      obtain ⟨short, _, letters, listed, _, split, spelled⟩ :=
        (readAbbreviation?_eq_some_iff (c :: rest) found.1 found.2.1 found.2.2).mp read
      rw [monthName_iff] at listed
      have three := length_abbreviation _ listed
      rw [← show letters.map Char.toLower = short.toList from spelled, List.length_map] at three
      obtain ⟨first, tail, rfl⟩ := List.exists_cons_of_length_pos (l := letters) (by omega)
      cases split
      have letter := letter_of_abbreviation _ listed c.toLower (spelled ▸ List.mem_cons_self)
      rw [noLetter] at letter
      cases letter

/-! ## Items -/

theorem Part.sets_iff (part : Part) (moment next : Moment) (value : Nat) :
    part.Sets moment value next ↔ next = moment.record value part := by
  constructor
  · intro set
    cases set
    all_goals rfl
  · intro same
    subst same
    cases part
    all_goals constructor

namespace Item

variable {moment next : Moment} {text rest : List Char}

theorem takes_of_readYear? {value : Int} (read : readYear? text = some (value, rest)) :
    Takes moment .year text { moment with year := value } rest := by
  obtain ⟨blanks, split, blank⟩ := blanks_append_trimStart text
  unfold readYear? at read
  split at read
  case h_1 after start =>
    obtain ⟨digits, rfl, number, rfl⟩ := (readSignedYear?_eq_some_iff 1 after value rest).mp read
    rw [split, start, one_mul]
    exact .yearBehindPlus blank number
  case h_2 after start =>
    obtain ⟨digits, rfl, number, rfl⟩ := (readSignedYear?_eq_some_iff _ after value rest).mp read
    rw [split, start, neg_one_mul]
    exact .yearBehindMinus blank number
  case h_3 =>
    obtain ⟨⟨number, behind⟩, found, same⟩ := Option.map_eq_some_iff.mp read
    cases same
    obtain ⟨blanks', digits, split', blank', number, rfl⟩ :=
      (readNumber?_eq_some_iff 4 _ _ _).mp found
    rw [split, split', ← List.append_assoc]
    apply Takes.year _ number
    intro c member
    exact (List.mem_append.mp member).elim (blank c) (blank' c)

theorem readYear?_digits {blanks digits : List Char} (blank : Blanks blanks)
    (number : Number 4 digits rest) :
    readYear? (blanks ++ (digits ++ rest)) = some ((decimalValue digits : Int), rest) := by
  have found : readNumber? 4 (digits ++ rest) = some (decimalValue digits, rest) :=
    (readNumber?_eq_some_iff 4 _ _ _).mpr
      ⟨[], digits, rfl, blanks_nil, number, rfl⟩
  have unsigned : Ends isSign (digits ++ rest) :=
    ends_of_run_append number.inside number.nonempty fun _ => isSign_eq_false_of_isDigit
  rw [readYear?, trimStart_digits blank number.inside number.nonempty]
  split
  case h_1 start => exact absurd ((ends_cons_iff _ _ _).mp (start ▸ unsigned)) (by decide)
  case h_2 start => exact absurd ((ends_cons_iff _ _ _).mp (start ▸ unsigned)) (by decide)
  case h_3 => rw [found, Option.map_some]

theorem readYear?_signed {blanks digits : List Char} (blank : Blanks blanks)
    (number : LongNumber digits rest) :
    readYear? (blanks ++ '+' :: (digits ++ rest)) = some ((decimalValue digits : Int), rest) ∧
      readYear? (blanks ++ '-' :: (digits ++ rest)) = some (-(decimalValue digits : Int), rest) := by
  have found (sign : Int) : readSignedYear? sign (digits ++ rest) =
      some (sign * decimalValue digits, rest) :=
    (readSignedYear?_eq_some_iff sign _ _ rest).mpr ⟨digits, rfl, number, rfl⟩
  constructor
  · have start : trimStart (blanks ++ '+' :: (digits ++ rest)) = '+' :: (digits ++ rest) :=
      dropWhile_run blank.isBlank ((ends_cons_iff _ _ _).mpr rfl)
    simp only [readYear?, start, found, one_mul]
  · have start : trimStart (blanks ++ '-' :: (digits ++ rest)) = '-' :: (digits ++ rest) :=
      dropWhile_run blank.isBlank ((ends_cons_iff _ _ _).mpr rfl)
    simp only [readYear?, start, found, neg_one_mul]

theorem takes_of_read? {item : Item} (read : item.read? moment text = some (next, rest)) :
    item.Takes moment text next rest := by
  cases item with
  | year =>
      obtain ⟨⟨value, behind⟩, found, same⟩ := Option.map_eq_some_iff.mp read
      cases same
      exact takes_of_readYear? found
  | number part =>
      obtain ⟨⟨value, behind⟩, found, same⟩ := Option.map_eq_some_iff.mp read
      cases same
      obtain ⟨blanks, digits, rfl, blank, number, rfl⟩ := (readNumber?_eq_some_iff 2 _ _ _).mp found
      exact .number blank number ((Part.sets_iff part _ _ _).mpr rfl)
  | fraction =>
      obtain ⟨behind, dropped, same⟩ := Option.map_eq_some_iff.mp read
      cases same
      rcases (dropFraction?_eq_some_iff _ _).mp dropped with
        ⟨pointless, rfl⟩ | ⟨digits, rfl, number⟩
      · exact .noFraction pointless
      · exact .fraction number
  | monthAbbreviation =>
      obtain ⟨⟨value, ending, behind⟩, found, same⟩ := Option.map_eq_some_iff.mp read
      cases same
      obtain ⟨short, ending', letters, named, rfl, rfl, spelled⟩ :=
        (readAbbreviation?_eq_some_iff _ _ _ _).mp found
      exact .monthAbbreviation named spelled
  | monthName =>
      obtain ⟨⟨value, ending, behind⟩, found, same⟩ := Option.map_eq_some_iff.mp read
      obtain ⟨short, ending', letters, named, rfl, rfl, spelled⟩ :=
        (readAbbreviation?_eq_some_iff _ _ _ _).mp found
      cases completed : dropWord? ending'.toList behind with
      | none =>
          simp only [completed] at same
          cases same
          exact .shortMonthName named spelled ((dropWord?_eq_none_iff _ _).mp completed)
      | some left =>
          simp only [completed] at same
          cases same
          obtain ⟨completion, rfl, spelled'⟩ := (dropWord?_eq_some_iff _ _ _).mp completed
          exact .monthName named spelled spelled'
  | gap =>
      cases read
      obtain ⟨blanks, split, blank⟩ := blanks_append_trimStart text
      have takes : Takes moment .gap (blanks ++ trimStart text) moment (trimStart text) :=
        .gap blank (ends_dropWhile isBlank text)
      rwa [← split] at takes
  | literal char =>
      cases text with
      | nil => cases read
      | cons c text =>
          simp only [read?] at read
          split at read
          case isTrue same =>
            cases read
            exact same ▸ .literal c rest
          case isFalse => cases read

theorem read?_of_takes {item : Item} (takes : item.Takes moment text next rest) :
    item.read? moment text = some (next, rest) := by
  have abbreviation {short ending : String} {value : Nat} {letters behind : List Char}
      (named : MonthName short ending value) (spelled : SpellsWord short.toList letters) :
      readAbbreviation? (letters ++ behind) = some (value, ending.toList, behind) :=
    (readAbbreviation?_eq_some_iff _ _ _ _).mpr ⟨short, ending, letters, named, rfl, rfl, spelled⟩
  cases takes with
  | year blank number => simp only [read?, readYear?_digits blank number, Option.map_some]
  | yearBehindPlus blank number =>
      simp only [read?, (readYear?_signed blank number).1, Option.map_some]
  | yearBehindMinus blank number =>
      simp only [read?, (readYear?_signed blank number).2, Option.map_some]
  | @number part _ blanks digits _ blank number set =>
      obtain rfl := (Part.sets_iff part _ _ _).mp set
      have found := (readNumber?_eq_some_iff 2 (blanks ++ (digits ++ rest)) _ rest).mpr
        ⟨blanks, digits, rfl, blank, number, rfl⟩
      simp only [read?, found, Option.map_some]
  | noFraction pointless =>
      rw [read?, (dropFraction?_eq_some_iff _ _).mpr (.inl ⟨pointless, rfl⟩), Option.map_some]
  | fraction number =>
      rw [read?, (dropFraction?_eq_some_iff _ rest).mpr (.inr ⟨_, rfl, number⟩), Option.map_some]
  | monthAbbreviation named spelled =>
      simp only [read?, abbreviation named spelled, Option.map_some, Moment.record]
  | monthName named spelled completed =>
      have dropped := (dropWord?_eq_some_iff _ _ rest).mpr ⟨_, rfl, completed⟩
      simp only [read?, abbreviation named spelled, Option.map_some, dropped, Option.getD_some,
        Moment.record]
  | shortMonthName named spelled incomplete =>
      have dropped := (dropWord?_eq_none_iff _ _).mpr incomplete
      simp only [read?, abbreviation named spelled, Option.map_some, dropped, Option.getD_none,
        Moment.record]
  | gap blank whole => simp only [read?, trimStart, dropWhile_run blank.isBlank whole]
  | literal => simp only [read?, if_true]

theorem takes_literal_iff (char : Char) :
    (literal char).Takes moment text next rest ↔ text = char :: rest ∧ next = moment := by
  constructor
  · intro takes
    cases takes
    exact ⟨rfl, rfl⟩
  · intro written
    obtain ⟨rfl, rfl⟩ := written
    exact .literal char rest

theorem takes_number_iff (part : Part) :
    (number part).Takes moment text next rest ↔
      ∃ blanks digits, text = blanks ++ (digits ++ rest) ∧ Blanks blanks ∧ Number 2 digits rest ∧
        next = moment.record (decimalValue digits) part := by
  constructor
  · intro takes
    cases takes with
    | @number _ _ blanks digits _ blank number set =>
        exact ⟨blanks, digits, rfl, blank, number, (Part.sets_iff part _ _ _).mp set⟩
  · intro written
    obtain ⟨blanks, digits, rfl, blank, number, rfl⟩ := written
    exact .number blank number ((Part.sets_iff part _ _ _).mpr rfl)

end Item

namespace Layout

theorem reads_nil_iff (moment last : Moment) (text : List Char) :
    Reads moment [] text last ↔ text = [] ∧ last = moment := by
  constructor
  · intro reads
    cases reads
    exact ⟨rfl, rfl⟩
  · intro written
    obtain ⟨rfl, rfl⟩ := written
    exact .done last

theorem reads_cons_iff (moment last : Moment) (item : Item) (items : Layout) (text : List Char) :
    Reads moment (item :: items) text last ↔
      ∃ next rest, item.Takes moment text next rest ∧ Reads next items rest last := by
  constructor
  · intro reads
    cases reads with
    | item takes later => exact ⟨_, _, takes, later⟩
  · intro written
    obtain ⟨next, rest, takes, later⟩ := written
    exact .item takes later

/-- A layout reads the texts that its items use up. -/
theorem readFrom?_eq_some_iff (layout : Layout) (moment : Moment) (text : List Char)
    (last : Moment) : readFrom? moment layout text = some last ↔ Reads moment layout text last := by
  induction layout generalizing moment text with
  | nil =>
      rw [reads_nil_iff]
      cases text with
      | nil => simp [readFrom?, eq_comm]
      | cons => simp [readFrom?]
  | cons item items ih =>
      simp only [reads_cons_iff, readFrom?, Option.bind_eq_some_iff, Prod.exists, ih]
      constructor
      · intro written
        obtain ⟨next, rest, read, later⟩ := written
        exact ⟨next, rest, Item.takes_of_read? read, later⟩
      · intro written
        obtain ⟨next, rest, takes, later⟩ := written
        exact ⟨next, rest, Item.read?_of_takes takes, later⟩

theorem readFrom?_item {moment next : Moment} {item : Item} {items : Layout} {text rest : List Char}
    (takes : item.Takes moment text next rest) :
    readFrom? moment (item :: items) text = readFrom? next items rest := by
  simp only [readFrom?, Item.read?_of_takes takes, Option.bind_some]

theorem readFrom?_literal (moment : Moment) (items : Layout) (char c : Char) (rest : List Char) :
    readFrom? moment (.literal char :: items) (c :: rest) =
      if c = char then readFrom? moment items rest else none := by
  simp only [readFrom?, Item.read?]
  split
  · rfl
  · rfl

theorem readFrom?_name (moment : Moment) (items : Layout) {c : Char}
    (noLetter : c.toLower.isLower = false) (rest : List Char) :
    readFrom? moment (.monthName :: items) (c :: rest) = none ∧
      readFrom? moment (.monthAbbreviation :: items) (c :: rest) = none := by
  have none := readAbbreviation?_eq_none noLetter rest
  constructor
  · simp only [readFrom?, Item.read?, none, Option.map_none, Option.bind_none]
  · simp only [readFrom?, Item.read?, none, Option.map_none, Option.bind_none]

theorem readFrom?_gap (moment : Moment) (items : Layout) {c : Char} (visible : isBlank c = false)
    (rest : List Char) :
    readFrom? moment (.gap :: items) (c :: rest) = readFrom? moment items (c :: rest) :=
  readFrom?_item (.gap blanks_nil ((ends_cons_iff _ _ _).mpr visible))

theorem fits_iff (layout : Layout) (text : List Char) :
    layout.fits text = true ↔ ∃ moment, Reads {} layout text moment ∧ moment.Exists := by
  simp only [fits, Option.any_eq_true, readFrom?_eq_some_iff, Moment.isReal_iff]

end Layout

end FormCheck.Calendar
