import FormCheck.Numeral
import FormCheck.Proofs.Text.Runs
import Mathlib.Data.Rat.Cast.Order
import Mathlib.Tactic.FieldSimp

/-!
The notation of decimal numerals and the rational numbers that they denote. Reading takes
exactly the texts of this notation, and what it reads has their value.
-/

set_option autoImplicit false

namespace FormCheck.Numeral

open Text

/-- Digits with an optional point, told by the digits before and behind the point. -/
inductive Mantissa : List Char → List Char → List Char → Prop where
  | whole {digits : List Char} (some : digits ≠ []) : Mantissa digits digits []
  | pointBehind {whole : List Char} (fraction : List Char) (some : whole ≠ []) :
      Mantissa (whole ++ '.' :: fraction) whole fraction
  | pointBefore {fraction : List Char} (some : fraction ≠ []) :
      Mantissa ('.' :: fraction) [] fraction

/-- An optional exponent, and the power of ten for which it stands. -/
inductive Exponent : List Char → Int → Prop where
  | none : Exponent [] 0
  | some {mark : Char} {sign digits : List Char} {negative : Bool} (letter : mark = 'e' ∨ mark = 'E')
      (signed : Sign sign negative) (number : digits ≠ [] ∧ Digits digits) :
      Exponent (mark :: (sign ++ digits))
        (if negative then -(decimalValue digits : Int) else decimalValue digits)

/-- The texts that are decimal numerals, with the number that each denotes. -/
inductive Denotes : List Char → ℚ → Prop where
  | numeral {sign mantissa whole fraction exponent : List Char} {negative : Bool} {shift : Int}
      (signed : Sign sign negative) (digits : Mantissa mantissa whole fraction)
      (wholeDigits : Digits whole) (fractionDigits : Digits fraction)
      (shifted : Exponent exponent shift) :
      Denotes (sign ++ (mantissa ++ exponent))
        ((if negative then -1 else 1) *
          (decimalValue whole + decimalValue fraction / 10 ^ fraction.length) * 10 ^ shift)

/-- The number that a numeral stands for. -/
def value (numeral : Numeral) : ℚ :=
  (if numeral.negative then -1 else 1) * numeral.coefficient * 10 ^ numeral.exponent

theorem readExponent?_eq_some_iff (text : List Char) (shift : Int) :
    readExponent? text = some shift ↔ Exponent text shift := by
  constructor
  · intro read
    cases text with
    | nil =>
        cases read
        exact .none
    | cons mark rest =>
        obtain ⟨sign, signed, written⟩ := sign_readSign rest
        simp only [readExponent?] at read
        split at read
        · rename_i accepted
          cases read
          rw [Bool.and_eq_true, Bool.or_eq_true, beq_iff_eq, beq_iff_eq, isNumber_iff] at accepted
          have shape := Exponent.some accepted.1 signed accepted.2
          rw [← written] at shape
          exact shape
        · cases read
  · intro written
    cases written with
    | none => rfl
    | @some mark sign digits negative letter signed number =>
        have bare : Ends isSign digits := by
          apply ends_of_none
          intro c member
          exact isSign_eq_false_of_isDigit (number.2 c member)
        have accepted : ((mark == 'e' || mark == 'E') && isNumber digits) = true := by
          rw [Bool.and_eq_true, Bool.or_eq_true, beq_iff_eq, beq_iff_eq, isNumber_iff]
          exact ⟨letter, number⟩
        simp only [readExponent?, readSign_of_sign signed bare, accepted, if_true]

theorem Exponent.ends {text : List Char} {shift : Int} (exponent : Exponent text shift) :
    Ends Char.isDigit text ∧ Ends (· == '.') text := by
  cases exponent with
  | none => exact ⟨ends_nil _, ends_nil _⟩
  | some letter =>
      rw [ends_cons_iff, ends_cons_iff]
      rcases letter with rfl | rfl
      · exact ⟨rfl, rfl⟩
      · exact ⟨rfl, rfl⟩

/-- The digits before the point, those behind it, and what comes behind the mantissa. -/
def readMantissa (text : List Char) : List Char × List Char × List Char :=
  (text.takeWhile Char.isDigit, readFraction (text.dropWhile Char.isDigit))

theorem ofChars?_of_parts {text body whole fraction tail : List Char} {negative : Bool}
    (sign : readSign text = (negative, body))
    (mantissa : readMantissa body = (whole, fraction, tail)) :
    ofChars? text =
      if whole.isEmpty && fraction.isEmpty then
        none
      else
        (readExponent? tail).map fun shift =>
          ⟨negative, decimalValue (whole ++ fraction), shift - fraction.length⟩ := by
  simp only [readMantissa, Prod.mk.injEq] at mantissa
  obtain ⟨wholeRead, fractionRead⟩ := mantissa
  simp only [ofChars?, sign, wholeRead, fractionRead]

theorem readFraction_of_ends {text : List Char} (pointless : Ends (· == '.') text) :
    readFraction text = ([], text) := by
  cases text with
  | nil => rfl
  | cons c rest =>
      have other : c ≠ '.' := by
        simpa using (ends_cons_iff (· == '.') c rest).mp pointless
      unfold readFraction
      split
      · exact absurd (List.cons.inj ‹_›).1 other
      · rfl

theorem readMantissa_of_mantissa {mantissa whole fraction tail : List Char}
    (digits : Mantissa mantissa whole fraction) (wholeDigits : Digits whole)
    (fractionDigits : Digits fraction) (ends : Ends Char.isDigit tail)
    (pointless : Ends (· == '.') tail) :
    readMantissa (mantissa ++ tail) = (whole, fraction, tail) := by
  have point (rest : List Char) : Ends Char.isDigit ('.' :: rest) :=
    (ends_cons_iff _ _ _).mpr rfl
  cases digits with
  | whole =>
      simp only [readMantissa, takeWhile_run wholeDigits ends, dropWhile_run wholeDigits ends,
        readFraction_of_ends pointless]
  | pointBehind =>
      simp only [readMantissa, List.append_assoc, List.cons_append,
        takeWhile_run wholeDigits (point _), dropWhile_run wholeDigits (point _), readFraction,
        takeWhile_run fractionDigits ends, dropWhile_run fractionDigits ends]
  | pointBefore =>
      have none := takeWhile_run wholeDigits (point (fraction ++ tail))
      have whole := dropWhile_run wholeDigits (point (fraction ++ tail))
      rw [List.nil_append] at none whole
      simp only [readMantissa, List.cons_append, none, whole, readFraction,
        takeWhile_run fractionDigits ends, dropWhile_run fractionDigits ends]

theorem mantissa_of_readMantissa {text whole fraction tail : List Char}
    (read : readMantissa text = (whole, fraction, tail)) (some : whole ≠ [] ∨ fraction ≠ []) :
    ∃ mantissa, text = mantissa ++ tail ∧ Mantissa mantissa whole fraction ∧ Digits whole ∧
      Digits fraction := by
  have parts : text.takeWhile Char.isDigit ++ text.dropWhile Char.isDigit = text :=
    List.takeWhile_append_dropWhile
  have wholeDigits := digits_takeWhile text
  simp only [readMantissa, Prod.mk.injEq] at read
  obtain ⟨rfl, rest⟩ := read
  generalize text.takeWhile Char.isDigit = whole at *
  generalize text.dropWhile Char.isDigit = behind at *
  subst parts
  unfold readFraction at rest
  split at rest
  · rename_i digits
    cases rest
    have split : digits.takeWhile Char.isDigit ++ digits.dropWhile Char.isDigit = digits :=
      List.takeWhile_append_dropWhile
    refine ⟨whole ++ '.' :: digits.takeWhile Char.isDigit, ?_, ?_, wholeDigits,
      digits_takeWhile digits⟩
    · rw [List.append_assoc, List.cons_append, split]
    · cases whole with
      | nil => exact .pointBefore (some.resolve_left (fun different => different rfl))
      | cons c more => exact .pointBehind _ (List.cons_ne_nil c more)
  · cases rest
    have present : whole ≠ [] := some.resolve_right (fun different => different rfl)
    exact ⟨whole, rfl, .whole present, wholeDigits, by simp [Digits]⟩

theorem Mantissa.some {mantissa whole fraction : List Char}
    (digits : Mantissa mantissa whole fraction) : whole ≠ [] ∨ fraction ≠ [] := by
  cases digits with
  | whole some => exact .inl some
  | pointBehind _ some => exact .inl some
  | pointBefore some => exact .inr some

/-- A mantissa does not begin with a sign. -/
theorem Mantissa.bare {mantissa whole fraction : List Char}
    (digits : Mantissa mantissa whole fraction) (wholeDigits : Digits whole) (tail : List Char) :
    Ends isSign (mantissa ++ tail) := by
  have unsigned (c : Char) (digit : c.isDigit = true) (rest : List Char) :
      Ends isSign (c :: rest) :=
    (ends_cons_iff isSign c rest).mpr (isSign_eq_false_of_isDigit digit)
  cases digits with
  | pointBefore => exact (ends_cons_iff _ _ _).mpr rfl
  | whole some =>
      cases mantissa with
      | nil => exact absurd rfl some
      | cons c rest => exact unsigned c (wholeDigits c List.mem_cons_self) _
  | pointBehind fraction some =>
      cases whole with
      | nil => exact absurd rfl some
      | cons c rest => exact unsigned c (wholeDigits c List.mem_cons_self) _

theorem value_of_parts (negative : Bool) (whole fraction : List Char) (shift : Int) :
    value ⟨negative, decimalValue (whole ++ fraction), shift - fraction.length⟩ =
      (if negative then -1 else 1) *
        (decimalValue whole + decimalValue fraction / 10 ^ fraction.length) * 10 ^ shift := by
  have nonzero : (10 : ℚ) ≠ 0 := by norm_num
  simp only [value, decimalValue_append]
  rw [zpow_sub₀ nonzero, zpow_natCast]
  push_cast
  field_simp

/-- Reading takes exactly the numerals, each as the number that it denotes. -/
theorem denotes_iff (text : List Char) (number : ℚ) :
    Denotes text number ↔ ∃ numeral, ofChars? text = some numeral ∧ numeral.value = number := by
  constructor
  · intro denoted
    cases denoted with
    | @numeral sign mantissa whole fraction exponent negative shift signed digits wholeDigits
        fractionDigits shifted =>
        have parts := readMantissa_of_mantissa digits wholeDigits fractionDigits shifted.ends.1
          shifted.ends.2
        have sign := readSign_of_sign signed (digits.bare wholeDigits exponent)
        have present : (whole.isEmpty && fraction.isEmpty) = false := by
          rcases digits.some with some | some
          · simp [some]
          · simp [some]
        refine ⟨_, ?_, value_of_parts negative whole fraction shift⟩
        rw [ofChars?_of_parts sign parts, present,
          (readExponent?_eq_some_iff exponent shift).mpr shifted]
        rfl
  · intro read
    obtain ⟨numeral, read, rfl⟩ := read
    obtain ⟨sign, signed, written⟩ := sign_readSign text
    obtain ⟨⟨whole, fraction, tail⟩, parts⟩ :
        ∃ parts, readMantissa (readSign text).2 = parts := ⟨_, rfl⟩
    rw [ofChars?_of_parts rfl parts] at read
    split at read
    · cases read
    · rename_i present
      obtain ⟨shift, shifted, rfl⟩ := Option.map_eq_some_iff.mp read
      rw [readExponent?_eq_some_iff] at shifted
      have some : whole ≠ [] ∨ fraction ≠ [] := by
        by_contra absent
        simp only [not_or, not_not] at absent
        simp [absent.1, absent.2] at present
      obtain ⟨mantissa, body, digits, wholeDigits, fractionDigits⟩ :=
        mantissa_of_readMantissa parts some
      have denoted := Denotes.numeral signed digits wholeDigits fractionDigits shifted
      rw [← body, ← written] at denoted
      rw [value_of_parts]
      exact denoted

theorem Mantissa.mem_cases {mantissa whole fraction : List Char}
    (digits : Mantissa mantissa whole fraction) (wholeDigits : Digits whole)
    (fractionDigits : Digits fraction) {c : Char} (member : c ∈ mantissa) :
    c.isDigit = true ∨ c = '.' := by
  cases digits with
  | whole => exact .inl (wholeDigits c member)
  | pointBehind =>
      rcases List.mem_append.mp member with before | behind
      · exact .inl (wholeDigits c before)
      · rcases List.mem_cons.mp behind with point | behind
        · exact .inr point
        · exact .inl (fractionDigits c behind)
  | pointBefore =>
      rcases List.mem_cons.mp member with point | behind
      · exact .inr point
      · exact .inl (fractionDigits c behind)

theorem Exponent.mem_cases {text : List Char} {shift : Int} (exponent : Exponent text shift)
    {c : Char} (member : c ∈ text) :
    c.isDigit = true ∨ (c = '+' ∨ c = '-') ∨ c = 'e' ∨ c = 'E' := by
  cases exponent with
  | none => cases member
  | some letter signed number =>
      rcases List.mem_cons.mp member with rfl | behind
      · exact .inr (.inr letter)
      · rcases List.mem_append.mp behind with inSign | inDigits
        · exact .inr (.inl (signed.eq_of_mem inSign))
        · exact .inl (number.2 c inDigits)

/-- Only digits, signs, a point and a letter `e` stand in a numeral. -/
theorem Denotes.mem_cases {text : List Char} {number : ℚ} (denoted : Denotes text number) {c : Char}
    (member : c ∈ text) :
    c.isDigit = true ∨ (c = '+' ∨ c = '-') ∨ c = '.' ∨ c = 'e' ∨ c = 'E' := by
  cases denoted with
  | numeral signed mantissa wholeDigits fractionDigits shifted =>
      rcases List.mem_append.mp member with inSign | behind
      · exact .inr (.inl (signed.eq_of_mem inSign))
      · rcases List.mem_append.mp behind with inMantissa | inExponent
        · rcases mantissa.mem_cases wholeDigits fractionDigits inMantissa with digit | point
          · exact .inl digit
          · exact .inr (.inr (.inl point))
        · rcases shifted.mem_cases inExponent with digit | sign | letter
          · exact .inl digit
          · exact .inr (.inl sign)
          · exact .inr (.inr (.inr letter))

theorem Denotes.not_blank {text : List Char} {number : ℚ} (denoted : Denotes text number) :
    ∀ c ∈ text, isBlank c = false := by
  intro c member
  rcases denoted.mem_cases member with digit | (rfl | rfl) | rfl | rfl | rfl
  · exact isBlank_eq_false_of_isDigit digit
  · rfl
  · rfl
  · rfl
  · rfl
  · rfl

end FormCheck.Numeral
