import FormCheck.Proofs.Json.Strings

/-!
Numbers are taken whole: a number is read to its end when the text behind it does not go on
like a number.
-/

set_option autoImplicit false

namespace FormCheck.Json

open Text

def continuesNumber (c : Char) : Bool :=
  c.isDigit || c == '.' || c == 'e' || c == 'E'

theorem digits_end {rest : List Char} (ends : Ends continuesNumber rest) :
    Ends Char.isDigit rest :=
  ends.mono fun c digit => by simp [continuesNumber, digit]

theorem takes_digits (scrutiny : Scrutiny) {run : List Char} (number : run ≠ [] ∧ Digits run)
    {rest : List Char} (ends : Ends Char.isDigit rest) :
    Takes (digits scrutiny) (run ++ rest) run rest := by
  obtain ⟨some, inside⟩ := number
  cases run with
  | nil => exact absurd rfl some
  | cons c run =>
      have later : Digits run := fun d member => inside d (List.mem_cons_of_mem _ member)
      have first := inside c List.mem_cons_self
      have run_taken := takeWhile_run later ends
      have rest_left := dropWhile_run later ends
      refine ⟨by simp only [List.length_append, List.length_cons]; omega, ?_⟩
      simp only [List.cons_append, digits, if_pos first, run_taken, rest_left]

theorem takes_wholeDigits (scrutiny : Scrutiny) {whole : List Char} (spelled : Whole whole)
    {rest : List Char} (ends : Ends Char.isDigit rest) :
    Takes (wholeDigits scrutiny) (whole ++ rest) whole rest := by
  cases spelled with
  | zero =>
      have single : (rest.take 1).any Char.isDigit = false := by
        cases rest with
        | nil => rfl
        | cons c rest => simpa using (ends_cons_iff Char.isDigit c rest).mp ends
      refine ⟨shorter_cons rest, ?_⟩
      simp only [List.singleton_append, wholeDigits, single, Bool.false_eq_true, if_false]
  | @digits first run nonzero inside =>
      obtain ⟨shorter, read⟩ := takes_digits scrutiny ⟨by simp, inside⟩ ends
      refine ⟨shorter, ?_⟩
      rw [wholeDigits]
      · exact read
      · exact fun _ same => nonzero (List.cons.inj same).1

theorem fractionPart_append (scrutiny : Scrutiny) {digits text : List Char}
    (spelled : Fraction digits text) {rest : List Char} (ends : Ends Char.isDigit rest)
    (pointless : Ends (· == '.') rest) :
    ∃ within, fractionPart scrutiny (text ++ rest) = .ok (digits, ⟨rest, within⟩) := by
  cases spelled with
  | none =>
      cases rest with
      | nil => exact ⟨Nat.le_refl _, rfl⟩
      | cons c rest =>
          have other : c ≠ '.' := by simpa using (ends_cons_iff (· == '.') c rest).mp pointless
          rw [List.nil_append, fractionPart]
          · exact ⟨Nat.le_refl _, rfl⟩
          · exact fun _ same => other (List.cons.inj same).1
  | some number =>
      obtain ⟨shorter, read⟩ := takes_digits scrutiny number ends
      refine ⟨Nat.le_succ_of_le (Nat.le_of_lt shorter), ?_⟩
      simp only [List.cons_append, fractionPart, read, bind, Except.bind]

theorem exponentPart_append (scrutiny : Scrutiny) {negative : Bool} {run text : List Char}
    (spelled : Exponent negative run text) {rest : List Char}
    (ends : Ends continuesNumber rest) :
    ∃ within, exponentPart scrutiny (text ++ rest) = .ok ((negative, run), ⟨rest, within⟩) := by
  cases spelled with
  | none =>
      refine ⟨Nat.le_refl _, ?_⟩
      cases rest with
      | nil => rfl
      | cons c rest =>
          have other := (ends_cons_iff continuesNumber c rest).mp ends
          simp only [continuesNumber, Bool.or_eq_false_iff] at other
          simp only [List.nil_append, exponentPart, other.1.2, other.2, Bool.or_self,
            Bool.false_eq_true, if_false]
          rfl
  | @some mark sign _ _ letter signed number =>
      have marked : (mark == 'e' || mark == 'E') = true := by simpa using letter
      have bare : Ends isSign (run ++ rest) := by
        obtain ⟨c, digits, rfl⟩ := List.exists_cons_of_ne_nil number.1
        rw [List.cons_append, ends_cons_iff]
        exact isSign_eq_false_of_isDigit (number.2 c List.mem_cons_self)
      have signRead := readSign_of_sign signed bare
      obtain ⟨shorter, read⟩ : ∃ shorter,
          digits scrutiny (readSign (sign ++ (run ++ rest))).2 = .ok ⟨run, rest, shorter⟩ := by
        rw [signRead]
        exact takes_digits scrutiny number (digits_end ends)
      rw [List.cons_append, List.append_assoc, exponentPart]
      simp only [marked, if_true, bind, Except.bind, read]
      refine ⟨by simp only [List.length_cons, List.length_append]; omega, ?_⟩
      simp only [signRead]

theorem Exponent.ends {negative : Bool} {run text : List Char} (spelled : Exponent negative run text)
    {rest : List Char} (ends : Ends continuesNumber rest) :
    Ends Char.isDigit (text ++ rest) ∧ Ends (· == '.') (text ++ rest) := by
  cases spelled with
  | none =>
      exact ⟨digits_end ends, ends.mono fun c point => by simp_all [continuesNumber]⟩
  | some letter =>
      rw [List.cons_append, ends_cons_iff, ends_cons_iff]
      rcases letter with rfl | rfl
      · exact ⟨rfl, rfl⟩
      · exact ⟨rfl, rfl⟩

theorem Fraction.ends {digits text : List Char} (spelled : Fraction digits text) {rest : List Char}
    (ends : Ends Char.isDigit rest) : Ends Char.isDigit (text ++ rest) := by
  cases spelled with
  | none => exact ends
  | some => exact (ends_cons_iff _ _ _).mpr rfl

/-- Where a number stands does not decide whether it is within the range. -/
theorem checkRange_ok_of_nil {parts : NumberParts} (inRange : parts.checkRange [] = .ok ())
    (rest : List Char) : parts.checkRange rest = .ok () := by
  unfold NumberParts.checkRange at *
  cases beyond : NumberParts.beyondLimit? 0 parts.exponent with
  | some digits =>
      simp only [beyond] at inRange ⊢
      split at inRange
      case isTrue accepted => rw [if_pos accepted]
      case isFalse => cases inRange
  | none =>
      simp only [beyond] at inRange ⊢
      generalize NumberParts.overflows _ _ = overflow at *
      cases overflow with
      | true => cases inRange
      | false => rfl

theorem takes_unsignedNumber {whole fraction fractionText exponent exponentText : List Char}
    {negative : Bool} (wholePart : Whole whole) (fractionSpelled : Fraction fraction fractionText)
    (exponentSpelled : Exponent negative exponent exponentText)
    (inRange : NumberParts.checkRange ⟨whole, fraction, negative, exponent⟩ [] = .ok ())
    {rest : List Char} (ends : Ends continuesNumber rest) :
    Takes (unsignedNumber .full) (whole ++ (fractionText ++ (exponentText ++ rest)))
      ⟨whole, fraction, negative, exponent⟩ rest := by
  obtain ⟨afterFraction, fractionEnds⟩ := exponentSpelled.ends ends
  have wholeEnds := fractionSpelled.ends afterFraction
  obtain ⟨wholeShorter, wholeRead⟩ := takes_wholeDigits .full wholePart wholeEnds
  obtain ⟨fractionWithin, fractionRead⟩ :=
    fractionPart_append .full fractionSpelled afterFraction fractionEnds
  obtain ⟨exponentWithin, exponentRead⟩ := exponentPart_append .full exponentSpelled ends
  have shorter := Nat.lt_of_le_of_lt (Nat.le_trans exponentWithin fractionWithin) wholeShorter
  refine ⟨shorter, ?_⟩
  simp only [unsignedNumber, wholeRead, fractionRead, exponentRead, checkRange_ok_of_nil inRange,
    bind, Except.bind, if_true]

theorem Whole.first {whole : List Char} (spelled : Whole whole) :
    ∃ c rest, whole = c :: rest ∧ c.isDigit = true := by
  cases spelled with
  | zero => exact ⟨'0', [], rfl, rfl⟩
  | @digits first rest _ inside => exact ⟨first, rest, rfl, inside first List.mem_cons_self⟩

theorem takes_signedNumber {minus text rest : List Char} {parts : NumberParts}
    (signed : minus = [] ∨ minus = ['-']) (unsigned : Ends (· == '-') text)
    (takes : Takes (unsignedNumber .full) text parts rest) :
    Takes (signedNumber .full) (minus ++ text) parts rest := by
  obtain ⟨shorter, read⟩ := takes
  rcases signed with rfl | rfl
  · refine ⟨shorter, ?_⟩
    simp only [List.nil_append]
    rw [signedNumber]
    · exact read
    · rintro after rfl
      exact absurd ((ends_cons_iff _ _ _).mp unsigned) (by decide)
  · refine ⟨Nat.lt_succ_of_lt shorter, ?_⟩
    simp only [List.cons_append, List.nil_append, signedNumber, read, Except.map, Taken.widen]

theorem takes_number {text : List Char} (spelled : NumberSpelling text) {rest : List Char}
    (ends : Ends continuesNumber rest) :
    Takes (number .full) (text ++ rest) (String.ofList text) rest := by
  cases spelled with
  | @number minus whole fraction fractionText exponent exponentText negative signed wholePart
      fractionSpelled exponentSpelled inRange =>
      obtain ⟨c, digits, start, digit⟩ := wholePart.first
      have unsigned : Ends (· == '-') (whole ++ (fractionText ++ (exponentText ++ rest))) := by
        rw [start, List.cons_append, ends_cons_iff]
        exact (Bool.or_eq_false_iff.mp (isSign_eq_false_of_isDigit digit)).2
      have takes := takes_signedNumber signed unsigned
        (takes_unsignedNumber wholePart fractionSpelled exponentSpelled inRange ends)
      simp only [← List.append_assoc] at takes ⊢
      obtain ⟨shorter, read⟩ := takes
      refine ⟨shorter, ?_⟩
      simp only [number, read, Except.map, Taken.map]
      rw [List.length_append, Nat.add_sub_cancel, List.take_left]

end FormCheck.Json
