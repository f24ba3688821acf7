import FormCheck.Text.Blank
import FormCheck.Text.Bytes
import FormCheck.Text.Digits
import Mathlib.Data.List.Basic
import Mathlib.Data.List.Induction
import Mathlib.Data.List.TakeWhile
import Mathlib.Tactic.Ring

/-!
Runs of characters of one class: digits, and the blanks around a text. A run that is read
to its end is told by its characters and by what comes next.
-/

set_option autoImplicit false

namespace FormCheck.Text

/-- Whether a text does not go on with a character of a class. -/
def Ends (allowed : Char → Bool) (text : List Char) : Prop :=
  ∀ c ∈ text.head?, allowed c = false

theorem ends_nil (allowed : Char → Bool) : Ends allowed [] :=
  fun _ member => absurd member (by simp)

theorem ends_cons_iff (allowed : Char → Bool) (c : Char) (rest : List Char) :
    Ends allowed (c :: rest) ↔ allowed c = false := by
  simp [Ends]

theorem Ends.mono {allowed wider : Char → Bool} {text : List Char} (ends : Ends wider text)
    (implies : ∀ c, allowed c = true → wider c = true) : Ends allowed text := by
  intro c first
  have stopped := ends c first
  cases accepted : allowed c with
  | false => rfl
  | true =>
      rw [implies c accepted] at stopped
      cases stopped

theorem ends_of_none {allowed : Char → Bool} {text : List Char}
    (none : ∀ c ∈ text, allowed c = false) : Ends allowed text :=
  fun c first => none c (List.mem_of_mem_head? first)

theorem ends_dropWhile (allowed : Char → Bool) (text : List Char) :
    Ends allowed (text.dropWhile allowed) := by
  intro c first
  have stopped := List.head?_dropWhile_not allowed text
  rw [Option.mem_def.mp first] at stopped
  simpa using stopped

theorem takeWhile_run {allowed : Char → Bool} {run : List Char}
    (inside : ∀ c ∈ run, allowed c = true) {rest : List Char} (ends : Ends allowed rest) :
    (run ++ rest).takeWhile allowed = run := by
  rw [List.takeWhile_append_of_pos inside]
  cases rest with
  | nil => simp
  | cons c rest => simp [(ends_cons_iff allowed c rest).mp ends]

theorem dropWhile_run {allowed : Char → Bool} {run : List Char}
    (inside : ∀ c ∈ run, allowed c = true) {rest : List Char} (ends : Ends allowed rest) :
    (run ++ rest).dropWhile allowed = rest := by
  rw [List.dropWhile_append_of_pos inside]
  cases rest with
  | nil => simp
  | cons c rest => simp [(ends_cons_iff allowed c rest).mp ends]

/-! ## Digits -/

def Digits (text : List Char) : Prop :=
  ∀ c ∈ text, c.isDigit = true

theorem isDigit_iff (c : Char) : c.isDigit = true ↔ 48 ≤ c.toNat ∧ c.toNat ≤ 57 := by
  rw [Char.isDigit, Bool.and_eq_true, decide_eq_true_eq, decide_eq_true_eq]
  exact Iff.rfl

theorem digits_takeWhile (text : List Char) : Digits (text.takeWhile Char.isDigit) :=
  fun _ member => List.mem_takeWhile_imp member

theorem isNumber_iff (text : List Char) : isNumber text = true ↔ text ≠ [] ∧ Digits text := by
  simp [isNumber, Digits]

theorem decimalValue_append (front back : List Char) :
    decimalValue (front ++ back) = decimalValue front * 10 ^ back.length + decimalValue back := by
  induction back using List.reverseRecOn with
  | nil => simp
  | append_singleton back digit ih =>
      rw [← List.append_assoc, decimalValue_concat, ih, decimalValue_concat, List.length_append,
        List.length_singleton]
      ring

theorem digitValue_le {c : Char} (digit : c.isDigit = true) : digitValue c ≤ 9 :=
  Nat.sub_le_of_le_add ((isDigit_iff c).mp digit).2

theorem digitValue_pos_iff {c : Char} (digit : c.isDigit = true) : 1 ≤ digitValue c ↔ c ≠ '0' := by
  have bounds := (isDigit_iff c).mp digit
  have zero : '0'.toNat = 48 := rfl
  rw [digitValue, ne_eq, ← Char.toNat_inj]
  omega

theorem decimalValue_lt {digits : List Char} (inside : Digits digits) :
    decimalValue digits < 10 ^ digits.length := by
  induction digits using List.reverseRecOn with
  | nil => decide
  | append_singleton digits digit ih =>
      have front := ih fun c member => inside c (List.mem_append_left _ member)
      have last := digitValue_le (inside digit (by simp))
      rw [decimalValue_concat, List.length_append, List.length_singleton, pow_succ]
      omega

theorem decimalValue_zeros {digits : List Char} (zeros : ∀ c ∈ digits, c = '0') :
    decimalValue digits = 0 := by
  induction digits using List.reverseRecOn with
  | nil => rfl
  | append_singleton digits digit ih =>
      have last : digit = '0' := zeros digit (by simp)
      subst last
      rw [decimalValue_concat, ih fun c member => zeros c (List.mem_append_left _ member)]
      rfl

/-- An optional sign, and whether it is a minus. -/
inductive Sign : List Char → Bool → Prop where
  | none : Sign [] false
  | plus : Sign ['+'] false
  | minus : Sign ['-'] true

def isSign (c : Char) : Bool :=
  c == '+' || c == '-'

theorem Sign.eq_of_mem {sign : List Char} {negative : Bool} (signed : Sign sign negative) {c : Char}
    (member : c ∈ sign) : c = '+' ∨ c = '-' := by
  cases signed with
  | none => cases member
  | plus => exact .inl (List.mem_singleton.mp member)
  | minus => exact .inr (List.mem_singleton.mp member)

theorem isSign_eq_false_of_isDigit {c : Char} (digit : c.isDigit = true) : isSign c = false := by
  rw [isSign, Bool.or_eq_false_iff, beq_eq_false_iff_ne, beq_eq_false_iff_ne]
  refine ⟨?_, ?_⟩
  · intro same
    subst same
    cases digit
  · intro same
    subst same
    cases digit

theorem readSign_of_sign {sign body : List Char} {negative : Bool} (signed : Sign sign negative)
    (bare : Ends isSign body) : readSign (sign ++ body) = (negative, body) := by
  cases signed with
  | plus => rfl
  | minus => rfl
  | none =>
      cases body with
      | nil => rfl
      | cons c rest =>
          have other := (ends_cons_iff isSign c rest).mp bare
          rw [isSign, Bool.or_eq_false_iff, beq_eq_false_iff_ne, beq_eq_false_iff_ne] at other
          obtain ⟨notPlus, notMinus⟩ := other
          simp only [List.nil_append]
          unfold readSign
          split
          · exact absurd (List.cons.inj ‹_›).1 notMinus
          · exact absurd (List.cons.inj ‹_›).1 notPlus
          · rfl

theorem sign_readSign (text : List Char) :
    ∃ sign, Sign sign (readSign text).1 ∧ text = sign ++ (readSign text).2 := by
  unfold readSign
  split
  · exact ⟨['-'], .minus, rfl⟩
  · exact ⟨['+'], .plus, rfl⟩
  · exact ⟨[], .none, rfl⟩

/-! ## Bytes -/

theorem utf8Size_of_isDigit {c : Char} (digit : c.isDigit = true) : c.utf8Size = 1 := by
  have small := ((isDigit_iff c).mp digit).2
  rw [Char.utf8Size_eq_one_iff, UInt32.le_iff_toNat_le]
  exact small.trans (by decide)

theorem byteCount_digits {digits : List Char} (inside : Digits digits) :
    byteCount digits = digits.length := by
  induction digits with
  | nil => rfl
  | cons c digits ih =>
      rw [byteCount_cons, ih fun d member => inside d (List.mem_cons_of_mem _ member),
        utf8Size_of_isDigit (inside c List.mem_cons_self), List.length_cons, Nat.add_comm]

theorem eq_nil_of_byteCount {text : List Char} (none : byteCount text = 0) : text = [] :=
  List.eq_nil_of_length_eq_zero
    (Nat.eq_zero_of_le_zero (none ▸ length_le_byteCount text))

theorem singleton_of_byteCount {text : List Char} (single : byteCount text = 1) :
    ∃ c, text = [c] ∧ c.utf8Size = 1 := by
  cases text with
  | nil => cases single
  | cons c text =>
      have positive := c.utf8Size_pos
      rw [byteCount_cons] at single
      obtain rfl := eq_nil_of_byteCount (show byteCount text = 0 by omega)
      exact ⟨c, rfl, by omega⟩

/-! ## Blanks -/

/-- The characters with the Unicode property White_Space, by their codes. -/
def WhiteSpace (c : Char) : Prop :=
  c.toNat ∈ [0x9, 0xA, 0xB, 0xC, 0xD, 0x20, 0x85, 0xA0, 0x1680, 0x2000, 0x2001, 0x2002, 0x2003,
    0x2004, 0x2005, 0x2006, 0x2007, 0x2008, 0x2009, 0x200A, 0x2028, 0x2029, 0x202F, 0x205F, 0x3000]

instance : DecidablePred WhiteSpace :=
  fun c => inferInstanceAs (Decidable (c.toNat ∈ _))

theorem isBlank_iff (c : Char) : isBlank c = true ↔ WhiteSpace c := by
  simp only [isBlank, WhiteSpace, Bool.or_eq_true, Bool.and_eq_true, decide_eq_true_eq, beq_iff_eq,
    List.mem_cons, List.not_mem_nil, or_false]
  omega

/-- A text with blanks around it. -/
def Framed (core text : List Char) : Prop :=
  ∃ before behind, text = before ++ core ++ behind ∧
    (∀ c ∈ before, WhiteSpace c) ∧ ∀ c ∈ behind, WhiteSpace c

/-- A text without the blanks around it. -/
structure Stripped (core text : List Char) : Prop where
  framed : Framed core text
  first : ∀ c ∈ core.head?, ¬ WhiteSpace c
  last : ∀ c ∈ core.getLast?, ¬ WhiteSpace c

theorem ends_isBlank_iff (text : List Char) :
    Ends isBlank text ↔ ∀ c ∈ text.head?, ¬ WhiteSpace c := by
  simp only [Ends, ← isBlank_iff, Bool.not_eq_true]

theorem framed_trim (text : List Char) : Framed (trim text) text := by
  refine ⟨text.takeWhile isBlank, ((trimStart text).reverse.takeWhile isBlank).reverse, ?_, ?_, ?_⟩
  · have front : text.takeWhile isBlank ++ trimStart text = text :=
      List.takeWhile_append_dropWhile
    have back : trim text ++ ((trimStart text).reverse.takeWhile isBlank).reverse =
        trimStart text := by
      rw [trim, trimEnd, ← List.reverse_append, List.takeWhile_append_dropWhile,
        List.reverse_reverse]
    rw [List.append_assoc, back, front]
  · exact fun c member => (isBlank_iff c).mp (List.mem_takeWhile_imp member)
  · intro c member
    rw [List.mem_reverse] at member
    exact (isBlank_iff c).mp (List.mem_takeWhile_imp member)

theorem Framed.mem_cases {core text : List Char} (framed : Framed core text) {c : Char}
    (member : c ∈ text) : isBlank c = true ∨ c ∈ core := by
  obtain ⟨before, behind, rfl, beforeBlank, behindBlank⟩ := framed
  rw [List.mem_append, List.mem_append] at member
  rcases member with (inBefore | inCore) | inBehind
  · exact .inl ((isBlank_iff c).mpr (beforeBlank c inBefore))
  · exact .inr inCore
  · exact .inl ((isBlank_iff c).mpr (behindBlank c inBehind))

/-- Trimming takes off all blanks around a text that has none at its ends. -/
theorem trim_of_framed {core text : List Char} (framed : Framed core text)
    (first : Ends isBlank core) (last : Ends isBlank core.reverse) : trim text = core := by
  obtain ⟨before, behind, rfl, beforeBlank, behindBlank⟩ := framed
  simp only [← isBlank_iff] at beforeBlank behindBlank
  have reversed : ∀ c ∈ behind.reverse, isBlank c = true := by
    intro c member
    exact behindBlank c (List.mem_reverse.mp member)
  cases core with
  | nil =>
      have blank : ∀ c ∈ before ++ behind, isBlank c = true := by
        intro c member
        exact (List.mem_append.mp member).elim (beforeBlank c) (behindBlank c)
      have nothing : trimStart (before ++ behind) = [] := List.dropWhile_eq_nil_iff.mpr blank
      rw [List.append_nil, trim, nothing]
      rfl
  | cons c rest =>
      have start : Ends isBlank (c :: rest ++ behind) :=
        (ends_cons_iff isBlank c _).mpr ((ends_cons_iff isBlank c rest).mp first)
      rw [trim, trimStart, List.append_assoc, dropWhile_run beforeBlank start, trimEnd,
        List.reverse_append, dropWhile_run reversed last, List.reverse_reverse]

theorem stripped_trim (text : List Char) : Stripped (trim text) text := by
  refine ⟨framed_trim text, ?_, ?_⟩
  -- What stands in front after the blanks before a text are gone is still in front of its core.
  · obtain ⟨behind, back⟩ : trim text <+: trimStart text := by
      rw [trim, trimEnd, ← List.reverse_suffix, List.reverse_reverse]
      exact List.dropWhile_suffix isBlank
    have start : Ends isBlank (trimStart text) := ends_dropWhile isBlank text
    rw [← ends_isBlank_iff]
    cases core : trim text with
    | nil => exact ends_nil isBlank
    | cons c rest =>
        rw [← back, core, List.cons_append, ends_cons_iff] at start
        exact (ends_cons_iff isBlank c rest).mpr start
  · rw [trim, trimEnd, List.getLast?_reverse, ← ends_isBlank_iff]
    exact ends_dropWhile isBlank _

theorem stripped_iff (core text : List Char) : Stripped core text ↔ core = trim text := by
  constructor
  · intro stripped
    refine (trim_of_framed stripped.framed ?_ ?_).symm
    · exact (ends_isBlank_iff core).mpr stripped.first
    · rw [ends_isBlank_iff, List.head?_reverse]
      exact stripped.last
  · intro same
    subst same
    exact stripped_trim text

theorem isBlank_eq_false_of_isDigit {c : Char} (digit : c.isDigit = true) : isBlank c = false := by
  rw [isDigit_iff] at digit
  simp only [isBlank, Bool.or_eq_false_iff, Bool.and_eq_false_iff, decide_eq_false_iff_not,
    beq_eq_false_iff_ne]
  omega

/-- A text that starts and ends with digits has no blanks around it. -/
theorem stripped_of_digits {first last front rest text : List Char} (split : text = first ++ rest)
    (inside : Digits first) (some : first ≠ []) (split' : text = front ++ last)
    (inside' : Digits last) (some' : last ≠ []) : Stripped text text := by
  have visible {c : Char} (digit : c.isDigit = true) : ¬ WhiteSpace c := by
    rw [← isBlank_iff, isBlank_eq_false_of_isDigit digit]
    decide
  refine ⟨⟨[], [], by simp, by simp, by simp⟩, ?_, ?_⟩
  · rw [split, List.head?_append_of_ne_nil _ some]
    exact fun c member => visible (inside c (List.mem_of_mem_head? member))
  · rw [split', List.getLast?_append_of_ne_nil _ some']
    exact fun c member => visible (inside' c (List.mem_of_mem_getLast? member))

theorem trim_of_framed_bare {core text : List Char} (framed : Framed core text)
    (bare : ∀ c ∈ core, isBlank c = false) : trim text = core := by
  apply trim_of_framed framed
  · exact ends_of_none bare
  · apply ends_of_none
    intro c member
    exact bare c (List.mem_reverse.mp member)

end FormCheck.Text
