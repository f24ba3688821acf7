import FormCheck.Numeral.Count
import FormCheck.Proofs.Text.Runs
import Mathlib.Data.Nat.Digits.Defs

/-!
Which texts are counts. A count is a run of digits, however many of them are leading zeros,
with a plus sign before it or none and blanks around it at most, and the number that its
digits denote fits 64 bits.
-/

set_option autoImplicit false

namespace FormCheck.Count

open Text

/-- An optional plus sign. No other sign stands before a count. -/
inductive Plus : List Char → Prop where
  | none : Plus []
  | some : Plus ['+']

/-- The texts that are counts of any size, with the number that each denotes. -/
inductive Denotes : List Char → Nat → Prop where
  | count {plus digits : List Char} (signed : Plus plus) (some : digits ≠ [])
      (inside : Digits digits) :
      Denotes (plus ++ digits) (Nat.ofDigits 10 (digits.reverse.map digitValue))

/-- A text that is a count of 64 bits with blanks around it at most, and the number that it
denotes. -/
def Spells (text : String) (count : Nat) : Prop :=
  ∃ core, Framed core text.toList ∧ Denotes core count ∧ count < 2 ^ 64

/-- The number of a run of digits is that of their positions. -/
theorem decimalValue_eq_ofDigits (digits : List Char) :
    decimalValue digits = Nat.ofDigits 10 (digits.reverse.map digitValue) := by
  induction digits using List.reverseRecOn with
  | nil => rfl
  | append_singleton digits digit ih =>
      rw [decimalValue_concat, ih, List.reverse_concat, List.map_cons, Nat.ofDigits_cons,
        Nat.add_comm]

theorem dropPlus_digits {digits : List Char} (inside : Digits digits) :
    dropPlus digits = digits := by
  unfold dropPlus
  split
  · have digit := inside '+' List.mem_cons_self
    cases digit
  · rfl

theorem plus_dropPlus (text : List Char) : ∃ plus, Plus plus ∧ text = plus ++ dropPlus text := by
  unfold dropPlus
  split
  · exact ⟨['+'], .some, rfl⟩
  · exact ⟨[], .none, rfl⟩

theorem Denotes.mem_cases {text : List Char} {count : Nat} (denoted : Denotes text count)
    {c : Char} (member : c ∈ text) : c.isDigit = true ∨ c = '+' := by
  cases denoted with
  | count signed _ inside =>
      rcases List.mem_append.mp member with inPlus | inDigits
      · cases signed with
        | none => cases inPlus
        | some => exact .inr (List.mem_singleton.mp inPlus)
      · exact .inl (inside c inDigits)

theorem Denotes.not_blank {text : List Char} {count : Nat} (denoted : Denotes text count) :
    ∀ c ∈ text, isBlank c = false := by
  intro c member
  rcases denoted.mem_cases member with digit | rfl
  · exact isBlank_eq_false_of_isDigit digit
  · rfl

/-- Reading a count takes exactly the notation, and refuses what does not fit. -/
theorem ofChars?_eq_some_iff (text : List Char) (count : Nat) :
    ofChars? text = some count ↔ Denotes text count ∧ count < 2 ^ 64 := by
  simp only [ofChars?, Option.ite_none_right_eq_some, Bool.and_eq_true, isNumber_iff,
    decide_eq_true_eq, Option.some.injEq]
  constructor
  · intro read
    obtain ⟨⟨⟨some, inside⟩, fits⟩, rfl⟩ := read
    obtain ⟨plus, signed, written⟩ := plus_dropPlus text
    have denoted := Denotes.count signed some inside
    rw [← written, ← decimalValue_eq_ofDigits] at denoted
    exact ⟨denoted, fits⟩
  · intro spelled
    obtain ⟨denoted, fits⟩ := spelled
    cases denoted with
    | @count plus digits signed some inside =>
        have read : dropPlus (plus ++ digits) = digits := by
          cases signed with
          | none => exact dropPlus_digits inside
          | some => rfl
        rw [read, decimalValue_eq_ofDigits]
        exact ⟨⟨⟨some, inside⟩, fits⟩, rfl⟩

theorem spells_iff (text : String) (count : Nat) :
    Spells text count ↔ ofText? text = some count := by
  rw [ofText?, ofChars?_eq_some_iff]
  constructor
  · intro spelled
    obtain ⟨core, framed, denoted, fits⟩ := spelled
    rw [trim_of_framed_bare framed denoted.not_blank]
    exact ⟨denoted, fits⟩
  · intro read
    exact ⟨_, framed_trim text.toList, read⟩

/-- Nothing but digits, plus signs and blanks stands in a text that spells a count. -/
theorem Spells.mem_cases {text : String} {count : Nat} (spelled : Spells text count) {c : Char}
    (member : c ∈ text.toList) : isBlank c = true ∨ c.isDigit = true ∨ c = '+' := by
  obtain ⟨core, framed, denoted, _⟩ := spelled
  rcases framed.mem_cases member with blank | inCore
  · exact .inl blank
  · exact .inr (denoted.mem_cases inCore)

end FormCheck.Count
