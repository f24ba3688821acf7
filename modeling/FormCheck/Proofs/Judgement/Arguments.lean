import FormCheck.Judgement.Test
import FormCheck.Proofs.Numeral.Count
import FormCheck.Proofs.Text.Pieces

/-!
Tests of the length of a value and of its place in a list, over all arguments that rules can
give them. The argument of a length test is a count or the test fails, and a list is looked at
as it was written: no entry is trimmed and none is left out.
-/

set_option autoImplicit false

namespace FormCheck

/-- Whether an input that holds a content passes a test with an argument. -/
def Content.Passes (content : Content) (kind : ArgumentTest) (argument : String) : Prop :=
  (Constraint.known (.withArgument kind argument)).finding? content = none

theorem Content.passes_iff (content : Content) (kind : ArgumentTest) (argument : String) :
    content.Passes kind argument ↔ Test.holdsArgument content.value argument kind = true :=
  Constraint.finding?_known_eq_none_iff content (.withArgument kind argument)

/-! ## Lengths -/

/-- The tests that compare the length of a value with a count, and how the two have to stand to
each other. -/
inductive ArgumentTest.OnLength : ArgumentTest → (Nat → Nat → Prop) → Prop where
  | length : OnLength .length (· = ·)
  | minLength : OnLength .minLength (· ≥ ·)
  | maxLength : OnLength .maxLength (· ≤ ·)

theorem compareLength_iff (relation : Nat → Nat → Bool) (value argument : String) :
    compareLength relation value argument = true ↔
      ∃ count, Count.Spells argument count ∧ relation value.length count = true := by
  simp only [compareLength, Option.any_eq_true, Count.spells_iff]

theorem ArgumentTest.OnLength.passes_iff {kind : ArgumentTest} {relation : Nat → Nat → Prop}
    (onLength : OnLength kind relation) (content : Content) (argument : String) :
    content.Passes kind argument ↔
      ∃ count, Count.Spells argument count ∧ relation content.value.length count := by
  rw [content.passes_iff]
  cases onLength with
  | length => simp [Test.holdsArgument, compareLength_iff]
  | minLength => simp [Test.holdsArgument, compareLength_iff]
  | maxLength => simp [Test.holdsArgument, compareLength_iff]

theorem Count.Spells.unique {argument : String} {count other : Nat}
    (spelled : Count.Spells argument count) (otherSpelled : Count.Spells argument other) :
    count = other := by
  rw [Count.spells_iff] at spelled otherSpelled
  rw [spelled] at otherSpelled
  exact Option.some.inj otherSpelled

/-- The count that an argument spells is the one that a test compares with. -/
theorem ArgumentTest.OnLength.passes_iff_of_spells {kind : ArgumentTest}
    {relation : Nat → Nat → Prop} (onLength : OnLength kind relation) {argument : String}
    {count : Nat} (spelled : Count.Spells argument count) (content : Content) :
    content.Passes kind argument ↔ relation content.value.length count := by
  rw [onLength.passes_iff]
  constructor
  · intro compared
    obtain ⟨other, otherSpelled, holds⟩ := compared
    rw [spelled.unique otherSpelled]
    exact holds
  · intro holds
    exact ⟨count, spelled, holds⟩

theorem ArgumentTest.OnLength.spells_of_passes {kind : ArgumentTest} {relation : Nat → Nat → Prop}
    (onLength : OnLength kind relation) {content : Content} {argument : String}
    (passed : content.Passes kind argument) : ∃ count, Count.Spells argument count := by
  obtain ⟨count, spelled, _⟩ := (onLength.passes_iff content argument).mp passed
  exact ⟨count, spelled⟩

/-- How the length tests go with an argument. -/
structure LengthsByCount (argument : String) : Prop where
  /-- An argument spells one count at most, and nothing but digits, a plus sign and blanks
  spells one. -/
  unique : ∀ count other, Count.Spells argument count → Count.Spells argument other → count = other
  characters : ∀ count, Count.Spells argument count → ∀ c ∈ argument.toList,
    Text.isBlank c = true ∨ c.isDigit = true ∨ c = '+'
  /-- The length of a value is the number of its characters. -/
  spelled : ∀ count, Count.Spells argument count → ∀ kind relation,
    ArgumentTest.OnLength kind relation → ∀ content : Content,
      content.Passes kind argument ↔ relation content.value.toList.length count
  unspelled : (∀ count, ¬ Count.Spells argument count) → ∀ kind relation,
    ArgumentTest.OnLength kind relation → ∀ content : Content, ¬ content.Passes kind argument
  both : ∀ content : Content, content.Passes .length argument ↔
    content.Passes .minLength argument ∧ content.Passes .maxLength argument
  either : ∀ content : Content,
    content.Passes .minLength argument ∨ content.Passes .maxLength argument ↔
      ∃ count, Count.Spells argument count

open ArgumentTest in
/-- The length tests compare with the count that their argument spells, whatever its spelling,
and no value passes them if it spells none. -/
theorem lengths_by_count (argument : String) : LengthsByCount argument := by
  constructor
  case unique => exact fun _ _ => Count.Spells.unique
  case characters => exact fun _ spelled _ member => spelled.mem_cases member
  case spelled =>
    intro count spelled kind relation onLength content
    rw [String.length_toList]
    exact onLength.passes_iff_of_spells spelled content
  case unspelled =>
    intro none kind relation onLength content passed
    obtain ⟨count, spelled⟩ := onLength.spells_of_passes passed
    exact none count spelled
  case both =>
    intro content
    constructor
    · intro passed
      obtain ⟨count, spelled⟩ := OnLength.length.spells_of_passes passed
      have same := (OnLength.length.passes_iff_of_spells spelled content).mp passed
      exact ⟨(OnLength.minLength.passes_iff_of_spells spelled content).mpr same.ge,
        (OnLength.maxLength.passes_iff_of_spells spelled content).mpr same.le⟩
    · intro passed
      obtain ⟨count, spelled⟩ := OnLength.minLength.spells_of_passes passed.1
      have least := (OnLength.minLength.passes_iff_of_spells spelled content).mp passed.1
      have greatest := (OnLength.maxLength.passes_iff_of_spells spelled content).mp passed.2
      exact (OnLength.length.passes_iff_of_spells spelled content).mpr
        (Nat.le_antisymm greatest least)
  case either =>
    intro content
    constructor
    · intro passed
      rcases passed with least | greatest
      · exact OnLength.minLength.spells_of_passes least
      · exact OnLength.maxLength.spells_of_passes greatest
    · intro counted
      obtain ⟨count, spelled⟩ := counted
      exact (Nat.le_total count content.value.length).imp
        (OnLength.minLength.passes_iff_of_spells spelled content).mpr
        (OnLength.maxLength.passes_iff_of_spells spelled content).mpr

-- Leading zeros do not count, characters beyond ASCII count once, and a minus is no sign.
example : compareLength (· == ·) "café" " +0000000000000000000004\n" = true ∧
    compareLength (· ≤ ·) "" "-0" = false ∧
    compareLength (· ≤ ·) "" "18446744073709551616" = false := by
  decide +kernel

/-! ## Lists -/

theorem isListed_iff (list value : String) :
    isListed list value = true ↔ value.toList ∈ Text.allPieces ',' list.toList := by
  rw [isListed, List.contains_iff_mem, Text.allPieces]

/-- A value is in a list if it stands in it between commas, where a comma is thought before and
behind the list. So the empty list holds the empty value and nothing else. -/
theorem lists_hold_what_stands_between_commas (list : String) (content : Content) :
    (content.Passes .inList list ↔ ',' ∉ content.value.toList ∧
        ("," ++ content.value ++ ",").toList <:+: ("," ++ list ++ ",").toList) ∧
      (content.Passes .notInList list ↔ ¬ content.Passes .inList list) ∧
      (content.Passes .inList "" ↔ content.value = "") := by
  have listed (entries : String) : content.Passes .inList entries ↔
      content.value.toList ∈ Text.allPieces ',' entries.toList := by
    rw [content.passes_iff, Test.holdsArgument, isListed_iff]
  refine ⟨?_, ?_, ?_⟩
  · rw [listed]
    have framed (text : String) : ("," ++ text ++ ",").toList = ',' :: (text.toList ++ [',']) := by
      simp
    rw [framed, framed]
    constructor
    · intro member
      exact ⟨Text.bare_of_mem_allPieces member, Text.infix_of_mem_allPieces member⟩
    · intro between
      exact Text.mem_allPieces_of_infix between.1 between.2
  · rw [content.passes_iff, content.passes_iff, Test.holdsArgument, Test.holdsArgument]
    simp
  · rw [listed]
    simp [Text.allPieces, Text.pieces]

example : isListed "red,,green" "" = true ∧ isListed "red, green" "green" = false ∧
    isListed "red,green" "red,green" = false := by
  decide +kernel

end FormCheck
