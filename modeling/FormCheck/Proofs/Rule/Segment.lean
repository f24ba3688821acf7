import FormCheck.Rule.Parser
import Mathlib.Data.List.Basic
import Mathlib.Data.List.TakeWhile

/-!
The segments of rules in plain equations. A segment is a keyword, or a keyword with an
argument between an opening bracket and the closing bracket that ends the segment; what
it says follows from its keyword and from whether it has an argument.
-/

set_option autoImplicit false

namespace FormCheck

namespace Segment

/-- The segment as it is written in a rule. -/
def source (segment : Segment) : String :=
  match segment.argument with
  | none => segment.keyword
  | some argument => segment.keyword ++ "[" ++ argument ++ "]"

/-- Whether a text can stand as a keyword: some letters, digits and low lines. -/
def IsKeyword (word : String) : Prop :=
  word.toList ≠ [] ∧ ∀ c ∈ word.toList, isKeywordChar c = true

instance (word : String) : Decidable (IsKeyword word) :=
  decidable_of_iff (word.toList ≠ [] ∧ word.toList.all isKeywordChar = true)
    (and_congr_right fun _ => List.all_eq_true)

theorem source_argument (keyword argument : String) :
    (Segment.mk keyword (some argument)).source.toList =
      keyword.toList ++ '[' :: (argument.toList ++ [']']) := by
  simp [source]

theorem readArgument?_eq_some_iff (text argument : List Char) :
    readArgument? text = some argument ↔ text = '[' :: (argument ++ [']']) := by
  constructor
  · intro read
    unfold readArgument? at read
    split at read
    case h_1 rest =>
      split at read
      case isTrue closed =>
        cases read
        rw [List.dropLast_append_getLast? _ closed]
      case isFalse => cases read
    case h_2 => cases read
  · intro written
    subst written
    simp [readArgument?]

/-- Reading takes exactly the segments whose keyword can stand as one. -/
theorem ofChars?_eq_some_iff (text : List Char) (segment : Segment) :
    ofChars? text = some segment ↔ IsKeyword segment.keyword ∧ text = segment.source.toList := by
  constructor
  · intro read
    have parts : text.takeWhile isKeywordChar ++ text.dropWhile isKeywordChar = text :=
      List.takeWhile_append_dropWhile
    have keywordChars : ∀ c ∈ text.takeWhile isKeywordChar, isKeywordChar c = true :=
      fun c member => List.mem_takeWhile_imp member
    simp only [ofChars?, List.isEmpty_iff] at read
    split at read
    case isTrue => cases read
    case isFalse nonempty =>
      split at read
      case isTrue ended =>
        cases read
        refine ⟨⟨by simpa using nonempty, by simpa using keywordChars⟩, ?_⟩
        simpa [source, ended] using parts.symm
      case isFalse =>
        obtain ⟨argument, bracketed, shape⟩ := Option.map_eq_some_iff.mp read
        cases shape
        refine ⟨⟨by simpa using nonempty, by simpa using keywordChars⟩, ?_⟩
        rw [readArgument?_eq_some_iff] at bracketed
        rw [source_argument, String.toList_ofList, String.toList_ofList, ← bracketed, parts]
  · intro written
    obtain ⟨⟨nonempty, keywordChars⟩, rfl⟩ := written
    obtain ⟨keyword, argument⟩ := segment
    cases argument with
    | none =>
        have whole : keyword.toList.takeWhile isKeywordChar = keyword.toList :=
          List.takeWhile_eq_self_iff.mpr keywordChars
        have nothing : keyword.toList.dropWhile isKeywordChar = [] :=
          List.dropWhile_eq_nil_iff.mpr keywordChars
        simp [ofChars?, source, whole, nothing, nonempty]
    | some argument =>
        have front (rest : List Char) :
            (keyword.toList ++ '[' :: rest).takeWhile isKeywordChar = keyword.toList := by
          rw [List.takeWhile_append_of_pos keywordChars, List.takeWhile_cons_of_neg (by decide),
            List.append_nil]
        have behind (rest : List Char) :
            (keyword.toList ++ '[' :: rest).dropWhile isKeywordChar = '[' :: rest := by
          rw [List.dropWhile_append_of_pos keywordChars, List.dropWhile_cons_of_neg (by decide)]
        have bracketed := (readArgument?_eq_some_iff _ argument.toList).mpr rfl
        simp only [ofChars?, source_argument, front, behind, bracketed]
        simp [nonempty]

end Segment

theorem eq_keyword_of_find? {α : Type} {keyword : α → String} {all : List α} {word : String}
    {found : α} (named : (all.find? fun kind => keyword kind == word) = some found) :
    word = keyword found := by
  have same : keyword found = word := by simpa using List.find?_some named
  exact same.symm

namespace Presence

/-- The segment that writes a directive. -/
def segment (presence : Presence) : Segment :=
  ⟨presence.keyword, presence.sibling?⟩

theorem source_segment (presence : Presence) : presence.segment.source = presence.source := by
  cases presence <;> rfl

theorem isKeyword_keyword (presence : Presence) : Segment.IsKeyword presence.keyword := by
  cases presence with
  | required | permitEmpty | requiredIf | requiredIfNot =>
      simp only [keyword]
      decide

theorem presence?_segment (presence : Presence) : presence.segment.presence? = some presence := by
  cases presence <;> rfl

theorem eq_segment_of_presence? {segment : Segment} {presence : Presence}
    (said : segment.presence? = some presence) : segment = presence.segment := by
  obtain ⟨keyword, argument⟩ := segment
  have named : keyword = presence.keyword := eq_keyword_of_find? said
  have listed := List.mem_of_find?_eq_some said
  subst named
  cases argument with
  | none =>
      rcases List.mem_cons.mp listed with rfl | listed
      · rfl
      · rw [List.mem_singleton.mp listed]
        rfl
  | some sibling =>
      rcases List.mem_cons.mp listed with rfl | listed
      · rfl
      · rw [List.mem_singleton.mp listed]
        rfl

theorem ofChars?_eq_some_iff (text : List Char) (presence : Presence) :
    ofChars? text = some presence ↔ text = presence.source.toList := by
  unfold ofChars?
  rw [Option.bind_eq_some_iff]
  constructor
  · intro chosen
    obtain ⟨segment, read, said⟩ := chosen
    rw [eq_segment_of_presence? said, Segment.ofChars?_eq_some_iff, source_segment] at read
    exact read.2
  · intro written
    subst written
    refine ⟨presence.segment, ?_, presence?_segment presence⟩
    rw [Segment.ofChars?_eq_some_iff, source_segment]
    exact ⟨isKeyword_keyword presence, rfl⟩

end Presence

theorem PlainTest.isKeyword_keyword (kind : PlainTest) : Segment.IsKeyword kind.keyword := by
  cases kind <;> decide

theorem ArgumentTest.isKeyword_keyword (kind : ArgumentTest) : Segment.IsKeyword kind.keyword := by
  cases kind <;> decide

theorem ArgumentTest.plain_ofKeyword? (kind : ArgumentTest) :
    PlainTest.ofKeyword? kind.keyword = none := by
  cases kind <;> decide

/-- The words for the tests without argument. -/
inductive PlainTest.Named : String → PlainTest → Prop where
  | email : Named "email" .email
  | numeric : Named "numeric" .numeric
  | unchecked : Named "unchecked" .unchecked
  | date : Named "date" .date

/-- The words for the tests with an argument. -/
inductive ArgumentTest.Named : String → ArgumentTest → Prop where
  | inList : Named "in_list" .inList
  | notInList : Named "not_in_list" .notInList
  | length : Named "length" .length
  | minLength : Named "min_length" .minLength
  | maxLength : Named "max_length" .maxLength
  | equalThan : Named "equal_than" .equalThan
  | greaterThan : Named "greater_than" .greaterThan
  | lessThan : Named "less_than" .lessThan

/-- Whether a text is a segment that names a known test. A test without argument is also
named with one, which it ignores. -/
inductive Test.Names : String → Test → Prop where
  | plain {word : String} {kind : PlainTest} (named : PlainTest.Named word kind) :
      Names word (.plain kind)
  | plainIgnoring {word : String} {kind : PlainTest} (named : PlainTest.Named word kind)
      (argument : String) : Names (word ++ "[" ++ argument ++ "]") (.plain kind)
  | withArgument {word : String} {kind : ArgumentTest} (named : ArgumentTest.Named word kind)
      (argument : String) :
      Names (word ++ "[" ++ argument ++ "]") (.withArgument kind argument)

theorem PlainTest.named_iff (word : String) (kind : PlainTest) :
    Named word kind ↔ word = kind.keyword := by
  constructor
  · intro named
    cases named
    all_goals rfl
  · intro same
    subst same
    cases kind
    all_goals constructor

theorem PlainTest.named_keyword (kind : PlainTest) : Named kind.keyword kind :=
  (named_iff _ kind).mpr rfl

theorem ArgumentTest.named_iff (word : String) (kind : ArgumentTest) :
    Named word kind ↔ word = kind.keyword := by
  constructor
  · intro named
    cases named
    all_goals rfl
  · intro same
    subst same
    cases kind
    all_goals constructor

theorem ArgumentTest.named_keyword (kind : ArgumentTest) : Named kind.keyword kind :=
  (named_iff _ kind).mpr rfl

namespace Segment

theorem test?_plain (kind : PlainTest) (argument : Option String) :
    test? ⟨kind.keyword, argument⟩ = some (.plain kind) := by
  simp [test?]

theorem test?_withArgument (kind : ArgumentTest) (argument : String) :
    test? ⟨kind.keyword, some argument⟩ = some (.withArgument kind argument) := by
  simp [test?, ArgumentTest.plain_ofKeyword?]

theorem names_of_test? {segment : Segment} {test : Test} (said : segment.test? = some test) :
    Test.Names segment.source test := by
  obtain ⟨keyword, argument⟩ := segment
  unfold test? at said
  cases plain : PlainTest.ofKeyword? keyword with
  | some kind =>
      rw [plain] at said
      cases said
      have named := (PlainTest.named_iff keyword kind).mpr (eq_keyword_of_find? plain)
      cases argument with
      | none => exact .plain named
      | some argument => exact .plainIgnoring named argument
  | none =>
      rw [plain] at said
      obtain ⟨argument, rfl, chosen⟩ := Option.bind_eq_some_iff.mp said
      obtain ⟨kind, found, shape⟩ := Option.map_eq_some_iff.mp chosen
      cases shape
      exact .withArgument ((ArgumentTest.named_iff keyword kind).mpr (eq_keyword_of_find? found))
        argument

theorem exists_of_names {text : String} {test : Test} (named : Test.Names text test) :
    ∃ segment, ofChars? text.toList = some segment ∧ segment.test? = some test := by
  cases named with
  | @plain _ kind named =>
      obtain rfl := (PlainTest.named_iff _ kind).mp named
      refine ⟨⟨kind.keyword, none⟩, ?_, test?_plain kind none⟩
      exact (ofChars?_eq_some_iff _ _).mpr ⟨kind.isKeyword_keyword, rfl⟩
  | @plainIgnoring _ kind named argument =>
      obtain rfl := (PlainTest.named_iff _ kind).mp named
      refine ⟨⟨kind.keyword, some argument⟩, ?_, test?_plain kind argument⟩
      exact (ofChars?_eq_some_iff _ _).mpr ⟨kind.isKeyword_keyword, rfl⟩
  | @withArgument _ kind named argument =>
      obtain rfl := (ArgumentTest.named_iff _ kind).mp named
      refine ⟨⟨kind.keyword, some argument⟩, ?_, test?_withArgument kind argument⟩
      exact (ofChars?_eq_some_iff _ _).mpr ⟨kind.isKeyword_keyword, rfl⟩

end Segment

namespace Constraint

theorem ofChars_eq_known_iff (text : String) (test : Test) :
    ofChars text.toList = .known test ↔ Test.Names text test := by
  constructor
  · intro read
    unfold ofChars at read
    split at read
    case h_1 found said =>
      cases read
      obtain ⟨segment, segmentRead, said⟩ := Option.bind_eq_some_iff.mp said
      have written := (Segment.ofChars?_eq_some_iff _ _).mp segmentRead
      rw [String.toList_inj.mp written.2]
      exact Segment.names_of_test? said
    case h_2 => cases read
  · intro named
    obtain ⟨segment, read, said⟩ := Segment.exists_of_names named
    simp [ofChars, read, said]

/-- A segment is kept as it stands exactly when it names no test. -/
theorem ofChars_eq_unknown_iff (text segment : String) :
    ofChars text.toList = .unknown segment ↔ segment = text ∧ ∀ test, ¬ Test.Names text test := by
  constructor
  · intro read
    refine ⟨?_, ?_⟩
    · unfold ofChars at read
      split at read
      case h_1 => cases read
      case h_2 =>
        cases read
        exact String.ofList_toList
    · intro test named
      rw [(ofChars_eq_known_iff text test).mpr named] at read
      cases read
  · intro kept
    obtain ⟨rfl, unnamed⟩ := kept
    cases read : ofChars segment.toList with
    | known test => exact absurd ((ofChars_eq_known_iff segment test).mp read) (unnamed test)
    | unknown kept =>
        unfold ofChars at read
        split at read
        case h_1 => cases read
        case h_2 =>
          cases read
          exact congrArg _ String.ofList_toList

end Constraint

end FormCheck
