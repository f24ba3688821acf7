import FormCheck.Proofs.Rule.Reading
import FormCheck.Proofs.Rule.RoundTrip

/-!
The written form of a rule beside the text that the rule was read from. Reading forgets one
thing only: the argument of a test that takes none. So the written form is the text without
such arguments, and to write out what was read from it changes nothing more.
-/

set_option autoImplicit false

namespace FormCheck

/-- Whether a segment gives an argument to a test that takes none. -/
def Test.IgnoresArgument (segment : String) : Prop :=
  ∃ word kind argument, PlainTest.Named word kind ∧ segment = word ++ "[" ++ argument ++ "]"

namespace Constraint

/-- What becomes of a segment when a rule is read and written out again. -/
inductive Rewritten : String → String → Prop where
  | shortened {word : String} {kind : PlainTest} (named : PlainTest.Named word kind)
      (argument : String) : Rewritten (word ++ "[" ++ argument ++ "]") word
  | kept {segment : String} (needed : ¬ Test.IgnoresArgument segment) : Rewritten segment segment

theorem source_of_denoted {segment : String} {constraint : Constraint}
    (denoted : Denoted segment constraint) (needed : ¬ Test.IgnoresArgument segment) :
    constraint.source = segment := by
  cases denoted with
  | unknown => rfl
  | known named =>
      cases named with
      | plain named => exact ((PlainTest.named_iff _ _).mp named).symm
      | plainIgnoring named argument => exact absurd ⟨_, _, argument, named, rfl⟩ needed
      | withArgument named argument =>
          rw [(ArgumentTest.named_iff _ _).mp named]
          rfl

/-- The written form of a test that was given an argument in vain is its keyword. -/
theorem source_ofChars_ignoring {word : String} {kind : PlainTest}
    (named : PlainTest.Named word kind) (argument : String) :
    (ofChars (word ++ "[" ++ argument ++ "]").toList).source = word := by
  rw [(ofChars_eq_known_iff _ _).mpr (.plainIgnoring named argument)]
  exact ((PlainTest.named_iff word kind).mp named).symm

theorem source_ofChars {segment : String} (needed : ¬ Test.IgnoresArgument segment) :
    (ofChars segment.toList).source = segment :=
  source_of_denoted ((denoted_iff segment _).mpr rfl) needed

/-- A constraint is written as it was read unless it was given an argument in vain. -/
theorem source_ofChars_eq_iff (segment : String) :
    (ofChars segment.toList).source = segment ↔ ¬ Test.IgnoresArgument segment := by
  refine ⟨?_, source_ofChars⟩
  intro same ignoring
  obtain ⟨word, kind, argument, named, rfl⟩ := ignoring
  rw [source_ofChars_ignoring named] at same
  have lengths := congrArg String.length same
  simp only [String.length_append] at lengths
  have bracket : "[".length = 1 := rfl
  omega

theorem rewritten_source (segment : String) :
    Rewritten segment (ofChars segment.toList).source := by
  by_cases ignoring : Test.IgnoresArgument segment
  · obtain ⟨word, kind, argument, named, rfl⟩ := ignoring
    rw [source_ofChars_ignoring named]
    exact .shortened named argument
  · rw [source_ofChars ignoring]
    exact .kept ignoring

end Constraint

namespace Rule

/-- How the written form of a rule, cut at its bars, stands to the text that the rule was
read from. -/
structure WrittenBack (text : String) (rule : Rule) (first : String)
    (segments written : List String) : Prop where
  cut : Cut text first segments
  sourceCut : Cut rule.source first written
  segmentwise : List.Forall₂ Constraint.Rewritten segments written
  unchanged : rule.source = text ↔ ∀ segment ∈ segments, ¬ Test.IgnoresArgument segment
  /-- Reading the written form and writing it out again gives the written form. -/
  stable : (parse rule.source).map Rule.source = .ok rule.source

theorem cut_source_of_parse {text : String} {rule : Rule} (read : parse text = .ok rule) :
    Cut rule.source rule.presence.source (rule.constraints.map Constraint.source) :=
  (opens_source (writable_of_parse read)).cut

/-- Cut texts of the same first piece are equal if their segments are. -/
theorem Cut.eq_iff {text other first : String} {segments others : List String}
    (cut : Cut text first segments) (otherCut : Cut other first others) :
    other = text ↔ others = segments := by
  constructor
  · intro same
    subst same
    exact (cut.unique otherCut).2
  · intro same
    rw [cut.written, otherCut.written, same]

/-- The written form of a rule is the text that it was read from, without the arguments of
tests that take none. -/
theorem source_of_parse {text : String} {rule : Rule} (read : parse text = .ok rule) :
    ∃ first segments written, WrittenBack text rule first segments written := by
  obtain ⟨segments, opens, shape⟩ := opens_of_parse read
  have sourceCut := cut_source_of_parse read
  refine ⟨rule.presence.source, segments, rule.constraints.map Constraint.source, opens.cut,
    sourceCut, ?_, ?_, ?_⟩
  · rw [shape, List.map_map, List.forall₂_map_right_iff, List.forall₂_same]
    intro segment _
    exact Constraint.rewritten_source segment
  · have pointwise : (segments.map fun segment => (Constraint.ofChars segment.toList).source) =
        segments.map id ↔ ∀ segment ∈ segments, ¬ Test.IgnoresArgument segment := by
      simp only [List.map_inj_left, id_eq, Constraint.source_ofChars_eq_iff]
    rw [List.map_id] at pointwise
    rw [opens.cut.eq_iff sourceCut, shape, List.map_map]
    exact pointwise
  · rw [parse_source (writable_of_parse read)]
    rfl

theorem source_of_parse_ignoring :
    parse "required_if[a[b]|email[x]|shiny[|length[3]||date[]]" =
        .ok ⟨.requiredIf "a[b", [.known (.plain .email), .unknown "shiny[",
          .known (.withArgument .length "3"), .unknown "", .known (.plain .date)]⟩ ∧
      ∃ first segments written,
        WrittenBack "required_if[a[b]|email[x]|shiny[|length[3]||date[]]"
          ⟨.requiredIf "a[b", [.known (.plain .email), .unknown "shiny[",
            .known (.withArgument .length "3"), .unknown "", .known (.plain .date)]⟩
          first segments written :=
  ⟨by decide, source_of_parse (by decide)⟩

-- What names no test is written as it stood, empty and unclosed segments included.
example : (parse "required|email[x]|shiny[|length[3]||date[]]").map source =
    .ok "required|email|shiny[|length[3]||date" := by
  decide

end Rule

end FormCheck
