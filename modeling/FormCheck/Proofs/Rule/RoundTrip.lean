import FormCheck.Proofs.Rule.Grammar

/-!
Writing a rule and reading it back. The rules that come back as they were are those that
keep the bar to itself and do not pass a known test off as unknown, and reading makes no
others. So a rule that was read once is read the same way ever after.
-/

set_option autoImplicit false

namespace FormCheck

theorem Segment.IsKeyword.bare {word : String} (keyword : Segment.IsKeyword word) :
    Rule.separator ∉ word.toList := by
  intro member
  exact absurd (keyword.2 Rule.separator member) (by decide)

theorem Segment.bare_source_iff (segment : Segment) (keyword : IsKeyword segment.keyword) :
    Rule.separator ∉ segment.source.toList ↔
      ∀ argument, segment.argument = some argument → Rule.separator ∉ argument.toList := by
  obtain ⟨word, argument⟩ := segment
  have keywordBare : Rule.separator ∉ word.toList := keyword.bare
  cases argument with
  | none => simpa [source] using keywordBare
  | some argument =>
      rw [source_argument]
      simp only [List.mem_append, keywordBare, false_or, Option.some.injEq, forall_eq']
      simp [Rule.separator]

theorem Presence.bare_source_iff (presence : Presence) :
    Rule.separator ∉ presence.source.toList ↔
      ∀ sibling, presence.sibling? = some sibling → Rule.separator ∉ sibling.toList := by
  rw [← source_segment]
  exact Segment.bare_source_iff presence.segment presence.isKeyword_keyword

/-- Whether a constraint can be told from its written form: its argument has no bar, and
what it keeps as unknown names no test. -/
def Constraint.Writable : Constraint → Prop
  | .known (.plain _) => True
  | .known (.withArgument _ argument) => Rule.separator ∉ argument.toList
  | .unknown segment => Rule.separator ∉ segment.toList ∧ ∀ test, ¬ Test.Names segment test

namespace Constraint

theorem bare_source {constraint : Constraint} (writable : constraint.Writable) :
    Rule.separator ∉ constraint.source.toList := by
  cases constraint with
  | known test =>
      cases test with
      | plain kind => exact kind.isKeyword_keyword.bare
      | withArgument kind argument =>
          refine (Segment.bare_source_iff ⟨kind.keyword, some argument⟩
            kind.isKeyword_keyword).mpr ?_
          intro other same
          cases same
          exact writable
  | unknown segment => exact writable.1

theorem ofChars_source {constraint : Constraint} (writable : constraint.Writable) :
    ofChars constraint.source.toList = constraint := by
  cases constraint with
  | known test =>
      refine (ofChars_eq_known_iff _ test).mpr ?_
      cases test with
      | plain kind => exact .plain kind.named_keyword
      | withArgument kind argument => exact .withArgument kind.named_keyword argument
  | unknown segment => exact (ofChars_eq_unknown_iff _ _).mpr ⟨rfl, writable.2⟩

theorem writable_ofChars {segment : String} (bare : Rule.separator ∉ segment.toList) :
    (ofChars segment.toList).Writable := by
  cases read : ofChars segment.toList with
  | known test =>
      cases test with
      | plain kind => exact trivial
      | withArgument kind argument =>
          have named := (ofChars_eq_known_iff segment _).mp read
          cases named with
          | withArgument named =>
              obtain rfl := (ArgumentTest.named_iff _ kind).mp named
              exact (Segment.bare_source_iff ⟨kind.keyword, some argument⟩
                kind.isKeyword_keyword).mp bare argument rfl
  | unknown kept =>
      obtain ⟨rfl, unnamed⟩ := (ofChars_eq_unknown_iff segment kept).mp read
      exact ⟨bare, unnamed⟩

end Constraint

namespace Rule

/-- Whether a rule can be told from its written form. -/
structure Writable (rule : Rule) : Prop where
  presence : ∀ sibling, rule.presence.sibling? = some sibling → separator ∉ sibling.toList
  constraints : ∀ constraint ∈ rule.constraints, constraint.Writable

theorem source_eq (rule : Rule) :
    rule.source = rule.presence.source ++
      String.join ((rule.constraints.map Constraint.source).map ("|" ++ ·)) := by
  rw [← String.toList_inj, toList_joined, List.map_map, source, String.toList_ofList]
  rfl

theorem opens_source {rule : Rule} (writable : rule.Writable) :
    Opens rule.source rule.presence (rule.constraints.map Constraint.source) := by
  refine ⟨rule.source_eq, rule.presence.bare_source_iff.mpr writable.presence, ?_⟩
  intro segment member
  obtain ⟨constraint, listed, rfl⟩ := List.mem_map.mp member
  exact Constraint.bare_source (writable.constraints constraint listed)

theorem parse_source {rule : Rule} (writable : rule.Writable) :
    parse rule.source = .ok rule := by
  rw [parse_of_opens (opens_source writable)]
  have readBack : (rule.constraints.map Constraint.source).map
      (fun segment => Constraint.ofChars segment.toList) = rule.constraints := by
    rw [List.map_map]
    refine (List.map_congr_left ?_).trans (List.map_id _)
    intro constraint listed
    exact Constraint.ofChars_source (writable.constraints constraint listed)
  rw [readBack]

theorem writable_of_parse {text : String} {rule : Rule} (read : parse text = .ok rule) :
    rule.Writable := by
  obtain ⟨segments, opens, shape⟩ := opens_of_parse read
  refine ⟨rule.presence.bare_source_iff.mp opens.directive, ?_⟩
  intro constraint member
  rw [shape] at member
  obtain ⟨segment, listed, rfl⟩ := List.mem_map.mp member
  exact Constraint.writable_ofChars (opens.bare segment listed)

/-- Reading undoes writing on exactly the rules that reading makes, which are those that
can be told from their written form. -/
theorem parse_source_iff_writable (rule : Rule) :
    (parse rule.source = .ok rule ↔ rule.Writable) ∧
      ∀ text, parse text = .ok rule → rule.Writable ∧ parse rule.source = parse text := by
  refine ⟨⟨writable_of_parse, parse_source⟩, ?_⟩
  intro text read
  have writable := writable_of_parse read
  exact ⟨writable, (parse_source writable).trans read.symm⟩

-- Neither rule comes back: a bar cuts the argument, and the kept segment names a test.
example : parse (source ⟨.required, [.known (.withArgument .inList "a|b")]⟩) =
    .ok ⟨.required, [.unknown "in_list[a", .unknown "b]"]⟩ := by
  decide

example : parse (source ⟨.required, [.unknown "email[x]"]⟩) =
    .ok ⟨.required, [.known (.plain .email)]⟩ := by
  decide

end Rule

end FormCheck
