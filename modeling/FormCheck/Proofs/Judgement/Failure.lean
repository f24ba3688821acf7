import FormCheck.FormProperties
import FormCheck.Judgement.Field
import FormCheck.Proofs.Rule.Grammar

/-!
When an input fails and why. The causes exclude each other in a fixed order: an absent
input, a rule without directive, an absent sibling, a missing value, and the first segment
that refuses the value. Judgement finds a cause exactly when it holds.
-/

set_option autoImplicit false

namespace FormCheck

namespace Presence

/-- Whether a form has the sibling of a directive, if the directive has one. -/
def Settled (form : Form) (presence : Presence) : Prop :=
  ∀ sibling, presence.sibling? = some sibling → ∃ input, form.find? sibling = some input

/-- Whether a directive demands a value of its input. -/
inductive Demands (form : Form) : Presence → Prop where
  | always : Demands form .required
  | besideFilled {sibling : String} {input : Input} (found : form.find? sibling = some input)
      (filled : ¬ input.content.Empty) : Demands form (.requiredIf sibling)
  | besideEmpty {sibling : String} {input : Input} (found : form.find? sibling = some input)
      (empty : input.content.Empty) : Demands form (.requiredIfNot sibling)

theorem resolve_of_sibling_absent {form : Form} {presence : Presence} {sibling : String}
    (named : presence.sibling? = some sibling) (absent : form.find? sibling = none) (own : Input) :
    presence.resolve own form = .error (.defect (.siblingNotFound sibling)) := by
  simp only [resolve, siblingEmpty, named, absent]

theorem resolve_of_filled {form : Form} {presence : Presence} (settled : presence.Settled form)
    {own : Input} (filled : ¬ own.content.Empty) :
    presence.resolve own form = .ok .filled := by
  rw [← Content.isEmpty_eq_false_iff] at filled
  cases named : presence.sibling? with
  | none => simp only [resolve, siblingEmpty, named, filled, Bool.false_eq_true, if_false]
  | some sibling =>
      obtain ⟨input, found⟩ := settled sibling named
      simp only [resolve, siblingEmpty, named, found, filled, Bool.false_eq_true, if_false]

theorem resolve_of_demands {form : Form} {presence : Presence} (demanded : presence.Demands form)
    {own : Input} (empty : own.content.Empty) :
    presence.resolve own form = .error .missingValue := by
  rw [← Content.isEmpty_iff] at empty
  cases demanded with
  | always => simp only [resolve, siblingEmpty, sibling?, empty, if_true, resolveEmpty]
  | besideFilled found filled =>
      rw [← Content.isEmpty_eq_false_iff] at filled
      simp only [resolve, siblingEmpty, sibling?, found, filled, empty, if_true, resolveEmpty]
  | besideEmpty found siblingEmpty =>
      rw [← Content.isEmpty_iff] at siblingEmpty
      simp only [resolve, Presence.siblingEmpty, sibling?, found, siblingEmpty, empty, if_true,
        resolveEmpty]

theorem resolve_permitEmpty {form : Form} {own : Input} (empty : own.content.Empty) :
    permitEmpty.resolve own form = .ok .emptyPermitted := by
  rw [← Content.isEmpty_iff] at empty
  simp only [resolve, siblingEmpty, sibling?, empty, if_true, resolveEmpty]

/-- A conditional directive that demands nothing lets the constraints decide. -/
theorem resolve_of_not_demands {form : Form} {presence : Presence}
    (settled : presence.Settled form) (undemanded : ¬ presence.Demands form)
    (conditional : presence ≠ .permitEmpty) {own : Input}
    (empty : own.content.Empty) : presence.resolve own form = .ok .notRequired := by
  rw [← Content.isEmpty_iff] at empty
  cases presence with
  | required => exact absurd .always undemanded
  | permitEmpty => exact absurd rfl conditional
  | requiredIf sibling =>
      obtain ⟨input, found⟩ := settled sibling rfl
      have siblingEmpty : input.content.Empty := by
        by_contra siblingFilled
        exact undemanded (.besideFilled found siblingFilled)
      rw [← Content.isEmpty_iff] at siblingEmpty
      simp [resolve, Presence.siblingEmpty, sibling?, found, siblingEmpty, empty, resolveEmpty]
  | requiredIfNot sibling =>
      obtain ⟨input, found⟩ := settled sibling rfl
      have siblingFilled : ¬ input.content.Empty := by
        intro siblingEmpty
        exact undemanded (.besideEmpty found siblingEmpty)
      rw [← Content.isEmpty_eq_false_iff] at siblingFilled
      simp [resolve, siblingEmpty, sibling?, found, siblingFilled, empty, resolveEmpty]

/-- How an input can stand with its directive: its sibling is absent, it lacks a demanded value,
it may be empty and is, or its constraints are tested. -/
theorem standing_cases (presence : Presence) (form : Form) (content : Content) :
    (∃ sibling, presence.sibling? = some sibling ∧ form.find? sibling = none) ∨
      (content.Empty ∧ presence.Demands form) ∨
      (content.Empty ∧ presence = .permitEmpty) ∨
      (presence.Settled form ∧
        (content.Empty → presence ≠ .permitEmpty ∧ ¬ presence.Demands form)) := by
  by_cases settled : presence.Settled form
  · by_cases empty : content.Empty
    · by_cases demanded : presence.Demands form
      · exact .inr (.inl ⟨empty, demanded⟩)
      · by_cases permitted : presence = .permitEmpty
        · exact .inr (.inr (.inl ⟨empty, permitted⟩))
        · exact .inr (.inr (.inr ⟨settled, fun _ => ⟨permitted, demanded⟩⟩))
    · exact .inr (.inr (.inr ⟨settled, fun isEmpty => absurd isEmpty empty⟩))
  · obtain ⟨sibling, unsettled⟩ := Classical.not_forall.mp settled
    obtain ⟨named, missing⟩ := Classical.not_imp.mp unsettled
    refine .inl ⟨sibling, named, ?_⟩
    exact Option.eq_none_iff_forall_ne_some.mpr fun input found => missing ⟨input, found⟩

end Presence

/-- A test that does not look at the box looks at the value alone. -/
theorem Test.holds_of_value {test : Test} (content : Content) (valued : test ≠ .plain .unchecked) :
    test.holds content = test.holds (.text content.value) := by
  cases test with
  | plain kind =>
      cases kind with
      | unchecked => exact absurd rfl valued
      | email | numeric | date => rfl
  | withArgument kind argument => rfl

theorem Test.not_holds_unchecked_iff (content : Content) :
    ¬ holds content (.plain .unchecked) = true ↔ ∃ value, content = .checkbox true value := by
  cases content with
  | text value => simp [holds, holdsPlain, Content.isChecked]
  | checkbox checked value => simp [holds, holdsPlain, Content.isChecked]

/-- What a segment of a rule finds wrong with a content. The test for being unchecked refuses
every checked box and nothing else, any other test the values that it does not accept of a
text input. A segment that names no test refuses every content. -/
inductive Refuses (content : Content) : String → Finding → Prop where
  | checked {segment value : String} (box : content = .checkbox true value)
      (named : Test.Names segment (.plain .unchecked)) :
      Refuses content segment (.refused (.plain .unchecked))
  | failed {segment : String} {test : Test} (named : Test.Names segment test)
      (valued : test ≠ .plain .unchecked) (fails : ¬ test.Accepts content.value) :
      Refuses content segment (.refused test)
  | unknown {segment : String} (unnamed : ∀ test, ¬ Test.Names segment test) :
      Refuses content segment (.defect (.unknownTest segment))

/-- What the leftmost refusing segment finds wrong with a content. -/
def FirstRefusal (content : Content) (segments : List String) (finding : Finding) : Prop :=
  ∃ before segment behind, segments = before ++ segment :: behind ∧
    Refuses content segment finding ∧ ∀ earlier ∈ before, ∀ other, ¬ Refuses content earlier other

theorem constraint_finding?_iff (content : Content) (segment : String) (finding : Finding) :
    (Constraint.ofChars segment.toList).finding? content = some finding ↔
      Refuses content segment finding := by
  constructor
  · intro found
    cases read : Constraint.ofChars segment.toList with
    | known test =>
        have named := (Constraint.ofChars_eq_known_iff segment test).mp read
        rw [read, Constraint.finding?] at found
        split at found
        case isTrue => cases found
        case isFalse fails =>
          cases found
          by_cases valued : test = .plain .unchecked
          · subst valued
            obtain ⟨value, box⟩ := (Test.not_holds_unchecked_iff content).mp fails
            exact .checked box named
          · rw [Test.holds_of_value content valued, ← Test.accepts_iff] at fails
            exact .failed named valued fails
    | unknown kept =>
        obtain ⟨rfl, unnamed⟩ := (Constraint.ofChars_eq_unknown_iff segment kept).mp read
        rw [read] at found
        cases found
        exact .unknown unnamed
  · intro refused
    cases refused with
    | checked box named =>
        subst box
        rw [(Constraint.ofChars_eq_known_iff _ _).mpr named]
        rfl
    | failed named valued fails =>
        rw [(Constraint.ofChars_eq_known_iff _ _).mpr named, Constraint.finding?,
          Test.holds_of_value content valued, if_neg (mt (Test.accepts_iff _ _).mpr fails)]
    | unknown unnamed =>
        rw [(Constraint.ofChars_eq_unknown_iff segment segment).mpr ⟨rfl, unnamed⟩]
        rfl

theorem firstFinding?_iff (content : Content) (segments : List String) (finding : Finding) :
    firstFinding? content (segments.map fun segment => Constraint.ofChars segment.toList) =
        some finding ↔ FirstRefusal content segments finding := by
  have passes (segment : String) :
      (Constraint.ofChars segment.toList).finding? content = none ↔
        ∀ other, ¬ Refuses content segment other := by
    rw [Option.eq_none_iff_forall_ne_some]
    simp only [ne_eq, constraint_finding?_iff]
  unfold firstFinding? FirstRefusal
  rw [List.findSome?_map, List.findSome?_eq_some_iff]
  simp only [Function.comp_apply, constraint_finding?_iff, passes]

/-- Why an input that is judged by a rule fails. -/
inductive Fails (form : Form) (id rule : String) : Finding → Prop where
  | absent (missing : form.find? id = none) : Fails form id rule (.absent id)
  | noPresence {input : Input} (found : form.find? id = some input)
      (unopened : ¬ ∃ presence segments, Rule.Opens rule presence segments) :
      Fails form id rule (.defect .noPresence)
  | siblingNotFound {input : Input} {presence : Presence} {segments : List String}
      {sibling : String} (found : form.find? id = some input)
      (opens : Rule.Opens rule presence segments) (named : presence.sibling? = some sibling)
      (missing : form.find? sibling = none) :
      Fails form id rule (.defect (.siblingNotFound sibling))
  | missingValue {input : Input} {presence : Presence} {segments : List String}
      (found : form.find? id = some input) (opens : Rule.Opens rule presence segments)
      (empty : input.content.Empty) (demanded : presence.Demands form) :
      Fails form id rule .missingValue
  | refused {input : Input} {presence : Presence} {segments : List String} {finding : Finding}
      (found : form.find? id = some input) (opens : Rule.Opens rule presence segments)
      (settled : presence.Settled form)
      (tested : input.content.Empty → presence ≠ .permitEmpty ∧ ¬ presence.Demands form)
      (first : FirstRefusal input.content segments finding) : Fails form id rule finding

namespace Form

theorem finding?_of_tested {form : Form} {id rule : String} {input : Input} {presence : Presence}
    {segments : List String} (found : form.find? id = some input)
    (opens : Rule.Opens rule presence segments) (settled : presence.Settled form)
    (tested : input.content.Empty → presence ≠ .permitEmpty ∧ ¬ presence.Demands form) :
    form.finding? id rule = firstFinding? input.content
      (segments.map fun segment => Constraint.ofChars segment.toList) := by
  by_cases empty : input.content.Empty
  · obtain ⟨conditional, undemanded⟩ := tested empty
    simp only [finding?, found, Rule.parse_of_opens opens,
      Presence.resolve_of_not_demands settled undemanded conditional empty,
      Standing.runsConstraints, if_true]
  · simp only [finding?, found, Rule.parse_of_opens opens,
      Presence.resolve_of_filled settled empty, Standing.runsConstraints, if_true]

theorem finding?_of_fails {form : Form} {id rule : String} {finding : Finding}
    (fails : Fails form id rule finding) : form.finding? id rule = some finding := by
  cases fails with
  | absent missing => simp only [finding?, missing]
  | noPresence found unopened =>
      have failed := (Rule.parse_eq_error_iff rule .noPresence).mpr ⟨rfl, unopened⟩
      simp only [finding?, found, failed]
  | siblingNotFound found opens named missing =>
      simp only [finding?, found, Rule.parse_of_opens opens,
        Presence.resolve_of_sibling_absent named missing]
  | missingValue found opens empty demanded =>
      simp only [finding?, found, Rule.parse_of_opens opens,
        Presence.resolve_of_demands demanded empty]
  | refused found opens settled tested first =>
      rw [finding?_of_tested found opens settled tested]
      exact (firstFinding?_iff _ _ _).mpr first

theorem finding?_of_permitEmpty {form : Form} {id rule : String} {input : Input}
    {segments : List String} (found : form.find? id = some input)
    (opens : Rule.Opens rule .permitEmpty segments) (empty : input.content.Empty) :
    form.finding? id rule = none := by
  simp only [finding?, found, Rule.parse_of_opens opens, Presence.resolve_permitEmpty empty,
    Standing.runsConstraints, Bool.false_eq_true, if_false]

theorem fails_of_opens {form : Form} {id rule : String} {input : Input} {presence : Presence}
    {segments : List String} {finding : Finding} (found : form.find? id = some input)
    (opens : Rule.Opens rule presence segments) (failed : form.finding? id rule = some finding) :
    Fails form id rule finding := by
  have only {cause : Finding} (fails : Fails form id rule cause) : Fails form id rule finding := by
    rw [finding?_of_fails fails] at failed
    cases failed
    exact fails
  rcases presence.standing_cases form input.content with
    ⟨sibling, named, missing⟩ | ⟨empty, demanded⟩ | ⟨empty, rfl⟩ | ⟨settled, tested⟩
  · exact only (.siblingNotFound found opens named missing)
  · exact only (.missingValue found opens empty demanded)
  · rw [finding?_of_permitEmpty found opens empty] at failed
    cases failed
  · rw [finding?_of_tested found opens settled tested, firstFinding?_iff] at failed
    exact .refused found opens settled tested failed

theorem fails_of_finding? {form : Form} {id rule : String} {finding : Finding}
    (failed : form.finding? id rule = some finding) : Fails form id rule finding := by
  cases found : form.find? id with
  | none =>
      simp only [finding?, found, Option.some.injEq] at failed
      subst finding
      exact .absent found
  | some input =>
      cases read : Rule.parse rule with
      | error defect =>
          obtain ⟨rfl, unopened⟩ := (Rule.parse_eq_error_iff rule defect).mp read
          simp only [finding?, found, read, Option.some.injEq] at failed
          subst finding
          exact .noPresence found unopened
      | ok parsed =>
          obtain ⟨segments, opens, _⟩ := Rule.opens_of_parse read
          exact fails_of_opens found opens failed

/-- Judgement finds exactly the cause for which an input fails. -/
theorem finding?_eq_some_iff (form : Form) (id rule : String) (finding : Finding) :
    form.finding? id rule = some finding ↔ Fails form id rule finding :=
  ⟨fails_of_finding?, finding?_of_fails⟩

end Form

end FormCheck
