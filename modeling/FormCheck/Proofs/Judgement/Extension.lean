import FormCheck.Proofs.Judgement.Failure

/-!
Rules with further segments behind them. A rule that fails goes on to fail in the same way, and
one that lets an empty input pass untested goes on to do so; otherwise the further segments
decide, as if they stood alone.
-/

set_option autoImplicit false

namespace FormCheck

namespace Form

/-- The form with the mark that an input gets when it fails, if marking is on. -/
def withMark (form : Form) (id : String) : Option String → Form
  | none => form
  | some marker => form.mark id marker

theorem judge_of_passed {form : Form} {id rule : String} (passed : form.finding? id rule = none)
    (marker : Option String) : form.judge id rule marker = (none, form) := by
  simp only [judge, passed]
  cases marker with
  | none => rfl
  | some marker => rfl

theorem judge_of_marks {form : Form} {id rule : String} {finding : Finding}
    (failed : form.finding? id rule = some finding) (marks : finding.marksInput = true)
    (marker : Option String) :
    form.judge id rule marker = (some finding, form.withMark id marker) := by
  simp only [judge, failed]
  cases marker with
  | none => rfl
  | some marker => simp only [markFor, Option.any_some, marks, if_true, withMark]

theorem judge_of_spares {form : Form} {id rule : String} {finding : Finding}
    (failed : form.finding? id rule = some finding) (spares : finding.marksInput = false)
    (marker : Option String) : form.judge id rule marker = (some finding, form) := by
  simp only [judge, failed]
  cases marker with
  | none => rfl
  | some marker => simp only [markFor, Option.any_some, spares, Bool.false_eq_true, if_false]

theorem judge_congr {form : Form} {id rule other : String}
    (same : form.finding? id rule = form.finding? id other) (marker : Option String) :
    form.judge id rule marker = form.judge id other marker := by
  simp only [judge, same]

end Form

theorem Refuses.marksInput {content : Content} {segment : String} {finding : Finding}
    (refused : Refuses content segment finding) : finding.marksInput = true := by
  cases refused with
  | checked | failed | unknown => rfl

theorem FirstRefusal.marksInput {content : Content} {segments : List String} {finding : Finding}
    (first : FirstRefusal content segments finding) : finding.marksInput = true := by
  obtain ⟨_, segment, _, _, refused, _⟩ := first
  exact refused.marksInput

/-- The first refusal is not affected by what stands behind it. -/
theorem FirstRefusal.append {content : Content} {segments : List String} {finding : Finding}
    (first : FirstRefusal content segments finding) (others : List String) :
    FirstRefusal content (segments ++ others) finding := by
  obtain ⟨before, segment, behind, rfl, refused, earlier⟩ := first
  refine ⟨before, segment, behind ++ others, ?_, refused, earlier⟩
  rw [List.append_assoc, List.cons_append]

theorem firstFinding?_eq_none_iff (content : Content) (segments : List String) :
    firstFinding? content (segments.map fun segment => Constraint.ofChars segment.toList) = none ↔
      ∀ segment ∈ segments, ∀ finding, ¬ Refuses content segment finding := by
  unfold firstFinding?
  rw [List.findSome?_eq_none_iff]
  simp only [List.forall_mem_map, Option.eq_none_iff_forall_ne_some, ne_eq, constraint_finding?_iff]

/-- What testing a content by the segments of a rule, from left to right, makes of an input. -/
inductive Tested (form : Form) (id : String) (marker : Option String) (content : Content)
    (segments : List String) : Option Finding × Form → Prop where
  | refused {finding : Finding} (first : FirstRefusal content segments finding) :
      Tested form id marker content segments (some finding, form.withMark id marker)
  | passed (accepted : ∀ segment ∈ segments, ∀ finding, ¬ Refuses content segment finding) :
      Tested form id marker content segments (none, form)

theorem tested_judge {form : Form} {id rule : String} {content : Content} {segments : List String}
    (decided : form.finding? id rule = firstFinding? content
      (segments.map fun segment => Constraint.ofChars segment.toList)) (marker : Option String) :
    Tested form id marker content segments (form.judge id rule marker) := by
  cases outcome : form.finding? id rule with
  | none =>
      rw [Form.judge_of_passed outcome]
      rw [outcome, eq_comm, firstFinding?_eq_none_iff] at decided
      exact .passed decided
  | some finding =>
      rw [outcome, eq_comm, firstFinding?_iff] at decided
      rw [Form.judge_of_marks outcome decided.marksInput]
      exact .refused decided

/-! ## A rule and its extension -/

theorem Rule.Opens.append {rule more first : String} {presence : Presence}
    {segments others : List String} (opens : Opens rule presence segments)
    (cut : Cut more first others) :
    Opens (rule ++ "|" ++ more) presence (segments ++ first :: others) :=
  (opens.cut.append cut).opens

/-- A rule opens with the directive with which any extension of it opens. -/
theorem Rule.opens_of_append {rule more : String} {presence : Presence} {segments : List String}
    (opens : Opens (rule ++ "|" ++ more) presence segments) :
    ∃ earlier, Opens rule presence earlier := by
  obtain ⟨first, earlier, cut⟩ := exists_cut rule
  obtain ⟨_, _, otherCut⟩ := exists_cut more
  have same := (opens.cut.unique (cut.append otherCut)).1
  subst same
  exact ⟨earlier, cut.opens⟩

/-- What makes an input fail by a rule makes it fail by every extension of the rule. -/
theorem Fails.append {form : Form} {id rule : String} {finding : Finding}
    (fails : Fails form id rule finding) (more : String) :
    Fails form id (rule ++ "|" ++ more) finding := by
  obtain ⟨first, others, cut⟩ := Rule.exists_cut more
  cases fails with
  | absent missing => exact .absent missing
  | noPresence found unopened =>
      refine .noPresence found fun opened => unopened ?_
      obtain ⟨presence, segments, opens⟩ := opened
      exact ⟨presence, Rule.opens_of_append opens⟩
  | siblingNotFound found opens named missing =>
      exact .siblingNotFound found (opens.append cut) named missing
  | missingValue found opens empty demanded =>
      exact .missingValue found (opens.append cut) empty demanded
  | refused found opens settled tested refusal =>
      exact .refused found (opens.append cut) settled tested (refusal.append _)

namespace Form

/-- Whether a rule lets an empty input pass without testing it. -/
def PassesOver (form : Form) (id rule : String) : Prop :=
  (∃ segments, Rule.Opens rule .permitEmpty segments) ∧
    ∃ input, form.find? id = some input ∧ input.content.Empty

theorem PassesOver.passed {form : Form} {id rule : String}
    (passedOver : form.PassesOver id rule) : form.finding? id rule = none := by
  obtain ⟨⟨segments, opens⟩, input, found, empty⟩ := passedOver
  exact finding?_of_permitEmpty found opens empty

theorem PassesOver.append {form : Form} {id rule : String} (passedOver : form.PassesOver id rule)
    (more : String) : form.PassesOver id (rule ++ "|" ++ more) := by
  obtain ⟨⟨segments, opens⟩, empty⟩ := passedOver
  obtain ⟨first, others, cut⟩ := Rule.exists_cut more
  exact ⟨⟨_, opens.append cut⟩, empty⟩

/-- An input that passes a rule and is not passed over has been tested by its segments. -/
theorem tested_of_passed {form : Form} {id rule : String} (passed : form.finding? id rule = none)
    (regarded : ¬ form.PassesOver id rule) :
    ∃ input presence segments, form.find? id = some input ∧ Rule.Opens rule presence segments ∧
      presence.Settled form ∧
      (input.content.Empty → presence ≠ .permitEmpty ∧ ¬ presence.Demands form) := by
  have sound {finding : Finding} (fails : Fails form id rule finding) : False := by
    rw [finding?_of_fails fails] at passed
    cases passed
  cases found : form.find? id with
  | none => exact absurd (.absent found) sound
  | some input =>
      by_cases opened : ∃ presence segments, Rule.Opens rule presence segments
      · obtain ⟨presence, segments, opens⟩ := opened
        rcases presence.standing_cases form input.content with
          ⟨sibling, named, missing⟩ | ⟨empty, demanded⟩ | ⟨empty, rfl⟩ | ⟨settled, tested⟩
        · exact absurd (.siblingNotFound found opens named missing) sound
        · exact absurd (.missingValue found opens empty demanded) sound
        · exact absurd ⟨⟨segments, opens⟩, input, found, empty⟩ regarded
        · exact ⟨input, presence, segments, rfl, opens, settled, tested⟩
      · exact absurd (.noPresence found opened) sound

/-- Behind a rule that an input passes after being tested, further segments decide alone. -/
theorem finding?_append {form : Form} {id rule more first : String} {others : List String}
    (passed : form.finding? id rule = none) (regarded : ¬ form.PassesOver id rule)
    (cut : Rule.Cut more first others) :
    ∃ input, form.find? id = some input ∧ form.finding? id (rule ++ "|" ++ more) =
      firstFinding? input.content
        ((first :: others).map fun segment => Constraint.ofChars segment.toList) := by
  obtain ⟨input, presence, segments, found, opens, settled, tested⟩ :=
    tested_of_passed passed regarded
  refine ⟨input, found, ?_⟩
  rw [finding?_of_tested found opens settled tested] at passed
  rw [finding?_of_tested found (opens.append cut) settled tested, firstFinding?, List.map_append,
    List.findSome?_append]
  unfold firstFinding? at passed
  rw [passed, Option.none_or]
  rfl

/-- What a rule with more text behind a bar makes of an input, beside the rule alone. -/
structure Extends (form : Form) (id : String) (marker : Option String) (rule more : String) :
    Prop where
  /-- Nothing behind a rule that has decided is looked at. -/
  decided : (form.judge id rule marker).1 ≠ none ∨ form.PassesOver id rule →
    form.judge id (rule ++ "|" ++ more) marker = form.judge id rule marker
  /-- Otherwise the leftmost segment behind the bar that refuses the content decides. -/
  undecided : (form.judge id rule marker).1 = none → ¬ form.PassesOver id rule →
    ∃ input first others, form.find? id = some input ∧ Rule.Cut more first others ∧
      Tested form id marker input.content (first :: others)
        (form.judge id (rule ++ "|" ++ more) marker)
  failing : (form.judge id rule marker).1 ≠ none →
    (form.judge id (rule ++ "|" ++ more) marker).1 ≠ none

/-- Rule texts compose from left to right. -/
theorem judge_extends (form : Form) (id : String) (marker : Option String) (rule more : String) :
    form.Extends id marker rule more := by
  have decided : (form.judge id rule marker).1 ≠ none ∨ form.PassesOver id rule →
      form.judge id (rule ++ "|" ++ more) marker = form.judge id rule marker := by
    intro outcome
    apply judge_congr
    rcases outcome with failed | passedOver
    · obtain ⟨finding, failed⟩ := Option.ne_none_iff_exists'.mp failed
      have fails := fails_of_finding? failed
      rw [finding?_of_fails fails, finding?_of_fails (fails.append more)]
    · rw [passedOver.passed, (passedOver.append more).passed]
  refine ⟨decided, ?_, ?_⟩
  · intro passed regarded
    obtain ⟨first, others, cut⟩ := Rule.exists_cut more
    obtain ⟨input, found, tested⟩ := finding?_append passed regarded cut
    exact ⟨input, first, others, found, cut, tested_judge tested marker⟩
  · intro failed
    rw [decided (.inl failed)]
    exact failed

-- A bracket left open does not keep the bar behind it from ending the segment.
example : (empty.insert "a" (.text "x")).finding? "a" "required|in_list[x|x]" =
    (empty.insert "a" (.text "x")).finding? "a" "required|in_list[x" := by
  decide

end Form

end FormCheck
