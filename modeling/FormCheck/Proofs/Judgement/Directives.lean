import FormCheck.Proofs.Judgement.Extension
import FormCheck.Proofs.Rule.RoundTrip

/-!
The presence directives by their strength. Before the same segments, a rule that requires a value
accepts what both conditional rules accept, and a rule that permits the input to be empty accepts
whatever one of the others accepts. They differ on empty inputs only, and there the sibling says
which of the two conditional directives demands a value.
-/

set_option autoImplicit false

namespace FormCheck

namespace Rule

theorem exists_cut_tail {tail : String} (starts : tail = "" ∨ ∃ rest, tail = "|" ++ rest) :
    ∃ segments, Cut tail "" segments := by
  have nothing : Cut "" "" [] := ⟨rfl, List.not_mem_nil, List.forall_mem_nil _⟩
  rcases starts with rfl | ⟨rest, rfl⟩
  · exact ⟨[], nothing⟩
  · obtain ⟨first, others, cut⟩ := exists_cut rest
    exact ⟨_, nothing.append cut⟩

theorem opens_directive (presence : Presence) {tail : String} {segments : List String}
    (bare : ∀ sibling, presence.sibling? = some sibling → separator ∉ sibling.toList)
    (cut : Cut tail "" segments) : Opens (presence.source ++ tail) presence segments := by
  refine ⟨?_, presence.bare_source_iff.mpr bare, cut.bare⟩
  rw [cut.written, String.empty_append]

end Rule

theorem Presence.settled_of_alone {presence : Presence} (alone : presence.sibling? = none)
    (form : Form) : presence.Settled form := by
  intro sibling named
  rw [alone] at named
  cases named

section

variable {form : Form} {sibling : String} {other : Input}

theorem Presence.settled_of_found {presence : Presence} (named : presence.sibling? = some sibling)
    (found : form.find? sibling = some other) : presence.Settled form := by
  intro name otherNamed
  rw [named] at otherNamed
  cases otherNamed
  exact ⟨other, found⟩

theorem Presence.demands_requiredIf_iff (found : form.find? sibling = some other) :
    (Presence.requiredIf sibling).Demands form ↔ ¬ other.content.Empty := by
  constructor
  · intro demanded
    cases demanded with
    | besideFilled otherFound filled =>
        rw [found] at otherFound
        cases otherFound
        exact filled
  · exact .besideFilled found

theorem Presence.demands_requiredIfNot_iff (found : form.find? sibling = some other) :
    (Presence.requiredIfNot sibling).Demands form ↔ other.content.Empty := by
  constructor
  · intro demanded
    cases demanded with
    | besideEmpty otherFound empty =>
        rw [found] at otherFound
        cases otherFound
        exact empty
  · exact .besideEmpty found

end

theorem Tested.ne_missingValue {form : Form} {id : String} {marker : Option String}
    {content : Content} {segments : List String} {outcome : Option Finding × Form}
    (tested : Tested form id marker content segments outcome) : outcome.1 ≠ some .missingValue := by
  cases tested with
  | refused first =>
      obtain ⟨_, segment, _, _, refused, _⟩ := first
      intro missing
      cases missing
      cases refused
  | passed => exact (Option.some_ne_none _).symm

namespace Form

/-! ## One directive -/

section

variable {form : Form} {id rule : String} {input : Input} {presence : Presence}
  {segments : List String}

/-- A filled input is tested whatever the directive. -/
theorem finding?_of_filled (found : form.find? id = some input)
    (opens : Rule.Opens rule presence segments) (settled : presence.Settled form)
    (filled : ¬ input.content.Empty) :
    form.finding? id rule = firstFinding? input.content
      (segments.map fun segment => Constraint.ofChars segment.toList) :=
  finding?_of_tested found opens settled fun empty => absurd empty filled

theorem judge_of_demands (found : form.find? id = some input)
    (opens : Rule.Opens rule presence segments) (empty : input.content.Empty)
    (demanded : presence.Demands form) (marker : Option String) :
    form.judge id rule marker = (some .missingValue, form.withMark id marker) :=
  judge_of_marks (finding?_of_fails (.missingValue found opens empty demanded)) rfl marker

theorem judge_of_sibling_absent {sibling : String} (found : form.find? id = some input)
    (opens : Rule.Opens rule presence segments) (named : presence.sibling? = some sibling)
    (missing : form.find? sibling = none) (marker : Option String) :
    form.judge id rule marker = (some (.defect (.siblingNotFound sibling)), form) :=
  judge_of_spares (finding?_of_fails (.siblingNotFound found opens named missing)) rfl marker

end

/-! ## The four directives -/

/-- Whether of two outcomes for an empty input the first is a demand for its value, while the
second comes from testing the empty value by the segments of a tail. -/
structure OneDemands (form : Form) (id tail : String) (marker : Option String) (content : Content)
    (demanding tested : Option Finding × Form) : Prop where
  demanding : demanding = (some .missingValue, form.withMark id marker)
  other : tested.1 ≠ some .missingValue
  tested : ∃ segments, Rule.Cut tail "" segments ∧ Tested form id marker content segments tested

/-- How the outcomes for one input under the four directives, before the same tail and with the
same sibling, stand to each other. -/
structure ByStrength (form : Form) (id sibling tail : String) (marker : Option String)
    (input : Input) (required besideFilled besideEmpty permitted : Option Finding × Form) :
    Prop where
  strongest : ∀ other, form.find? sibling = some other →
    (required.1 = none ↔ besideFilled.1 = none ∧ besideEmpty.1 = none)
  weakest : required.1 = none ∨ besideFilled.1 = none ∨ besideEmpty.1 = none → permitted.1 = none
  filled : ∀ other, form.find? sibling = some other → ¬ input.content.Empty →
    besideFilled = required ∧ besideEmpty = required ∧ permitted = required
  empty : ∀ other, form.find? sibling = some other → input.content.Empty →
    if other.content.Empty then
      OneDemands form id tail marker input.content besideEmpty besideFilled
    else
      OneDemands form id tail marker input.content besideFilled besideEmpty
  /-- An absent sibling is reported whatever the input holds. -/
  absent : form.find? sibling = none →
    besideFilled = (some (.defect (.siblingNotFound sibling)), form) ∧
      besideEmpty = (some (.defect (.siblingNotFound sibling)), form)
  own : sibling = id → besideEmpty = required ∧ besideFilled.1 ≠ some .missingValue

section

variable {form : Form} {id sibling tail required besideFilled besideEmpty permitted : String}
  {input other : Input} {segments : List String}

theorem judge_alike_of_filled {rule otherRule : String} {presence otherPresence : Presence}
    (found : form.find? id = some input) (filled : ¬ input.content.Empty)
    (opens : Rule.Opens rule presence segments) (settled : presence.Settled form)
    (otherOpens : Rule.Opens otherRule otherPresence segments)
    (otherSettled : otherPresence.Settled form) (marker : Option String) :
    form.judge id rule marker = form.judge id otherRule marker := by
  apply judge_congr
  rw [finding?_of_filled found opens settled filled,
    finding?_of_filled found otherOpens otherSettled filled]

/-- On an empty input the sibling decides which of the conditional directives demands a value. -/
theorem oneDemands_of_empty (found : form.find? id = some input)
    (siblingFound : form.find? sibling = some other) (empty : input.content.Empty)
    (cut : Rule.Cut tail "" segments)
    (filledOpens : Rule.Opens besideFilled (.requiredIf sibling) segments)
    (emptyOpens : Rule.Opens besideEmpty (.requiredIfNot sibling) segments)
    (marker : Option String) :
    if other.content.Empty then
      OneDemands form id tail marker input.content (form.judge id besideEmpty marker)
        (form.judge id besideFilled marker)
    else
      OneDemands form id tail marker input.content (form.judge id besideFilled marker)
        (form.judge id besideEmpty marker) := by
  have one {rule otherRule : String} {presence otherPresence : Presence}
      (opens : Rule.Opens rule presence segments) (demanded : presence.Demands form)
      (otherOpens : Rule.Opens otherRule otherPresence segments)
      (named : otherPresence.sibling? = some sibling)
      (undemanded : otherPresence ≠ .permitEmpty ∧ ¬ otherPresence.Demands form) :
      OneDemands form id tail marker input.content (form.judge id rule marker)
        (form.judge id otherRule marker) := by
    have settled := Presence.settled_of_found named siblingFound
    have tested := tested_judge (finding?_of_tested found otherOpens settled fun _ => undemanded)
      marker
    exact ⟨judge_of_demands found opens empty demanded marker, tested.ne_missingValue, segments,
      cut, tested⟩
  have besideFilled := Presence.demands_requiredIf_iff siblingFound
  have besideEmpty := Presence.demands_requiredIfNot_iff siblingFound
  split
  case isTrue siblingEmpty =>
    have undemanded : ¬ (Presence.requiredIf sibling).Demands form :=
      fun demanded => besideFilled.mp demanded siblingEmpty
    exact one emptyOpens (besideEmpty.mpr siblingEmpty) filledOpens rfl
      ⟨Presence.noConfusion, undemanded⟩
  case isFalse siblingFilled =>
    have undemanded : ¬ (Presence.requiredIfNot sibling).Demands form :=
      mt besideEmpty.mp siblingFilled
    exact one filledOpens (besideFilled.mpr siblingFilled) emptyOpens rfl
      ⟨Presence.noConfusion, undemanded⟩

/-- The outcomes by the four directives, whatever texts open with them. -/
theorem byStrength_of_opens (found : form.find? id = some input) (cut : Rule.Cut tail "" segments)
    (requiredOpens : Rule.Opens required .required segments)
    (filledOpens : Rule.Opens besideFilled (.requiredIf sibling) segments)
    (emptyOpens : Rule.Opens besideEmpty (.requiredIfNot sibling) segments)
    (permittedOpens : Rule.Opens permitted .permitEmpty segments) (marker : Option String) :
    form.ByStrength id sibling tail marker input (form.judge id required marker)
      (form.judge id besideFilled marker) (form.judge id besideEmpty marker)
      (form.judge id permitted marker) := by
  have always := Presence.required.settled_of_alone rfl form
  have never := Presence.permitEmpty.settled_of_alone rfl form
  have permittedAlike (filled : ¬ input.content.Empty) :=
    judge_alike_of_filled found filled permittedOpens never requiredOpens always marker
  have alike {rule : String} {presence : Presence} (opens : Rule.Opens rule presence segments)
      (named : presence.sibling? = some sibling) (other : Input)
      (siblingFound : form.find? sibling = some other) (filled : ¬ input.content.Empty) :
      form.judge id rule marker = form.judge id required marker := by
    have settled := Presence.settled_of_found named siblingFound
    exact judge_alike_of_filled found filled opens settled requiredOpens always marker
  have accepted {rule : String} {presence : Presence} (opens : Rule.Opens rule presence segments)
      (named : presence.sibling? = some sibling) (filled : ¬ input.content.Empty)
      (passed : (form.judge id rule marker).1 = none) :
      (form.judge id required marker).1 = none := by
    cases siblingFound : form.find? sibling with
    | none =>
        rw [judge_of_sibling_absent found opens named siblingFound] at passed
        cases passed
    | some other => rwa [alike opens named other siblingFound filled] at passed
  have demands (empty : input.content.Empty) :=
    judge_of_demands found requiredOpens empty .always marker
  have one (other : Input) (siblingFound : form.find? sibling = some other)
      (empty : input.content.Empty) :=
    oneDemands_of_empty found siblingFound empty cut filledOpens emptyOpens marker
  constructor
  case strongest =>
    intro other siblingFound
    by_cases empty : input.content.Empty
    · have demanding := one other siblingFound empty
      rw [demands empty]
      split at demanding
      · rw [demanding.demanding]
        simp
      · rw [demanding.demanding]
        simp
    · rw [alike filledOpens rfl other siblingFound empty,
        alike emptyOpens rfl other siblingFound empty, and_self]
  case weakest =>
    intro passed
    by_cases empty : input.content.Empty
    · exact finding?_of_permitEmpty found permittedOpens empty
    · rw [permittedAlike empty]
      rcases passed with passed | passed | passed
      · exact passed
      · exact accepted filledOpens rfl empty passed
      · exact accepted emptyOpens rfl empty passed
  case filled =>
    intro other siblingFound filled
    exact ⟨alike filledOpens rfl other siblingFound filled,
      alike emptyOpens rfl other siblingFound filled, permittedAlike filled⟩
  case empty => exact one
  case absent =>
    intro missing
    exact ⟨judge_of_sibling_absent found filledOpens rfl missing marker,
      judge_of_sibling_absent found emptyOpens rfl missing marker⟩
  case own =>
    intro same
    subst same
    by_cases empty : input.content.Empty
    · have demanding := one input found empty
      rw [if_pos empty] at demanding
      exact ⟨demanding.demanding.trans (demands empty).symm, demanding.other⟩
    · refine ⟨alike emptyOpens rfl input found empty, ?_⟩
      rw [alike filledOpens rfl input found empty]
      exact (tested_judge (finding?_of_filled found requiredOpens always empty)
        marker).ne_missingValue

end

/-- Of the four directives before the same tail, `required` accepts the least and `permit_empty`
the most; the two conditional ones stand between them, as the sibling decides. -/
theorem directives_by_strength {form : Form} {id : String} {input : Input}
    (found : form.find? id = some input) {tail : String}
    (starts : tail = "" ∨ ∃ rest, tail = "|" ++ rest) {sibling : String}
    (bare : '|' ∉ sibling.toList) (marker : Option String) :
    form.ByStrength id sibling tail marker input
      (form.judge id ("required" ++ tail) marker)
      (form.judge id ("required_if[" ++ sibling ++ "]" ++ tail) marker)
      (form.judge id ("required_if_not[" ++ sibling ++ "]" ++ tail) marker)
      (form.judge id ("permit_empty" ++ tail) marker) := by
  obtain ⟨segments, cut⟩ := Rule.exists_cut_tail starts
  have bareSibling : ∀ other, some sibling = some other → Rule.separator ∉ other.toList := by
    intro other same
    cases same
    exact bare
  have required : Rule.Opens ("required" ++ tail) .required segments :=
    Rule.opens_directive .required (fun _ named => absurd named.symm (Option.some_ne_none _)) cut
  have besideFilled :
      Rule.Opens ("required_if[" ++ sibling ++ "]" ++ tail) (.requiredIf sibling) segments :=
    Rule.opens_directive (.requiredIf sibling) bareSibling cut
  have besideEmpty :
      Rule.Opens ("required_if_not[" ++ sibling ++ "]" ++ tail) (.requiredIfNot sibling) segments :=
    Rule.opens_directive (.requiredIfNot sibling) bareSibling cut
  have permitted : Rule.Opens ("permit_empty" ++ tail) .permitEmpty segments :=
    Rule.opens_directive .permitEmpty (fun _ named => absurd named.symm (Option.some_ne_none _)) cut
  exact byStrength_of_opens found cut required besideFilled besideEmpty permitted marker

/-- An unchecked box beside a filled text: only the first conditional directive demands a value,
and the second has the constraints look at the value of the box. -/
theorem directives_by_strength_unchecked :
    let form := (Form.empty.insert "b[" (.text "x")).insert "a" (.checkbox false "on")
    let box : Input := ⟨.checkbox false "on", ∅⟩
    form.find? "a" = some box ∧ (∃ rest, "|in_list[on]|email" = "|" ++ rest) ∧ '|' ∉ "b[".toList ∧
      form.ByStrength "a" "b[" "|in_list[on]|email" (some "bad") box
        (some .missingValue, form.mark "a" "bad")
        (some .missingValue, form.mark "a" "bad")
        (some (.refused (.plain .email)), form.mark "a" "bad")
        (none, form) := by
  intro form box
  have found : form.find? "a" = some box := by decide
  have starts : ∃ rest, "|in_list[on]|email" = "|" ++ rest := ⟨"in_list[on]|email", by decide⟩
  have bare : '|' ∉ "b[".toList := by decide
  exact ⟨found, starts, bare, directives_by_strength found (.inr starts) bare (some "bad")⟩

end Form

end FormCheck
