import FormCheck.Proofs.Run.Document
import Mathlib.Data.List.Perm.Basic

/-!
The order of judgements. What one judgement marks is invisible to the others, and marks do
not depend on the order in which they are put. So judgements can change places, and a run
is the judgement of each of its rules by itself, in whatever order, after a reset.
-/

set_option autoImplicit false

namespace FormCheck

theorem Input.mark_comm (input : Input) (marker other : String) :
    (input.mark marker).mark other = (input.mark other).mark marker := by
  refine ext_hasMarker rfl ?_
  intro carried
  simp only [hasMarker_mark]
  exact Bool.or_left_comm _ _ _

namespace Form

theorem mark_comm (form : Form) (id marker other otherMarker : String) :
    (form.mark id marker).mark other otherMarker =
      (form.mark other otherMarker).mark id marker := by
  refine ext_find? ?_
  intro name
  simp only [find?_mark]
  by_cases first : name = id
  · subst first
    by_cases second : name = other
    · subst second
      simp only [if_true, Option.map_map]
      refine congrArg (Option.map · _) (funext fun input => ?_)
      exact input.mark_comm marker otherMarker
    · simp only [second, if_false]
  · simp only [first, if_false]

theorem markFor_comm (form : Form) (id other : String) (marker otherMarker : Option String)
    (finding otherFinding : Option Finding) :
    (form.markFor id marker finding).markFor other otherMarker otherFinding =
      (form.markFor other otherMarker otherFinding).markFor id marker finding := by
  cases marker with
  | none => rfl
  | some marker =>
      cases otherMarker with
      | none => rfl
      | some otherMarker =>
          simp only [markFor]
          split
          · split
            · exact mark_comm form id marker other otherMarker
            · rfl
          · rfl

/-- A judgement does not see what an earlier one has marked. -/
theorem finding_judge_judge (form : Form) (id rule other otherRule : String)
    (marker otherMarker : Option String) :
    ((form.judge id rule marker).2.judge other otherRule otherMarker).1 =
      (form.judge other otherRule otherMarker).1 :=
  finding?_congr (sameContents_markFor form id marker _) other otherRule

theorem form_judge_judge (form : Form) (id rule other otherRule : String)
    (marker otherMarker : Option String) :
    ((form.judge id rule marker).2.judge other otherRule otherMarker).2 =
      ((form.judge other otherRule otherMarker).2.judge id rule marker).2 := by
  have first := finding_judge_judge form other otherRule id rule otherMarker marker
  have second := finding_judge_judge form id rule other otherRule marker otherMarker
  simp only [judge] at first second ⊢
  rw [first, second, markFor_comm]

/-- Judges inputs by rules one after another, each against the form that the one before
leaves. -/
def judgeAll (marker : Option String) :
    List (String × LabelledRule) → Form → List (String × Option Finding) × Form
  | [], form => ([], form)
  | (id, rule) :: rest, form =>
      let (finding, form) := form.judge id rule.rule marker
      let (findings, form) := judgeAll marker rest form
      ((id, finding) :: findings, form)

/-- Every one of the judgements finds what it would find alone. -/
theorem findings_judgeAll (marker : Option String) (rules : List (String × LabelledRule))
    (form : Form) :
    (judgeAll marker rules form).1 =
      rules.map fun (id, rule) => (id, form.finding? id rule.rule) := by
  induction rules generalizing form with
  | nil => rfl
  | cons entry rest ih =>
      have unseen := sameContents_markFor form entry.1 marker (form.finding? entry.1 entry.2.rule)
      simp only [judgeAll, judge, ih, finding?_congr unseen, List.map_cons]

theorem form_judgeAll (marker : Option String) (rules : List (String × LabelledRule))
    (form : Form) :
    (judgeAll marker rules form).2 =
      rules.foldl (fun form entry => (form.judge entry.1 entry.2.rule marker).2) form := by
  induction rules generalizing form with
  | nil => rfl
  | cons entry rest ih => exact ih _

theorem form_judgeAll_perm {rules order : List (String × LabelledRule)} (permuted : order.Perm rules)
    (marker : Option String) (form : Form) :
    (judgeAll marker order form).2 = (judgeAll marker rules form).2 := by
  have commuting : RightCommutative fun (form : Form) (entry : String × LabelledRule) =>
      (form.judge entry.1 entry.2.rule marker).2 :=
    ⟨fun form first second => form_judge_judge form first.1 first.2.rule second.1 second.2.rule
      marker marker⟩
  rw [form_judgeAll, form_judgeAll]
  exact permuted.foldl_eq form

/-- The way around an absent input that a run takes makes no difference to the form. -/
theorem form_checkEntries_ruleEntries (marker : Option String)
    (rules : List (String × LabelledRule)) (form : Form) :
    (checkEntries marker (ruleEntries rules) form).2 = (judgeAll marker rules form).2 := by
  induction rules generalizing form with
  | nil => rfl
  | cons entry rest ih =>
      simp only [ruleEntries, List.map_cons, checkEntries, checkEntry_ok, judgeAll, judge]
      exact ih _

theorem form_validate (form : Form) (book : RuleBook) (settings : Settings) :
    (form.validate book settings).form =
      (judgeAll settings.marker? book.entries (form.reset settings.marker?)).2 :=
  form_checkEntries_ruleEntries settings.marker? book.entries _

/-- A run reports of an input that its rules name what judging it finds. -/
theorem reported_iff {book : RuleBook} {id : String} {rule : LabelledRule}
    (listed : (id, rule) ∈ book.entries) (form : Form) (settings : Settings) (finding : Finding) :
    (∃ entry ∈ (form.validate book settings).report.entries,
      entry.id = id ∧ entry.finding = finding) ↔ form.finding? id rule.rule = some finding := by
  rw [validate_eq_run, run_report, ruleEntries, List.filterMap_map]
  constructor
  · intro reported
    obtain ⟨entry, member, concerns, found⟩ := reported
    obtain ⟨⟨other, otherRule⟩, otherListed, made⟩ := List.mem_filterMap.mp member
    obtain ⟨otherFinding, failed, rfl⟩ := Option.map_eq_some_iff.mp made
    cases concerns
    cases found
    rw [RuleBook.mem_entries_iff] at listed otherListed
    rw [listed] at otherListed
    cases otherListed
    exact failed
  · intro failed
    refine ⟨⟨id, some rule.label, finding⟩, List.mem_filterMap.mpr ⟨(id, rule), listed, ?_⟩, rfl,
      rfl⟩
    simp only [Function.comp_apply, entryFor?, failed, Option.map_some]

end Form

/-- Whether judgements made one by one, in a given order, say of every input what the
outcome of a run says of it, and leave the form that the run leaves. -/
structure Outcome.FromJudgements (outcome : Outcome) (order : List (String × LabelledRule))
    (findings : List (String × Option Finding)) (form : Form) : Prop where
  once : findings.map Prod.fst = order.map Prod.fst
  passed : ∀ judged ∈ findings,
    judged.2 = none ↔ ∀ entry ∈ outcome.report.entries, entry.id ≠ judged.1
  failed : ∀ judged ∈ findings, ∀ finding, judged.2 = some finding ↔
    ∃ entry ∈ outcome.report.entries, entry.id = judged.1 ∧ entry.finding = finding
  form : form = outcome.form

namespace Form

theorem fromJudgements_of_perm (form : Form) (book : RuleBook) (settings : Settings)
    {order : List (String × LabelledRule)} (permuted : order.Perm book.entries) :
    (form.validate book settings).FromJudgements order
      (judgeAll settings.marker? order (form.reset settings.marker?)).1
      (judgeAll settings.marker? order (form.reset settings.marker?)).2 := by
  have cleared := sameContents_reset form settings.marker?
  simp only [findings_judgeAll, finding?_congr cleared]
  have failed : ∀ judged ∈ order.map fun (id, rule) => (id, form.finding? id rule.rule),
      ∀ finding, judged.2 = some finding ↔
        ∃ entry ∈ (form.validate book settings).report.entries,
          entry.id = judged.1 ∧ entry.finding = finding := by
    intro judged member finding
    obtain ⟨⟨id, rule⟩, listed, rfl⟩ := List.mem_map.mp member
    exact (reported_iff (permuted.mem_iff.mp listed) form settings finding).symm
  refine ⟨?_, ?_, failed, ?_⟩
  · rw [List.map_map]
    rfl
  · intro judged member
    rw [Option.eq_none_iff_forall_ne_some]
    simp only [ne_eq, failed judged member]
    constructor
    · intro unreported entry reported concerns
      exact unreported entry.finding ⟨entry, reported, concerns, rfl⟩
    · intro unnamed finding reported
      obtain ⟨entry, reported, concerns, _⟩ := reported
      exact unnamed entry reported concerns
  · rw [form_validate]
    exact form_judgeAll_perm permuted _ _

/-- A run by a book is a reset and a judgement by each of its rules, in any order; and any
two judgements, by whatever rules and with whatever markers, can change places. -/
theorem validate_eq_judgements_in_any_order :
    (∀ (form : Form) (book : RuleBook) (settings : Settings)
        (order : List (String × LabelledRule)), order.Perm book.entries →
      let start := if settings.invalidMarker = "" then form else form.clear settings.invalidMarker
      let judged := judgeAll settings.marker? order start
      (form.validate book settings).FromJudgements order judged.1 judged.2) ∧
    ∀ (form : Form) (id rule other otherRule : String) (marker otherMarker : Option String),
      ((form.judge id rule marker).2.judge other otherRule otherMarker).1 =
          (form.judge other otherRule otherMarker).1 ∧
        ((form.judge other otherRule otherMarker).2.judge id rule marker).1 =
          (form.judge id rule marker).1 ∧
        ((form.judge id rule marker).2.judge other otherRule otherMarker).2 =
          ((form.judge other otherRule otherMarker).2.judge id rule marker).2 := by
  constructor
  · intro form book settings order permuted
    simp only [← reset_marker?]
    exact fromJudgements_of_perm form book settings permuted
  · intro form id rule other otherRule marker otherMarker
    exact ⟨finding_judge_judge form id rule other otherRule marker otherMarker,
      finding_judge_judge form other otherRule id rule otherMarker marker,
      form_judge_judge form id rule other otherRule marker otherMarker⟩

theorem validate_eq_judgements_backwards :
    [("c", LabelledRule.mk "C" "required"), ("b", ⟨"B", "required_if_not[a]|email"⟩),
        ("a", ⟨"A", "required"⟩)].Perm
      (RuleBook.ofEntries [("a", ⟨"A", "required"⟩), ("b", ⟨"B", "required_if_not[a]|email"⟩),
        ("c", ⟨"C", "required"⟩)]).entries ∧
    ((((empty.insert "a" (.text "")).insert "b" (.text "x")).mark "a" "late").validate
        (RuleBook.ofEntries [("a", ⟨"A", "required"⟩), ("b", ⟨"B", "required_if_not[a]|email"⟩),
          ("c", ⟨"C", "required"⟩)]) ⟨"late"⟩).FromJudgements
      [("c", ⟨"C", "required"⟩), ("b", ⟨"B", "required_if_not[a]|email"⟩),
        ("a", ⟨"A", "required"⟩)]
      [("c", some (.absent "c")), ("b", some (.refused (.plain .email))),
        ("a", some .missingValue)]
      ((((empty.insert "a" (.text "")).insert "b" (.text "x")).mark "a" "late").mark "b" "late") :=
  ⟨by decide, validate_eq_judgements_in_any_order.1 _ _ ⟨"late"⟩ _ (by decide)⟩

end Form

end FormCheck
