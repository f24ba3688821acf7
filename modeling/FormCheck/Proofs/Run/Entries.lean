import FormCheck.Proofs.Form.Contents
import FormCheck.Run

/-!
What one entry of the rules does in a run, and from it what a whole run does. Since marks
are invisible to judgement, every entry is judged as if it came first, and the marks of a
run are those that its report accounts for.
-/

set_option autoImplicit false

namespace FormCheck.Form

/-- The entry that a report gets for one entry of the rules, judged against a form. -/
def entryFor? (form : Form) (id : String) : Except Defect LabelledRule → Option ReportEntry
  | .error defect => some ⟨id, none, .defect defect⟩
  | .ok rule => (form.finding? id rule.rule).map fun finding => ⟨id, some rule.label, finding⟩

/-- Labelled rules as entries of a run. -/
def ruleEntries (rules : List (String × LabelledRule)) :
    List (String × Except Defect LabelledRule) :=
  rules.map fun (id, rule) => (id, .ok rule)

/-- Entries of the rules whose defects, if they have one, mark no input. -/
def Harmless (rule : Except Defect LabelledRule) : Prop :=
  ∀ defect, rule = .error defect → (Finding.defect defect).marksInput = false

/-- Whether a report has an entry for an input with a finding that marks it. -/
def Accounts (entries : List ReportEntry) (id : String) : Prop :=
  ∃ entry ∈ entries, entry.id = id ∧ entry.finding.marksInput = true

theorem names_ruleEntries (rules : List (String × LabelledRule)) :
    (ruleEntries rules).map Prod.fst = rules.map Prod.fst := by
  unfold ruleEntries
  rw [List.map_map]
  rfl

theorem harmless_ruleEntries (rules : List (String × LabelledRule)) :
    ∀ entry ∈ ruleEntries rules, Harmless entry.2 := by
  intro entry listed defect failed
  obtain ⟨member, _, rfl⟩ := List.mem_map.mp listed
  cases failed

theorem validate_eq_run (form : Form) (book : RuleBook) (settings : Settings) :
    form.validate book settings = form.run settings (ruleEntries book.entries) :=
  rfl

theorem entryFor?_congr {left right : Form} (same : left.SameContents right) (id : String)
    (rule : Except Defect LabelledRule) : left.entryFor? id rule = right.entryFor? id rule := by
  cases rule with
  | error defect => rfl
  | ok rule => simp only [entryFor?, finding?_congr same]

theorem id_of_entryFor? {form : Form} {id : String} {rule : Except Defect LabelledRule}
    {entry : ReportEntry} (made : form.entryFor? id rule = some entry) : entry.id = id := by
  cases rule with
  | error defect =>
      cases made
      rfl
  | ok rule =>
      obtain ⟨finding, _, shape⟩ := Option.map_eq_some_iff.mp made
      rw [← shape]

/-- An input that the form lacks gets from the run what judging it would give. -/
theorem checkEntry_ok (form : Form) (marker : Option String) (id : String) (rule : LabelledRule) :
    form.checkEntry marker id (.ok rule) =
      (form.entryFor? id (.ok rule), form.markFor id marker (form.finding? id rule.rule)) := by
  cases found : form.find? id with
  | none =>
      have absent : form.finding? id rule.rule = some (.absent id) := by
        simp only [finding?, found]
      have unmarked : form.markFor id marker (some (.absent id)) = form := by
        cases marker <;> rfl
      simp only [checkEntry, found, entryFor?, absent, unmarked, Option.map_some]
  | some input => simp only [checkEntry, found, entryFor?, judge]

theorem checkEntry_report (form : Form) (marker : Option String) (id : String)
    (rule : Except Defect LabelledRule) :
    (form.checkEntry marker id rule).1 = form.entryFor? id rule := by
  cases rule with
  | error defect => rfl
  | ok rule => rw [checkEntry_ok]

theorem sameContents_checkEntry (form : Form) (marker : Option String) (id : String)
    (rule : Except Defect LabelledRule) :
    (form.checkEntry marker id rule).2.SameContents form := by
  cases rule with
  | error defect => exact .refl form
  | ok rule =>
      rw [checkEntry_ok]
      exact sameContents_markFor form id marker _

theorem checkEntry_unmarked (form : Form) (id : String) (rule : Except Defect LabelledRule) :
    (form.checkEntry none id rule).2 = form := by
  cases rule with
  | error defect => rfl
  | ok rule =>
      rw [checkEntry_ok]
      rfl

theorem accounts_nil (id : String) : ¬ Accounts [] id := by
  intro accounted
  obtain ⟨entry, member, _⟩ := accounted
  cases member

theorem accounts_append (earlier later : List ReportEntry) (id : String) :
    Accounts (earlier ++ later) id ↔ Accounts earlier id ∨ Accounts later id := by
  constructor
  · intro accounted
    obtain ⟨entry, member, concerns, marks⟩ := accounted
    rcases List.mem_append.mp member with before | behind
    · exact .inl ⟨entry, before, concerns, marks⟩
    · exact .inr ⟨entry, behind, concerns, marks⟩
  · intro accounted
    rcases accounted with ⟨entry, member, concerns, marks⟩ | ⟨entry, member, concerns, marks⟩
    · exact ⟨entry, List.mem_append_left _ member, concerns, marks⟩
    · exact ⟨entry, List.mem_append_right _ member, concerns, marks⟩

theorem accounts_entryFor? (form : Form) (id : String) (rule : LabelledRule) (other : String) :
    Accounts (form.entryFor? id (.ok rule)).toList other ↔
      other = id ∧ ∃ finding, form.finding? id rule.rule = some finding ∧
        finding.marksInput = true := by
  cases failed : form.finding? id rule.rule with
  | none => simp [Accounts, entryFor?, failed]
  | some finding =>
      simp only [Accounts, entryFor?, failed, Option.map_some, Option.toList_some,
        List.mem_singleton]
      constructor
      · intro accounted
        obtain ⟨_, rfl, concerns, marks⟩ := accounted
        exact ⟨concerns.symm, finding, rfl, marks⟩
      · intro failing
        obtain ⟨concerns, _, same, marks⟩ := failing
        cases same
        exact ⟨_, rfl, concerns.symm, marks⟩

theorem isMarked_markFor (form : Form) (marker id rule other carried : String) :
    (form.markFor id (some marker) (form.finding? id rule)).isMarked other carried = true ↔
      form.isMarked other carried = true ∨ (carried = marker ∧ other = id ∧
        ∃ finding, form.finding? id rule = some finding ∧ finding.marksInput = true) := by
  cases failed : form.finding? id rule with
  | none => simp [markFor]
  | some finding =>
      by_cases marks : finding.marksInput = true
      · have present := found_of_marksInput failed marks
        simp only [markFor, Option.any_some, marks, if_true, isMarked_mark]
        simp [present, marks, and_comm]
      · simp [markFor, marks]

/-- One entry adds the marker to the input that its own report entry accounts for. -/
theorem isMarked_checkEntry (form : Form) (marker id : String)
    {rule : Except Defect LabelledRule} (harmless : Harmless rule) (other carried : String) :
    (form.checkEntry (some marker) id rule).2.isMarked other carried = true ↔
      form.isMarked other carried = true ∨
        (carried = marker ∧ Accounts (form.entryFor? id rule).toList other) := by
  cases rule with
  | error defect =>
      have quiet := harmless defect rfl
      simp [checkEntry, entryFor?, Accounts, quiet]
  | ok rule =>
      rw [checkEntry_ok, isMarked_markFor, accounts_entryFor?]

/-- The report of a run holds what each entry finds against the form at the start. -/
theorem checkEntries_report (marker : Option String)
    (entries : List (String × Except Defect LabelledRule)) (form : Form) :
    (checkEntries marker entries form).1 =
      entries.filterMap fun entry => form.entryFor? entry.1 entry.2 := by
  induction entries generalizing form with
  | nil => rfl
  | cons entry rest ih =>
      have unseen := sameContents_checkEntry form marker entry.1 entry.2
      simp only [checkEntries, checkEntry_report, ih, entryFor?_congr unseen]
      cases made : form.entryFor? entry.1 entry.2 with
      | none => simp [made]
      | some line => simp [made]

theorem sameContents_checkEntries (marker : Option String)
    (entries : List (String × Except Defect LabelledRule)) (form : Form) :
    (checkEntries marker entries form).2.SameContents form := by
  induction entries generalizing form with
  | nil => exact .refl form
  | cons entry rest ih =>
      exact (ih _).trans (sameContents_checkEntry form marker entry.1 entry.2)

theorem checkEntries_unmarked (entries : List (String × Except Defect LabelledRule))
    (form : Form) : (checkEntries none entries form).2 = form := by
  induction entries with
  | nil => rfl
  | cons entry rest ih => simp only [checkEntries, checkEntry_unmarked, ih]

/-- The marks of a run are the earlier ones and those that its report accounts for. -/
theorem isMarked_checkEntries (marker : String)
    (entries : List (String × Except Defect LabelledRule))
    (harmless : ∀ entry ∈ entries, Harmless entry.2) (form : Form) (id carried : String) :
    (checkEntries (some marker) entries form).2.isMarked id carried = true ↔
      form.isMarked id carried = true ∨
        (carried = marker ∧ Accounts (checkEntries (some marker) entries form).1 id) := by
  induction entries generalizing form with
  | nil => simp [checkEntries, accounts_nil]
  | cons entry rest ih =>
      -- The marks that the first entry leaves are among those that the others start from.
      have here := isMarked_checkEntry form marker entry.1
        (harmless entry List.mem_cons_self) id carried
      have later := ih (fun other member => harmless other (List.mem_cons_of_mem _ member))
        (form.checkEntry (some marker) entry.1 entry.2).2
      simp only [checkEntries, later, here, accounts_append, checkEntry_report]
      rw [or_assoc, ← and_or_left]

theorem sameContents_reset (form : Form) (marker : Option String) :
    (form.reset marker).SameContents form := by
  cases marker with
  | none => exact .refl form
  | some marker => exact sameContents_clear form marker

theorem sameContents_run (form : Form) (settings : Settings)
    (entries : List (String × Except Defect LabelledRule)) :
    (form.run settings entries).form.SameContents form :=
  (sameContents_checkEntries _ entries _).trans (sameContents_reset form _)

/-- The report of a run holds what each entry finds against the form that was given. -/
theorem run_report (form : Form) (settings : Settings)
    (entries : List (String × Except Defect LabelledRule)) :
    (form.run settings entries).report.entries =
      entries.filterMap fun entry => form.entryFor? entry.1 entry.2 := by
  have cleared := sameContents_reset form settings.marker?
  simp only [run, checkEntries_report, entryFor?_congr cleared]

/-- The entries of a report stand in the order of the rules, and no rule has two. -/
theorem run_report_ids (form : Form) (settings : Settings)
    (entries : List (String × Except Defect LabelledRule)) :
    ((form.run settings entries).report.entries.map ReportEntry.id).Sublist
      (entries.map Prod.fst) := by
  rw [run_report]
  induction entries with
  | nil => exact .slnil
  | cons entry rest ih =>
      rw [List.map_cons]
      cases made : form.entryFor? entry.1 entry.2 with
      | none =>
          simp only [List.filterMap_cons, made]
          exact ih.cons entry.1
      | some line =>
          simp only [List.filterMap_cons, made, List.map_cons, id_of_entryFor? made]
          exact ih.cons_cons entry.1

end FormCheck.Form
