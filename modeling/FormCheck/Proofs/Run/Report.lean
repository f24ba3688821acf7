import FormCheck.Proofs.Judgement.Failure
import FormCheck.Proofs.Run.Entries

/-!
What the report of a run by a rule book says. It has one entry for every input that fails
against the form as it was given, in the order of the book, and its markup shows these
entries and nothing else.
-/

set_option autoImplicit false

namespace FormCheck

/-- What a value is told that fails a test without argument. -/
inductive PlainTest.Worded : PlainTest → String → Prop where
  | email : Worded .email "must be a valid email"
  | numeric : Worded .numeric "must be a number"
  | unchecked : Worded .unchecked "must be unchecked"
  | date : Worded .date "must be a valid date"

/-- What a value is told that fails a test, in front of the argument of the test. -/
inductive ArgumentTest.Worded : ArgumentTest → String → Prop where
  | inList : Worded .inList "must contains "
  | notInList : Worded .notInList "can't contains "
  | length : Worded .length "length must be exactly "
  | minLength : Worded .minLength "min length must be "
  | maxLength : Worded .maxLength "max length must be "
  | equalThan : Worded .equalThan "must be equal than "
  | greaterThan : Worded .greaterThan "must be greater than "
  | lessThan : Worded .lessThan "must be less than "

inductive Finding.Worded : Finding → String → Prop where
  | noPresence : Worded (.defect .noPresence)
      "First param of the rule must be: required, permit_empty, required_if, required_if_not."
  | siblingNotFound (id : String) : Worded (.defect (.siblingNotFound id)) (id ++ " not found.")
  | unknownTest (segment : String) : Worded (.defect (.unknownTest segment)) "No rule type"
  | notAnObject : Worded (.defect .notAnObject) "Rules must be an object"
  | malformedEntry (id : String) :
      Worded (.defect (.malformedEntry id)) (id ++ " must define a label and rules.")
  | unreadable (error : Json.Error) :
      Worded (.defect (.unreadable error)) ("invalid rules json: " ++ error.message)
  | absent (id : String) : Worded (.absent id) (id ++ " doesn't exist.")
  | missingValue : Worded .missingValue "it's required."
  | plain {kind : PlainTest} {text : String} (worded : kind.Worded text) :
      Worded (.refused (.plain kind)) text
  | withArgument {kind : ArgumentTest} {front : String} (worded : kind.Worded front)
      (argument : String) : Worded (.refused (.withArgument kind argument)) (front ++ argument)

theorem PlainTest.worded_message (kind : PlainTest) : kind.Worded kind.message := by
  cases kind
  all_goals constructor

theorem ArgumentTest.worded_demand (kind : ArgumentTest) : kind.Worded kind.demand := by
  cases kind
  all_goals constructor

theorem Finding.worded_message (finding : Finding) : finding.Worded finding.message := by
  cases finding with
  | defect cause =>
      cases cause with
      | noPresence => exact .noPresence
      | siblingNotFound id => exact .siblingNotFound id
      | unknownTest segment => exact .unknownTest segment
      | notAnObject => exact .notAnObject
      | malformedEntry id => exact .malformedEntry id
      | unreadable error => exact .unreadable error
  | absent id => exact .absent id
  | missingValue => exact .missingValue
  | refused test =>
      cases test with
      | plain kind => exact .plain kind.worded_message
      | withArgument kind argument => exact .withArgument kind.worded_demand argument

/-- Whether a report says of a form exactly what the rules of a book find wrong with it. -/
structure Report.Exact (report : Report) (form : Form) (book : RuleBook) : Prop where
  /-- Every entry is the failure of an input under its rule, and every failure is there. -/
  failures : ∀ entry, entry ∈ report.entries ↔ ∃ rule, (entry.id, rule) ∈ book.entries ∧
    entry.label = some rule.label ∧ Fails form entry.id rule.rule entry.finding
  ordered : (report.entries.map ReportEntry.id).Sublist (book.entries.map Prod.fst)
  distinct : (report.entries.map ReportEntry.id).Nodup
  clean : report.isClean = true ↔ report.entries = []
  shown : report.markup = "<ul style=\"text-align: start;\">" ++
    String.join (report.entries.map fun entry => "<li>" ++ entry.text ++ "</li>") ++ "</ul>"
  /-- An absent input is named by its id, and any other by its label. -/
  worded : ∀ entry ∈ report.entries, ∀ label, entry.label = some label →
    entry.text = if entry.finding = .absent entry.id then entry.id ++ " doesn't exist."
      else label ++ " -> " ++ entry.finding.message
  /-- What was found is told in its own words. -/
  wording : ∀ entry ∈ report.entries, entry.finding.Worded entry.finding.message

theorem Form.entryFor?_ok_eq_some_iff (form : Form) (id : String) (rule : LabelledRule)
    (entry : ReportEntry) :
    form.entryFor? id (.ok rule) = some entry ↔
      entry.id = id ∧ entry.label = some rule.label ∧ Fails form id rule.rule entry.finding := by
  simp only [entryFor?, Option.map_eq_some_iff, finding?_eq_some_iff]
  constructor
  · intro made
    obtain ⟨finding, fails, rfl⟩ := made
    exact ⟨rfl, rfl, fails⟩
  · intro described
    obtain ⟨rfl, labelled, fails⟩ := described
    obtain ⟨id, label, finding⟩ := entry
    cases labelled
    exact ⟨finding, fails, rfl⟩

theorem Fails.id_of_absent {form : Form} {id rule other : String}
    (fails : Fails form id rule (.absent other)) : other = id := by
  cases fails with
  | absent => rfl
  | refused _ _ _ _ first =>
      obtain ⟨_, segment, _, _, refused, _⟩ := first
      cases refused

theorem ReportEntry.text_of_label {entry : ReportEntry} {label : String}
    (labelled : entry.label = some label)
    (named : ∀ other, entry.finding = .absent other → other = entry.id) :
    entry.text = if entry.finding = .absent entry.id then entry.id ++ " doesn't exist."
      else label ++ " -> " ++ entry.finding.message := by
  obtain ⟨id, held, finding⟩ := entry
  cases labelled
  cases finding with
  | absent other =>
      have same : other = id := named other rfl
      subst same
      simp [text, Finding.message]
  | defect cause => simp [text]
  | missingValue => simp [text]
  | refused test => simp [text]

/-- A run by a book reports exactly the inputs that fail, in the order of the book. -/
theorem Form.validate_report_exact (form : Form) (book : RuleBook) (settings : Settings) :
    (form.validate book settings).report.Exact form book := by
  have failures : ∀ entry, entry ∈ (form.validate book settings).report.entries ↔
      ∃ rule, (entry.id, rule) ∈ book.entries ∧
        entry.label = some rule.label ∧ Fails form entry.id rule.rule entry.finding := by
    intro entry
    simp only [validate_eq_run, run_report, ruleEntries, List.filterMap_map, List.mem_filterMap,
      Function.comp_apply, entryFor?_ok_eq_some_iff]
    constructor
    · intro reported
      obtain ⟨⟨id, rule⟩, listed, rfl, labelled, fails⟩ := reported
      exact ⟨rule, listed, labelled, fails⟩
    · intro failing
      obtain ⟨rule, listed, labelled, fails⟩ := failing
      exact ⟨(entry.id, rule), listed, rfl, labelled, fails⟩
  have ordered : ((form.validate book settings).report.entries.map ReportEntry.id).Sublist
      (book.entries.map Prod.fst) := by
    rw [validate_eq_run, ← names_ruleEntries]
    exact form.run_report_ids settings (ruleEntries book.entries)
  refine ⟨failures, ordered, ordered.nodup book.distinct, List.isEmpty_iff, rfl, ?_,
    fun entry _ => entry.finding.worded_message⟩
  intro entry reported label labelled
  obtain ⟨rule, _, _, fails⟩ := (failures entry).mp reported
  refine ReportEntry.text_of_label labelled ?_
  intro other absent
  rw [absent] at fails
  exact fails.id_of_absent

end FormCheck
