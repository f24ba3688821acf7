import FormCheck.Proofs.Run.Marks

/-!
Runs on forms that hold the same contents. Whatever markers the forms carried before, the
runs report the same, and the marker of the run ends up on the same inputs.
-/

set_option autoImplicit false

namespace FormCheck

/-- Whether two outcomes of runs with the same settings are told apart neither by their
reports nor by the inputs that have the marker of the run. -/
structure Outcome.Agree (settings : Settings) (left right : Outcome) : Prop where
  report : left.report = right.report
  marked : settings.invalidMarker ≠ "" →
    left.form.marked settings.invalidMarker = right.form.marked settings.invalidMarker

namespace Form

theorem report_run_congr {left right : Form} (same : left.SameContents right) (settings : Settings)
    (entries : List (String × Except Defect LabelledRule)) :
    (left.run settings entries).report = (right.run settings entries).report := by
  have listed : (left.run settings entries).report.entries =
      (right.run settings entries).report.entries := by
    simp only [run_report, entryFor?_congr same]
  exact congrArg Report.mk listed

/-- The report of a run says which inputs have its marker. -/
theorem isMarked_run {settings : Settings} (on : settings.invalidMarker ≠ "")
    {entries : List (String × Except Defect LabelledRule)}
    (harmless : ∀ entry ∈ entries, Harmless entry.2) (form : Form) (id : String) :
    (form.run settings entries).form.isMarked id settings.invalidMarker = true ↔
      Accounts (form.run settings entries).report.entries id := by
  rw [(form.run_marksExactly settings entries harmless).marked on]
  simp only [ne_eq, not_true_eq_false, false_and, false_or, true_and]
  rfl

theorem agree_run {left right : Form} (same : left.SameContents right) (settings : Settings)
    {entries : List (String × Except Defect LabelledRule)}
    (harmless : ∀ entry ∈ entries, Harmless entry.2) :
    Outcome.Agree settings (left.run settings entries) (right.run settings entries) := by
  have report := report_run_congr same settings entries
  refine ⟨report, ?_⟩
  intro on
  refine marked_congr ?_
  intro id
  rw [isMarked_run on harmless, isMarked_run on harmless, report]

theorem agree_validate {left right : Form} (same : left.SameContents right) (book : RuleBook)
    (settings : Settings) :
    Outcome.Agree settings (left.validate book settings) (right.validate book settings) :=
  agree_run same settings (harmless_ruleEntries book.entries)

theorem agree_validateText {left right : Form} (same : left.SameContents right) (text : String)
    (settings : Settings) :
    Outcome.Agree settings (left.validateText text settings) (right.validateText text settings) := by
  rcases RuleBook.refused_or_members text with ⟨defect, _, refused, _⟩ | ⟨members, read⟩
  · rw [validateText_of_refused refused, validateText_of_refused refused]
    -- Only the resets are left, and these are the runs without rules.
    refine ⟨rfl, ?_⟩
    exact (agree_run same settings (List.forall_mem_nil _)).marked
  · rw [validateText_of_members read, validateText_of_members read]
    exact agree_run same settings (harmless_documentEntries members)

theorem sameContents_validate (form : Form) (book : RuleBook) (settings : Settings) :
    (form.validate book settings).form.SameContents form :=
  sameContents_run form settings _

theorem sameContents_validateText (form : Form) (text : String) (settings : Settings) :
    (form.validateText text settings).form.SameContents form := by
  unfold validateText
  split
  · exact sameContents_reset form _
  · exact sameContents_run form settings _

end Form

end FormCheck
