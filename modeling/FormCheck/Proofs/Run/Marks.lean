import FormCheck.Proofs.Run.Document

/-!
What a run leaves of the form. Contents stay, markers other than that of the run stay, and
the marker of the run is on the inputs whose failure the report gives as one that marks.
This holds of runs by a book and of runs by a document, refused documents included.
-/

set_option autoImplicit false

namespace FormCheck

/-- The findings that leave an input without the marker. -/
inductive Finding.Spares : Finding → Prop where
  | noPresence : Spares (.defect .noPresence)
  | siblingNotFound (id : String) : Spares (.defect (.siblingNotFound id))
  | malformedEntry (id : String) : Spares (.defect (.malformedEntry id))
  | absent (id : String) : Spares (.absent id)

/-- The ids that a rules document names. A text that is none names no ids. -/
def RuleBook.documentIds (text : String) : List String :=
  match readDocument text with
  | .ok document => (document.members?.getD []).map Prod.fst
  | .error _ => []

/-- Whether an outcome leaves of a form what it has to, after rules that name the given
ids. -/
structure Outcome.MarksExactly (outcome : Outcome) (form : Form) (settings : Settings)
    (names : List String) : Prop where
  contents : ∀ id,
    (outcome.form.find? id).map Input.content = (form.find? id).map Input.content
  unmarked : settings.invalidMarker = "" → outcome.form = form
  /-- A marker is on an input if it is another one and was there before, or if it is that
  of the run and the report has a marking entry for the input. -/
  marked : settings.invalidMarker ≠ "" → ∀ id carried,
    outcome.form.isMarked id carried = true ↔
      (carried ≠ settings.invalidMarker ∧ form.isMarked id carried = true) ∨
        (carried = settings.invalidMarker ∧
          ∃ entry ∈ outcome.report.entries, entry.id = id ∧ entry.finding.marksInput = true)
  unnamed : settings.invalidMarker ≠ "" → ∀ id, id ∉ names →
    outcome.form.isMarked id settings.invalidMarker = false
  spared : settings.invalidMarker ≠ "" → ∀ id,
    (∀ entry ∈ outcome.report.entries, entry.id = id → entry.finding.Spares) →
      outcome.form.isMarked id settings.invalidMarker = false

theorem Finding.Spares.marksInput_eq_false {finding : Finding} (spares : finding.Spares) :
    finding.marksInput = false := by
  cases spares <;> rfl

namespace Form

theorem not_isMarked_of_not_accounts {outcome : Outcome} {form : Form} {marker id : String}
    (marked : ∀ id carried, outcome.form.isMarked id carried = true ↔
      (carried ≠ marker ∧ form.isMarked id carried = true) ∨
        (carried = marker ∧ Accounts outcome.report.entries id))
    (unaccounted : ¬ Accounts outcome.report.entries id) :
    outcome.form.isMarked id marker = false := by
  rw [Bool.eq_false_iff, ne_eq, marked]
  intro carried
  rcases carried with ⟨different, _⟩ | ⟨_, accounted⟩
  · exact different rfl
  · exact unaccounted accounted

theorem marksExactly_of {outcome : Outcome} {form : Form} {settings : Settings}
    {names : List String} (same : outcome.form.SameContents form)
    (unmarked : settings.invalidMarker = "" → outcome.form = form)
    (marked : settings.invalidMarker ≠ "" → ∀ id carried,
      outcome.form.isMarked id carried = true ↔
        (carried ≠ settings.invalidMarker ∧ form.isMarked id carried = true) ∨
          (carried = settings.invalidMarker ∧ Accounts outcome.report.entries id))
    (named : ∀ id, Accounts outcome.report.entries id → id ∈ names) :
    outcome.MarksExactly form settings names := by
  refine ⟨same, unmarked, marked, ?_, ?_⟩
  · intro on id unnamed
    exact not_isMarked_of_not_accounts (marked on) fun accounted => unnamed (named id accounted)
  · intro on id spared
    refine not_isMarked_of_not_accounts (marked on) ?_
    intro accounted
    obtain ⟨entry, reported, concerns, marks⟩ := accounted
    rw [(spared entry reported concerns).marksInput_eq_false] at marks
    cases marks

theorem marker?_of_ne {settings : Settings} (on : settings.invalidMarker ≠ "") :
    settings.marker? = some settings.invalidMarker :=
  if_neg on

theorem marker?_of_eq {settings : Settings} (off : settings.invalidMarker = "") :
    settings.marker? = none :=
  if_pos off

/-- A run whose rules have harmless defects only leaves of the form what it has to. -/
theorem run_marksExactly (form : Form) (settings : Settings)
    (entries : List (String × Except Defect LabelledRule))
    (harmless : ∀ entry ∈ entries, Harmless entry.2) :
    (form.run settings entries).MarksExactly form settings (entries.map Prod.fst) := by
  refine marksExactly_of ?_ ?_ ?_ ?_
  · exact sameContents_run form settings entries
  · intro off
    simp only [run, marker?_of_eq off, checkEntries_unmarked, reset]
  · intro on id carried
    simp only [run, marker?_of_ne on, isMarked_checkEntries _ _ harmless, reset, isMarked_clear]
  · intro id accounted
    obtain ⟨entry, reported, rfl, _⟩ := accounted
    exact (form.run_report_ids settings entries).subset (List.mem_map_of_mem reported)

theorem names_documentEntries (members : List (String × Json.Value)) :
    (documentEntries members).map Prod.fst = members.map Prod.fst := by
  unfold documentEntries
  rw [List.map_map]
  rfl

theorem harmless_documentEntries (members : List (String × Json.Value)) :
    ∀ entry ∈ documentEntries members, Harmless entry.2 := by
  intro entry listed defect failed
  obtain ⟨member, _, rfl⟩ := List.mem_map.mp listed
  rw [RuleBook.defect_of_readEntry failed]
  rfl

theorem refused_marksExactly {defect : Defect} (quiet : (Finding.defect defect).marksInput = false)
    (form : Form) (settings : Settings) (names : List String) :
    Outcome.MarksExactly ⟨⟨[⟨"", none, .defect defect⟩]⟩, form.reset settings.marker?⟩ form settings
      names := by
  have unaccounted (id : String) : ¬ Accounts [⟨"", none, .defect defect⟩] id := by
    intro accounted
    obtain ⟨entry, reported, _, marks⟩ := accounted
    rw [List.mem_singleton.mp reported, quiet] at marks
    cases marks
  refine marksExactly_of (sameContents_reset form _) ?_ ?_ ?_
  · intro off
    simp only [marker?_of_eq off, reset]
  · intro on id carried
    simp only [marker?_of_ne on, reset, isMarked_clear, unaccounted, and_false, or_false]
  · intro id accounted
    exact absurd accounted (unaccounted id)

/-- Every run, by a book or by a document, leaves of the form what it has to. -/
theorem validate_marksExactly (form : Form) (settings : Settings) :
    (∀ book : RuleBook,
      (form.validate book settings).MarksExactly form settings (book.entries.map Prod.fst)) ∧
    ∀ text, (form.validateText text settings).MarksExactly form settings
      (RuleBook.documentIds text) := by
  constructor
  · intro book
    rw [validate_eq_run, ← names_ruleEntries]
    exact form.run_marksExactly settings _ (harmless_ruleEntries book.entries)
  · intro text
    rcases RuleBook.refused_or_members text with ⟨defect, kind, refused, _⟩ | ⟨members, read⟩
    · rw [validateText_of_refused refused]
      have quiet : (Finding.defect defect).marksInput = false := by
        rcases kind with rfl | ⟨error, rfl⟩
        · rfl
        · rfl
      exact refused_marksExactly quiet form settings _
    · rw [validateText_of_members read]
      have named : RuleBook.documentIds text = (documentEntries members).map Prod.fst := by
        rw [names_documentEntries]
        simp only [RuleBook.documentIds, read, Json.Value.members?, Option.getD_some]
      rw [named]
      exact form.run_marksExactly settings _ (harmless_documentEntries members)

end Form

end FormCheck
