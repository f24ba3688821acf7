import FormCheck.Proofs.Judgement.Failure
import FormCheck.Proofs.Run.Entries
import FormCheck.Proofs.RuleBook.Members

/-!
Runs by a rules document beside runs by the book that it makes. A document without
malformed members is its book. Otherwise the run reports the malformed members where they
stand and is in all else the run by the book of the others, and a text that is no rules
document leaves nothing but its defect.
-/

set_option autoImplicit false

namespace FormCheck

/-- Whether an entry reports a malformed member of a rules document. -/
def ReportEntry.isMalformed (entry : ReportEntry) : Bool :=
  match entry.finding with
  | .defect (.malformedEntry _) => true
  | _ => false

/-- The entry of a report for a malformed member. -/
def ReportEntry.malformed (id : String) : ReportEntry :=
  ⟨id, none, .defect (.malformedEntry id)⟩

theorem Fails.isMalformed_eq_false {form : Form} {id rule concerned : String}
    {label : Option String} {finding : Finding} (fails : Fails form id rule finding) :
    (ReportEntry.mk concerned label finding).isMalformed = false := by
  cases fails with
  | absent | noPresence | siblingNotFound | missingValue => rfl
  | refused _ _ _ _ first =>
      obtain ⟨_, segment, _, _, refused, _⟩ := first
      cases refused with
      | checked | failed | unknown => rfl

namespace Form

/-- The entries of the rules that a document gives, malformed ones included. -/
def documentEntries (members : List (String × Json.Value)) :
    List (String × Except Defect LabelledRule) :=
  members.map fun (id, entry) => (id, RuleBook.readEntry id entry)

theorem isMalformed_entryFor? {form : Form} {id : String} {rule : LabelledRule}
    {entry : ReportEntry} (made : form.entryFor? id (.ok rule) = some entry) :
    entry.isMalformed = false := by
  obtain ⟨finding, failed, rfl⟩ := Option.map_eq_some_iff.mp made
  have fails : Fails form id rule.rule finding := fails_of_finding? failed
  exact Fails.isMalformed_eq_false fails

/-- What the members of a document find against a form, each by itself. -/
def documentReport (form : Form) (members : List (String × Json.Value)) : List ReportEntry :=
  (documentEntries members).filterMap fun entry => form.entryFor? entry.1 entry.2

theorem documentReport_cons (form : Form) (member : String × Json.Value)
    (rest : List (String × Json.Value)) :
    form.documentReport (member :: rest) =
      (form.entryFor? member.1 (RuleBook.readEntry member.1 member.2)).toList ++
        form.documentReport rest := by
  simp only [documentReport, documentEntries, List.map_cons, List.filterMap_cons]
  cases form.entryFor? member.1 (RuleBook.readEntry member.1 member.2) with
  | none => rfl
  | some entry => rfl

theorem documentReport_cons_error (form : Form) {member : String × Json.Value} {defect : Defect}
    (read : RuleBook.readEntry member.1 member.2 = .error defect)
    (rest : List (String × Json.Value)) :
    form.documentReport (member :: rest) =
      .malformed member.1 :: form.documentReport rest := by
  rw [documentReport_cons, read, RuleBook.defect_of_readEntry read]
  rfl

/-- The report entries of malformed members are those of all malformed members, in order. -/
theorem filter_malformed (form : Form) (members : List (String × Json.Value)) :
    (form.documentReport members).filter ReportEntry.isMalformed =
      (RuleBook.malformedIds members).map ReportEntry.malformed := by
  induction members with
  | nil => rfl
  | cons member rest ih =>
      cases read : RuleBook.readEntry member.1 member.2 with
      | ok rule =>
          rw [(RuleBook.members_cons_ok read rest).1, documentReport_cons, read, ← ih]
          cases made : form.entryFor? member.1 (.ok rule) with
          | none => rfl
          | some entry =>
              exact List.filter_cons_of_neg (by simp [isMalformed_entryFor? made])
      | error defect =>
          rw [(RuleBook.members_cons_error read rest).1, documentReport_cons_error form read,
            List.filter_cons_of_pos rfl, ih]
          rfl

theorem filter_not_malformed (form : Form) (members : List (String × Json.Value)) :
    (form.documentReport members).filter (!·.isMalformed) =
      (RuleBook.wellFormed members).filterMap fun entry => form.entryFor? entry.1 (.ok entry.2) := by
  induction members with
  | nil => rfl
  | cons member rest ih =>
      cases read : RuleBook.readEntry member.1 member.2 with
      | ok rule =>
          rw [(RuleBook.members_cons_ok read rest).2, documentReport_cons, read,
            List.filterMap_cons, ← ih]
          cases made : form.entryFor? member.1 (.ok rule) with
          | none => rfl
          | some entry =>
              exact List.filter_cons_of_pos (by simp [isMalformed_entryFor? made])
      | error defect =>
          rw [(RuleBook.members_cons_error read rest).2, documentReport_cons_error form read,
            List.filter_cons_of_neg (by simp [ReportEntry.isMalformed, ReportEntry.malformed]), ih]

/-- Malformed members leave the form as it is, so that the others find it as if they were
alone. -/
theorem checkEntries_documentEntries (marker : Option String)
    (members : List (String × Json.Value)) (form : Form) :
    (checkEntries marker (documentEntries members) form).2 =
      (checkEntries marker (ruleEntries (RuleBook.wellFormed members)) form).2 := by
  induction members generalizing form with
  | nil => rfl
  | cons member rest ih =>
      cases read : RuleBook.readEntry member.1 member.2 with
      | ok rule =>
          rw [(RuleBook.members_cons_ok read rest).2]
          simp only [documentEntries, ruleEntries, List.map_cons, checkEntries, read]
          exact ih _
      | error defect =>
          rw [(RuleBook.members_cons_error read rest).2, ← ih form]
          simp only [documentEntries, List.map_cons, checkEntries, read, checkEntry]

theorem documentEntries_of_none_malformed {members : List (String × Json.Value)}
    (whole : RuleBook.malformedIds members = []) :
    documentEntries members = ruleEntries (RuleBook.wellFormed members) := by
  induction members with
  | nil => rfl
  | cons member rest ih =>
      cases read : RuleBook.readEntry member.1 member.2 with
      | ok rule =>
          obtain ⟨sameMalformed, oneMore⟩ := RuleBook.members_cons_ok read rest
          have later := ih (sameMalformed ▸ whole)
          rw [oneMore]
          simp only [documentEntries, ruleEntries, List.map_cons, read] at later ⊢
          rw [later]
      | error defect =>
          rw [(RuleBook.members_cons_error read rest).1] at whole
          cases whole

theorem reset_marker? (form : Form) (settings : Settings) :
    form.reset settings.marker? =
      if settings.invalidMarker = "" then form else form.clear settings.invalidMarker := by
  unfold Settings.marker?
  split
  · rfl
  · rfl

theorem validateText_of_refused {text : String} {defect : Defect}
    (refused : RuleBook.readDocument text >>= RuleBook.readMembers = .error defect) (form : Form)
    (settings : Settings) :
    form.validateText text settings =
      ⟨⟨[⟨"", none, .defect defect⟩]⟩, form.reset settings.marker?⟩ := by
  simp only [validateText, refused]

theorem validateText_of_members {text : String} {members : List (String × Json.Value)}
    (read : RuleBook.readDocument text = .ok (.object members)) (form : Form)
    (settings : Settings) :
    form.validateText text settings = form.run settings (documentEntries members) := by
  simp only [validateText, RuleBook.readMembers_of_members read]
  rfl

theorem validate_wellFormed {members : List (String × Json.Value)}
    (distinct : (members.map Prod.fst).Nodup) (form : Form) (settings : Settings) :
    form.validate (RuleBook.ofEntries (RuleBook.wellFormed members)) settings =
      form.run settings (ruleEntries (RuleBook.wellFormed members)) := by
  rw [validate_eq_run, RuleBook.entries_ofEntries_wellFormed distinct]

end Form

/-- Whether an outcome is that of the well-formed members of a document, with an entry for
each malformed member added at its place. -/
structure Outcome.PassesMalformed (outcome : Outcome) (form : Form) (settings : Settings)
    (members : List (String × Json.Value)) : Prop where
  malformed : ∀ id, id ∈ RuleBook.malformedIds members ↔
    ∃ entry, (id, entry) ∈ members ∧ ∀ rule, ¬ RuleBook.Describes entry rule
  wellFormed : ∀ id rule, (id, rule) ∈ RuleBook.wellFormed members ↔
    ∃ entry, (id, entry) ∈ members ∧ RuleBook.Describes entry rule
  reported : outcome.report.entries.filter ReportEntry.isMalformed =
    (RuleBook.malformedIds members).map ReportEntry.malformed
  quiet : ∀ entry ∈ outcome.report.entries, entry.isMalformed = true →
    entry.label = none ∧ entry.finding.marksInput = false
  others : outcome.report.entries.filter (!·.isMalformed) =
    (form.validate (RuleBook.ofEntries (RuleBook.wellFormed members)) settings).report.entries
  form : outcome.form =
    (form.validate (RuleBook.ofEntries (RuleBook.wellFormed members)) settings).form

namespace Form

theorem run_passesMalformed {members : List (String × Json.Value)}
    (distinct : (members.map Prod.fst).Nodup) (form : Form) (settings : Settings) :
    (form.run settings (documentEntries members)).PassesMalformed form settings members := by
  have report : (form.run settings (documentEntries members)).report.entries =
      form.documentReport members := form.run_report settings (documentEntries members)
  refine ⟨RuleBook.mem_malformedIds_iff members, RuleBook.mem_wellFormed_iff members, ?_, ?_, ?_,
    ?_⟩
  · rw [report, filter_malformed]
  · intro entry reported malformed
    have kept := List.mem_filter.mpr ⟨reported, malformed⟩
    rw [report, filter_malformed] at kept
    obtain ⟨id, _, rfl⟩ := List.mem_map.mp kept
    exact ⟨rfl, rfl⟩
  · rw [report, filter_not_malformed, validate_wellFormed distinct, run_report, ruleEntries,
      List.filterMap_map]
    rfl
  · rw [validate_wellFormed distinct]
    exact checkEntries_documentEntries settings.marker? members _

/-- A run by a document agrees with reading the document as a book and running by that:
it is the same run if reading succeeds, goes on past the malformed member at which reading
stops, and has nothing but the defect to report if there is no object to read. -/
theorem validateText_agrees (form : Form) (text : String) (settings : Settings) :
    match RuleBook.ofText text with
    | .ok book => form.validateText text settings = form.validate book settings
    | .error (.malformedEntry id) =>
        ∃ members, RuleBook.readDocument text = .ok (.object members) ∧
          (RuleBook.malformedIds members).head? = some id ∧
          (form.validateText text settings).PassesMalformed form settings members
    | .error defect =>
        (defect = .notAnObject ∨ ∃ error, defect = .unreadable error) ∧
          (form.validateText text settings).report.isClean = false ∧
          form.validateText text settings = ⟨⟨[⟨"", none, .defect defect⟩]⟩,
            if settings.invalidMarker = "" then form else form.clear settings.invalidMarker⟩ := by
  rcases RuleBook.refused_or_members text with ⟨defect, kind, refused, failed⟩ | ⟨members, read⟩
  · have outcome := validateText_of_refused refused form settings
    rw [reset_marker?] at outcome
    rw [failed, outcome]
    rcases kind with rfl | ⟨error, rfl⟩
    · exact ⟨.inl rfl, rfl, rfl⟩
    · exact ⟨.inr ⟨error, rfl⟩, rfl, rfl⟩
  · have distinct := RuleBook.distinct_of_readDocument read
    rw [RuleBook.ofText_of_members read, validateText_of_members read]
    cases malformed : RuleBook.malformedIds members with
    | nil =>
        change form.run settings (documentEntries members) = form.validate _ settings
        rw [validate_wellFormed distinct, documentEntries_of_none_malformed malformed]
    | cons id later =>
        refine ⟨members, read, ?_, run_passesMalformed distinct form settings⟩
        rw [malformed]
        rfl

end Form

end FormCheck
