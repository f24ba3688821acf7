import FormCheck.Proofs.Rule.Grammar
import FormCheck.Proofs.Run.Entries
import FormCheck.RuleBookProperties

/-!
How far an edit of one input reaches. What is found of an input depends on its own content
and, if its rule opens with a conditional directive, on whether the sibling is there and is
empty. So a run on a form in which one input was edited, added or taken away reports the
same of every input but that one and those whose rules consult it.
-/

set_option autoImplicit false

namespace FormCheck

namespace Rule

/-- What a rule opens with: the text before its first bar. -/
def opening (text : String) : String :=
  String.ofList (text.toList.takeWhile (· != separator))

/-- Whether a rule opens with a directive that is conditional on the given input. -/
def consults (text sibling : String) : Bool :=
  opening text == "required_if[" ++ sibling ++ "]" ||
    opening text == "required_if_not[" ++ sibling ++ "]"

theorem opening_of_cut {text first : String} {segments : List String}
    (cut : Cut text first segments) : opening text = first := by
  have front : ∀ c ∈ first.toList, (c != separator) = true := by
    intro c member
    exact bne_iff_ne.mpr fun same => cut.first (same ▸ member)
  have joined : text.toList =
      first.toList ++ (segments.map String.toList).flatMap (separator :: ·) := by
    rw [cut.written, toList_joined]
    rfl
  apply String.toList_inj.mp
  rw [opening, String.toList_ofList, joined, List.takeWhile_append_of_pos front]
  cases segments with
  | nil => simp
  | cons segment rest => simp

theorem consults_of_parse {text sibling : String} {rule : Rule} (read : parse text = .ok rule)
    (named : rule.presence.sibling? = some sibling) : consults text sibling = true := by
  obtain ⟨segments, opens, _⟩ := opens_of_parse read
  have directive : opening text = rule.presence.source := opening_of_cut opens.cut
  rw [consults, directive]
  cases said : rule.presence with
  | required | permitEmpty =>
      rw [said] at named
      cases named
  | requiredIf other =>
      rw [said] at named
      cases named
      simp [Presence.source, Presence.sibling?, Presence.keyword]
  | requiredIfNot other =>
      rw [said] at named
      cases named
      simp [Presence.source, Presence.sibling?, Presence.keyword]

end Rule

/-- Whether the rule that a book has for an input, if it has one, consults another input. -/
def RuleBook.consults (book : RuleBook) (id sibling : String) : Bool :=
  (book.find? id).any fun rule => Rule.consults rule.rule sibling

namespace Form

/-- What a directive sees of a sibling: whether it is there and, if so, whether it is empty. -/
def emptyAt? (form : Form) (id : String) : Option Bool :=
  (form.find? id).map (·.content.isEmpty)

/-- Two forms that differ at most in the input under one id and in markers. -/
def SameContentsBut (edited : String) (left right : Form) : Prop :=
  ∀ id, id ≠ edited → (left.find? id).map Input.content = (right.find? id).map Input.content

theorem emptyAt?_congr {left right : Form} {id : String}
    (same : (left.find? id).map Input.content = (right.find? id).map Input.content) :
    left.emptyAt? id = right.emptyAt? id := by
  have mapped := congrArg (Option.map Content.isEmpty) same
  rw [Option.map_map, Option.map_map] at mapped
  exact mapped

end Form

theorem Presence.siblingEmpty_eq (presence : Presence) (form : Form) :
    presence.siblingEmpty form =
      match presence.sibling? with
      | none => .ok none
      | some sibling =>
          match form.emptyAt? sibling with
          | none => .error (.siblingNotFound sibling)
          | some empty => .ok (some empty) := by
  unfold siblingEmpty Form.emptyAt?
  cases presence.sibling? with
  | none => rfl
  | some sibling =>
      simp only
      cases form.find? sibling with
      | none => rfl
      | some input => rfl

theorem Presence.siblingEmpty_of_emptyAt? {left right : Form} {presence : Presence}
    (same : ∀ sibling, presence.sibling? = some sibling →
      left.emptyAt? sibling = right.emptyAt? sibling) :
    presence.siblingEmpty left = presence.siblingEmpty right := by
  rw [siblingEmpty_eq, siblingEmpty_eq]
  cases named : presence.sibling? with
  | none => rfl
  | some sibling => simp only [same sibling named]

namespace Form

/-- What is found of an input depends only on its content and on what its rule sees of the
sibling that it consults. -/
theorem finding?_local {left right : Form} {id rule : String}
    (own : (left.find? id).map Input.content = (right.find? id).map Input.content)
    (siblings : ∀ sibling, Rule.consults rule sibling = true →
      left.emptyAt? sibling = right.emptyAt? sibling) :
    left.finding? id rule = right.finding? id rule := by
  unfold finding?
  cases found : left.find? id with
  | none =>
      cases matched : right.find? id with
      | none => rfl
      | some other => simp [found, matched] at own
  | some input =>
      cases matched : right.find? id with
      | none => simp [found, matched] at own
      | some other =>
          have content : input.content = other.content := by simpa [found, matched] using own
          cases read : Rule.parse rule with
          | error defect => rfl
          | ok parsed =>
              have sibling : parsed.presence.siblingEmpty left =
                  parsed.presence.siblingEmpty right := by
                apply Presence.siblingEmpty_of_emptyAt?
                intro sibling named
                exact siblings sibling (Rule.consults_of_parse read named)
              simp only [Presence.resolve, sibling, content]

/-- Runs on two forms report the same of all those inputs of which the same is found. -/
theorem filter_report_congr {left right : Form} {book : RuleBook} (keep : String → Bool)
    (agree : ∀ id rule, (id, rule) ∈ book.entries → keep id = true →
      left.finding? id rule.rule = right.finding? id rule.rule) (settings : Settings) :
    (left.validate book settings).report.entries.filter (fun entry => keep entry.id) =
      (right.validate book settings).report.entries.filter (fun entry => keep entry.id) := by
  simp only [validate_eq_run, run_report, ruleEntries, List.filterMap_map, List.filter_filterMap]
  apply List.filterMap_congr
  intro entry listed
  obtain ⟨id, rule⟩ := entry
  simp only [Function.comp_apply]
  cases kept : keep id with
  | true => simp only [entryFor?, agree id rule listed kept]
  | false =>
      have dropped (form : Form) :
          (form.entryFor? id (.ok rule)).filter (fun entry => keep entry.id) = none := by
        rw [Option.filter_eq_none_iff]
        intro entry made
        rw [id_of_entryFor? made, kept]
        exact Bool.false_ne_true
      rw [dropped left, dropped right]

/-- An edit of one input changes nothing that a run reports of the other inputs, except of
those whose rules consult it, and of these only if its presence or emptiness changes. -/
theorem validate_edit_local {left right : Form} {edited : String}
    (same : SameContentsBut edited left right) (book : RuleBook) (settings : Settings) :
    let before := (left.validate book settings).report
    let behind := (right.validate book settings).report
    (before.entries.filter fun entry => entry.id != edited && !book.consults entry.id edited) =
        (behind.entries.filter fun entry => entry.id != edited && !book.consults entry.id edited) ∧
      (∀ input other, left.find? edited = some input → right.find? edited = some other →
        (input.content.Empty ↔ other.content.Empty) →
        (before.entries.filter fun entry => entry.id != edited) =
          behind.entries.filter fun entry => entry.id != edited) ∧
      (book.find? edited = none → (∀ id, book.consults id edited = false) → before = behind) := by
  have unaffected : ∀ id rule, (id, rule) ∈ book.entries → id ≠ edited →
      book.consults id edited = false → left.finding? id rule.rule = right.finding? id rule.rule := by
    intro id rule listed different unconsulted
    apply finding?_local (same id different)
    intro sibling consulted
    apply emptyAt?_congr
    apply same
    intro here
    subst here
    rw [RuleBook.mem_entries_iff] at listed
    simp [RuleBook.consults, listed, consulted] at unconsulted
  refine ⟨?_, ?_, ?_⟩
  · apply filter_report_congr fun id => id != edited && !book.consults id edited
    intro id rule listed kept
    obtain ⟨different, unconsulted⟩ := Bool.and_eq_true_iff.mp kept
    exact unaffected id rule listed (bne_iff_ne.mp different) (by simpa using unconsulted)
  · intro input other found matched emptiness
    apply filter_report_congr fun id => id != edited
    intro id rule listed kept
    apply finding?_local (same id (bne_iff_ne.mp kept))
    intro sibling _
    by_cases here : sibling = edited
    · subst here
      rw [← Content.isEmpty_iff, ← Content.isEmpty_iff, ← Bool.eq_iff_iff] at emptiness
      simp only [emptyAt?, found, matched, Option.map_some, emptiness]
    · exact emptyAt?_congr (same sibling here)
  · intro unlisted unconsulted
    have everyone : ∀ id rule, (id, rule) ∈ book.entries → true = true →
        left.finding? id rule.rule = right.finding? id rule.rule := by
      intro id rule listed _
      refine unaffected id rule listed ?_ (unconsulted id)
      intro here
      subst here
      rw [RuleBook.mem_entries_iff, unlisted] at listed
      cases listed
    have whole := filter_report_congr (fun _ => true) everyone settings
    simp only [List.filter_true] at whole
    exact congrArg Report.mk whole

/-- A text exchanged for a checked box: both are filled, so even the rule that consults the
edited input finds the same, and only the edited input itself is reported differently. -/
theorem validate_edit_local_kind :
    let text := ((empty.insert "a" (.text "x")).insert "b" (.text "")).insert "c" (.text "?")
    let box := ((empty.insert "a" (.checkbox true "1")).insert "b" (.text "")).insert "c" (.text "?")
    let book := RuleBook.ofEntries [("c", ⟨"C", "required|email"⟩),
      ("b", ⟨"B", "required_if[a]|email"⟩), ("a", ⟨"A", "required|in_list[1,2]"⟩)]
    let others := [ReportEntry.mk "c" (some "C") (.refused (.plain .email)),
      ⟨"b", some "B", .missingValue⟩]
    SameContentsBut "a" text box ∧ (text.validate book {}).report ≠ (box.validate book {}).report ∧
      ((text.validate book {}).report.entries.filter fun entry => entry.id != "a") = others ∧
      ((box.validate book {}).report.entries.filter fun entry => entry.id != "a") = others := by
  intro text box book others
  have same : SameContentsBut "a" text box := by
    intro id different
    simp only [text, box, find?_insert, different, if_false]
  have listed : ((box.validate book {}).report.entries.filter fun entry => entry.id != "a") =
      others := by
    decide
  obtain ⟨_, emptiness, _⟩ := validate_edit_local same book {}
  refine ⟨same, by decide, ?_, listed⟩
  rw [emptiness _ _ rfl rfl (by decide), listed]

end Form

end FormCheck
