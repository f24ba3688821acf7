import FormCheck.Proofs.Text.Marked
import FormCheck.Run

/-!
Reading reports back. The markup of a report repeats labels, ids and arguments as they are, so
an entry may hold what looks like markup. As long as none holds the tag that ends an item,
the markup tells the entries from each other, and an empty list always means that a run found
nothing.
-/

set_option autoImplicit false

namespace FormCheck

/-- The rules of a run: a book, or a document that has yet to be read. -/
inductive Rules where
  | book (book : RuleBook)
  | document (text : String)

def Form.check (form : Form) (settings : Settings) : Rules → Outcome
  | .book book => form.validate book settings
  | .document text => form.validateText text settings

namespace Report

def itemStart : List Char := "<li>".toList

def itemEnd : List Char := "</li>".toList

/-- The items that show texts. -/
def items (texts : List String) : List Char :=
  texts.flatMap fun text => itemStart ++ (text.toList ++ itemEnd)

def texts (report : Report) : List String :=
  report.entries.map ReportEntry.text

/-- A report in which no entry forges the end of an item. -/
def Unforged (report : Report) : Prop :=
  ∀ entry ∈ report.entries, ¬ "</li>".toList <:+: entry.text.toList

theorem clean_itemEnd : Text.Clean itemEnd :=
  .mark (by decide)

theorem toList_framed (before text behind : String) :
    (before ++ text ++ behind).toList = before.toList ++ (text.toList ++ behind.toList) := by
  rw [String.toList_append, String.toList_append, List.append_assoc]

theorem toList_markup (report : Report) :
    report.markup.toList = opening.toList ++ (items report.texts ++ closing.toList) := by
  have item : (fun entry : ReportEntry => ("<li>" ++ entry.text ++ "</li>").toList) =
      fun entry => itemStart ++ (entry.text.toList ++ itemEnd) :=
    funext fun entry => toList_framed "<li>" entry.text "</li>"
  rw [markup, toList_framed, String.toList_join, List.flatMap_map, item, items, texts,
    List.flatMap_map]

theorem items_eq_nil_iff (texts : List String) : items texts = [] ↔ texts = [] := by
  cases texts with
  | nil => exact ⟨fun _ => rfl, fun _ => rfl⟩
  | cons text rest =>
      have start : itemStart ≠ [] := by decide
      simp [items, start]

/-- Items are told from each other by the ends of their texts. -/
theorem items_inj {left right : List String} (leftFree : ∀ text ∈ left, ¬ itemEnd <:+: text.toList)
    (rightFree : ∀ text ∈ right, ¬ itemEnd <:+: text.toList) (same : items left = items right) :
    left = right := by
  induction left generalizing right with
  | nil => exact ((items_eq_nil_iff right).mp same.symm).symm
  | cons text rest ih =>
      cases right with
      | nil => exact (items_eq_nil_iff (text :: rest)).mp same
      | cons other otherRest =>
          simp only [items, List.flatMap_cons, List.append_assoc, List.append_cancel_left_eq] at same
          obtain ⟨texts, behind⟩ := Text.append_mark_inj clean_itemEnd
            (leftFree text List.mem_cons_self) (rightFree other List.mem_cons_self) same
          have later := ih (fun text member => leftFree text (List.mem_cons_of_mem _ member))
            (fun text member => rightFree text (List.mem_cons_of_mem _ member)) behind
          rw [String.toList_inj.mp texts, later]

theorem texts_eq_of_markup_eq {left right : Report} (leftFree : left.Unforged)
    (rightFree : right.Unforged) (same : left.markup = right.markup) : left.texts = right.texts := by
  have shown := congrArg String.toList same
  rw [toList_markup, toList_markup] at shown
  exact items_inj (List.forall_mem_map.mpr leftFree) (List.forall_mem_map.mpr rightFree)
    (List.append_cancel_right (List.append_cancel_left shown))

/-- A report without entries shows an empty list, and no other report does, whatever its
entries say. -/
theorem isClean_iff_markup (report : Report) :
    report.isClean = true ↔ report.markup = opening ++ closing := by
  rw [isClean, List.isEmpty_iff, ← String.toList_inj, toList_markup, String.toList_append,
    List.append_cancel_left_eq, List.append_left_eq_self, items_eq_nil_iff, texts,
    List.map_eq_nil_iff]

end Report

/-- Two runs that show the same markup, and whose entries do not forge the end of an item, found
what reads the same, entry by entry. And an empty list is shown by the runs that found nothing. -/
theorem runs_read_back_from_markup :
    (∀ (form other : Form) (settings otherSettings : Settings) (rules otherRules : Rules),
      (form.check settings rules).report.Unforged →
      (other.check otherSettings otherRules).report.Unforged →
      (form.check settings rules).report.markup =
        (other.check otherSettings otherRules).report.markup →
      (form.check settings rules).report.entries.map ReportEntry.text =
        (other.check otherSettings otherRules).report.entries.map ReportEntry.text) ∧
    ∀ (form : Form) (settings : Settings) (rules : Rules),
      (form.check settings rules).report.isClean = true ↔
        (form.check settings rules).report.markup = "<ul style=\"text-align: start;\"></ul>" := by
  constructor
  · intro form other settings otherSettings rules otherRules unforged otherUnforged same
    exact Report.texts_eq_of_markup_eq unforged otherUnforged same
  · intro form settings rules
    exact Report.isClean_iff_markup _

/-- A label that takes over the beginning of a message, and an argument that ends in the
beginning of a tag. -/
theorem runs_read_back_from_look_alikes :
    ((Form.empty.insert "a" (.text "x")).check {} (.book (RuleBook.empty.put "a"
        ⟨"<li>", "required|in_list[b -> must contains </li]"⟩))).report.Unforged ∧
      ((Form.empty.insert "b" (.text "y")).check ⟨""⟩ (.book (RuleBook.empty.put "b"
        ⟨"<li> -> must contains b", "permit_empty|in_list[</li]"⟩))).report.Unforged ∧
      ((Form.empty.insert "a" (.text "x")).check {} (.book (RuleBook.empty.put "a"
          ⟨"<li>", "required|in_list[b -> must contains </li]"⟩))).report.entries.map
            ReportEntry.text =
        ((Form.empty.insert "b" (.text "y")).check ⟨""⟩ (.book (RuleBook.empty.put "b"
          ⟨"<li> -> must contains b", "permit_empty|in_list[</li]"⟩))).report.entries.map
            ReportEntry.text := by
  have unforged : ((Form.empty.insert "a" (.text "x")).check {} (.book (RuleBook.empty.put "a"
      ⟨"<li>", "required|in_list[b -> must contains </li]"⟩))).report.Unforged := by
    unfold Report.Unforged
    decide +kernel
  have otherUnforged : ((Form.empty.insert "b" (.text "y")).check ⟨""⟩ (.book (RuleBook.empty.put
      "b" ⟨"<li> -> must contains b", "permit_empty|in_list[</li]"⟩))).report.Unforged := by
    unfold Report.Unforged
    decide +kernel
  refine ⟨unforged, otherUnforged, ?_⟩
  exact runs_read_back_from_markup.1 _ _ _ _ _ _ unforged otherUnforged (by decide +kernel)

end FormCheck
