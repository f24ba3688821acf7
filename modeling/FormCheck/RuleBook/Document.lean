import FormCheck.Finding
import FormCheck.Json.Parser
import FormCheck.RuleBook

/-!
Rules documents: JSON objects that give each id an object with a label and a rule.
-/

set_option autoImplicit false

namespace FormCheck.RuleBook

/-- The labelled rule that a member of a document gives. Label and rule have to be
strings; other keys beside them are ignored. -/
def readEntry (id : String) (entry : Json.Value) : Except Defect LabelledRule :=
  match (entry.member? "label").bind (·.string?), (entry.member? "rules").bind (·.string?) with
  | some label, some rule => .ok ⟨label, rule⟩
  | _, _ => .error (.malformedEntry id)

/-- The members of a document, each read by itself. -/
def readMembers (document : Json.Value) :
    Except Defect (List (String × Except Defect LabelledRule)) :=
  match document.members? with
  | none => .error .notAnObject
  | some members => .ok (members.map fun (id, entry) => (id, readEntry id entry))

def readDocument (text : String) : Except Defect Json.Value :=
  (Json.parse text).mapError .unreadable

/-- The book that a document makes, one member put after another. The first malformed
member stops the reading. -/
def ofDocument (document : Json.Value) : Except Defect RuleBook :=
  match document.members? with
  | none => .error .notAnObject
  | some members =>
      members.foldlM (fun book (id, entry) => (readEntry id entry).map (book.put id ·)) ∅

def ofText (text : String) : Except Defect RuleBook := do
  ofDocument (← readDocument text)

end FormCheck.RuleBook
