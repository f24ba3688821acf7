import FormCheck.FormProperties
import FormCheck.Judgement.Field

/-!
Judgement looks at contents only. Forms that hold the same contents give every input the
same finding, whatever markers they carry, and marking and clearing leave the contents as
they are. So the marks of one judgement are invisible to the next.
-/

set_option autoImplicit false

namespace FormCheck

namespace Form

/-- Two forms with the same ids and the same content under each. Markers may differ. -/
def SameContents (left right : Form) : Prop :=
  ∀ id, (left.find? id).map Input.content = (right.find? id).map Input.content

theorem SameContents.refl (form : Form) : form.SameContents form :=
  fun _ => rfl

theorem SameContents.trans {left middle right : Form} (first : left.SameContents middle)
    (second : middle.SameContents right) : left.SameContents right :=
  fun id => (first id).trans (second id)

theorem SameContents.cases {left right : Form} (same : left.SameContents right) (id : String) :
    (left.find? id = none ∧ right.find? id = none) ∨
      ∃ input other, left.find? id = some input ∧ right.find? id = some other ∧
        input.content = other.content := by
  have here := same id
  cases leftFound : left.find? id with
  | none =>
      cases rightFound : right.find? id with
      | none => exact .inl ⟨rfl, rfl⟩
      | some other => simp [leftFound, rightFound] at here
  | some input =>
      cases rightFound : right.find? id with
      | none => simp [leftFound, rightFound] at here
      | some other =>
          refine .inr ⟨input, other, rfl, rfl, ?_⟩
          simpa [leftFound, rightFound] using here

/-- What is told of an input by its content is told alike of the inputs of one id. -/
theorem SameContents.map_find? {α : Type} {left right : Form} (same : left.SameContents right)
    (id : String) {ofLeft ofRight : Input → α}
    (agree : ∀ input other, input.content = other.content → ofLeft input = ofRight other) :
    (left.find? id).map ofLeft = (right.find? id).map ofRight := by
  rcases same.cases id with ⟨leftAbsent, rightAbsent⟩ | ⟨input, other, found, matched, content⟩
  · rw [leftAbsent, rightAbsent]
    rfl
  · rw [found, matched, Option.map_some, Option.map_some, agree input other content]

theorem SameContents.refl? (form : Option Form) : Option.Rel SameContents form form := by
  cases form with
  | none => exact .none
  | some form => exact .some (.refl form)

theorem SameContents.trans? {left middle right : Option Form}
    (first : Option.Rel SameContents left middle) (second : Option.Rel SameContents middle right) :
    Option.Rel SameContents left right := by
  cases first with
  | none => exact second
  | some first =>
      cases second with
      | some second => exact .some (first.trans second)

theorem sameContents_mark (form : Form) (id marker : String) :
    (form.mark id marker).SameContents form := by
  intro other
  rw [find?_mark]
  split
  · rw [Option.map_map]
    rfl
  · rfl

theorem sameContents_clear (form : Form) (marker : String) :
    (form.clear marker).SameContents form := by
  intro id
  rw [find?_clear, Option.map_map]
  rfl

theorem sameContents_markFor (form : Form) (id : String) (marker : Option String)
    (finding : Option Finding) : (form.markFor id marker finding).SameContents form := by
  unfold markFor
  cases marker with
  | none => exact .refl form
  | some marker =>
      simp only
      split
      · exact sameContents_mark form id marker
      · exact .refl form

theorem SameContents.put {left right : Form} (same : left.SameContents right) (id : String)
    {input other : Input} (content : input.content = other.content) :
    (left.put id input).SameContents (right.put id other) := by
  intro asked
  simp only [find?_put]
  split
  · exact congrArg some content
  · exact same asked

theorem SameContents.insert {left right : Form} (same : left.SameContents right) (id : String)
    (content : Content) : (left.insert id content).SameContents (right.insert id content) := by
  rw [insert_eq_put, insert_eq_put]
  exact same.put id rfl

/-- To copy inputs of one id from forms with the same contents makes such forms again. -/
theorem SameContents.putFrom {left right : Form} (same : left.SameContents right)
    {fromLeft fromRight : Option Form} (sources : Option.Rel SameContents fromLeft fromRight)
    (source id : String) :
    Option.Rel SameContents ((fromLeft.bind (·.find? source)).map (left.put id))
      ((fromRight.bind (·.find? source)).map (right.put id)) := by
  cases sources with
  | none => exact .none
  | @some leftSource rightSource sources =>
      simp only [Option.bind_some]
      rcases sources.cases source with ⟨absent, absent'⟩ | ⟨input, other, found, matched, content⟩
      · rw [absent, absent']
        exact .none
      · rw [found, matched]
        exact .some (same.put id content)

theorem SameContents.adjust {left right : Form} (same : left.SameContents right) (id : String)
    (content : Content) :
    (left.adjust id fun input => { input with content }).SameContents
      (right.adjust id fun input => { input with content }) := by
  intro other
  simp only [find?_adjust]
  split
  · rw [Option.map_map, Option.map_map]
    exact same.map_find? other fun _ _ _ => rfl
  · exact same other

theorem SameContents.setText? {left right : Form} (same : left.SameContents right)
    (id text : String) :
    Option.Rel SameContents (left.setText? id text) (right.setText? id text) := by
  unfold Form.setText?
  rw [same id]
  split
  · exact .some (same.adjust id _)
  · exact .none

theorem SameContents.setChecked? {left right : Form} (same : left.SameContents right)
    (id : String) (checked : Bool) :
    Option.Rel SameContents (left.setChecked? id checked) (right.setChecked? id checked) := by
  unfold Form.setChecked?
  rw [same id]
  split
  · exact .some (same.adjust id _)
  · exact .none

end Form

namespace Presence

theorem siblingEmpty_congr {left right : Form} (same : left.SameContents right)
    (presence : Presence) : presence.siblingEmpty left = presence.siblingEmpty right := by
  unfold siblingEmpty
  cases presence.sibling? with
  | none => rfl
  | some id =>
      rcases same.cases id with ⟨leftAbsent, rightAbsent⟩ | ⟨input, other, found, matched, content⟩
      · simp only [leftAbsent, rightAbsent]
      · simp only [found, matched, content]

theorem resolve_congr {left right : Form} (same : left.SameContents right)
    (presence : Presence) {own other : Input} (content : own.content = other.content) :
    presence.resolve own left = presence.resolve other right := by
  simp only [resolve, siblingEmpty_congr same, content]

end Presence

namespace Form

/-- Forms with the same contents give an input the same finding. -/
theorem finding?_congr {left right : Form} (same : left.SameContents right) (id rule : String) :
    left.finding? id rule = right.finding? id rule := by
  unfold finding?
  rcases same.cases id with ⟨leftAbsent, rightAbsent⟩ | ⟨input, other, found, matched, content⟩
  · simp only [leftAbsent, rightAbsent]
  · simp only [found, matched, content, Presence.resolve_congr same _ content]

theorem found_of_marksInput {form : Form} {id rule : String} {finding : Finding}
    (failed : form.finding? id rule = some finding) (marks : finding.marksInput = true) :
    ∃ input, form.find? id = some input := by
  cases found : form.find? id with
  | none =>
      simp only [finding?, found, Option.some.injEq] at failed
      subst finding
      simp [Finding.marksInput] at marks
  | some input => exact ⟨input, rfl⟩

theorem isMarked_mark (form : Form) (id marker other carried : String) :
    (form.mark id marker).isMarked other carried = true ↔
      form.isMarked other carried = true ∨
        (other = id ∧ carried = marker ∧ ∃ input, form.find? id = some input) := by
  simp only [isMarked, find?_mark]
  by_cases same : other = id
  · subst same
    cases form.find? other with
    | none => simp
    | some input => simp [Input.hasMarker_mark, or_comm]
  · simp [same]

/-- The inputs with a marker are listed in the same order by every form that has them. -/
theorem marked_congr {left right : Form} {marker : String}
    (same : ∀ id, left.isMarked id marker = true ↔ right.isMarked id marker = true) :
    left.marked marker = right.marked marker := by
  have leftAscending := left.inputs.ascending_namesWhere (·.hasMarker marker)
  have rightAscending := right.inputs.ascending_namesWhere (·.hasMarker marker)
  have sameNames : (left.marked marker).Perm (right.marked marker) := by
    refine (List.perm_ext_iff_of_nodup (leftAscending.imp String.ne_of_lt)
      (rightAscending.imp String.ne_of_lt)).mpr ?_
    intro id
    simp only [Table.mem_namesWhere]
    exact same id
  refine List.Perm.eq_of_pairwise ?_ leftAscending rightAscending sameNames
  intro first second _ _ before behind
  exact absurd (String.lt_trans before behind) (String.lt_irrefl first)

theorem isMarked_clear (form : Form) (marker id carried : String) :
    (form.clear marker).isMarked id carried = true ↔
      carried ≠ marker ∧ form.isMarked id carried = true := by
  simp only [isMarked, find?_clear]
  cases form.find? id with
  | none => simp
  | some input => simp [Input.hasMarker_unmark]

end Form

end FormCheck
