import FormCheck.Form
import FormCheck.Store.TableProperties

/-!
What forms show. A form is determined by the inputs found under its ids, an input by its
content and the markers that it carries, and every operation is described by what it does
to these.
-/

set_option autoImplicit false

namespace FormCheck

namespace Content

/-- What counts as empty. A box does as long as it is unchecked, although it has a value. -/
inductive Empty : Content → Prop where
  | text : Empty (.text "")
  | unchecked (value : String) : Empty (.checkbox false value)

theorem isEmpty_iff (content : Content) : content.isEmpty = true ↔ content.Empty := by
  constructor
  · intro empty
    cases content with
    | text value =>
        obtain rfl := beq_iff_eq.mp empty
        exact .text
    | checkbox checked value =>
        obtain rfl := Bool.not_eq_true' checked |>.mp empty
        exact .unchecked value
  · intro empty
    cases empty with
    | text => rfl
    | unchecked value => rfl

theorem isEmpty_eq_false_iff (content : Content) : content.isEmpty = false ↔ ¬ content.Empty := by
  rw [← isEmpty_iff, Bool.not_eq_true]

instance (content : Content) : Decidable content.Empty :=
  decidable_of_iff (content.isEmpty = true) content.isEmpty_iff

end Content

namespace Input

theorem hasMarker_mark (input : Input) (marker other : String) :
    (input.mark marker).hasMarker other = (other == marker || input.hasMarker other) := by
  simp only [hasMarker, mark, Table.contains, Table.find?_insert]
  by_cases same : other = marker <;> simp [same]

theorem hasMarker_unmark (input : Input) (marker other : String) :
    (input.unmark marker).hasMarker other = (other != marker && input.hasMarker other) := by
  simp only [hasMarker, unmark, Table.contains, Table.find?_erase]
  by_cases same : other = marker <;> simp [same]

/-- Two inputs of the same content and the same markers are equal. -/
theorem ext_hasMarker {left right : Input} (content : left.content = right.content)
    (markers : ∀ marker, left.hasMarker marker = right.hasMarker marker) : left = right := by
  have sameMarkers : left.markers = right.markers := Table.ext_find? fun marker => by
    have same := markers marker
    simp only [hasMarker, Table.contains] at same
    cases found : left.markers.find? marker <;>
      cases other : right.markers.find? marker <;> simp_all
  obtain ⟨leftContent, leftMarkers⟩ := left
  obtain ⟨rightContent, rightMarkers⟩ := right
  cases content
  cases sameMarkers
  rfl

end Input

namespace Form

@[simp] theorem find?_empty (id : String) : empty.find? id = none := rfl

theorem find?_insert (form : Form) (id : String) (content : Content) (other : String) :
    (form.insert id content).find? other =
      if other = id then some { content } else form.find? other :=
  Table.find?_insert form.inputs id _ other

theorem find?_put (form : Form) (id : String) (input : Input) (other : String) :
    (form.put id input).find? other = if other = id then some input else form.find? other :=
  Table.find?_insert form.inputs id input other

/-- A new input is put without markers. -/
theorem insert_eq_put (form : Form) (id : String) (content : Content) :
    form.insert id content = form.put id { content } :=
  rfl

theorem find?_adjust (form : Form) (id : String) (change : Input → Input) (other : String) :
    (form.adjust id change).find? other =
      if other = id then (form.find? other).map change else form.find? other :=
  Table.find?_adjust form.inputs id change other

theorem find?_mark (form : Form) (id marker other : String) :
    (form.mark id marker).find? other =
      if other = id then (form.find? other).map (·.mark marker) else form.find? other :=
  form.find?_adjust id _ other

theorem find?_clear (form : Form) (marker id : String) :
    (form.clear marker).find? id = (form.find? id).map (·.unmark marker) :=
  Table.find?_mapEntries form.inputs _ id

/-- Two forms in which the same is found under every id are equal. -/
theorem ext_find? {left right : Form} (same : ∀ id, left.find? id = right.find? id) :
    left = right := by
  have inputs : left.inputs = right.inputs := Table.ext_find? same
  cases left
  cases right
  cases inputs
  rfl

end Form

end FormCheck
