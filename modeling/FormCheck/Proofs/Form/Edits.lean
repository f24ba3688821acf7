import FormCheck.FormProperties
import FormCheck.Proofs.Text.ByteOrder
import Mathlib.Data.Set.Insert
import Mathlib.Logic.Function.Basic

/-!
Forms as maps from ids to what an input holds and the set of its markers. Every edit of a form
does to the form what it does to the map, and everything that a form shows is told by the map,
so the order in which a form was filled is nowhere to be seen.
-/

set_option autoImplicit false

namespace FormCheck

/-- What can be done to a form between two looks at it. -/
inductive Edit where
  | text (id value : String)
  | checkbox (id : String) (checked : Bool)
  /-- Puts a new input, without markers, in place of an earlier one. -/
  | insert (id : String) (content : Content)
  /-- Puts an input that was copied with its markers. -/
  | put (id : String) (input : Input)
  | setText (id text : String)
  | setChecked (id : String) (checked : Bool)
  | mark (id marker : String)
  | clear (marker : String)

/-- A form as a map. Under an id there is an input or none. -/
abbrev FormMap := String → Option (Content × Set String)

/-- What an input shows: its content and the set of its markers. -/
def Input.seen (input : Input) : Content × Set String :=
  (input.content, {marker | input.hasMarker marker = true})

/-- A state edited by one edit after another, and what each of them answered. -/
def playEdits {State : Type} (edit : State → Edit → Option Bool × State) :
    List Edit → State → List (Option Bool) × State
  | [], state => ([], state)
  | next :: rest, state =>
      let (answer, state) := edit state next
      let (answers, state) := playEdits edit rest state
      (answer :: answers, state)

/-! ## Edits of maps -/

namespace FormMap

def empty : FormMap := fun _ => none

/-- The map after an edit, and for the edits that may fail whether it was made. -/
def edit (map : FormMap) : Edit → Option Bool × FormMap
  | .text id value => (none, Function.update map id (some (.text value, ∅)))
  | .checkbox id checked => (none, Function.update map id (some (.checkbox checked "on", ∅)))
  | .insert id content => (none, Function.update map id (some (content, ∅)))
  | .put id input => (none, Function.update map id (some input.seen))
  | .setText id text =>
      match map id with
      | some (.text _, markers) =>
          (some true, Function.update map id (some (.text text, markers)))
      | _ => (some false, map)
  | .setChecked id checked =>
      match map id with
      | some (.checkbox _ value, markers) =>
          (some true, Function.update map id (some (.checkbox checked value, markers)))
      | _ => (some false, map)
  | .mark id marker =>
      match map id with
      | some (content, markers) =>
          (none, Function.update map id (some (content, insert marker markers)))
      | none => (none, map)
  | .clear marker =>
      (none, fun id => (map id).map fun (content, markers) => (content, markers \ {marker}))

/-- Whether an id has an input that carries a marker. -/
def Carries (map : FormMap) (id marker : String) : Prop :=
  ∃ content markers, map id = some (content, markers) ∧ marker ∈ markers

end FormMap

/-! ## Edits of forms -/

namespace Form

/-- The form that an edit makes, or the form as it is where the edit makes none. -/
def attempt (form : Form) (edited : Option Form) : Option Bool × Form :=
  (some edited.isSome, edited.getD form)

/-- The form after an edit, and for the edits that may fail whether it was made. -/
def edit (form : Form) : Edit → Option Bool × Form
  | .text id value => (none, form.insert id (.text value))
  | .checkbox id checked => (none, form.insert id (.checkbox checked Content.defaultBoxValue))
  | .insert id content => (none, form.insert id content)
  | .put id input => (none, form.put id input)
  | .setText id text => form.attempt (form.setText? id text)
  | .setChecked id checked => form.attempt (form.setChecked? id checked)
  | .mark id marker => (none, form.mark id marker)
  | .clear marker => (none, form.clear marker)

def toMap (form : Form) : FormMap :=
  fun id => (form.find? id).map Input.seen

end Form

theorem Input.seen_fresh (content : Content) : Input.seen { content } = (content, ∅) := by
  have none : {marker | Input.hasMarker { content } marker = true} = ∅ := by
    ext marker
    simp [hasMarker, Table.contains]
  rw [seen, none]

theorem Input.seen_mark (input : Input) (marker : String) :
    (input.mark marker).seen = (input.content, insert marker input.seen.2) := by
  have carried : {other | (input.mark marker).hasMarker other = true} =
      insert marker input.seen.2 := by
    ext other
    simp [hasMarker_mark, seen]
  rw [seen, carried]
  rfl

theorem Input.seen_unmark (input : Input) (marker : String) :
    (input.unmark marker).seen = (input.content, input.seen.2 \ {marker}) := by
  have carried : {other | (input.unmark marker).hasMarker other = true} =
      input.seen.2 \ {marker} := by
    ext other
    simp [hasMarker_unmark, seen, and_comm]
  rw [seen, carried]
  rfl

theorem Input.seen_injective {input other : Input} (same : input.seen = other.seen) :
    input = other := by
  obtain ⟨content, markers⟩ := Prod.mk.inj same
  refine Input.ext_hasMarker content ?_
  intro marker
  have carried := Set.ext_iff.mp markers marker
  exact Bool.eq_iff_iff.mpr carried

namespace Form

theorem toMap_empty : empty.toMap = FormMap.empty := rfl

theorem toMap_put (form : Form) (id : String) (input : Input) :
    (form.put id input).toMap = Function.update form.toMap id (some input.seen) := by
  funext other
  simp only [toMap, find?_put, Function.update_apply]
  split
  · rfl
  · rfl

theorem toMap_insert (form : Form) (id : String) (content : Content) :
    (form.insert id content).toMap = Function.update form.toMap id (some (content, ∅)) := by
  rw [insert_eq_put, toMap_put, Input.seen_fresh]

theorem toMap_of_absent {form : Form} {id : String} (absent : form.find? id = none) :
    form.toMap id = none := by
  rw [toMap, absent, Option.map_none]

theorem toMap_of_found {form : Form} {id : String} {input : Input}
    (found : form.find? id = some input) : form.toMap id = some (input.content, input.seen.2) := by
  rw [toMap, found, Option.map_some]
  rfl

theorem toMap_adjust {form : Form} {id : String} {input : Input}
    (found : form.find? id = some input) (change : Input → Input) :
    (form.adjust id change).toMap = Function.update form.toMap id (some (change input).seen) := by
  funext other
  simp only [toMap, find?_adjust, Function.update_apply]
  split
  case isTrue same => rw [same, found, Option.map_some, Option.map_some]
  case isFalse => rfl

/-- Another content leaves the markers as they are. -/
theorem toMap_setContent {form : Form} {id : String} {input : Input}
    (found : form.find? id = some input) (content : Content) :
    (form.adjust id fun input => { input with content }).toMap =
      Function.update form.toMap id (some (content, input.seen.2)) :=
  toMap_adjust found _

theorem adjust_absent {form : Form} {id : String} (absent : form.find? id = none)
    (change : Input → Input) : form.adjust id change = form := by
  refine ext_find? ?_
  intro other
  rw [find?_adjust]
  split
  case isTrue same => rw [same, absent, Option.map_none]
  case isFalse => rfl

theorem toMap_clear (form : Form) (marker : String) :
    (form.clear marker).toMap =
      fun id => (form.toMap id).map fun (content, markers) => (content, markers \ {marker}) := by
  funext id
  simp only [toMap, find?_clear, Option.map_map]
  refine congrFun (congrArg _ ?_) _
  funext input
  exact input.seen_unmark marker

/-- A form is determined by its map. -/
theorem toMap_inj {form other : Form} : form.toMap = other.toMap ↔ form = other := by
  refine ⟨fun same => ext_find? ?_, congrArg _⟩
  intro id
  exact Option.map_injective (fun _ _ => Input.seen_injective) (congrFun same id)

theorem setText_toMap (form : Form) (id text : String) :
    form.toMap.edit (.setText id text) =
      ((form.edit (.setText id text)).1, (form.edit (.setText id text)).2.toMap) := by
  cases found : form.find? id with
  | none => simp [Form.edit, FormMap.edit, attempt, setText?, found, toMap_of_absent found]
  | some input =>
      obtain ⟨content, markers⟩ := input
      cases content with
      | text value =>
          simp [Form.edit, FormMap.edit, attempt, setText?, found, toMap_of_found found,
            toMap_setContent found]
      | checkbox checked value =>
          simp [Form.edit, FormMap.edit, attempt, setText?, found, toMap_of_found found]

theorem setChecked_toMap (form : Form) (id : String) (checked : Bool) :
    form.toMap.edit (.setChecked id checked) =
      ((form.edit (.setChecked id checked)).1, (form.edit (.setChecked id checked)).2.toMap) := by
  cases found : form.find? id with
  | none => simp [Form.edit, FormMap.edit, attempt, setChecked?, found, toMap_of_absent found]
  | some input =>
      obtain ⟨content, markers⟩ := input
      cases content with
      | text value =>
          simp [Form.edit, FormMap.edit, attempt, setChecked?, found, toMap_of_found found]
      | checkbox before value =>
          simp [Form.edit, FormMap.edit, attempt, setChecked?, found, toMap_of_found found,
            toMap_setContent found]

theorem mark_toMap (form : Form) (id marker : String) :
    form.toMap.edit (.mark id marker) = (none, (form.mark id marker).toMap) := by
  cases found : form.find? id with
  | none => simp only [FormMap.edit, toMap_of_absent found, mark, adjust_absent found]
  | some input =>
      simp only [FormMap.edit, toMap_of_found found, mark, toMap_adjust found, Input.seen_mark]

/-- One edit does to a form what it does to its map, and answers as it does there. -/
theorem edit_toMap (form : Form) (edit : Edit) :
    form.toMap.edit edit = ((form.edit edit).1, (form.edit edit).2.toMap) := by
  cases edit with
  | text id value => rw [Form.edit, toMap_insert, FormMap.edit]
  | checkbox id checked => rw [Form.edit, toMap_insert, FormMap.edit, Content.defaultBoxValue]
  | insert id content => rw [Form.edit, toMap_insert, FormMap.edit]
  | put id input => rw [Form.edit, toMap_put, FormMap.edit]
  | setText id text => exact setText_toMap form id text
  | setChecked id checked => exact setChecked_toMap form id checked
  | mark id marker => exact mark_toMap form id marker
  | clear marker => rw [Form.edit, toMap_clear, FormMap.edit]

theorem playEdits_toMap (edits : List Edit) (form : Form) :
    playEdits FormMap.edit edits form.toMap =
      ((playEdits Form.edit edits form).1, (playEdits Form.edit edits form).2.toMap) := by
  induction edits generalizing form with
  | nil => rfl
  | cons edit rest ih => simp only [playEdits, edit_toMap, ih]

/-- Whether all that a form shows is what a map says of it. -/
structure Shows (form : Form) (map : FormMap) : Prop where
  /-- An input is found exactly where the map has one, with the content and the markers that
  it has there. -/
  found : ∀ id, (form.find? id).map Input.seen = map id
  hasMarker : ∀ id input, form.find? id = some input → ∀ marker,
    input.hasMarker marker = true ↔ map.Carries id marker
  isMarked : ∀ id marker, form.isMarked id marker = true ↔ map.Carries id marker
  /-- The ids with a marker are listed in the order of their bytes, each once. -/
  listed : ∀ marker id, id ∈ form.marked marker ↔ map.Carries id marker
  distinct : ∀ marker, (form.marked marker).Nodup
  ordered : ∀ marker, (form.marked marker).Pairwise Text.BytesBefore

theorem carries_toMap (form : Form) (id marker : String) :
    form.toMap.Carries id marker ↔ form.isMarked id marker = true := by
  cases found : form.find? id with
  | none => simp [FormMap.Carries, isMarked, toMap_of_absent found, found]
  | some input => simp [FormMap.Carries, isMarked, toMap_of_found found, found, Input.seen]

theorem shows_toMap (form : Form) : form.Shows form.toMap := by
  have ascending (marker : String) : (form.marked marker).Pairwise (· < ·) :=
    form.inputs.ascending_namesWhere (·.hasMarker marker)
  constructor
  case found => exact fun _ => rfl
  case hasMarker =>
    intro id input found marker
    rw [carries_toMap, isMarked, found, Option.any_some]
  case isMarked => exact fun id marker => (form.carries_toMap id marker).symm
  case listed =>
    intro marker id
    rw [carries_toMap]
    exact Table.mem_namesWhere form.inputs _ id
  case distinct => exact fun marker => (ascending marker).imp String.ne_of_lt
  case ordered => exact fun marker => (ascending marker).imp Text.bytesBefore_of_lt

/-- A form that is built and edited step by step answers and shows what the map does that is
edited in the same way, and two forms with the same map are the same, in whatever order they
were filled. -/
theorem edits_act_on_map :
    (∀ edits : List Edit,
      (playEdits Form.edit edits Form.empty).1 = (playEdits FormMap.edit edits FormMap.empty).1 ∧
        (playEdits Form.edit edits Form.empty).2.Shows
          (playEdits FormMap.edit edits FormMap.empty).2) ∧
    ∀ edits others : List Edit,
      (playEdits Form.edit edits Form.empty).2 = (playEdits Form.edit others Form.empty).2 ↔
        (playEdits FormMap.edit edits FormMap.empty).2 =
          (playEdits FormMap.edit others FormMap.empty).2 := by
  have played (edits : List Edit) := playEdits_toMap edits empty
  simp only [toMap_empty] at played
  constructor
  · intro edits
    rw [played]
    exact ⟨rfl, shows_toMap _⟩
  · intro edits others
    rw [played, played]
    exact toMap_inj.symm

-- The order is that of the bytes, not that of 16-bit units.
example : (((empty.insert "😀" (.text "")).insert "\uffff" (.text "")).mark "😀" "late" |>.mark
    "\uffff" "late").marked "late" = ["\uffff", "😀"] := by
  decide

end Form

end FormCheck
