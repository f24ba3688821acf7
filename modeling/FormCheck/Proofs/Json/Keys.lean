import FormCheck.Json.Parser
import FormCheck.Store.ListingProperties

/-!
Objects that come from a text have distinct keys: the members of a repeated key are one by
the time an object is made.
-/

set_option autoImplicit false

namespace FormCheck.Json

/-- Whether a value, if it is an object, has each key once. -/
def Value.DistinctKeys (value : Value) : Prop :=
  ∀ members, value.members? = some members → (members.map Prod.fst).Nodup

theorem distinctKeys_of_members?_none {value : Value} (flat : value.members? = none) :
    value.DistinctKeys := by
  intro members listed
  rw [flat] at listed
  cases listed

theorem distinctKeys_ofMembers (members : List (String × Value)) :
    (Value.ofMembers members).DistinctKeys := by
  intro listed shape
  cases shape
  exact Listing.nodup_ofPairs members

private theorem except_map_ok {ε α β : Type} {change : α → β} {source : Except ε α} {result : β}
    (mapped : source.map change = .ok result) :
    ∃ value, source = .ok value ∧ change value = result := by
  cases source with
  | error error => cases mapped
  | ok value =>
      cases mapped
      exact ⟨value, rfl, rfl⟩

theorem distinctKeys_literal {meaning : Value} (flat : meaning.members? = none)
    {letters : String} {text : List Char} {first : Taken text Char} {taken : Taken text Value}
    (read : literal meaning letters first = .ok taken) : taken.value.DistinctKeys := by
  obtain ⟨after, _, shape⟩ := except_map_ok read
  cases shape
  exact distinctKeys_of_members?_none flat

theorem distinctKeys_scalar {scrutiny : Scrutiny} {text : List Char} {first : Taken text Char}
    {taken : Taken text Value} (read : scalar scrutiny first = .ok taken) :
    taken.value.DistinctKeys := by
  unfold scalar at read
  split at read
  · obtain ⟨chars, _, shape⟩ := except_map_ok read
    cases shape
    exact distinctKeys_of_members?_none rfl
  · split at read
    · exact distinctKeys_literal rfl read
    · split at read
      · exact distinctKeys_literal rfl read
      · split at read
        · exact distinctKeys_literal rfl read
        · split at read
          · obtain ⟨spelling, _, shape⟩ := except_map_ok read
            cases shape
            exact distinctKeys_of_members?_none rfl
          · cases read

theorem distinctKeys_value {scrutiny : Scrutiny} {depth : Nat} {text : List Char}
    {taken : Taken text Value} (read : value scrutiny depth text = .ok taken) :
    taken.value.DistinctKeys := by
  unfold value at read
  cases next : nextChar? text with
  | none => simp [next] at read
  | some first =>
      simp only [next] at read
      split at read
      · cases depth with
        | zero => cases read
        | succ inner =>
            obtain ⟨items, _, shape⟩ := except_map_ok read
            cases shape
            exact distinctKeys_of_members?_none rfl
      · split at read
        · cases depth with
          | zero => cases read
          | succ inner =>
              obtain ⟨members, _, shape⟩ := except_map_ok read
              cases shape
              exact distinctKeys_ofMembers members.value
        · exact distinctKeys_scalar read

/-- The value of a text, if it is an object, has each key once. -/
theorem distinctKeys_parse {text : String} {value : Value} (read : parse text = .ok value) :
    value.DistinctKeys := by
  unfold parse at read
  cases whole : readAll text.toList with
  | error stop =>
      rw [whole] at read
      cases read
  | ok result =>
      rw [whole] at read
      cases read
      unfold readAll at whole
      cases front : Json.value .full maxDepth text.toList with
      | error stop =>
          simp only [front, bind, Except.bind] at whole
          cases whole
      | ok taken =>
          simp only [front, bind, Except.bind] at whole
          split at whole
          · cases whole
            exact distinctKeys_value front
          · cases whole

end FormCheck.Json
