/-!
Looking up names in lists of named values. The first pair of a name is the one that is
found, and where no name occurs twice the found pairs are all pairs of the list.
-/

set_option autoImplicit false

namespace FormCheck.Lookup

variable {α β : Type}

theorem lookup_cons (name : String) (pair : String × α) (rest : List (String × α)) :
    (pair :: rest).lookup name = if name = pair.1 then some pair.2 else rest.lookup name := by
  obtain ⟨key, value⟩ := pair
  by_cases same : name = key
  · simp [same]
  · simp [List.lookup_cons, beq_false_of_ne same, same]

theorem lookup_map (change : String → α → β) (pairs : List (String × α)) (name : String) :
    (pairs.map fun pair => (pair.1, change pair.1 pair.2)).lookup name =
      (pairs.lookup name).map (change name) := by
  induction pairs with
  | nil => rfl
  | cons pair rest ih =>
      rw [List.map_cons, lookup_cons, ih, lookup_cons]
      split
      case isTrue same => simp [same]
      case isFalse => rfl

theorem lookup_filter_ne (removed : String) (pairs : List (String × α)) (name : String) :
    (pairs.filter fun pair => pair.1 ≠ removed).lookup name =
      if name = removed then none else pairs.lookup name := by
  induction pairs with
  | nil => simp
  | cons pair rest ih =>
      rw [lookup_cons, List.filter_cons]
      by_cases gone : pair.1 = removed
      · rw [if_neg (by simpa using gone), ih, gone]
        split <;> rfl
      · rw [if_pos (by simpa using gone), lookup_cons, ih]
        by_cases here : name = pair.1
        · simp [here, gone]
        · simp [here]

theorem mem_of_lookup {pairs : List (String × α)} {name : String} {value : α}
    (found : pairs.lookup name = some value) : (name, value) ∈ pairs := by
  induction pairs with
  | nil => simp at found
  | cons pair rest ih =>
      rw [lookup_cons] at found
      split at found
      case isTrue same =>
        cases found
        exact same ▸ List.mem_cons_self
      case isFalse => exact List.mem_cons_of_mem _ (ih found)

/-- Where no name occurs twice, exactly the pairs of the list are found. -/
theorem lookup_eq_some_iff {pairs : List (String × α)} (distinct : (pairs.map Prod.fst).Nodup)
    {name : String} {value : α} : pairs.lookup name = some value ↔ (name, value) ∈ pairs := by
  refine ⟨mem_of_lookup, fun member => ?_⟩
  induction pairs with
  | nil => simp at member
  | cons pair rest ih =>
      obtain ⟨fresh, restDistinct⟩ := List.nodup_cons.mp distinct
      rw [lookup_cons]
      rcases List.mem_cons.mp member with rfl | later
      · simp
      · have other : name ≠ pair.1 := fun same => fresh (same ▸ List.mem_map_of_mem later)
        rw [if_neg other, ih restDistinct later]

end FormCheck.Lookup
