import FormCheck.Store.Listing
import FormCheck.Store.Lookup

/-!
What listings show: the value last put under each name, and the names in the order in
which they first came up.
-/

set_option autoImplicit false

namespace FormCheck.Listing

open Lookup

variable {α : Type}

/-- Putting a value changes what is found under its own name only. -/
theorem lookup_put (name : String) (value : α) (listing : List (String × α)) (other : String) :
    (put name value listing).lookup other =
      if other = name then some value else listing.lookup other := by
  induction listing with
  | nil => simp [put, lookup_cons]
  | cons head rest ih =>
      simp only [put]
      split
      case isTrue same =>
        rw [lookup_cons, lookup_cons, same]
        split <;> rfl
      case isFalse different =>
        rw [lookup_cons, ih, lookup_cons]
        by_cases found : other = head.1
        · simp [found, different]
        · simp [found]

/-- Putting a value adds its name at the end, unless the name is listed already. -/
theorem names_put (name : String) (value : α) (listing : List (String × α)) :
    (put name value listing).map Prod.fst =
      if name ∈ listing.map Prod.fst then listing.map Prod.fst
      else listing.map Prod.fst ++ [name] := by
  induction listing with
  | nil => simp [put]
  | cons head rest ih =>
      simp only [put]
      split
      case isTrue same => simp [same]
      case isFalse different =>
        rw [List.map_cons, ih, List.map_cons]
        by_cases listed : name ∈ rest.map Prod.fst
        · simp [listed]
        · simp [listed, Ne.symm different]

@[simp] theorem ofPairs_nil : ofPairs ([] : List (String × α)) = [] := rfl

theorem ofPairs_concat (pairs : List (String × α)) (pair : String × α) :
    ofPairs (pairs ++ [pair]) = put pair.1 pair.2 (ofPairs pairs) := by
  simp [ofPairs, List.foldl_append]

theorem nodup_ofPairs (pairs : List (String × α)) : ((ofPairs pairs).map Prod.fst).Nodup := by
  suffices ∀ listing : List (String × α), (listing.map Prod.fst).Nodup →
      ((pairs.foldl (fun listing pair => put pair.1 pair.2 listing) listing).map Prod.fst).Nodup
    from this [] .nil
  induction pairs with
  | nil => exact fun _ distinct => distinct
  | cons pair rest ih => exact fun listing distinct => ih _ (nodup_put _ _ _ distinct)

end FormCheck.Listing
