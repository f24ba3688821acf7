/-!
Listings: named values in the order in which the names first came up. Putting a name that
is already listed replaces its value and leaves it at its place.
-/

set_option autoImplicit false

namespace FormCheck.Listing

variable {α : Type}

/-- The listing with a value put under a name: in place of the name's earlier value, or
behind everything else. -/
def put (name : String) (value : α) : List (String × α) → List (String × α)
  | [] => [(name, value)]
  | entry :: rest =>
      if entry.1 = name then (name, value) :: rest else entry :: put name value rest

/-- The listing that putting the given pairs one after another makes. -/
def ofPairs (pairs : List (String × α)) : List (String × α) :=
  pairs.foldl (fun listing pair => put pair.1 pair.2 listing) []

theorem mem_put {name : String} {value : α} {listing : List (String × α)}
    {entry : String × α} (member : entry ∈ put name value listing) :
    entry = (name, value) ∨ entry ∈ listing := by
  induction listing with
  | nil => simpa [put] using member
  | cons head rest ih =>
      simp only [put] at member
      split at member
      · rcases List.mem_cons.mp member with here | later
        · exact Or.inl here
        · exact Or.inr (List.mem_cons_of_mem _ later)
      · rcases List.mem_cons.mp member with here | later
        · exact Or.inr (here ▸ List.mem_cons_self)
        · exact (ih later).imp_right (List.mem_cons_of_mem _)

/-- Putting a value keeps every name to one entry. -/
theorem nodup_put (name : String) (value : α) (listing : List (String × α))
    (distinct : (listing.map Prod.fst).Nodup) :
    ((put name value listing).map Prod.fst).Nodup := by
  induction listing with
  | nil => simp [put]
  | cons head rest ih =>
      simp only [List.map_cons, List.nodup_cons] at distinct
      simp only [put]
      split
      case isTrue same => simpa [← same] using distinct
      case isFalse different =>
        simp only [List.map_cons, List.nodup_cons]
        refine ⟨fun repeated => ?_, ih distinct.2⟩
        obtain ⟨entry, member, sameName⟩ := List.mem_map.mp repeated
        rcases mem_put member with rfl | earlier
        · exact different sameName.symm
        · exact distinct.1 (sameName ▸ List.mem_map_of_mem earlier)

end FormCheck.Listing
