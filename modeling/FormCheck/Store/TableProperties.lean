import FormCheck.Store.Lookup
import FormCheck.Store.Table

/-!
What tables show. A table is determined by what is found under each name, and every
operation is described by what it does to that.
-/

set_option autoImplicit false

namespace FormCheck.Table

open Lookup

variable {α β : Type}

@[simp] theorem find?_empty (name : String) : (∅ : Table α).find? name = none := rfl

/-- An insertion into ascending entries changes what is found under its own name only. -/
theorem lookup_insertEntry (name : String) (value : α) (entries : List (String × α))
    (other : String) :
    (insertEntry name value entries).lookup other =
      if other = name then some value else entries.lookup other := by
  induction entries with
  | nil => simp [insertEntry, lookup_cons]
  | cons head rest ih =>
      simp only [insertEntry]
      split
      · rw [lookup_cons]
      · split
        case isTrue same =>
          rw [lookup_cons, lookup_cons, same]
          split <;> rfl
        case isFalse different =>
          rw [lookup_cons, ih, lookup_cons]
          by_cases found : other = head.1
          · simp [found, Ne.symm different]
          · simp [found]

theorem find?_insert (table : Table α) (name : String) (value : α) (other : String) :
    (table.insert name value).find? other =
      if other = name then some value else table.find? other :=
  lookup_insertEntry name value table.entries other

theorem find?_erase (table : Table α) (name other : String) :
    (table.erase name).find? other = if other = name then none else table.find? other :=
  lookup_filter_ne name table.entries other

theorem find?_mapEntries (table : Table α) (change : String → α → β) (name : String) :
    (table.mapEntries change).find? name = (table.find? name).map (change name) :=
  lookup_map change table.entries name

theorem find?_adjust (table : Table α) (name : String) (change : α → α) (other : String) :
    (table.adjust name change).find? other =
      if other = name then (table.find? other).map change else table.find? other := by
  rw [adjust, find?_mapEntries]
  split <;> simp

theorem nodup_names (table : Table α) : (table.entries.map Prod.fst).Nodup :=
  List.pairwise_map.mpr (table.ascending.imp String.ne_of_lt)

theorem mem_entries_iff (table : Table α) (entry : String × α) :
    entry ∈ table.entries ↔ table.find? entry.1 = some entry.2 :=
  (lookup_eq_some_iff table.nodup_names).symm

theorem mem_namesWhere (table : Table α) (condition : α → Bool) (name : String) :
    name ∈ table.namesWhere condition ↔ (table.find? name).any condition = true := by
  simp only [namesWhere, List.mem_map, List.mem_filter, mem_entries_iff]
  constructor
  · rintro ⟨entry, ⟨found, holds⟩, rfl⟩
    simp [found, holds]
  · intro holds
    obtain ⟨value, found, holds⟩ := (Option.any_eq_true _ _).mp holds
    exact ⟨(name, value), ⟨found, holds⟩, rfl⟩

theorem ascending_namesWhere (table : Table α) (condition : α → Bool) :
    (table.namesWhere condition).Pairwise (· < ·) :=
  List.pairwise_map.mpr (table.ascending.filter _)

/-- The ascending order leaves no choice: two lists of the same entries in it are equal. -/
theorem eq_of_ascending {left right : List (String × α)}
    (leftAscending : left.Pairwise fun earlier later => earlier.1 < later.1)
    (rightAscending : right.Pairwise fun earlier later => earlier.1 < later.1)
    (same : ∀ entry, entry ∈ left ↔ entry ∈ right) : left = right := by
  induction left generalizing right with
  | nil =>
      cases right with
      | nil => rfl
      | cons head _ => simpa using same head
  | cons first rest ih =>
      cases right with
      | nil => simpa using same first
      | cons head tail =>
          obtain ⟨firstBefore, restAscending⟩ := List.pairwise_cons.mp leftAscending
          obtain ⟨headBefore, tailAscending⟩ := List.pairwise_cons.mp rightAscending
          have heads : first = head := by
            rcases List.mem_cons.mp ((same first).mp List.mem_cons_self) with here | firstLater
            · exact here
            · rcases List.mem_cons.mp ((same head).mpr List.mem_cons_self) with here | headLater
              · exact here.symm
              · exact absurd (String.lt_trans (firstBefore head headLater)
                  (headBefore first firstLater)) (String.lt_irrefl _)
          subst heads
          refine congrArg _ (ih restAscending tailAscending fun entry => ?_)
          have notFirst (entries : List (String × α))
              (before : ∀ entry ∈ entries, first.1 < entry.1) (member : entry ∈ entries) :
              entry ≠ first :=
            fun isFirst => String.lt_irrefl _ (isFirst ▸ before entry member)
          constructor
          · intro member
            exact (List.mem_cons.mp ((same entry).mp (List.mem_cons_of_mem _ member))).resolve_left
              (notFirst rest firstBefore member)
          · intro member
            exact (List.mem_cons.mp ((same entry).mpr (List.mem_cons_of_mem _ member))).resolve_left
              (notFirst tail headBefore member)

/-- Two tables in which the same is found under every name are equal. -/
theorem ext_find? {left right : Table α}
    (same : ∀ name, left.find? name = right.find? name) : left = right := by
  have entries : left.entries = right.entries :=
    eq_of_ascending left.ascending right.ascending fun entry => by
      rw [mem_entries_iff, mem_entries_iff, same]
  obtain ⟨leftEntries, _⟩ := left
  obtain ⟨rightEntries, _⟩ := right
  cases entries
  rfl

end FormCheck.Table
