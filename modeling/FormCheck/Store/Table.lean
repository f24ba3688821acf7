/-!
Tables: finite maps from names to values, kept in ascending order of the names. The order
is that of the code points, which is also the order of the UTF-8 bytes. Since the order
leaves no choice, two tables with the same contents are equal, whatever the order in
which they were filled.
-/

set_option autoImplicit false

namespace FormCheck

/-- Entries with names in strictly ascending order, so that each name occurs once. -/
structure Table (α : Type) where
  entries : List (String × α)
  ascending : entries.Pairwise fun left right => left.1 < right.1
  deriving DecidableEq

namespace Table

variable {α β : Type}

def empty : Table α := ⟨[], .nil⟩

instance : EmptyCollection (Table α) := ⟨empty⟩

def find? (table : Table α) (name : String) : Option α :=
  table.entries.lookup name

def contains (table : Table α) (name : String) : Bool :=
  (table.find? name).isSome

/-- Entries with one more, put at its place; an entry of the same name is replaced. -/
def insertEntry (name : String) (value : α) : List (String × α) → List (String × α)
  | [] => [(name, value)]
  | entry :: rest =>
      if name < entry.1 then
        (name, value) :: entry :: rest
      else if name = entry.1 then
        (name, value) :: rest
      else
        entry :: insertEntry name value rest

theorem mem_insertEntry {name : String} {value : α} {entries : List (String × α)}
    {entry : String × α} (member : entry ∈ insertEntry name value entries) :
    entry = (name, value) ∨ entry ∈ entries := by
  induction entries with
  | nil => simpa [insertEntry] using member
  | cons head rest ih =>
      simp only [insertEntry] at member
      split at member
      · simpa using member
      · split at member
        · rcases List.mem_cons.mp member with here | later
          · exact Or.inl here
          · exact Or.inr (List.mem_cons_of_mem _ later)
        · rcases List.mem_cons.mp member with here | later
          · exact Or.inr (here ▸ List.mem_cons_self)
          · exact (ih later).imp_right (List.mem_cons_of_mem _)

/-- Insertion keeps the names in ascending order. -/
theorem ascending_insertEntry (name : String) (value : α) (entries : List (String × α))
    (ascending : entries.Pairwise fun left right => left.1 < right.1) :
    (insertEntry name value entries).Pairwise fun left right => left.1 < right.1 := by
  induction entries with
  | nil => simp [insertEntry]
  | cons head rest ih =>
      obtain ⟨headFirst, restAscending⟩ := List.pairwise_cons.mp ascending
      simp only [insertEntry]
      split
      case isTrue before =>
        refine List.pairwise_cons.mpr ⟨?_, ascending⟩
        intro entry member
        rcases List.mem_cons.mp member with rfl | later
        · exact before
        · exact String.lt_trans before (headFirst entry later)
      case isFalse notBefore =>
        split
        case isTrue same =>
          refine List.pairwise_cons.mpr ⟨?_, restAscending⟩
          intro entry member
          exact same ▸ headFirst entry member
        case isFalse different =>
          have behind : head.1 < name := by
            refine Decidable.byContradiction fun notBehind => different ?_
            exact String.le_antisymm (String.not_lt.mp notBehind) (String.not_lt.mp notBefore)
          refine List.pairwise_cons.mpr ⟨?_, ih restAscending⟩
          intro entry member
          rcases mem_insertEntry member with rfl | earlier
          · exact behind
          · exact headFirst entry earlier

def insert (table : Table α) (name : String) (value : α) : Table α :=
  ⟨insertEntry name value table.entries, ascending_insertEntry name value _ table.ascending⟩

def erase (table : Table α) (name : String) : Table α :=
  ⟨table.entries.filter fun entry => entry.1 ≠ name, table.ascending.filter _⟩

def mapEntries (table : Table α) (change : String → α → β) : Table β where
  entries := table.entries.map fun entry => (entry.1, change entry.1 entry.2)
  ascending := List.pairwise_map.mpr table.ascending

/-- The table with the value of one name changed. A name without an entry changes
nothing. -/
def adjust (table : Table α) (name : String) (change : α → α) : Table α :=
  table.mapEntries fun other value => if other = name then change value else value

def namesWhere (table : Table α) (condition : α → Bool) : List String :=
  (table.entries.filter fun entry => condition entry.2).map Prod.fst

end Table

end FormCheck
