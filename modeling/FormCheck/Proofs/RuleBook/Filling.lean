import FormCheck.Proofs.Store.Listing
import FormCheck.RuleBookProperties
import Mathlib.Data.Finset.Card
import Mathlib.Data.Finset.Dedup

/-!
Books that are filled by putting one labelled rule after another. An id keeps the place at which
it first came up and has the rule that was put under it last, so a book is told by these two.
-/

set_option autoImplicit false

namespace FormCheck.RuleBook

open Listing

def ids (book : RuleBook) : List String :=
  book.entries.map Prod.fst

/-- What a book has of the labelled rules that were put into it, in the order in which they were
put. -/
structure Keeps (book : RuleBook) (puts : List (String × LabelledRule)) : Prop where
  once : ∀ id, book.ids.count id = if id ∈ puts.map Prod.fst then 1 else 0
  ordered : book.ids.Pairwise (ComesUpBefore puts)
  last : ∀ entry ∈ book.entries, LastValue puts entry.1 entry.2
  size : book.size = (puts.map Prod.fst).toFinset.card
  found : ∀ id rule, book.find? id = some rule ↔ LastValue puts id rule
  absent : ∀ id, book.find? id = none ↔ id ∉ puts.map Prod.fst

theorem ids_ofEntries (puts : List (String × LabelledRule)) :
    (ofEntries puts).ids = firstNames puts := by
  rw [ids, entries_ofEntries, names_ofPairs]

theorem find?_ofEntries_eq_some_iff (puts : List (String × LabelledRule)) (id : String)
    (rule : LabelledRule) : (ofEntries puts).find? id = some rule ↔ LastValue puts id rule := by
  rw [find?, entries_ofEntries, lookup_ofPairs_eq_some_iff]

theorem find?_eq_none_iff (book : RuleBook) (id : String) :
    book.find? id = none ↔ id ∉ book.ids := by
  rw [Option.eq_none_iff_forall_ne_some, ids, List.mem_map]
  constructor
  · intro none listed
    obtain ⟨entry, member, rfl⟩ := listed
    exact none entry.2 ((mem_entries_iff book entry.1 entry.2).mp member)
  · intro unlisted rule found
    exact unlisted ⟨(id, rule), (mem_entries_iff book id rule).mpr found, rfl⟩

/-- A book is determined by its ids in their order and by the rules found under them. -/
theorem ext_find? {book other : RuleBook} (ids : book.ids = other.ids)
    (same : ∀ id, book.find? id = other.find? id) : book = other :=
  ext_entries (ext_lookup book.distinct other.distinct ids same)

theorem keeps_ofEntries (puts : List (String × LabelledRule)) : (ofEntries puts).Keeps puts := by
  have listed (id : String) : id ∈ (ofEntries puts).ids ↔ id ∈ puts.map Prod.fst := by
    rw [ids_ofEntries, mem_firstNames]
  have distinct : (ofEntries puts).ids.Nodup := (ofEntries puts).distinct
  constructor
  case once =>
    intro id
    rw [distinct.count]
    simp only [listed]
  case ordered =>
    rw [ids_ofEntries]
    exact firstNames_ordered puts
  case last =>
    intro entry member
    rw [← find?_ofEntries_eq_some_iff, ← mem_entries_iff]
    exact member
  case size =>
    have sameIds : (ofEntries puts).ids.toFinset = (puts.map Prod.fst).toFinset := by
      ext id
      rw [List.mem_toFinset, List.mem_toFinset, listed]
    rw [← sameIds, List.toFinset_card_of_nodup distinct, ids, List.length_map, size]
  case found => exact find?_ofEntries_eq_some_iff puts
  case absent =>
    intro id
    rw [find?_eq_none_iff, listed]

/-- A book that is filled by one rule after another has every id once, at its first place and with
its last rule. Two ways to fill a book make the same one when they agree in the first places and in
the last rules. -/
theorem filled_with_last_rules_at_first_places :
    (∀ puts : List (String × LabelledRule), (ofEntries puts).Keeps puts) ∧
      ∀ puts others : List (String × LabelledRule), ofEntries puts = ofEntries others ↔
        firstNames puts = firstNames others ∧
          ∀ id rule, LastValue puts id rule ↔ LastValue others id rule := by
  refine ⟨keeps_ofEntries, ?_⟩
  intro puts others
  simp only [← ids_ofEntries, ← find?_ofEntries_eq_some_iff]
  constructor
  · intro same
    rw [same]
    exact ⟨rfl, fun _ _ => Iff.rfl⟩
  · intro agree
    exact ext_find? agree.1 fun id => Option.ext (agree.2 id)

example : (ofEntries [("a", ⟨"A", "required"⟩), ("b", ⟨"B", "required"⟩),
    ("a", ⟨"A2", "permit_empty"⟩)]).entries =
      [("a", ⟨"A2", "permit_empty"⟩), ("b", ⟨"B", "required"⟩)] := by
  decide

end FormCheck.RuleBook
