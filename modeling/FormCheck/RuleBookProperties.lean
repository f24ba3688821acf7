import FormCheck.RuleBook
import FormCheck.Store.ListingProperties

/-!
What rule books show: the rule last put under each id.
-/

set_option autoImplicit false

namespace FormCheck.RuleBook

@[simp] theorem find?_empty (id : String) : (∅ : RuleBook).find? id = none := rfl

theorem find?_put (book : RuleBook) (id : String) (rule : LabelledRule) (other : String) :
    (book.put id rule).find? other = if other = id then some rule else book.find? other :=
  Listing.lookup_put id rule book.entries other

theorem mem_entries_iff (book : RuleBook) (id : String) (rule : LabelledRule) :
    (id, rule) ∈ book.entries ↔ book.find? id = some rule :=
  (Lookup.lookup_eq_some_iff book.distinct).symm

theorem ext_entries {book other : RuleBook} (same : book.entries = other.entries) :
    book = other := by
  cases book
  cases other
  cases same
  rfl

/-- The entries of a book are the listing of the given entries. -/
theorem entries_ofEntries (entries : List (String × LabelledRule)) :
    (ofEntries entries).entries = Listing.ofPairs entries := by
  suffices ∀ book : RuleBook,
      (entries.foldl (fun book entry => book.put entry.1 entry.2) book).entries =
        entries.foldl (fun listing entry => Listing.put entry.1 entry.2 listing) book.entries
    from this ∅
  induction entries with
  | nil => exact fun _ => rfl
  | cons entry rest ih => exact fun book => ih (book.put entry.1 entry.2)

end FormCheck.RuleBook
