import FormCheck.Store.Listing

/-!
Rule books: the rules for the inputs of a form, each with the label under which reports
speak of the input. A book keeps its entries in the order in which their ids first came
up, which is the order of reports.
-/

set_option autoImplicit false

namespace FormCheck

structure LabelledRule where
  label : String
  rule : String
  deriving DecidableEq

/-- Labelled rules by id, each id once. -/
structure RuleBook where
  entries : List (String × LabelledRule)
  distinct : (entries.map Prod.fst).Nodup
  deriving DecidableEq

namespace RuleBook

def empty : RuleBook := ⟨[], .nil⟩

instance : EmptyCollection RuleBook := ⟨empty⟩

/-- The book with a rule put under an id. A rule that the id already has is replaced at
its place. -/
def put (book : RuleBook) (id : String) (rule : LabelledRule) : RuleBook :=
  ⟨Listing.put id rule book.entries, Listing.nodup_put id rule _ book.distinct⟩

/-- The book that putting the given entries one after another makes. -/
def ofEntries (entries : List (String × LabelledRule)) : RuleBook :=
  entries.foldl (fun book entry => book.put entry.1 entry.2) ∅

def find? (book : RuleBook) (id : String) : Option LabelledRule :=
  book.entries.lookup id

def size (book : RuleBook) : Nat :=
  book.entries.length

def summary (book : RuleBook) : String :=
  "FieldRules(" ++ book.size.repr ++ " fields)"

end RuleBook

end FormCheck
