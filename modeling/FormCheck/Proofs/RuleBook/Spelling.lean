import FormCheck.Proofs.Json.Values
import FormCheck.Proofs.RuleBook.Members
import Mathlib.Data.List.Forall2

/-!
Documents and books hold the same rules. However a document spells its members, the book
that it makes is the one that putting the members one after another makes, and whether it
makes one is up to the last value of each id.
-/

set_option autoImplicit false

namespace FormCheck

namespace Listing

section Correspondence

variable {α β : Type} {related : α → β → Prop}

/-- Whether two named values have one name and their values correspond. -/
def Corresponds (related : α → β → Prop) (left : String × α) (right : String × β) : Prop :=
  left.1 = right.1 ∧ related left.2 right.2

theorem corresponds_put (name : String) {value : α} {value' : β} (values : related value value')
    {listing : List (String × α)} {listing' : List (String × β)}
    (entries : List.Forall₂ (Corresponds related) listing listing') :
    List.Forall₂ (Corresponds related) (put name value listing) (put name value' listing') := by
  induction entries with
  | nil => exact .cons ⟨rfl, values⟩ .nil
  | cons heads rest ih =>
      simp only [put, heads.1]
      split
      · exact .cons ⟨rfl, values⟩ rest
      · exact .cons heads ih

/-- Pairs that correspond one by one make listings that correspond one by one. -/
theorem corresponds_ofPairs {pairs : List (String × α)} {pairs' : List (String × β)}
    (entries : List.Forall₂ (Corresponds related) pairs pairs') :
    List.Forall₂ (Corresponds related) (ofPairs pairs) (ofPairs pairs') := by
  suffices ∀ listing listing', List.Forall₂ (Corresponds related) listing listing' →
      List.Forall₂ (Corresponds related)
        (pairs.foldl (fun listing pair => put pair.1 pair.2 listing) listing)
        (pairs'.foldl (fun listing pair => put pair.1 pair.2 listing) listing')
    from this [] [] .nil
  induction entries with
  | nil => exact fun _ _ same => same
  | @cons left right _ _ heads _ ih =>
      intro listing listing' same
      apply ih
      simp only [heads.1]
      exact corresponds_put right.1 heads.2 same

end Correspondence

end Listing

namespace RuleBook

/-- Whether a value is the object of a rule as documents write it, with the label and the rule
in either order. -/
def Writes (rule : LabelledRule) (value : Json.Value) : Prop :=
  value = .ofMembers [("label", .string rule.label), ("rules", .string rule.rule)] ∨
    value = .ofMembers [("rules", .string rule.rule), ("label", .string rule.label)]

theorem describes_of_writes {rule : LabelledRule} {value : Json.Value} (writes : Writes rule value) :
    Describes value rule := by
  rcases writes with rfl | rfl
  · exact ⟨rfl, rfl⟩
  · exact ⟨rfl, rfl⟩

/-- Whether an id comes out as malformed: its last value describes no rule. -/
def Offends (members : List (String × Json.Value)) (id : String) : Prop :=
  ∃ value, Listing.LastValue members id value ∧ ∀ rule, ¬ Describes value rule

/-- Whether an id is the first one to come up of those that offend. -/
def FirstOffending (members : List (String × Json.Value)) (id : String) : Prop :=
  ∃ before behind, members.map Prod.fst = before ++ id :: behind ∧ Offends members id ∧
    ∀ earlier ∈ before, ¬ Offends members earlier

theorem malformedIds_of_describes {entries : List (String × LabelledRule)}
    {members : List (String × Json.Value)}
    (described : List.Forall₂ (Listing.Corresponds (flip Describes)) entries members) :
    malformedIds members = [] ∧ wellFormed members = entries := by
  induction described with
  | nil => exact ⟨rfl, rfl⟩
  | @cons entry member _ _ heads _ ih =>
      have read := (readEntry_eq_ok_iff member.1 member.2 entry.2).mpr heads.2
      obtain ⟨sameMalformed, oneMore⟩ := members_cons_ok read _
      rw [sameMalformed, oneMore, ih.1, ih.2, ← heads.1]
      exact ⟨rfl, rfl⟩

theorem ofEntries_ofPairs (entries : List (String × LabelledRule)) :
    ofEntries (Listing.ofPairs entries) = ofEntries entries := by
  apply ext_entries
  rw [entries_ofEntries, entries_ofEntries,
    Listing.ofPairs_of_nodup (Listing.nodup_ofPairs entries)]

/-- Whether the value found under an id describes no rule. -/
def isMalformed (listing : List (String × Json.Value)) (id : String) : Bool :=
  (listing.lookup id).any fun value => !(readEntry id value).isOk

theorem malformedIds_of_nodup {listing : List (String × Json.Value)}
    (distinct : (listing.map Prod.fst).Nodup) :
    malformedIds listing = (listing.map Prod.fst).filter (isMalformed listing) := by
  rw [malformedIds, List.filter_map]
  congr 1
  apply List.filter_congr
  intro member listed
  have found : listing.lookup member.1 = some member.2 :=
    (Lookup.lookup_eq_some_iff distinct).mpr listed
  simp [isMalformed, found]

theorem isMalformed_iff (members : List (String × Json.Value)) (id : String) :
    isMalformed (Listing.ofPairs members) id = true ↔ Offends members id := by
  simp only [isMalformed, Option.any_eq_true, Listing.lookup_ofPairs_eq_some_iff,
    not_isOk_readEntry_iff, Offends]

theorem head?_malformedIds_eq_some_iff (members : List (String × Json.Value)) (id : String) :
    (malformedIds (Listing.ofPairs members)).head? = some id ↔ FirstOffending members id := by
  rw [malformedIds_of_nodup (Listing.nodup_ofPairs members), List.head?_filter,
    Listing.find?_names_ofPairs, List.find?_eq_some_iff_append]
  simp only [Bool.not_eq_true', ← Bool.not_eq_true, isMalformed_iff]
  constructor
  · intro first
    obtain ⟨offends, before, behind, split, none⟩ := first
    exact ⟨before, behind, split, offends, none⟩
  · intro first
    obtain ⟨before, behind, split, offends, none⟩ := first
    exact ⟨offends, before, behind, split, none⟩

theorem malformedIds_eq_nil_iff (members : List (String × Json.Value)) :
    malformedIds (Listing.ofPairs members) = [] ↔ ∀ id, ¬ Offends members id := by
  rw [malformedIds_of_nodup (Listing.nodup_ofPairs members), List.filter_eq_nil_iff]
  simp only [isMalformed_iff]
  constructor
  · intro none id offends
    obtain ⟨value, last, undescribed⟩ := offends
    have found := (Listing.lookup_ofPairs_eq_some_iff members id value).mpr last
    exact none id (List.mem_map_of_mem (Lookup.mem_of_lookup found)) ⟨value, last, undescribed⟩
  · exact fun none id _ => none id

theorem readDocument_of_spells {members : List (String × Json.Value)} {text : String}
    (spelled : Json.SpellsObject members text.toList) :
    readDocument text = .ok (.object (Listing.ofPairs members)) := by
  rw [readDocument, Json.parse_of_spells spelled]
  rfl

/-- The book of a document is the one that putting its members makes, if all are written well;
without that, only the last value of each id counts. -/
theorem ofText_spelled {members : List (String × Json.Value)} {text : String}
    (spelled : Json.SpellsObject members text.toList) :
    (∀ entries, List.Forall₂ (Listing.Corresponds Writes) entries members →
        ofText text = .ok (ofEntries entries)) ∧
      ((∃ book, ofText text = .ok book) ↔
        ∀ id value, Listing.LastValue members id value → ∃ rule, Describes value rule) ∧
      ∀ defect, ofText text = .error defect ↔
        ∃ id, FirstOffending members id ∧ defect = .malformedEntry id := by
  have read := ofText_of_members (readDocument_of_spells spelled)
  refine ⟨?_, ?_, ?_⟩
  · intro entries written
    have described := Listing.corresponds_ofPairs (written.imp fun _ _ pair =>
      (⟨pair.1, describes_of_writes pair.2⟩ : Listing.Corresponds (flip Describes) _ _))
    obtain ⟨noneMalformed, all⟩ := malformedIds_of_describes described
    rw [read, noneMalformed, all]
    exact congrArg Except.ok (ofEntries_ofPairs entries)
  · have fine : (∀ id, ¬ Offends members id) ↔
        ∀ id value, Listing.LastValue members id value → ∃ rule, Describes value rule := by
      simp only [Offends, not_exists, not_and, not_forall, not_not]
    rw [read, ← fine, ← malformedIds_eq_nil_iff]
    cases malformedIds (Listing.ofPairs members) with
    | nil => exact ⟨fun _ => rfl, fun _ => ⟨_, rfl⟩⟩
    | cons id rest => simp
  · intro defect
    simp only [← head?_malformedIds_eq_some_iff]
    rw [read]
    cases malformedIds (Listing.ofPairs members) with
    | nil => simp
    | cons id rest => simp [eq_comm]

section Compact

open Json

theorem spaces_nil : Spaces [] :=
  fun _ member => absurd member List.not_mem_nil

/-- Printable characters other than quotes and backslashes spell themselves. -/
theorem spells_plain (string : String)
    (plain : ∀ c ∈ string.toList, 0x20 ≤ c.toNat ∧ c ≠ '"' ∧ c ≠ '\\') :
    StringSpelling string ('"' :: (string.toList ++ ['"'])) := by
  apply StringSpelling.quoted
  generalize string.toList = chars at plain
  induction chars with
  | nil => exact .nil
  | cons c chars ih =>
      obtain ⟨printable, noQuote, noEscape⟩ := plain c List.mem_cons_self
      exact .cons (.plain printable noQuote noEscape)
        (ih fun d member => plain d (List.mem_cons_of_mem _ member))

theorem spaced_member {inner : Value → List Char → Prop} {key : String} {value : Value}
    {keyText text : List Char} (keySpelled : StringSpelling key keyText)
    (spelled : inner value text) :
    Spaced (Member inner) (key, value) ([] ++ ((keyText ++ ([] ++ ':' :: ([] ++ text))) ++ [])) :=
  .spaced spaces_nil (.member keySpelled spaces_nil spaces_nil spelled) spaces_nil

theorem spells_pair (depth : Nat) {key key' string string' : String}
    {keyText keyText' text text' : List Char} (firstKey : StringSpelling key keyText)
    (first : StringSpelling string text) (secondKey : StringSpelling key' keyText')
    (second : StringSpelling string' text') :
    Spells (depth + 1) (.ofMembers [(key, .string string), (key', .string string')])
      ('{' :: (keyText ++ ':' :: (text ++ ',' :: (keyText' ++ ':' :: (text' ++ ['}']))))) := by
  have spelled {string : String} {text : List Char} (spelled : StringSpelling string text) :
      Spells depth (.string string) text := by
    cases depth with
    | zero => exact .string spelled
    | succ depth => exact .scalar (.string spelled)
  have nested := Nested.object (.some (.more (spaced_member firstKey (spelled first))
    (.last (spaced_member secondKey (spelled second)))))
  simp only [List.nil_append, List.append_nil, List.append_assoc, List.cons_append] at nested
  exact nested

end Compact

theorem ofText_spelled_repeated :
    ofText ("\x7b\"\\u0061\":\x7b\"rules\":\"b\",\"label\":\"\"\x7d," ++
        "\"\\uD83d\\uDE00\":\x7b\"label\":\"\\/\",\"rules\":\"é\"\x7d," ++
        "\"a\":\x7b\"label\":\"A\",\"rules\":\"c\"\x7d\x7d") =
      .ok (ofEntries [("a", ⟨"", "b"⟩), ("😀", ⟨"/", "é"⟩), ("a", ⟨"A", "c"⟩)]) := by
  have unit : Json.HexUnit 'a'.toNat ['0', '0', '6', '1'] :=
    .digits (a := 0) (b := 0) (c := 6) (d := 1) (by decide) (by decide) (by decide) (by decide)
  have leading : Json.HexUnit (0xD800 + 0x3D) ['D', '8', '3', 'd'] :=
    .digits (a := 13) (b := 8) (c := 3) (d := 13) (by decide) (by decide) (by decide) (by decide)
  have trailing : Json.HexUnit (0xDC00 + 0x200) ['D', 'E', '0', '0'] :=
    .digits (a := 13) (b := 14) (c := 0) (d := 0) (by decide) (by decide) (by decide) (by decide)
  have solidus : Json.CharSpelling '/' ['\\', '/'] := .short (by decide)
  have escaped : Json.StringSpelling "a" _ := .quoted (.cons (.unit unit) .nil)
  have face : Json.StringSpelling "😀" _ :=
    .quoted (.cons (.pair (by decide) (by decide) (by decide) leading trailing) .nil)
  have slash : Json.StringSpelling "/" _ := .quoted (.cons solidus .nil)
  have label := spells_plain "label" (by simp)
  have rules := spells_plain "rules" (by simp)
  have first := spells_pair 125 rules (spells_plain "b" (by simp)) label (spells_plain "" (by simp))
  have second := spells_pair 125 label slash rules (spells_plain "é" (by simp))
  have third := spells_pair 125 label (spells_plain "A" (by simp)) rules (spells_plain "c" (by simp))
  refine (ofText_spelled ⟨[], _, [], ?_, spaces_nil, spaces_nil, .some
    (.more (spaced_member escaped first) (.more (spaced_member face second)
      (.last (spaced_member (spells_plain "a" (by simp)) third))))⟩).1 _
    (.cons ⟨rfl, .inr rfl⟩ (.cons ⟨rfl, .inl rfl⟩ (.cons ⟨rfl, .inl rfl⟩ .nil)))
  simp

end RuleBook

end FormCheck
