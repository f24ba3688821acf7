import FormCheck.Proofs.Json.Keys
import FormCheck.Proofs.Store.Listing
import FormCheck.RuleBook.Document
import FormCheck.RuleBookProperties

/-!
What the members of a rules document come to. Reading a book stops at the first malformed
member; without malformed members the book has the entries of the document in their order.
-/

set_option autoImplicit false

namespace FormCheck

namespace RuleBook

/-- Whether the member of a document describes a labelled rule: it has label and rule as
strings. -/
structure Describes (entry : Json.Value) (rule : LabelledRule) : Prop where
  label : entry.member? "label" = some (.string rule.label)
  rule : entry.member? "rules" = some (.string rule.rule)

/-- The ids of the members that give no labelled rule, in the order of the document. -/
def malformedIds (members : List (String × Json.Value)) : List String :=
  (members.filter fun member => !(readEntry member.1 member.2).isOk).map Prod.fst

/-- The labelled rules of the other members, in the order of the document. -/
def wellFormed (members : List (String × Json.Value)) : List (String × LabelledRule) :=
  members.filterMap fun member => (readEntry member.1 member.2).toOption.map (member.1, ·)

theorem defect_of_readEntry {id : String} {entry : Json.Value} {defect : Defect}
    (failed : readEntry id entry = .error defect) : defect = .malformedEntry id := by
  unfold readEntry at failed
  split at failed
  · cases failed
  · cases failed
    rfl

theorem string?_eq_some_iff (found : Option Json.Value) (text : String) :
    found.bind (·.string?) = some text ↔ found = some (.string text) := by
  cases found with
  | none => simp
  | some value => cases value <;> simp [Json.Value.string?]

theorem readEntry_eq_ok_iff (id : String) (entry : Json.Value) (rule : LabelledRule) :
    readEntry id entry = .ok rule ↔ Describes entry rule := by
  constructor
  · intro read
    unfold readEntry at read
    split at read
    case h_1 label text labelled ruled =>
      cases read
      exact ⟨(string?_eq_some_iff _ label).mp labelled, (string?_eq_some_iff _ text).mp ruled⟩
    case h_2 => cases read
  · intro described
    have labelled := (string?_eq_some_iff _ _).mpr described.label
    have ruled := (string?_eq_some_iff _ _).mpr described.rule
    simp only [readEntry, labelled, ruled]

theorem not_isOk_readEntry_iff (id : String) (entry : Json.Value) :
    (!(readEntry id entry).isOk) = true ↔ ∀ rule, ¬ Describes entry rule := by
  cases read : readEntry id entry with
  | ok rule =>
      have described := (readEntry_eq_ok_iff id entry rule).mp read
      simp only [Except.isOk, Except.toBool, Bool.not_true, Bool.false_eq_true, false_iff]
      exact fun none => none rule described
  | error defect =>
      simp only [Except.isOk, Except.toBool, Bool.not_false, true_iff]
      intro rule described
      rw [(readEntry_eq_ok_iff id entry rule).mpr described] at read
      cases read

/-- A member is malformed when it describes no rule. -/
theorem mem_malformedIds_iff (members : List (String × Json.Value)) (id : String) :
    id ∈ malformedIds members ↔
      ∃ entry, (id, entry) ∈ members ∧ ∀ rule, ¬ Describes entry rule := by
  unfold malformedIds
  rw [List.mem_map]
  constructor
  · intro listed
    obtain ⟨⟨id, entry⟩, kept, rfl⟩ := listed
    obtain ⟨member, fails⟩ := List.mem_filter.mp kept
    exact ⟨entry, member, (not_isOk_readEntry_iff id entry).mp fails⟩
  · intro undescribed
    obtain ⟨entry, member, fails⟩ := undescribed
    have malformed := (not_isOk_readEntry_iff id entry).mpr fails
    exact ⟨(id, entry), List.mem_filter.mpr ⟨member, malformed⟩, rfl⟩

theorem mem_wellFormed_iff (members : List (String × Json.Value)) (id : String)
    (rule : LabelledRule) :
    (id, rule) ∈ wellFormed members ↔ ∃ entry, (id, entry) ∈ members ∧ Describes entry rule := by
  have kept (member : String × Json.Value) :
      (readEntry member.1 member.2).toOption.map (member.1, ·) = some (id, rule) ↔
        member.1 = id ∧ Describes member.2 rule := by
    rw [← readEntry_eq_ok_iff member.1]
    cases readEntry member.1 member.2 with
    | ok other => simp [Except.toOption]
    | error defect => simp [Except.toOption]
  unfold wellFormed
  simp only [List.mem_filterMap, kept]
  constructor
  · intro listed
    obtain ⟨⟨name, entry⟩, member, rfl, described⟩ := listed
    exact ⟨entry, member, described⟩
  · intro listed
    obtain ⟨entry, member, described⟩ := listed
    exact ⟨(id, entry), member, rfl, described⟩

theorem members_cons_ok {member : String × Json.Value} {rule : LabelledRule}
    (read : readEntry member.1 member.2 = .ok rule) (rest : List (String × Json.Value)) :
    malformedIds (member :: rest) = malformedIds rest ∧
      wellFormed (member :: rest) = (member.1, rule) :: wellFormed rest := by
  constructor
  · simp [malformedIds, read, Except.isOk, Except.toBool]
  · simp [wellFormed, read, Except.toOption]

theorem members_cons_error {member : String × Json.Value} {defect : Defect}
    (read : readEntry member.1 member.2 = .error defect) (rest : List (String × Json.Value)) :
    malformedIds (member :: rest) = member.1 :: malformedIds rest ∧
      wellFormed (member :: rest) = wellFormed rest := by
  constructor
  · simp [malformedIds, read, Except.isOk, Except.toBool]
  · simp [wellFormed, read, Except.toOption]

theorem names_wellFormed (members : List (String × Json.Value)) :
    ((wellFormed members).map Prod.fst).Sublist (members.map Prod.fst) := by
  induction members with
  | nil => exact .slnil
  | cons member rest ih =>
      cases read : readEntry member.1 member.2 with
      | ok rule =>
          rw [(members_cons_ok read rest).2]
          exact ih.cons_cons member.1
      | error defect =>
          rw [(members_cons_error read rest).2]
          exact ih.cons member.1

theorem entries_ofEntries_wellFormed {members : List (String × Json.Value)}
    (distinct : (members.map Prod.fst).Nodup) :
    (ofEntries (wellFormed members)).entries = wellFormed members := by
  rw [entries_ofEntries]
  exact Listing.ofPairs_of_nodup ((names_wellFormed members).nodup distinct)

/-- Putting members one after another gets through to the end if none is malformed, and
otherwise stops at the first that is. -/
theorem foldlM_members (members : List (String × Json.Value)) (book : RuleBook) :
    members.foldlM (fun book (id, entry) => (readEntry id entry).map (book.put id ·)) book =
      match malformedIds members with
      | [] => .ok ((wellFormed members).foldl (fun book entry => book.put entry.1 entry.2) book)
      | id :: _ => .error (.malformedEntry id) := by
  induction members generalizing book with
  | nil => rfl
  | cons member rest ih =>
      cases read : readEntry member.1 member.2 with
      | ok rule =>
          obtain ⟨sameMalformed, oneMore⟩ := members_cons_ok read rest
          simp only [List.foldlM_cons, read, sameMalformed, oneMore]
          exact ih (book.put member.1 rule)
      | error defect =>
          cases defect_of_readEntry read
          simp only [List.foldlM_cons, read, (members_cons_error read rest).1]
          rfl

theorem ofText_of_members {text : String} {members : List (String × Json.Value)}
    (read : readDocument text = .ok (.object members)) :
    ofText text =
      match malformedIds members with
      | [] => .ok (ofEntries (wellFormed members))
      | id :: _ => .error (.malformedEntry id) := by
  simp only [ofText, read]
  exact foldlM_members members ∅

theorem readMembers_of_members {text : String} {members : List (String × Json.Value)}
    (read : readDocument text = .ok (.object members)) :
    readDocument text >>= readMembers =
      .ok (members.map fun (id, entry) => (id, readEntry id entry)) := by
  rw [read]
  rfl

theorem parse_of_readDocument {text : String} {document : Json.Value}
    (read : readDocument text = .ok document) : Json.parse text = .ok document := by
  unfold readDocument at read
  cases parsed : Json.parse text with
  | error error =>
      rw [parsed] at read
      cases read
  | ok value =>
      rw [parsed] at read
      cases read
      rfl

theorem unreadable_of_readDocument {text : String} {defect : Defect}
    (failed : readDocument text = .error defect) : ∃ error, defect = .unreadable error := by
  unfold readDocument at failed
  cases parsed : Json.parse text with
  | error error =>
      rw [parsed] at failed
      cases failed
      exact ⟨error, rfl⟩
  | ok value =>
      rw [parsed] at failed
      cases failed

theorem distinct_of_readDocument {text : String} {members : List (String × Json.Value)}
    (read : readDocument text = .ok (.object members)) : (members.map Prod.fst).Nodup :=
  Json.distinctKeys_parse (parse_of_readDocument read) members rfl

/-- A text is refused as a whole, with the same defect by whoever reads it, or it is an
object whose members are read one by one. -/
theorem refused_or_members (text : String) :
    (∃ defect, (defect = .notAnObject ∨ ∃ error, defect = .unreadable error) ∧
      readDocument text >>= readMembers = .error defect ∧ ofText text = .error defect) ∨
    ∃ members, readDocument text = .ok (.object members) := by
  cases read : readDocument text with
  | error defect =>
      refine .inl ⟨defect, .inr (unreadable_of_readDocument read), rfl, ?_⟩
      simp only [ofText, read]
      rfl
  | ok document =>
      cases listed : document.members? with
      | none =>
          refine .inl ⟨.notAnObject, .inl rfl, ?_, ?_⟩
          · change readMembers document = _
            simp only [readMembers, listed]
          · simp only [ofText, read]
            change ofDocument document = _
            simp only [ofDocument, listed]
      | some members =>
          cases document with
          | object kept => exact .inr ⟨kept, rfl⟩
          | null | bool | number | string | array => cases listed

end RuleBook

end FormCheck
