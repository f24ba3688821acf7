import FormCheck.Proofs.Json.Numbers

/-!
Reading undoes the spelling of values: a value is taken from each of its spellings, and the
members of an object are taken in their order with repeated keys.
-/

set_option autoImplicit false

namespace FormCheck.Json

open Text

variable {rest : List Char}

theorem word_append (letters rest : List Char) :
    ∃ within, word letters (letters ++ rest) = .ok ⟨rest, within⟩ := by
  induction letters with
  | nil => exact ⟨Nat.le_refl _, rfl⟩
  | cons letter letters ih =>
      obtain ⟨within, read⟩ := ih
      refine ⟨Nat.le_succ_of_le within, ?_⟩
      simp only [List.cons_append, word, if_true, read, Except.map]

theorem literal_taken (meaning : Value) (letters : String) {text : List Char} {c : Char}
    (shorter : (letters.toList ++ rest).length < text.length) :
    ∃ shorter', literal meaning letters (⟨c, letters.toList ++ rest, shorter⟩ : Taken text Char) =
      .ok ⟨meaning, rest, shorter'⟩ := by
  obtain ⟨within, read⟩ := word_append letters.toList rest
  refine ⟨Nat.lt_of_le_of_lt within shorter, ?_⟩
  simp only [literal, read, Except.map]

theorem NumberSpelling.first {text : List Char} (spelled : NumberSpelling text) :
    ∃ c tail, text = c :: tail ∧ (c = '-' ∨ c.isDigit = true) := by
  cases spelled with
  | number signed wholePart =>
      obtain ⟨c, digits, rfl, digit⟩ := wholePart.first
      rcases signed with rfl | rfl
      · exact ⟨c, _, rfl, .inr digit⟩
      · exact ⟨'-', _, rfl, .inl rfl⟩

theorem ne_of_numberStart {c : Char} (start : c = '-' ∨ c.isDigit = true) :
    ∀ letter ∈ ['"', 'n', 't', 'f'], c ≠ letter := by
  rintro letter listed rfl
  simp only [List.mem_cons, List.not_mem_nil, or_false] at listed
  rcases listed with rfl | rfl | rfl | rfl
  all_goals exact absurd start (by decide)

/-- The characters with which scalars start. -/
def startsScalar (c : Char) : Bool :=
  c == '"' || c == 'n' || c == 't' || c == 'f' || c == '-' || c.isDigit

theorem Scalar.first {value : Value} {text : List Char} (spelled : Scalar value text) :
    ∃ c tail, text = c :: tail ∧ startsScalar c = true := by
  cases spelled with
  | nullName => exact ⟨'n', _, rfl, rfl⟩
  | trueName => exact ⟨'t', _, rfl, rfl⟩
  | falseName => exact ⟨'f', _, rfl, rfl⟩
  | string spelled =>
      cases spelled
      exact ⟨'"', _, rfl, rfl⟩
  | number spelled =>
      obtain ⟨c, tail, rfl, rfl | digit⟩ := spelled.first
      · exact ⟨'-', tail, rfl, rfl⟩
      · exact ⟨c, tail, rfl, by simp [startsScalar, digit]⟩

theorem scalar_taken {value : Value} {c : Char} {tail : List Char}
    (spelled : Scalar value (c :: tail)) (ends : Ends continuesNumber rest) {text : List Char}
    (shorter : (tail ++ rest).length < text.length) :
    ∃ shorter', scalar .full (⟨c, tail ++ rest, shorter⟩ : Taken text Char) =
      .ok ⟨value, rest, shorter'⟩ := by
  generalize whole : c :: tail = spelling at spelled
  cases spelled with
  | nullName =>
      cases whole
      exact literal_taken .null "ull" shorter
  | trueName =>
      cases whole
      exact literal_taken (.bool true) "rue" shorter
  | falseName =>
      cases whole
      exact literal_taken (.bool false) "alse" shorter
  | @string string _ quotedText =>
      cases quotedText with
      | @quoted body characters =>
          cases whole
          obtain ⟨bodyShorter, read⟩ := takes_quoted characters rest
          simp only [List.append_assoc, List.singleton_append] at shorter ⊢
          refine ⟨Nat.lt_trans bodyShorter shorter, ?_⟩
          simp only [scalar, if_true, read, Except.map, Taken.map, Taken.widen, String.ofList_toList]
  | number number =>
      subst whole
      obtain ⟨numberShorter, read⟩ := takes_number number ends
      obtain ⟨sign, digits, split, start⟩ := number.first
      cases split
      have marked : (decide (c = '-') || c.isDigit) = true := by simpa using start
      have noQuote : c ≠ '"' := ne_of_numberStart start '"' (by simp)
      have notNull : c ≠ 'n' := ne_of_numberStart start 'n' (by simp)
      have notTrue : c ≠ 't' := ne_of_numberStart start 't' (by simp)
      have notFalse : c ≠ 'f' := ne_of_numberStart start 'f' (by simp)
      rw [List.cons_append] at numberShorter
      refine ⟨Nat.lt_of_lt_of_le numberShorter shorter, ?_⟩
      simp only [scalar, noQuote, notNull, notTrue, notFalse, marked, if_false, if_true]
      simp only [List.cons_append] at read
      simp only [read, Except.map, Taken.map, Taken.widen]

/-! ## Sequences -/

/-- Whether a reader takes values from all their spellings, with white space in front. -/
structure ReadsSpellings (item : Reader Value) (spelling : Value → List Char → Prop) : Prop where
  takes : ∀ {value before text rest}, spelling value text → Spaces before →
    Ends continuesNumber rest → Takes item (before ++ (text ++ rest)) value rest
  first : ∀ {value text}, spelling value text →
    ∃ c tail, text = c :: tail ∧ isSpace c = false ∧ c ≠ ']'

theorem Spaces.ends {before : List Char} (spaces : Spaces before)
    (ends : Ends continuesNumber rest) : Ends continuesNumber (before ++ rest) := by
  cases before with
  | nil => exact ends
  | cons c before =>
      rw [List.cons_append, ends_cons_iff]
      rcases spaces c List.mem_cons_self with rfl | rfl | rfl | rfl
      all_goals rfl

section Elements

variable {item : Reader Value} {spelling : Value → List Char → Prop}

theorem Separated.first (reads : ReadsSpellings item spelling) {values : List Value}
    {text : List Char} (separated : Separated spelling values text) (rest : List Char) :
    ∃ c tail, Next (text ++ rest) c tail ∧ c ≠ ']' := by
  have ofSpaced {value : Value} {text : List Char} (spaced : Spaced spelling value text)
      (rest : List Char) : ∃ c tail, Next (text ++ rest) c tail ∧ c ≠ ']' := by
    obtain @⟨before, _, behind, leading, spelled, _⟩ := spaced
    obtain ⟨c, tail, rfl, visible, noEnd⟩ := reads.first spelled
    refine ⟨c, tail ++ (behind ++ rest), ?_, noEnd⟩
    simpa only [List.append_assoc, List.cons_append] using
      next_of_spaces leading visible (tail ++ (behind ++ rest))
  cases separated with
  | last spaced => exact ofSpaced spaced rest
  | more spaced _ =>
      rw [List.append_assoc]
      exact ofSpaced spaced _

theorem takes_items (reads : ReadsSpellings item spelling) {values : List Value} {text : List Char}
    (separated : Separated spelling values text) (rest : List Char) :
    Takes (items item) (text ++ ']' :: rest) values rest := by
  -- The reader recurses behind a comma, where the rest of the spelling starts.
  induction separated with
  | last spaced =>
      obtain ⟨leading, spelled, trailing⟩ := spaced
      have ends : Ends continuesNumber (']' :: rest) := (ends_cons_iff _ _ _).mpr rfl
      obtain ⟨shorter, read⟩ := reads.takes spelled leading (trailing.ends ends)
      obtain ⟨markShorter, mark⟩ := next_of_spaces trailing (show isSpace ']' = false from rfl) rest
      simp only [List.append_assoc]
      refine ⟨Nat.lt_trans markShorter shorter, ?_⟩
      rw [items]
      simp only [read, bind, Except.bind, mark, if_true]
  | @more _ _ _ laterText spaced later ih =>
      obtain ⟨leading, spelled, trailing⟩ := spaced
      obtain ⟨laterShorter, laterRead⟩ := ih
      have ends : Ends continuesNumber (',' :: (laterText ++ ']' :: rest)) :=
        (ends_cons_iff _ _ _).mpr rfl
      obtain ⟨shorter, read⟩ := reads.takes spelled leading (trailing.ends ends)
      obtain ⟨markShorter, mark⟩ :=
        next_of_spaces trailing (show isSpace ',' = false from rfl) (laterText ++ ']' :: rest)
      obtain ⟨c, tail, ⟨_, next⟩, noEnd⟩ := later.first reads (']' :: rest)
      simp only [List.append_assoc, List.cons_append]
      refine ⟨Nat.lt_trans laterShorter (Nat.lt_trans markShorter shorter), ?_⟩
      rw [items]
      simp only [read, bind, Except.bind, mark, next, noEnd, laterRead, if_true, if_false,
        Char.reduceEq]

theorem takes_array (reads : ReadsSpellings item spelling) {values : List Value} {text : List Char}
    (spelled : Sequence spelling values text) (rest : List Char) :
    Takes (array item) (text ++ ']' :: rest) values rest := by
  cases spelled with
  | empty spaces =>
      obtain ⟨shorter, next⟩ := next_of_spaces spaces (show isSpace ']' = false from rfl) rest
      refine ⟨shorter, ?_⟩
      simp only [array, next, if_true]
  | some separated =>
      obtain ⟨c, tail, ⟨_, next⟩, noEnd⟩ := separated.first reads (']' :: rest)
      obtain ⟨shorter, read⟩ := takes_items reads separated rest
      refine ⟨shorter, ?_⟩
      simp only [array, next, noEnd, if_false, read]

theorem takes_member (reads : ReadsSpellings item spelling) {entry : String × Value}
    {text : List Char} (spelled : Member spelling entry text) (ends : Ends continuesNumber rest) :
    ∃ tail, text = '"' :: tail ∧ Takes (member .full item) (tail ++ rest) entry rest := by
  obtain @⟨key, value, _, before, behind, text, keySpelled, leading, trailing, spelled⟩ := spelled
  obtain @⟨keyText, characters⟩ := keySpelled
  obtain ⟨valueShorter, valueRead⟩ := reads.takes spelled trailing ends
  obtain ⟨markShorter, mark⟩ := next_of_spaces leading (show isSpace ':' = false from rfl)
    (behind ++ (text ++ rest))
  obtain ⟨keyShorter, keyRead⟩ := takes_quoted characters
    (before ++ ':' :: (behind ++ (text ++ rest)))
  refine ⟨keyText ++ '"' :: (before ++ ':' :: (behind ++ text)), by simp, ?_⟩
  simp only [List.append_assoc, List.cons_append]
  refine ⟨Nat.lt_trans valueShorter (Nat.lt_trans markShorter keyShorter), ?_⟩
  simp only [member, keyRead, bind, Except.bind, mark, valueRead, if_true, String.ofList_toList]

/-- The members of an object are read from behind the quote with which they start. -/
theorem takes_members (reads : ReadsSpellings item spelling) {entries : List (String × Value)}
    {text : List Char} (separated : Separated (Member spelling) entries text) (rest : List Char) :
    ∃ tail, Next (text ++ '}' :: rest) '"' tail ∧ Takes (members .full item) tail entries rest := by
  induction separated with
  | last spaced =>
      obtain @⟨before, _, behind, leading, spelled, trailing⟩ := spaced
      have ends : Ends continuesNumber ('}' :: rest) := (ends_cons_iff _ _ _).mpr rfl
      obtain ⟨tail, rfl, shorter, read⟩ := takes_member reads spelled (trailing.ends ends)
      obtain ⟨markShorter, mark⟩ := next_of_spaces trailing (show isSpace '}' = false from rfl) rest
      refine ⟨tail ++ (behind ++ '}' :: rest), ?_, Nat.lt_trans markShorter shorter, ?_⟩
      · simpa only [List.append_assoc, List.cons_append] using
          next_of_spaces leading (show isSpace '"' = false from rfl)
            (tail ++ (behind ++ '}' :: rest))
      · rw [members]
        simp only [read, bind, Except.bind, mark, if_true]
  | @more _ _ _ laterText spaced later ih =>
      obtain @⟨before, _, behind, leading, spelled, trailing⟩ := spaced
      obtain ⟨laterTail, ⟨nextShorter, next⟩, laterShorter, laterRead⟩ := ih
      have ends : Ends continuesNumber (',' :: (laterText ++ '}' :: rest)) :=
        (ends_cons_iff _ _ _).mpr rfl
      obtain ⟨tail, rfl, shorter, read⟩ := takes_member reads spelled (trailing.ends ends)
      obtain ⟨markShorter, mark⟩ :=
        next_of_spaces trailing (show isSpace ',' = false from rfl) (laterText ++ '}' :: rest)
      refine ⟨tail ++ (behind ++ ',' :: (laterText ++ '}' :: rest)), ?_,
        Nat.lt_trans laterShorter (Nat.lt_trans nextShorter (Nat.lt_trans markShorter shorter)), ?_⟩
      · simpa only [List.append_assoc, List.cons_append] using
          next_of_spaces leading (show isSpace '"' = false from rfl)
            (tail ++ (behind ++ ',' :: (laterText ++ '}' :: rest)))
      · rw [members]
        simp only [read, bind, Except.bind, mark, next, laterRead, if_true, if_false,
          Char.reduceEq]

theorem takes_object (reads : ReadsSpellings item spelling) {entries : List (String × Value)}
    {text : List Char} (spelled : Sequence (Member spelling) entries text) (rest : List Char) :
    Takes (object .full item) (text ++ '}' :: rest) entries rest := by
  cases spelled with
  | empty spaces =>
      obtain ⟨shorter, next⟩ := next_of_spaces spaces (show isSpace '}' = false from rfl) rest
      refine ⟨shorter, ?_⟩
      simp only [object, next, if_true]
  | some separated =>
      obtain ⟨tail, ⟨nextShorter, next⟩, shorter, read⟩ := takes_members reads separated rest
      refine ⟨Nat.lt_trans shorter nextShorter, ?_⟩
      simp only [object, next, if_true, if_false, Char.reduceEq, read, Except.map, Taken.widen]

end Elements

/-! ## Nesting -/

theorem startsScalar_visible {c : Char} (start : startsScalar c = true) :
    isSpace c = false ∧ c ≠ ']' ∧ c ≠ '[' ∧ c ≠ '{' := by
  have other : ∀ mark ∈ [' ', '\t', '\n', '\r', ']', '[', '{'], c ≠ mark := by
    rintro mark listed rfl
    simp only [List.mem_cons, List.not_mem_nil, or_false] at listed
    rcases listed with rfl | rfl | rfl | rfl | rfl | rfl | rfl
    all_goals cases start
  have noSpace : isSpace c = false := by
    simp [isSpace, other ' ' (by simp), other '\t' (by simp), other '\n' (by simp),
      other '\r' (by simp)]
  exact ⟨noSpace, other ']' (by simp), other '[' (by simp), other '{' (by simp)⟩

theorem takes_scalar (depth : Nat) {result : Value} {before text : List Char}
    (spelled : Scalar result text) (leading : Spaces before) (ends : Ends continuesNumber rest) :
    Takes (value .full depth) (before ++ (text ++ rest)) result rest := by
  obtain ⟨c, tail, rfl, start⟩ := spelled.first
  obtain ⟨visible, _, noArray, noObject⟩ := startsScalar_visible start
  obtain ⟨nextShorter, next⟩ := next_of_spaces leading visible (tail ++ rest)
  obtain ⟨shorter, read⟩ := scalar_taken spelled ends nextShorter
  refine ⟨shorter, ?_⟩
  unfold value
  simp only [List.cons_append, next, noArray, noObject, if_false, read]

theorem takes_nested {depth : Nat} {inner : Value → List Char → Prop}
    (reads : ReadsSpellings (value .full depth) inner) {result : Value} {before text : List Char}
    (spelled : Nested inner result text) (leading : Spaces before)
    (ends : Ends continuesNumber rest) :
    Takes (value .full (depth + 1)) (before ++ (text ++ rest)) result rest := by
  cases spelled with
  | scalar spelled => exact takes_scalar (depth + 1) spelled leading ends
  | @array _ body spelled =>
      obtain ⟨nextShorter, next⟩ :=
        next_of_spaces leading (show isSpace '[' = false from rfl) (body ++ ']' :: rest)
      obtain ⟨shorter, read⟩ := takes_array reads spelled rest
      simp only [List.cons_append, List.append_assoc, List.nil_append]
      refine ⟨Nat.lt_trans shorter nextShorter, ?_⟩
      rw [value]
      simp only [next, if_true, read, Except.map, Taken.map, Taken.widen]
  | @object _ body spelled =>
      obtain ⟨nextShorter, next⟩ :=
        next_of_spaces leading (show isSpace '{' = false from rfl) (body ++ '}' :: rest)
      obtain ⟨shorter, read⟩ := takes_object reads spelled rest
      simp only [List.cons_append, List.append_assoc, List.nil_append]
      refine ⟨Nat.lt_trans shorter nextShorter, ?_⟩
      rw [value]
      simp only [next, if_true, if_false, Char.reduceEq, read, Except.map, Taken.map, Taken.widen]

theorem Nested.first {inner : Value → List Char → Prop} {result : Value} {text : List Char}
    (spelled : Nested inner result text) :
    ∃ c tail, text = c :: tail ∧ isSpace c = false ∧ c ≠ ']' := by
  cases spelled with
  | array => exact ⟨'[', _, rfl, rfl, by decide⟩
  | object => exact ⟨'{', _, rfl, rfl, by decide⟩
  | scalar spelled =>
      obtain ⟨c, tail, rfl, start⟩ := spelled.first
      obtain ⟨visible, noEnd, _⟩ := startsScalar_visible start
      exact ⟨c, tail, rfl, visible, noEnd⟩

/-- Values are taken from all their spellings, by induction on how deep they may nest. -/
theorem readsSpellings_value (depth : Nat) :
    ReadsSpellings (value .full depth) (Spells depth) := by
  induction depth with
  | zero =>
      refine ⟨takes_scalar 0, ?_⟩
      intro result text spelled
      exact (Nested.scalar spelled : Nested (Spells 0) result text).first
  | succ depth ih => exact ⟨takes_nested ih, Nested.first⟩

theorem nextChar?_eq_none {text : List Char} (spaces : Spaces text) : nextChar? text = none := by
  induction text with
  | nil => rfl
  | cons c text ih =>
      have blank := isSpace_of_spaces spaces List.mem_cons_self
      rw [nextChar?, if_pos blank, ih fun d member => spaces d (List.mem_cons_of_mem _ member)]
      rfl

/-- A text that spells an object is read as the object of its members. -/
theorem parse_of_spells {members : List (String × Value)} {text : String}
    (spelled : SpellsObject members text.toList) : parse text = .ok (.ofMembers members) := by
  obtain ⟨before, body, behind, written, leading, trailing, sequence⟩ := spelled
  have nested : Spells maxDepth (.ofMembers members) ('{' :: (body ++ ['}'])) :=
    Nested.object sequence
  have ends : Ends continuesNumber behind := by
    have bare := trailing.ends (ends_nil continuesNumber)
    rwa [List.append_nil] at bare
  obtain ⟨shorter, read⟩ := (readsSpellings_value maxDepth).takes nested leading ends
  have whole : before ++ ('{' :: (body ++ ['}']) ++ behind) = text.toList := by
    rw [written]
    simp only [List.cons_append, List.append_assoc, List.nil_append]
  rw [parse, ← whole, readAll, read]
  simp only [bind, Except.bind, nextChar?_eq_none trailing]
  rfl

end FormCheck.Json
