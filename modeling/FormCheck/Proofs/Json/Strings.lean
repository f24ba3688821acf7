import FormCheck.Proofs.Json.Spelling

/-!
Reading undoes the spelling of strings: from every spelling the same characters are taken,
and what stands behind the closing quote is left.
-/

set_option autoImplicit false

namespace FormCheck.Json

open Text

/-- Whether a reader takes the given value from a text and leaves the given rest. -/
def Takes {α : Type} (reader : Reader α) (text : List Char) (value : α) (rest : List Char) : Prop :=
  ∃ shorter, reader text = .ok ⟨value, rest, shorter⟩

/-- Whether the first character of a text that is not white space is the given one, with the
given rest behind it. -/
def Next (text : List Char) (c : Char) (rest : List Char) : Prop :=
  ∃ shorter, nextChar? text = some ⟨c, rest, shorter⟩

theorem isSpace_of_spaces {text : List Char} (spaces : Spaces text) {c : Char} (member : c ∈ text) :
    isSpace c = true := by
  rcases spaces c member with rfl | rfl | rfl | rfl
  all_goals rfl

theorem next_of_spaces {before : List Char} (spaces : Spaces before) {c : Char}
    (visible : isSpace c = false) (rest : List Char) : Next (before ++ c :: rest) c rest := by
  induction before with
  | nil =>
      rw [Next, List.nil_append, nextChar?, visible]
      exact ⟨shorter_cons rest, rfl⟩
  | cons space before ih =>
      obtain ⟨shorter, found⟩ := ih fun c member => spaces c (List.mem_cons_of_mem _ member)
      have blank := isSpace_of_spaces spaces List.mem_cons_self
      rw [Next, List.cons_append, nextChar?, if_pos blank, found]
      exact ⟨Nat.lt_succ_of_lt shorter, rfl⟩

theorem hexValue?_of_hexDigit {value : Nat} {c : Char} (digit : HexDigit value c) :
    hexValue? c = some value := by
  have lower : ∀ entry ∈ "0123456789abcdef".toList.zipIdx, hexValue? entry.1 = some entry.2 := by
    decide
  have upper : ∀ entry ∈ "0123456789ABCDEF".toList.zipIdx, hexValue? entry.1 = some entry.2 := by
    decide
  rcases digit with listed | listed
  · exact lower (c, value) (List.mem_zipIdx_iff_getElem?.mpr listed)
  · exact upper (c, value) (List.mem_zipIdx_iff_getElem?.mpr listed)

theorem takes_unit {value : Nat} {digits : List Char} (hex : HexUnit value digits)
    (rest : List Char) : Takes unit (digits ++ rest) value rest := by
  cases hex with
  | digits first second third fourth =>
      refine ⟨by simp only [List.length_append, List.length_cons, List.length_nil]; omega, ?_⟩
      simp only [List.cons_append, List.nil_append, unit, hexValue?_of_hexDigit first,
        hexValue?_of_hexDigit second, hexValue?_of_hexDigit third, hexValue?_of_hexDigit fourth]

theorem isSurrogate_eq_false (char : Char) :
    isLeading char.toNat = false ∧ isTrailing char.toNat = false := by
  have valid := char.valid
  have code : char.toNat = char.val.toNat := rfl
  simp only [UInt32.isValidChar, Nat.isValidChar] at valid
  simp only [isLeading, isTrailing, Bool.and_eq_false_iff, decide_eq_false_iff_not]
  omega

theorem takes_pairWith {char : Char} {high low : Nat} {trailing : List Char} (lowBits : low < 0x400)
    (code : char.toNat = 0x10000 + high * 0x400 + low) (second : HexUnit (0xDC00 + low) trailing)
    (rest : List Char) :
    Takes (pairWith (0xD800 + high)) ('\\' :: 'u' :: (trailing ++ rest)) char rest := by
  obtain ⟨shorter, read⟩ := takes_unit second rest
  have follows : isTrailing (0xDC00 + low) = true := by
    simp only [isTrailing, Bool.and_eq_true, decide_eq_true_eq]
    omega
  have together : pairChar (0xD800 + high) (0xDC00 + low) = char := by
    have sum : 0x10000 + (0xD800 + high - 0xD800) * 0x400 + (0xDC00 + low - 0xDC00) =
        char.toNat := by omega
    rw [pairChar, sum, Char.ofNat_toNat]
  refine ⟨Nat.lt_succ_of_lt (Nat.lt_succ_of_lt shorter), ?_⟩
  simp only [pairWith, read, bind, Except.bind, follows, if_true, Taken.map, Taken.widen, together]

theorem shortEscape?_of_mem {letter char : Char} (listed : (letter, char) ∈ shortEscapes) :
    shortEscape? letter = some char ∧ letter ≠ 'u' := by
  have all : ∀ entry ∈ shortEscapes, shortEscape? entry.1 = some entry.2 ∧ entry.1 ≠ 'u' := by
    decide
  exact all (letter, char) listed

theorem takes_escape_short {letter char : Char} (listed : (letter, char) ∈ shortEscapes)
    (rest : List Char) : Takes (escape .full) (letter :: rest) char rest := by
  obtain ⟨found, other⟩ := shortEscape?_of_mem listed
  refine ⟨shorter_cons rest, ?_⟩
  rw [escape]
  · rw [found]
  · exact other

theorem takes_escape_unit {char : Char} {digits : List Char} (hex : HexUnit char.toNat digits)
    (rest : List Char) : Takes (escape .full) ('u' :: (digits ++ rest)) char rest := by
  obtain ⟨shorter, read⟩ := takes_unit hex rest
  obtain ⟨notLeading, notTrailing⟩ := isSurrogate_eq_false char
  refine ⟨Nat.lt_succ_of_lt shorter, ?_⟩
  simp only [escape, unicodeEscape, read, bind, Except.bind, notLeading, notTrailing, reduceCtorEq,
    if_false, Bool.false_eq_true, Taken.map, Char.ofNat_toNat]
  rfl

theorem takes_escape_pair {char : Char} {high low : Nat} {leading trailing : List Char}
    (highBits : high < 0x400) (lowBits : low < 0x400)
    (code : char.toNat = 0x10000 + high * 0x400 + low) (first : HexUnit (0xD800 + high) leading)
    (second : HexUnit (0xDC00 + low) trailing) (rest : List Char) :
    Takes (escape .full) ('u' :: (leading ++ '\\' :: 'u' :: (trailing ++ rest))) char rest := by
  obtain ⟨firstShorter, firstRead⟩ := takes_unit first ('\\' :: 'u' :: (trailing ++ rest))
  obtain ⟨shorter, secondRead⟩ := takes_pairWith lowBits code second rest
  have isHigh : isLeading (0xD800 + high) = true ∧ isTrailing (0xD800 + high) = false := by
    simp only [isLeading, isTrailing, Bool.and_eq_true, Bool.and_eq_false_iff, decide_eq_true_eq,
      decide_eq_false_iff_not]
    omega
  refine ⟨Nat.lt_succ_of_lt (Nat.lt_trans shorter firstShorter), ?_⟩
  simp only [escape, unicodeEscape, firstRead, bind, Except.bind, isHigh, reduceCtorEq, if_false,
    if_true, Bool.false_eq_true, secondRead]
  rfl

/-- A string is read up to the quote that closes it, whichever way its characters are spelled. -/
theorem takes_quoted {chars text : List Char} (characters : Characters chars text)
    (rest : List Char) : Takes (quoted .full) (text ++ '"' :: rest) chars rest := by
  induction characters with
  | nil =>
      rw [List.nil_append]
      refine ⟨shorter_cons rest, ?_⟩
      rw [quoted]
  | @cons char chars text later spelled _ ih =>
      obtain ⟨laterShorter, laterRead⟩ := ih
      have escaped {body : List Char}
          (takes : Takes (escape .full) body char (later ++ '"' :: rest)) :
          Takes (quoted .full) ('\\' :: body) (char :: chars) rest := by
        obtain ⟨shorter, read⟩ := takes
        refine ⟨Nat.lt_succ_of_lt (Nat.lt_trans laterShorter shorter), ?_⟩
        rw [quoted]
        simp only [read, bind, Except.bind, laterRead]
      rw [List.append_assoc]
      cases spelled with
      | plain printable noQuote noEscape =>
          rw [List.singleton_append]
          refine ⟨Nat.lt_succ_of_lt laterShorter, ?_⟩
          rw [quoted]
          · simp only [if_neg (Nat.not_lt.mpr printable), laterRead, bind, Except.bind]
          · exact noQuote
          · exact noEscape
      | short listed => exact escaped (takes_escape_short listed _)
      | unit hex => exact escaped (takes_escape_unit hex _)
      | pair highBits lowBits code first second =>
          have takes := takes_escape_pair highBits lowBits code first second (later ++ '"' :: rest)
          simpa only [List.cons_append, List.append_assoc] using escaped takes

end FormCheck.Json
