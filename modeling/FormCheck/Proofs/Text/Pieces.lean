import FormCheck.Text.Pieces

/-!
Cutting a text and joining pieces are inverse to each other, as long as the pieces are bare
of the separator. Cutting only makes pieces that are, and the pieces of a text are what stands
between two separators in it, counting one at each of its ends.
-/

set_option autoImplicit false

namespace FormCheck.Text

/-- Whether no piece of a cut text contains the separator. -/
def Bare (separator : Char) (first : List Char) (later : List (List Char)) : Prop :=
  separator ∉ first ∧ ∀ piece ∈ later, separator ∉ piece

theorem bare_pieces (separator : Char) (text : List Char) :
    Bare separator (pieces separator text).1 (pieces separator text).2 := by
  induction text with
  | nil => exact ⟨List.not_mem_nil, fun _ member => absurd member List.not_mem_nil⟩
  | cons c rest ih =>
      obtain ⟨firstBare, laterBare⟩ := ih
      simp only [pieces]
      split
      case isTrue same =>
        refine ⟨List.not_mem_nil, ?_⟩
        intro piece member
        rcases List.mem_cons.mp member with rfl | member
        · exact firstBare
        · exact laterBare piece member
      case isFalse different =>
        refine ⟨?_, laterBare⟩
        intro member
        rcases List.mem_cons.mp member with here | later
        · exact different here.symm
        · exact firstBare later

theorem pieces_of_bare {separator : Char} {text : List Char} (bare : separator ∉ text) :
    pieces separator text = (text, []) := by
  induction text with
  | nil => rfl
  | cons c rest ih =>
      obtain ⟨different, restBare⟩ := List.ne_and_not_mem_of_not_mem_cons bare
      simp only [pieces, ih restBare, if_neg (Ne.symm different)]

theorem pieces_append_separator {separator : Char} {first : List Char} (bare : separator ∉ first)
    (rest : List Char) :
    pieces separator (first ++ separator :: rest) =
      (first, (pieces separator rest).1 :: (pieces separator rest).2) := by
  induction first with
  | nil => simp only [List.nil_append, pieces, if_true]
  | cons c front ih =>
      obtain ⟨different, frontBare⟩ := List.ne_and_not_mem_of_not_mem_cons bare
      simp only [List.cons_append, pieces, ih frontBare, if_neg (Ne.symm different)]

theorem pieces_joinPieces {separator : Char} {first : List Char} {later : List (List Char)}
    (bare : Bare separator first later) :
    pieces separator (joinPieces separator first later) = (first, later) := by
  induction later generalizing first with
  | nil => simpa [joinPieces] using pieces_of_bare bare.1
  | cons piece rest ih =>
      have restBare : Bare separator piece rest :=
        ⟨bare.2 piece List.mem_cons_self, fun other member =>
          bare.2 other (List.mem_cons_of_mem _ member)⟩
      have joined : joinPieces separator first (piece :: rest) =
          first ++ separator :: joinPieces separator piece rest := by
        simp [joinPieces]
      rw [joined, pieces_append_separator bare.1, ih restBare]

/-- The pieces of a text are the one way to write it as bare pieces. -/
theorem pieces_eq_iff (separator : Char) (text first : List Char) (later : List (List Char)) :
    pieces separator text = (first, later) ↔
      text = joinPieces separator first later ∧ Bare separator first later := by
  constructor
  · intro cut
    have joined := joinPieces_pieces separator text
    have bare := bare_pieces separator text
    rw [cut] at joined bare
    exact ⟨joined.symm, bare⟩
  · intro written
    obtain ⟨rfl, bare⟩ := written
    exact pieces_joinPieces bare

/-! ## Pieces as parts of the text -/

/-- The pieces of a text in order. There is at least one. -/
def allPieces (separator : Char) (text : List Char) : List (List Char) :=
  (pieces separator text).1 :: (pieces separator text).2

theorem allPieces_append_separator (separator : Char) (front back : List Char) :
    allPieces separator (front ++ separator :: back) =
      allPieces separator front ++ allPieces separator back := by
  induction front with
  | nil => simp [allPieces, pieces]
  | cons c front ih =>
      obtain ⟨first, later⟩ := List.cons.inj ih
      by_cases same : c = separator
      · simp [allPieces, pieces, same, first, later]
      · simp [allPieces, pieces, same, first, later]

theorem flatMap_allPieces (separator : Char) (text : List Char) :
    (allPieces separator text).flatMap (separator :: ·) = separator :: text := by
  rw [allPieces, List.flatMap_cons, List.cons_append]
  exact congrArg _ (joinPieces_pieces separator text)

theorem bare_of_mem_allPieces {separator : Char} {text piece : List Char}
    (member : piece ∈ allPieces separator text) : separator ∉ piece := by
  obtain ⟨firstBare, laterBare⟩ := bare_pieces separator text
  rcases List.mem_cons.mp member with rfl | later
  · exact firstBare
  · exact laterBare piece later

/-- A piece stands between separators, once there is one before and one behind the text. -/
theorem infix_of_mem_allPieces {separator : Char} {text piece : List Char}
    (member : piece ∈ allPieces separator text) :
    separator :: (piece ++ [separator]) <:+: separator :: (text ++ [separator]) := by
  obtain ⟨before, behind, split⟩ := List.append_of_mem member
  -- What comes behind the piece starts with a separator in any case.
  have next : ∃ rest, behind.flatMap (separator :: ·) ++ [separator] = separator :: rest := by
    cases behind with
    | nil => exact ⟨[], rfl⟩
    | cons piece rest => exact ⟨_, rfl⟩
  obtain ⟨rest, next⟩ := next
  have whole := flatMap_allPieces separator text
  rw [split, List.flatMap_append, List.flatMap_cons] at whole
  refine ⟨before.flatMap (separator :: ·), rest, ?_⟩
  calc before.flatMap (separator :: ·) ++ separator :: (piece ++ [separator]) ++ rest
      = before.flatMap (separator :: ·) ++ (separator :: piece ++ separator :: rest) := by simp
    _ = before.flatMap (separator :: ·) ++
          (separator :: piece ++ behind.flatMap (separator :: ·)) ++ [separator] := by
        rw [← next]
        simp
    _ = separator :: (text ++ [separator]) := by rw [whole, List.cons_append]

/-- What stands between two separators without holding one is a piece. -/
theorem mem_allPieces_of_infix {separator : Char} {text piece : List Char}
    (bare : separator ∉ piece)
    (between : separator :: (piece ++ [separator]) <:+: separator :: (text ++ [separator])) :
    piece ∈ allPieces separator text := by
  obtain ⟨before, behind, split⟩ := between
  have alone : allPieces separator piece = [piece] := by
    rw [allPieces, pieces_of_bare bare]
  have framed : allPieces separator (separator :: (text ++ [separator])) =
      [] :: (allPieces separator text ++ [[]]) := by
    rw [← List.nil_append (separator :: _), allPieces_append_separator,
      allPieces_append_separator]
    rfl
  have cut : allPieces separator (before ++ separator :: (piece ++ separator :: behind)) =
      allPieces separator before ++ piece :: allPieces separator behind := by
    rw [allPieces_append_separator, allPieces_append_separator, alone]
    rfl
  have same : before ++ separator :: (piece ++ separator :: behind) =
      separator :: (text ++ [separator]) := by
    simpa using split
  rw [same, framed] at cut
  -- There are pieces before it and behind it, so it is neither of the two at the ends.
  have start : allPieces separator before =
      (pieces separator before).1 :: (pieces separator before).2 := rfl
  have finish : (allPieces separator behind).dropLast ++
      [(allPieces separator behind).getLast (List.cons_ne_nil _ _)] =
        allPieces separator behind :=
    List.dropLast_concat_getLast _
  rw [start, ← finish, List.cons_append, List.cons.injEq, ← List.cons_append,
    ← List.append_assoc] at cut
  have inner := (List.append_inj' cut.2 rfl).1
  rw [inner]
  simp

end FormCheck.Text
