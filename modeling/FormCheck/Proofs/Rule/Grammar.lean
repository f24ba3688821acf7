import FormCheck.Proofs.Rule.Segment
import FormCheck.Proofs.Text.Pieces

/-!
The texts that are rules. Such a text opens with a presence directive, and every further
segment stands behind a bar; there are no other bars. The text determines the directive
and the segments, and each segment is one constraint.
-/

set_option autoImplicit false

namespace FormCheck.Rule

/-- Whether a text, cut at all of its bars, falls into a first piece and the given
segments behind bars. -/
structure Cut (text first : String) (segments : List String) : Prop where
  written : text = first ++ String.join (segments.map ("|" ++ ·))
  first : separator ∉ first.toList
  bare : ∀ segment ∈ segments, separator ∉ segment.toList

/-- Whether a text is a presence directive with the given segments behind it. -/
structure Opens (text : String) (presence : Presence) (segments : List String) : Prop where
  written : text = presence.source ++ String.join (segments.map ("|" ++ ·))
  directive : separator ∉ presence.source.toList
  bare : ∀ segment ∈ segments, separator ∉ segment.toList

theorem toList_joined (first : String) (segments : List String) :
    (first ++ String.join (segments.map ("|" ++ ·))).toList =
      Text.joinPieces separator first.toList (segments.map String.toList) := by
  rw [String.toList_append, Text.joinPieces]
  congr 1
  induction segments with
  | nil => simp
  | cons segment rest ih =>
      rw [List.map_cons, String.join_cons, String.toList_append, ih]
      simp [separator]

theorem pieces_eq_iff_cut (text first : String) (segments : List String) :
    Text.pieces separator text.toList = (first.toList, segments.map String.toList) ↔
      Cut text first segments := by
  rw [Text.pieces_eq_iff]
  constructor
  · intro cut
    obtain ⟨written, firstBare, bare⟩ := cut
    refine ⟨String.toList_inj.mp ?_, firstBare, ?_⟩
    · rw [written, toList_joined]
    · intro segment member
      exact bare _ (List.mem_map_of_mem member)
  · intro cut
    obtain ⟨rfl, firstBare, bare⟩ := cut
    refine ⟨toList_joined _ _, firstBare, ?_⟩
    intro piece member
    obtain ⟨segment, listed, rfl⟩ := List.mem_map.mp member
    exact bare segment listed

theorem exists_cut (text : String) : ∃ first segments, Cut text first segments := by
  refine ⟨String.ofList (Text.pieces separator text.toList).1,
    (Text.pieces separator text.toList).2.map String.ofList, ?_⟩
  rw [← pieces_eq_iff_cut]
  simp

/-- A text falls into pieces in one way only. -/
theorem Cut.unique {text first other : String} {segments others : List String}
    (cut : Cut text first segments) (otherCut : Cut text other others) :
    other = first ∧ others = segments := by
  have pieces := (pieces_eq_iff_cut _ _ _).mpr cut
  have otherPieces := (pieces_eq_iff_cut _ _ _).mpr otherCut
  rw [pieces, Prod.mk.injEq] at otherPieces
  refine ⟨(String.toList_inj.mp otherPieces.1).symm, ?_⟩
  exact (List.map_inj_right fun _ _ => String.toList_inj.mp).mp otherPieces.2.symm

/-- Two texts with a bar between them fall into the pieces of both. -/
theorem Cut.append {text first other otherFirst : String} {segments others : List String}
    (cut : Cut text first segments) (otherCut : Cut other otherFirst others) :
    Cut (text ++ "|" ++ other) first (segments ++ otherFirst :: others) := by
  refine ⟨?_, cut.first, ?_⟩
  · rw [List.map_append, List.map_cons, String.join_append, String.join_cons, cut.written,
      otherCut.written]
    simp only [String.append_assoc]
  · intro segment member
    rcases List.mem_append.mp member with before | behind
    · exact cut.bare segment before
    · rcases List.mem_cons.mp behind with rfl | behind
      · exact otherCut.first
      · exact otherCut.bare segment behind

theorem Opens.cut {text : String} {presence : Presence} {segments : List String}
    (opens : Opens text presence segments) : Cut text presence.source segments :=
  ⟨opens.written, opens.directive, opens.bare⟩

theorem Cut.opens {text : String} {presence : Presence} {segments : List String}
    (cut : Cut text presence.source segments) : Opens text presence segments :=
  ⟨cut.written, cut.first, cut.bare⟩

/-- Reading looks at the pieces one by one: the first decides whether there is a rule at
all, and every other becomes a constraint. -/
theorem parse_of_cut {text first : String} {segments : List String}
    (cut : Cut text first segments) :
    parse text =
      match Presence.ofChars? first.toList with
      | none => .error .noPresence
      | some presence =>
          .ok ⟨presence, segments.map fun segment => Constraint.ofChars segment.toList⟩ := by
  have pieces := (pieces_eq_iff_cut text first segments).mpr cut
  simp only [parse, pieces, List.map_map]
  rfl

theorem parse_of_opens {text : String} {presence : Presence} {segments : List String}
    (opens : Opens text presence segments) :
    parse text = .ok ⟨presence, segments.map fun segment => Constraint.ofChars segment.toList⟩ := by
  have read := (Presence.ofChars?_eq_some_iff presence.source.toList presence).mpr rfl
  rw [parse_of_cut opens.cut, read]

theorem opens_of_parse {text : String} {rule : Rule} (read : parse text = .ok rule) :
    ∃ segments, Opens text rule.presence segments ∧
      rule.constraints = segments.map fun segment => Constraint.ofChars segment.toList := by
  obtain ⟨first, segments, cut⟩ := exists_cut text
  rw [parse_of_cut cut] at read
  cases opening : Presence.ofChars? first.toList with
  | none =>
      rw [opening] at read
      cases read
  | some presence =>
      rw [opening] at read
      cases read
      have written : first = presence.source :=
        String.toList_inj.mp ((Presence.ofChars?_eq_some_iff _ presence).mp opening)
      subst written
      exact ⟨segments, cut.opens, rfl⟩

theorem defect_of_parse {text : String} {defect : Defect} (failed : parse text = .error defect) :
    defect = .noPresence := by
  obtain ⟨first, segments, cut⟩ := exists_cut text
  rw [parse_of_cut cut] at failed
  cases opening : Presence.ofChars? first.toList with
  | none =>
      rw [opening] at failed
      cases failed
      rfl
  | some presence =>
      rw [opening] at failed
      cases failed

/-- Reading fails for one reason only: the text does not open with a directive. -/
theorem parse_eq_error_iff (text : String) (defect : Defect) :
    parse text = .error defect ↔
      defect = .noPresence ∧ ¬ ∃ presence segments, Opens text presence segments := by
  constructor
  · intro failed
    refine ⟨defect_of_parse failed, ?_⟩
    intro opened
    obtain ⟨presence, segments, opens⟩ := opened
    rw [parse_of_opens opens] at failed
    cases failed
  · intro unopened
    obtain ⟨rfl, unopened⟩ := unopened
    cases read : parse text with
    | ok rule =>
        obtain ⟨segments, opens, _⟩ := opens_of_parse read
        exact absurd ⟨rule.presence, segments, opens⟩ unopened
    | error defect => rw [defect_of_parse read]

end FormCheck.Rule
