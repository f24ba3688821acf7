import Mathlib.Data.List.Infix

/-!
Texts that end at a mark. A mark whose first character does not come again in it cannot overlap
itself, so the first place where it stands tells where a text ends that does not hold it,
whatever the text is and whatever comes behind the mark.
-/

set_option autoImplicit false

namespace FormCheck.Text

/-- A mark of which no two places in a text overlap. -/
inductive Clean : List Char → Prop where
  | mark {c : Char} {rest : List Char} (once : c ∉ rest) : Clean (c :: rest)

/-- What stands before the first character of a mark holds the rest of an earlier mark whole. -/
theorem prefix_of_once {c : Char} {rest front behind tail : List Char} (once : c ∉ rest)
    (same : rest ++ behind = front ++ c :: tail) : rest <+: front := by
  rcases List.append_eq_append_iff.mp same with ⟨between, split, _⟩ | ⟨overlap, split, shared⟩
  · exact ⟨between, split.symm⟩
  · cases overlap with
    | nil => exact ⟨[], split ▸ by simp⟩
    | cons d overlap =>
        obtain ⟨rfl, _⟩ := List.cons.inj shared
        exact absurd (split ▸ List.mem_append_right front List.mem_cons_self) once

/-- A text that goes on until a mark holds the mark itself if the mark stands at its front. -/
theorem eq_nil_of_mark_front {mark text behind rest : List Char} (clean : Clean mark)
    (free : ¬ mark <:+: text) (same : mark ++ behind = text ++ (mark ++ rest)) : text = [] := by
  cases clean with
  | @mark c tail once =>
      cases text with
      | nil => rfl
      | cons d text =>
          obtain ⟨rfl, later⟩ := List.cons.inj same
          have front : tail <+: text := prefix_of_once once later
          exact absurd ((List.prefix_cons_inj c).mpr front).isInfix free

/-- A text that does not hold a mark is told by what is read up to the mark. -/
theorem append_mark_inj {mark text other behind otherBehind : List Char} (clean : Clean mark)
    (free : ¬ mark <:+: text) (otherFree : ¬ mark <:+: other)
    (same : text ++ (mark ++ behind) = other ++ (mark ++ otherBehind)) :
    text = other ∧ behind = otherBehind := by
  induction text generalizing other with
  | nil =>
      have none := eq_nil_of_mark_front clean otherFree same
      subst none
      exact ⟨rfl, List.append_cancel_left same⟩
  | cons c text ih =>
      cases other with
      | nil =>
          cases eq_nil_of_mark_front clean free same.symm
      | cons d other =>
          obtain ⟨rfl, later⟩ := List.cons.inj same
          have tailFree {rest : List Char} (free : ¬ mark <:+: c :: rest) : ¬ mark <:+: rest :=
            fun inside => free (List.infix_cons inside)
          obtain ⟨rfl, rfl⟩ := ih (tailFree free) (tailFree otherFree) later
          exact ⟨rfl, rfl⟩

end FormCheck.Text
