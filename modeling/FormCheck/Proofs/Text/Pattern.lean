import FormCheck.Text.Pattern
import Mathlib.Data.List.Basic

/-!
What patterns accept, step by step. A step takes one character, perhaps one, or a run of them,
and the steps behind it accept what is left, however the text has to be shared out for that.
-/

set_option autoImplicit false

namespace FormCheck.Text

variable (allowed : Char → Bool) (steps : List Step) (text : List Char)

theorem accepts_nil_iff : accepts [] text = true ↔ text = [] :=
  List.isEmpty_iff

theorem acceptsOne_iff (next : List Char → Bool) :
    acceptsOne allowed next text = true ↔
      ∃ c rest, text = c :: rest ∧ allowed c = true ∧ next rest = true := by
  cases text with
  | nil => simp [acceptsOne]
  | cons c rest => simp [acceptsOne]

/-- Any run of allowed characters can be taken off the front, the longest one as well as none. -/
theorem acceptsMany_iff (next : List Char → Bool) :
    acceptsMany allowed next text = true ↔
      ∃ run rest, text = run ++ rest ∧ (∀ c ∈ run, allowed c = true) ∧ next rest = true := by
  induction text with
  | nil =>
      rw [acceptsMany]
      constructor
      · intro accepted
        exact ⟨[], [], rfl, List.forall_mem_nil _, accepted⟩
      · rintro ⟨run, rest, split, _, accepted⟩
        rwa [(List.nil_eq_append_iff.mp split).2] at accepted
  | cons c text ih =>
      rw [acceptsMany, Bool.or_eq_true, Bool.and_eq_true, ih]
      constructor
      · rintro (accepted | ⟨inside, run, rest, rfl, runInside, accepted⟩)
        · exact ⟨[], c :: text, rfl, List.forall_mem_nil _, accepted⟩
        · exact ⟨c :: run, rest, rfl, List.forall_mem_cons.mpr ⟨inside, runInside⟩, accepted⟩
      · rintro ⟨run, rest, split, inside, accepted⟩
        cases run with
        | nil =>
            rw [List.nil_append] at split
            subst split
            exact .inl accepted
        | cons d run =>
            cases split
            obtain ⟨first, runInside⟩ := List.forall_mem_cons.mp inside
            exact .inr ⟨first, run, rest, rfl, runInside, accepted⟩

theorem accepts_one_iff :
    accepts (.one allowed :: steps) text = true ↔
      ∃ c rest, text = c :: rest ∧ allowed c = true ∧ accepts steps rest = true :=
  acceptsOne_iff allowed text (accepts steps)

theorem accepts_optional_iff :
    accepts (.optional allowed :: steps) text = true ↔
      accepts steps text = true ∨
        ∃ c rest, text = c :: rest ∧ allowed c = true ∧ accepts steps rest = true := by
  rw [accepts, Bool.or_eq_true, acceptsOne_iff]

/-- A step for one character and one for many take a run that is not empty. -/
theorem accepts_some_iff :
    accepts (.one allowed :: .many allowed :: steps) text = true ↔
      ∃ run rest, text = run ++ rest ∧ run ≠ [] ∧ (∀ c ∈ run, allowed c = true) ∧
        accepts steps rest = true := by
  rw [accepts_one_iff]
  constructor
  · rintro ⟨c, behind, rfl, inside, accepted⟩
    obtain ⟨run, rest, rfl, runInside, accepted⟩ := (acceptsMany_iff _ _ _).mp accepted
    exact ⟨c :: run, rest, rfl, List.cons_ne_nil c run,
      List.forall_mem_cons.mpr ⟨inside, runInside⟩, accepted⟩
  · rintro ⟨run, rest, rfl, present, inside, accepted⟩
    cases run with
    | nil => exact absurd rfl present
    | cons c run =>
        obtain ⟨first, runInside⟩ := List.forall_mem_cons.mp inside
        exact ⟨c, run ++ rest, rfl, first,
          (acceptsMany_iff _ _ _).mpr ⟨run, rest, rfl, runInside, accepted⟩⟩

theorem accepts_optionals_iff (most : Nat) :
    accepts (List.replicate most (.optional allowed)) text = true ↔
      text.length ≤ most ∧ ∀ c ∈ text, allowed c = true := by
  induction most generalizing text with
  | zero =>
      rw [List.replicate_zero, accepts_nil_iff, Nat.le_zero, List.length_eq_zero_iff]
      constructor
      · rintro rfl
        exact ⟨rfl, List.forall_mem_nil _⟩
      · exact And.left
  | succ most ih =>
      rw [List.replicate_succ, accepts_optional_iff, ih]
      cases text with
      | nil => simp
      | cons c text =>
          simp only [List.cons.injEq, List.length_cons, List.forall_mem_cons]
          constructor
          · rintro (⟨short, inside⟩ | ⟨_, _, ⟨rfl, rfl⟩, first, accepted⟩)
            · exact ⟨Nat.le_succ_of_le short, inside⟩
            · obtain ⟨short, inside⟩ := (ih text).mp accepted
              exact ⟨Nat.succ_le_succ short, first, inside⟩
          · rintro ⟨short, first, inside⟩
            exact .inr ⟨c, text, ⟨rfl, rfl⟩, first,
              (ih text).mpr ⟨Nat.le_of_succ_le_succ short, inside⟩⟩

/-- Steps of one class that end a pattern, the last ones optional, accept the texts of the class
with as many characters as the steps can take. -/
theorem accepts_repeated_iff (least more : Nat) :
    accepts (List.replicate least (.one allowed) ++ List.replicate more (.optional allowed)) text =
        true ↔
      least ≤ text.length ∧ text.length ≤ least + more ∧ ∀ c ∈ text, allowed c = true := by
  induction least generalizing text with
  | zero =>
      rw [List.replicate_zero, List.nil_append, accepts_optionals_iff, Nat.zero_add]
      exact (and_iff_right (Nat.zero_le _)).symm
  | succ least ih =>
      rw [List.replicate_succ, List.cons_append, accepts_one_iff]
      constructor
      · rintro ⟨c, text, rfl, first, accepted⟩
        obtain ⟨enough, short, inside⟩ := (ih text).mp accepted
        refine ⟨Nat.succ_le_succ enough, ?_, List.forall_mem_cons.mpr ⟨first, inside⟩⟩
        rw [List.length_cons]
        omega
      · rintro ⟨enough, short, inside⟩
        cases text with
        | nil => exact absurd enough (Nat.not_succ_le_zero least)
        | cons c text =>
            obtain ⟨first, inside⟩ := List.forall_mem_cons.mp inside
            rw [List.length_cons] at enough short
            exact ⟨c, text, rfl, first,
              (ih text).mpr ⟨Nat.le_of_succ_le_succ enough, by omega, inside⟩⟩

end FormCheck.Text
