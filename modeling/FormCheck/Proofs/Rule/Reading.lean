import FormCheck.Proofs.Rule.Grammar
import Mathlib.Data.List.Forall2

/-!
What reading makes of every text. The piece before the first bar decides by itself whether
the text is a rule and which directive opens it, and each piece behind a bar becomes one
constraint, whatever stands around it.
-/

set_option autoImplicit false

namespace FormCheck

/-- The texts that are presence directives. -/
inductive Presence.Written : String → Presence → Prop where
  | required : Written "required" .required
  | permitEmpty : Written "permit_empty" .permitEmpty
  | requiredIf (sibling : String) : Written ("required_if[" ++ sibling ++ "]") (.requiredIf sibling)
  | requiredIfNot (sibling : String) :
      Written ("required_if_not[" ++ sibling ++ "]") (.requiredIfNot sibling)

theorem Presence.source_of_written {text : String} {presence : Presence}
    (written : Written text presence) : presence.source = text := by
  cases written with
  | required | permitEmpty | requiredIf | requiredIfNot => rfl

theorem Presence.written_iff (text : String) (presence : Presence) :
    Written text presence ↔ ofChars? text.toList = some presence := by
  rw [ofChars?_eq_some_iff, String.toList_inj]
  constructor
  · intro written
    exact (source_of_written written).symm
  · intro written
    subst written
    cases presence with
    | required => exact .required
    | permitEmpty => exact .permitEmpty
    | requiredIf sibling => exact .requiredIf sibling
    | requiredIfNot sibling => exact .requiredIfNot sibling

/-- The constraint that a piece of a rule is. It is kept as it stands if it names no
test. -/
inductive Constraint.Denoted : String → Constraint → Prop where
  | known {segment : String} {test : Test} (named : Test.Names segment test) :
      Denoted segment (.known test)
  | unknown {segment : String} (unnamed : ∀ test, ¬ Test.Names segment test) :
      Denoted segment (.unknown segment)

theorem Constraint.denoted_iff (segment : String) (constraint : Constraint) :
    Denoted segment constraint ↔ ofChars segment.toList = constraint := by
  constructor
  · intro denoted
    cases denoted with
    | known named => exact (ofChars_eq_known_iff segment _).mpr named
    | unknown unnamed => exact (ofChars_eq_unknown_iff segment segment).mpr ⟨rfl, unnamed⟩
  · intro read
    cases constraint with
    | known test => exact .known ((ofChars_eq_known_iff segment test).mp read)
    | unknown kept =>
        obtain ⟨rfl, unnamed⟩ := (ofChars_eq_unknown_iff segment kept).mp read
        exact .unknown unnamed

theorem Constraint.existsUnique_denoted (segment : String) :
    ∃! constraint, Denoted segment constraint := by
  refine ⟨ofChars segment.toList, (denoted_iff segment _).mpr rfl, ?_⟩
  intro other denoted
  exact ((denoted_iff segment other).mp denoted).symm

theorem Constraint.forall₂_denoted_iff (segments : List String) (constraints : List Constraint) :
    List.Forall₂ Denoted segments constraints ↔
      (segments.map fun segment => ofChars segment.toList) = constraints := by
  rw [← List.forall₂_eq_eq_eq, List.forall₂_map_left_iff]
  constructor
  · exact List.Forall₂.imp fun segment constraint => (denoted_iff segment constraint).mp
  · exact List.Forall₂.imp fun segment constraint => (denoted_iff segment constraint).mpr

namespace Rule

/-- What reading makes of a text that falls into the given pieces. -/
structure ReadByPieces (text first : String) (segments : List String) : Prop where
  cut : Cut text first segments
  /-- There is no other way to cut the text. -/
  unique : ∀ other others, Cut text other others → other = first ∧ others = segments
  accepted : (∃ rule, parse text = .ok rule) ↔ ∃ presence, Presence.Written first presence
  refused : ∀ defect, parse text = .error defect ↔
    defect = .noPresence ∧ ∀ presence, ¬ Presence.Written first presence
  classified : ∀ rule, parse text = .ok rule ↔
    Presence.Written first rule.presence ∧
      List.Forall₂ Constraint.Denoted segments rule.constraints

theorem parse_eq_ok_iff_of_cut {text first : String} {segments : List String}
    (cut : Cut text first segments) (rule : Rule) :
    parse text = .ok rule ↔
      Presence.Written first rule.presence ∧
        List.Forall₂ Constraint.Denoted segments rule.constraints := by
  rw [parse_of_cut cut, Presence.written_iff, Constraint.forall₂_denoted_iff]
  obtain ⟨presence, constraints⟩ := rule
  cases Presence.ofChars? first.toList with
  | none => simp
  | some opening => simp

theorem parse_eq_error_iff_of_cut {text first : String} {segments : List String}
    (cut : Cut text first segments) (defect : Defect) :
    parse text = .error defect ↔
      defect = .noPresence ∧ ∀ presence, ¬ Presence.Written first presence := by
  rw [parse_of_cut cut]
  simp only [Presence.written_iff]
  cases Presence.ofChars? first.toList with
  | none => simp [eq_comm]
  | some opening => simp

/-- Every text falls into pieces at its bars in one way, its first piece alone decides
whether it is a rule, and each other piece alone decides what constraint it is. -/
theorem parse_reads_by_pieces :
    (∀ segment, ∃! constraint, Constraint.Denoted segment constraint) ∧
      ∀ text, ∃ first segments, ReadByPieces text first segments := by
  refine ⟨Constraint.existsUnique_denoted, ?_⟩
  intro text
  obtain ⟨first, segments, cut⟩ := exists_cut text
  refine ⟨first, segments, cut, fun _ _ => cut.unique, ?_, parse_eq_error_iff_of_cut cut,
    parse_eq_ok_iff_of_cut cut⟩
  constructor
  · intro read
    obtain ⟨rule, read⟩ := read
    exact ⟨rule.presence, ((parse_eq_ok_iff_of_cut cut rule).mp read).1⟩
  · intro opening
    obtain ⟨presence, written⟩ := opening
    rw [Presence.written_iff] at written
    exact ⟨_, by rw [parse_of_cut cut, written]⟩

-- The longer keyword is no prefix of a shorter one, and only the last bracket closes.
example : parse "required_if_not[a[b]|length[3]x|min_length| email|email[]" =
    .ok ⟨.requiredIfNot "a[b", [.unknown "length[3]x", .unknown "min_length", .unknown " email",
      .known (.plain .email)]⟩ := by
  decide

end Rule

end FormCheck
