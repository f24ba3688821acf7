import FormCheck.Judgement.Test
import FormCheck.Proofs.Text.Pattern
import Mathlib.Data.List.Count

/-!
Which texts are email addresses. The pattern leaves open where a domain is to be cut, but only
the cut at its last point can leave letters behind it, so one cut decides.
-/

set_option autoImplicit false

namespace FormCheck.Email

open Text

/-! ## The language of addresses -/

def Letter (c : Char) : Prop :=
  ('a' ≤ c ∧ c ≤ 'z') ∨ ('A' ≤ c ∧ c ≤ 'Z')

/-- The characters of the names that stand before the last point of a domain. -/
def HostChar (c : Char) : Prop :=
  Letter c ∨ ('0' ≤ c ∧ c ≤ '9') ∨ c = '.' ∨ c = '-'

def LocalChar (c : Char) : Prop :=
  HostChar c ∨ c = '_'

instance (c : Char) : Decidable (Letter c) :=
  inferInstanceAs (Decidable (_ ∨ _))

instance (c : Char) : Decidable (HostChar c) :=
  inferInstanceAs (Decidable (_ ∨ _))

instance (c : Char) : Decidable (LocalChar c) :=
  inferInstanceAs (Decidable (_ ∨ _))

/-- The texts before and behind the last place at which a character stands. -/
def cutAtLast? (mark : Char) : List Char → Option (List Char × List Char)
  | [] => none
  | c :: rest =>
      match cutAtLast? mark rest with
      | some (before, behind) => some (c :: before, behind)
      | none => if c = mark then some ([], rest) else none

/-- A text with one at sign, behind which the last point stands between a host and two to four
letters. -/
structure Address (text : List Char) : Prop where
  single : text.count '@' = 1
  parts : ∃ name domain host top, text = name ++ '@' :: domain ∧
    cutAtLast? '.' domain = some (host, top) ∧
    (name ≠ [] ∧ ∀ c ∈ name, LocalChar c) ∧ (host ≠ [] ∧ ∀ c ∈ host, HostChar c) ∧
    (2 ≤ top.length ∧ top.length ≤ 4 ∧ ∀ c ∈ top, Letter c)

theorem cutAtLast?_eq_none_iff (mark : Char) (text : List Char) :
    cutAtLast? mark text = none ↔ mark ∉ text := by
  induction text with
  | nil => simp [cutAtLast?]
  | cons c rest ih =>
      rw [cutAtLast?, List.mem_cons, not_or, ← ih]
      cases cutAtLast? mark rest with
      | some cut => simp
      | none => simp [eq_comm]

theorem cutAtLast?_append {mark : Char} {behind : List Char} (last : mark ∉ behind)
    (before : List Char) : cutAtLast? mark (before ++ mark :: behind) = some (before, behind) := by
  induction before with
  | nil =>
      have bare := (cutAtLast?_eq_none_iff mark behind).mpr last
      simp only [List.nil_append, cutAtLast?, bare, if_true]
  | cons c before ih => simp only [List.cons_append, cutAtLast?, ih]

theorem cutAtLast?_eq_some_iff (mark : Char) (text before behind : List Char) :
    cutAtLast? mark text = some (before, behind) ↔
      text = before ++ mark :: behind ∧ mark ∉ behind := by
  constructor
  · intro cut
    induction text generalizing before with
    | nil => cases cut
    | cons c rest ih =>
        rw [cutAtLast?] at cut
        cases found : cutAtLast? mark rest with
        | some pair =>
            rw [found] at cut
            cases cut
            obtain ⟨split, last⟩ := ih pair.1 found
            exact ⟨congrArg (c :: ·) split, last⟩
        | none =>
            simp only [found] at cut
            split at cut
            · rename_i same
              subst same
              cases cut
              exact ⟨rfl, (cutAtLast?_eq_none_iff c behind).mp found⟩
            · cases cut
  · rintro ⟨rfl, last⟩
    exact cutAtLast?_append last before

theorem isAlpha_iff (c : Char) : c.isAlpha = true ↔ Letter c := by
  have either : c.isAlpha = (c.isUpper || c.isLower) := rfl
  have capital : c.isUpper = decide ('A' ≤ c ∧ c ≤ 'Z') := rfl
  have small : c.isLower = (decide ('a' ≤ c) && decide (c ≤ 'z')) := rfl
  simp [either, capital, small, Letter, or_comm]

theorem isDomainChar_iff (c : Char) : isDomainChar c = true ↔ HostChar c := by
  simp [isDomainChar, Char.isAlphanum, Char.isDigit, HostChar, ← isAlpha_iff, Char.le_def, or_assoc]

theorem isLocalChar_iff (c : Char) : isLocalChar c = true ↔ LocalChar c := by
  simp [isLocalChar, LocalChar, ← isDomainChar_iff]

/-- The pattern, read as a way to share out a text. -/
theorem isAddress_iff (text : String) :
    isAddress text = true ↔ ∃ name host top, text.toList = name ++ '@' :: (host ++ '.' :: top) ∧
      (name ≠ [] ∧ ∀ c ∈ name, LocalChar c) ∧ (host ≠ [] ∧ ∀ c ∈ host, HostChar c) ∧
      (2 ≤ top.length ∧ top.length ≤ 4 ∧ ∀ c ∈ top, Letter c) := by
  constructor
  · intro accepted
    obtain ⟨name, rest, split, named, nameInside, accepted⟩ := (accepts_some_iff _ _ _).mp accepted
    obtain ⟨c, rest, rfl, sign, accepted⟩ := (accepts_one_iff _ _ _).mp accepted
    obtain ⟨host, rest, rfl, hosted, hostInside, accepted⟩ := (accepts_some_iff _ _ _).mp accepted
    obtain ⟨d, top, rfl, point, accepted⟩ := (accepts_one_iff _ _ _).mp accepted
    obtain ⟨enough, short, letters⟩ := (accepts_repeated_iff Char.isAlpha top 2 2).mp accepted
    rw [beq_iff_eq] at sign point
    subst sign point
    exact ⟨name, host, top, split,
      ⟨named, fun c member => (isLocalChar_iff c).mp (nameInside c member)⟩,
      ⟨hosted, fun c member => (isDomainChar_iff c).mp (hostInside c member)⟩,
      enough, short, fun c member => (isAlpha_iff c).mp (letters c member)⟩
  · rintro ⟨name, host, top, split, ⟨named, nameInside⟩, ⟨hosted, hostInside⟩, enough, short,
      letters⟩
    have accepted : accepts (List.replicate 2 (.one Char.isAlpha) ++
        List.replicate 2 (.optional Char.isAlpha)) top = true :=
      (accepts_repeated_iff Char.isAlpha top 2 2).mpr
        ⟨enough, short, fun c member => (isAlpha_iff c).mpr (letters c member)⟩
    rw [isAddress, pattern, split, accepts_some_iff]
    refine ⟨name, _, rfl, named, fun c member => (isLocalChar_iff c).mpr (nameInside c member), ?_⟩
    rw [accepts_one_iff]
    refine ⟨'@', _, rfl, rfl, ?_⟩
    rw [accepts_some_iff]
    refine ⟨host, _, rfl, hosted, fun c member => (isDomainChar_iff c).mpr (hostInside c member),
      ?_⟩
    rw [accepts_one_iff]
    exact ⟨'.', top, rfl, rfl, accepted⟩

/-- The pattern leaves no choice: no part of an address can hold the at sign, and letters no
point, so its cuts are those at the only at sign and at the last point. -/
theorem address_iff (text : String) : Address text.toList ↔ isAddress text = true := by
  rw [isAddress_iff]
  constructor
  · rintro ⟨_, name, domain, host, top, split, cut, named, hosted, ended⟩
    obtain ⟨rfl, _⟩ := (cutAtLast?_eq_some_iff '.' domain host top).mp cut
    exact ⟨name, host, top, split, named, hosted, ended⟩
  · rintro ⟨name, host, top, split, named, hosted, ended⟩
    have nameBare : '@' ∉ name := fun member => absurd (named.2 '@' member) (by decide)
    have hostBare : '@' ∉ host := fun member => absurd (hosted.2 '@' member) (by decide)
    have topBare : '@' ∉ top := fun member => absurd (ended.2.2 '@' member) (by decide)
    have last : '.' ∉ top := fun member => absurd (ended.2.2 '.' member) (by decide)
    refine ⟨?_, name, _, host, top, split, cutAtLast?_append last host, named, hosted, ended⟩
    rw [split]
    simp [List.count_eq_zero_of_not_mem, nameBare, hostBare, topBare]

theorem LocalChar.visible {c : Char} (inside : LocalChar c) : 32 < c.toNat ∧ c.toNat < 127 := by
  rcases inside with ((small | capital) | digit | rfl | rfl) | rfl
  · change 97 ≤ c.toNat ∧ c.toNat ≤ 122 at small
    omega
  · change 65 ≤ c.toNat ∧ c.toNat ≤ 90 at capital
    omega
  · change 48 ≤ c.toNat ∧ c.toNat ≤ 57 at digit
    omega
  · decide
  · decide
  · decide

/-- Only visible ASCII characters stand in an address. -/
theorem Address.visible {text : List Char} (address : Address text) {c : Char} (member : c ∈ text) :
    32 < c.toNat ∧ c.toNat < 127 := by
  obtain ⟨name, domain, host, top, rfl, cut, ⟨_, named⟩, ⟨_, hosted⟩, _, _, ended⟩ := address.parts
  obtain ⟨rfl, _⟩ := (cutAtLast?_eq_some_iff '.' domain host top).mp cut
  rcases List.mem_append.mp member with inName | behind
  · exact (named c inName).visible
  · rcases List.mem_cons.mp behind with rfl | behind
    · decide
    · rcases List.mem_append.mp behind with inHost | behind
      · exact LocalChar.visible (.inl (hosted c inHost))
      · rcases List.mem_cons.mp behind with rfl | inTop
        · decide
        · exact LocalChar.visible (.inl (.inl (ended c inTop)))

theorem not_visible_of_isBlank {c : Char} (blank : isBlank c = true) :
    ¬ (32 < c.toNat ∧ c.toNat < 127) := by
  intro visible
  simp only [isBlank, Bool.or_eq_true, Bool.and_eq_true, decide_eq_true_eq, beq_iff_eq] at blank
  omega

/-- The test for email addresses accepts the addresses, as one cut at the last point tells, and
nothing is trimmed for it: a blank, a control or a character beyond ASCII is refused wherever it
stands. -/
theorem email_accepts_addresses :
    (∀ text : String, (Test.plain .email).Accepts text ↔ Address text.toList) ∧
      ∀ text : String, (∃ c ∈ text.toList, isBlank c = true ∨ c.toNat < 32 ∨ 127 ≤ c.toNat) →
        ¬ (Test.plain .email).Accepts text := by
  have accepts (text : String) : (Test.plain .email).Accepts text ↔ Address text.toList := by
    rw [Test.accepts_iff, address_iff]
    rfl
  refine ⟨accepts, ?_⟩
  rintro text ⟨c, member, foreign⟩ accepted
  have visible := ((accepts text).mp accepted).visible member
  rcases foreign with blank | control | beyond
  · exact not_visible_of_isBlank blank visible
  · omega
  · omega

theorem email_refuses_final_newline :
    (∃ c ∈ "jane@example.com\n".toList, isBlank c = true ∨ c.toNat < 32 ∨ 127 ≤ c.toNat) ∧
      ¬ (Test.plain .email).Accepts "jane@example.com\n" := by
  have newline : '\n' ∈ "jane@example.com\n".toList := by decide
  have foreign : ∃ c ∈ "jane@example.com\n".toList,
      isBlank c = true ∨ c.toNat < 32 ∨ 127 ≤ c.toNat := ⟨'\n', newline, .inl rfl⟩
  exact ⟨foreign, email_accepts_addresses.2 _ foreign⟩

-- Points may stand anywhere before the last one, which alone has letters behind it.
example : isAddress "x@.y..co" = true ∧ isAddress "x@y.com.c0" = false := by
  decide +kernel

end FormCheck.Email
