import FormCheck.Store.ListingProperties
import Mathlib.Data.List.Basic
import Mathlib.Data.List.Induction
import Mathlib.Data.Prod.Basic

/-!
What a listing keeps of the pairs that it was made from: the names in the order in which they
first come up, and under each name the value that comes last.
-/

set_option autoImplicit false

namespace FormCheck.Listing

open Lookup

variable {α : Type}

/-! ## Pairs of different names -/

theorem put_of_fresh {name : String} {listing : List (String × α)}
    (fresh : name ∉ listing.map Prod.fst) (value : α) :
    put name value listing = listing ++ [(name, value)] := by
  induction listing with
  | nil => rfl
  | cons head rest ih =>
      obtain ⟨different, restFresh⟩ := List.ne_and_not_mem_of_not_mem_cons fresh
      simp only [put, if_neg (Ne.symm different), ih restFresh, List.cons_append]

theorem foldl_put_of_fresh (pairs listing : List (String × α))
    (distinct : ((listing ++ pairs).map Prod.fst).Nodup) :
    pairs.foldl (fun listing pair => put pair.1 pair.2 listing) listing = listing ++ pairs := by
  induction pairs generalizing listing with
  | nil => simp
  | cons pair rest ih =>
      have fresh : pair.1 ∉ listing.map Prod.fst := by
        rw [List.map_append, List.nodup_append] at distinct
        intro member
        exact distinct.2.2 pair.1 member pair.1 List.mem_cons_self rfl
      have moved : listing ++ pair :: rest = (listing ++ [pair]) ++ rest := by simp
      rw [List.foldl_cons, put_of_fresh fresh, moved]
      exact ih _ (moved ▸ distinct)

theorem ofPairs_of_nodup {pairs : List (String × α)} (distinct : (pairs.map Prod.fst).Nodup) :
    ofPairs pairs = pairs :=
  foldl_put_of_fresh pairs [] distinct

/-! ## Last values -/

/-- Whether pairs give a name the value last. -/
def LastValue (pairs : List (String × α)) (name : String) (value : α) : Prop :=
  ∃ before behind, pairs = before ++ (name, value) :: behind ∧ name ∉ behind.map Prod.fst

theorem lastValue_concat_iff (pairs : List (String × α)) (pair : String × α) (name : String)
    (value : α) :
    LastValue (pairs ++ [pair]) name value ↔
      if name = pair.1 then pair.2 = value else LastValue pairs name value := by
  constructor
  · intro last
    obtain ⟨before, behind, split, fresh⟩ := last
    rcases List.eq_nil_or_concat behind with rfl | ⟨shorter, final, rfl⟩
    · obtain ⟨-, same⟩ := List.append_inj' split rfl
      cases same
      rw [if_pos rfl]
    · have moved : pairs ++ [pair] = (before ++ (name, value) :: shorter) ++ [final] := by
        simpa using split
      obtain ⟨rfl, same⟩ := List.append_inj' moved rfl
      cases same
      simp only [List.concat_eq_append, List.map_append, List.mem_append, not_or] at fresh
      rw [if_neg (by simpa using fresh.2)]
      exact ⟨before, shorter, rfl, fresh.1⟩
  · intro last
    split at last
    case isTrue same =>
      subst same last
      exact ⟨pairs, [], rfl, by simp⟩
    case isFalse other =>
      obtain ⟨before, behind, rfl, fresh⟩ := last
      exact ⟨before, behind ++ [pair], by simp, by simpa using ⟨by simpa using fresh, other⟩⟩

/-- A listing of pairs holds the last value of each name. -/
theorem lookup_ofPairs_eq_some_iff (pairs : List (String × α)) (name : String) (value : α) :
    (ofPairs pairs).lookup name = some value ↔ LastValue pairs name value := by
  induction pairs using List.reverseRecOn with
  | nil => simp [LastValue]
  | append_singleton pairs pair ih =>
      rw [ofPairs_concat, lookup_put, lastValue_concat_iff, ← ih]
      split
      case isTrue => exact Option.some_inj
      case isFalse => rfl

/-- Names are listed in the order in which they first come up, so the first name of some kind
among the pairs is the first among the listed ones. -/
theorem find?_names_ofPairs (kind : String → Bool) (pairs : List (String × α)) :
    ((ofPairs pairs).map Prod.fst).find? kind = (pairs.map Prod.fst).find? kind := by
  induction pairs using List.reverseRecOn with
  | nil => rfl
  | append_singleton pairs pair ih =>
      rw [ofPairs_concat, names_put, List.map_append, List.find?_append, ← ih]
      split
      case isTrue listed =>
        cases found : ((ofPairs pairs).map Prod.fst).find? kind with
        | some first => rfl
        | none =>
            have other := List.find?_eq_none.mp found pair.1 listed
            simp [other]
      case isFalse => rw [List.find?_append]; rfl

/-! ## First places -/

/-- The names of pairs, each once, in the order in which they first come up. -/
def firstNames (pairs : List (String × α)) : List String :=
  (pairs.map Prod.fst).eraseDups

/-- Whether a name comes up earlier than another one. -/
def ComesUpBefore (pairs : List (String × α)) (earlier later : String) : Prop :=
  (pairs.map Prod.fst).idxOf earlier < (pairs.map Prod.fst).idxOf later

theorem firstNames_concat (pairs : List (String × α)) (pair : String × α) :
    firstNames (pairs ++ [pair]) =
      if pair.1 ∈ firstNames pairs then firstNames pairs else firstNames pairs ++ [pair.1] := by
  simp only [firstNames, List.mem_eraseDups, List.map_append, List.eraseDups_append]
  split
  case isTrue known => simp [List.removeAll, known]
  case isFalse new => simp [List.removeAll, new, List.eraseDups_cons]

theorem names_ofPairs (pairs : List (String × α)) :
    (ofPairs pairs).map Prod.fst = firstNames pairs := by
  induction pairs using List.reverseRecOn with
  | nil => rfl
  | append_singleton pairs pair ih => rw [ofPairs_concat, names_put, ih, firstNames_concat]

theorem mem_firstNames (pairs : List (String × α)) (name : String) :
    name ∈ firstNames pairs ↔ name ∈ pairs.map Prod.fst :=
  List.mem_eraseDups

theorem comesUpBefore_concat_iff {pairs : List (String × α)} (pair : String × α)
    {earlier later : String} (earlierKnown : earlier ∈ firstNames pairs)
    (laterKnown : later ∈ firstNames pairs) :
    ComesUpBefore (pairs ++ [pair]) earlier later ↔ ComesUpBefore pairs earlier later := by
  rw [mem_firstNames] at earlierKnown laterKnown
  rw [ComesUpBefore, List.map_append, List.idxOf_append_of_mem earlierKnown,
    List.idxOf_append_of_mem laterKnown, ComesUpBefore]

theorem comesUpBefore_new {pairs : List (String × α)} {pair : String × α} {earlier : String}
    (known : earlier ∈ firstNames pairs) (new : pair.1 ∉ firstNames pairs) :
    ComesUpBefore (pairs ++ [pair]) earlier pair.1 := by
  rw [mem_firstNames] at known new
  rw [ComesUpBefore, List.map_append, List.idxOf_append_of_mem known,
    List.idxOf_append_of_notMem new]
  exact Nat.lt_add_right _ (List.idxOf_lt_length_of_mem known)

theorem firstNames_ordered (pairs : List (String × α)) :
    (firstNames pairs).Pairwise (ComesUpBefore pairs) := by
  -- Pair by pair as they come: a new pair moves no earlier place, and a new name stands last.
  induction pairs using List.reverseRecOn with
  | nil => exact .nil
  | append_singleton pairs pair ih =>
      have kept : (firstNames pairs).Pairwise (ComesUpBefore (pairs ++ [pair])) := by
        refine ih.imp_of_mem ?_
        intro earlier later earlierKnown laterKnown before
        exact (comesUpBefore_concat_iff pair earlierKnown laterKnown).mpr before
      rw [firstNames_concat]
      split
      case isTrue => exact kept
      case isFalse new =>
        refine List.pairwise_append.mpr ⟨kept, List.pairwise_singleton _ _, ?_⟩
        intro earlier known later last
        obtain rfl := List.mem_singleton.mp last
        exact comesUpBefore_new known new

/-- A listing is determined by its names in their order and by what is found under them. -/
theorem ext_lookup {left right : List (String × α)} (leftDistinct : (left.map Prod.fst).Nodup)
    (rightDistinct : (right.map Prod.fst).Nodup) (names : left.map Prod.fst = right.map Prod.fst)
    (same : ∀ name, left.lookup name = right.lookup name) : left = right := by
  have read {listing : List (String × α)} (distinct : (listing.map Prod.fst).Nodup) :
      (listing.map Prod.fst).map (fun name => (name, listing.lookup name)) =
        listing.map (Prod.map id some) := by
    rw [List.map_map]
    refine List.map_congr_left ?_
    intro entry member
    exact Prod.ext rfl ((lookup_eq_some_iff distinct).mpr member)
  have injective : Function.Injective (Prod.map id some : String × α → String × Option α) :=
    Function.Injective.prodMap Function.injective_id fun _ _ => Option.some.inj
  apply List.map_injective_iff.mpr injective
  calc left.map (Prod.map id some)
      = (left.map Prod.fst).map (fun name => (name, left.lookup name)) := (read leftDistinct).symm
    _ = (right.map Prod.fst).map (fun name => (name, right.lookup name)) := by
        simp only [names, same]
    _ = right.map (Prod.map id some) := read rightDistinct

end FormCheck.Listing
