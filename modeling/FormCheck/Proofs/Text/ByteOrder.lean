import Mathlib.Data.List.Lex
import Mathlib.Tactic.SplitIfs

/-!
The order of texts by their UTF-8 bytes. The first byte of a character grows with the number of
bytes that it takes, and the bytes behind it are the digits of its code to base 64, so texts in
the order of their code points are also in the order of their bytes.
-/

set_option autoImplicit false

namespace FormCheck.Text

/-- Whether a text comes before another one when they are compared byte by byte. -/
def BytesBefore (text other : String) : Prop :=
  text.toUTF8.data.toList < other.toUTF8.data.toList

theorem toNat_lt_bound (c : Char) : c.toNat < 0x110000 := by
  have valid := c.valid
  simp only [UInt32.isValidChar, Nat.isValidChar] at valid
  change c.val.toNat < 0x110000
  omega

/-- The bytes of two characters differ where they first do as the characters do, so it does not
matter what comes behind them. -/
theorem utf8EncodeChar_append_lt {c d : Char} (before : c < d) (behind otherBehind : List UInt8) :
    String.utf8EncodeChar c ++ behind < String.utf8EncodeChar d ++ otherBehind := by
  have order : c.val.toNat < d.val.toNat := before
  have bound : d.val.toNat < 0x110000 := toNat_lt_bound d
  simp only [String.utf8EncodeChar]
  generalize c.val.toNat = code at order ⊢
  generalize d.val.toNat = otherCode at order bound ⊢
  have digits (n : Nat) : n / 4096 = n / 64 / 64 ∧ n / 262144 = n / 64 / 64 / 64 := by omega
  -- One case for each pair of byte counts, those with more bytes for `c` being void.
  split_ifs
  all_goals
    simp only [List.cons_append, List.nil_append, List.cons_lt_cons_iff, UInt8.lt_iff_toNat_lt,
      UInt8.toNat_ofNat', ← UInt8.toNat_inj, digits]
    omega

theorem flatMap_utf8EncodeChar_lt {text other : List Char} (before : text < other) :
    text.flatMap String.utf8EncodeChar < other.flatMap String.utf8EncodeChar := by
  induction text generalizing other with
  | nil =>
      cases other with
      | nil => exact absurd before (List.lt_irrefl [])
      | cons d other =>
          have some : String.utf8EncodeChar d ≠ [] := String.utf8EncodeChar_ne_nil
          obtain ⟨byte, bytes, encoded⟩ := List.exists_cons_of_ne_nil some
          rw [List.flatMap_cons, encoded]
          exact List.nil_lt_cons _ _
  | cons c text ih =>
      cases other with
      | nil => exact absurd before (List.not_lt_nil _)
      | cons d other =>
          rw [List.flatMap_cons, List.flatMap_cons]
          rcases List.cons_lt_cons_iff.mp before with first | ⟨rfl, later⟩
          · exact utf8EncodeChar_append_lt first _ _
          · exact List.append_left_lt (ih later)

theorem bytesBefore_of_lt {text other : String} (before : text < other) :
    BytesBefore text other := by
  have bytes (text : String) :
      text.toUTF8.data.toList = text.toList.flatMap String.utf8EncodeChar := by
    rw [String.toUTF8, ← String.utf8Encode_toList, List.utf8Encode, List.toList_data_toByteArray]
  rw [BytesBefore, bytes, bytes]
  exact flatMap_utf8EncodeChar_lt before

end FormCheck.Text
