import Std.Data.TreeMap.Lemmas
import Mathlib.Data.String.Basic
import Mathlib.Tactic.SplitIfs

/-!
# The order of texts is that of their bytes

Texts are ordered by their characters. Encoded in UTF-8 they are in the same order byte by byte,
since the encoding of a lesser character is less where it first differs
(`utf8EncodeChar_append_lt`). Hence a table ordered by text lists its entries in the order of the
bytes (`toList_pairwise_bytes`).
-/

namespace Telemetry.Text

open String (utf8EncodeChar)

/-- The bytes of a text in UTF-8. -/
def bytes (s : String) : List UInt8 := s.toUTF8.data.toList

theorem bytes_eq_flatMap (s : String) : bytes s = s.toList.flatMap utf8EncodeChar := by
  rw [bytes, String.toUTF8, ← String.utf8Encode_toList, List.utf8Encode]
  simp

/-- The encoding of a lesser character is less, whatever follows either of them. -/
theorem utf8EncodeChar_append_lt {c d : Char} (h : c < d) (xs ys : List UInt8) :
    utf8EncodeChar c ++ xs < utf8EncodeChar d ++ ys := by
  have hlt : c.val.toNat < d.val.toNat := h
  have hbound : d.val.toNat < 0x110000 := by
    rcases d.valid with h | h
    · exact Nat.lt_trans h (by decide)
    · exact h.2
  rw [utf8EncodeChar, utf8EncodeChar]
  generalize c.val.toNat = m at *
  generalize d.val.toNat = n at *
  -- Sixteen pairs of lengths. A longer encoding has a greater first byte, and in encodings of one
  -- length the bytes are the digits of the code points.
  split_ifs
  all_goals
    simp (disch := omega) only [List.cons_append, List.nil_append, List.cons_lt_cons_iff,
      UInt8.lt_iff_toNat_lt, ← UInt8.toNat_inj, UInt8.toNat_ofNat', Nat.mod_eq_of_lt]
    omega

/-- Encoding keeps the order of texts. -/
theorem bytes_lt_bytes {s t : String} (h : s < t) : bytes s < bytes t := by
  rw [bytes_eq_flatMap, bytes_eq_flatMap]
  replace h : s.toList < t.toList := String.lt_iff_toList_lt.mp h
  generalize s.toList = cs at h ⊢
  generalize t.toList = ds at h ⊢
  induction h with
  | @nil d ds =>
    -- The encoding of a character is not empty.
    rw [List.flatMap_nil, List.flatMap_cons]
    rcases hd : utf8EncodeChar d with _ | ⟨b, bs⟩
    · exact absurd hd String.utf8EncodeChar_ne_nil
    · exact List.nil_lt_cons _ _
  | rel hlt => exact utf8EncodeChar_append_lt hlt _ _
  | @cons c cs ds htail ih =>
    rw [List.flatMap_cons, List.flatMap_cons]
    exact List.append_left_lt ih

/-- A table lists its entries in the order of the bytes of their keys. -/
theorem toList_pairwise_bytes {β : Type} (m : Std.TreeMap String β) :
    m.toList.Pairwise fun entry other => bytes entry.1 < bytes other.1 :=
  Std.TreeMap.ordered_keys_toList.imp fun hlt => bytes_lt_bytes (compare_lt_iff_lt.mp hlt)

end Telemetry.Text
