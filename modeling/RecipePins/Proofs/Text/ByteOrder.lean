import Mathlib.Data.List.Basic
import RecipePins.Proofs.Text.Lexicographic
import RecipePins.Proofs.Text.Splice

/-!
# Order by bytes

Texts compare by their characters as they do by their bytes in UTF-8.
-/
namespace RecipePins.Text

theorem encodeChar_append_lt {c d : Char} (h : c < d) (s t : List UInt8) :
    String.utf8EncodeChar c ++ s < String.utf8EncodeChar d ++ t := by
  have hcd : c.val.toNat < d.val.toNat := h
  have hd : d.val.toNat < 0x110000 := by
    have := d.valid
    simp only [UInt32.isValidChar, Nat.isValidChar] at this
    omega
  have digits (n : Nat) : n / 4096 = n / 64 / 64 ∧ n / 262144 = n / 64 / 64 / 64 := by omega
  simp only [String.utf8EncodeChar, digits]
  generalize c.val.toNat = n at hcd
  generalize d.val.toNat = m at hcd hd
  split_ifs <;> simp (disch := omega) only [List.cons_append, List.cons_lt_cons_iff,
    UInt8.lt_iff_toNat_lt, ← UInt8.toNat_inj, UInt8.toNat_ofNat', Nat.reducePow, Nat.mod_eq_of_lt] <;> omega

theorem encode_lt_encode {s t : List Char} (h : s < t) : encode s < encode t := by
  induction h with
  | nil =>
    rw [encode_cons]
    cases he : String.utf8EncodeChar _ with
    | nil => exact absurd he String.utf8EncodeChar_ne_nil
    | cons => exact List.nil_lt_cons _ _
  | cons _ ih =>
    rw [encode_cons, encode_cons]
    exact List.append_left_lt ih
  | rel hc =>
    rw [encode_cons, encode_cons]
    exact encodeChar_append_lt hc _ _

/-- Texts are in order exactly if their bytes are. -/
theorem encode_lt_encode_iff {s t : String} : encode s.toList < encode t.toList ↔ s < t := by
  refine ⟨fun h => ?_, encode_lt_encode⟩
  by_contra hn
  by_cases hle : s ≤ t
  · rw [String.le_antisymm hle (String.not_lt.1 hn)] at h
    exact List.lt_irrefl _ h
  · exact List.lt_asymm h (encode_lt_encode (String.not_le.1 hle))

theorem compare_eq_lt_iff_bytes {s t : String} : compare s t = .lt ↔ bytes s < bytes t := by
  rw [bytes_eq_encode, bytes_eq_encode, encode_lt_encode_iff]
  exact compareOfLessAndEq_eq_lt

theorem compare_encode (s t : List Char) : compare (encode s) (encode t) = compare s t := by
  have hbytes {s t : List UInt8} : compare s t = .lt ↔ s < t :=
    compare_eq_lt_iff_lt fun _ _ => compareOfLessAndEq_eq_lt
  apply compare_eq_compare
  · exact fun h => hbytes.2 (encode_lt_encode (compare_chars_eq_lt_iff.1 h))
  · exact fun h => hbytes.2 (encode_lt_encode (compare_chars_eq_lt_iff.1 h))
  · exact congrArg encode

end RecipePins.Text
