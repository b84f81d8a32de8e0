import ReturnPaths.Text.Bytes
import Mathlib.Data.List.Lex
import Mathlib.Data.String.Basic

/-!
# The bytes of texts

Texts are ordered by their characters.  This is the order of the bytes of their UTF-8 encoding:
where two texts differ for the first time, the smaller character has the smaller bytes.  The bytes
of a text are shown as the text itself.

* `Text.bytes_lt_bytes` : the order of texts is that of their bytes.
* `Text.ofBytes_bytes` : a text is shown as it is.
-/

namespace ReturnPaths.Text

theorem bytes_eq (text : String) : bytes text = text.toList.flatMap String.utf8EncodeChar := by
  have h : text.toUTF8 = text.toList.utf8Encode := String.utf8Encode_toList.symm
  rw [bytes, h]
  simp [List.utf8Encode]

/-- Whatever follows, a smaller character has smaller bytes: either it has fewer of them, which the
first one tells, or they are the digits to base 64. -/
theorem encodeChar_append_lt {a b : Char} (h : a < b) (s t : List UInt8) :
    String.utf8EncodeChar a ++ s < String.utf8EncodeChar b ++ t := by
  have hlt : a.val.toNat < b.val.toNat := h
  have hb : b.val.toNat < 0x110000 := by have := b.valid; omega
  rw [String.utf8EncodeChar.eq_1, String.utf8EncodeChar.eq_1]
  generalize a.val.toNat = v at hlt
  generalize b.val.toNat = w at hlt hb
  have hdigits (n : ℕ) : n / 4096 = n / 64 / 64 ∧ n / 262144 = n / 64 / 64 / 64 := by omega
  have hnext (n : ℕ) : (n % 64 + 128) % 2 ^ 8 = n % 64 + 128 := by omega
  have hfirst (n : ℕ) : (n % 8 + 240) % 2 ^ 8 = n % 8 + 240 := by omega
  rw [(hdigits v).1, (hdigits v).2, (hdigits w).1, (hdigits w).2]
  split_ifs <;> simp only [List.cons_append, List.nil_append, List.cons_lt_cons_iff,
    UInt8.lt_iff_toNat_lt, UInt8.toNat_ofNat', ← UInt8.toNat_inj, hnext, hfirst] <;> omega

/-- A text before another one has smaller bytes. -/
theorem bytes_lt_bytes {a b : String} (h : a < b) : bytes a < bytes b := by
  rw [String.lt_iff_toList_lt] at h
  rw [bytes_eq, bytes_eq]
  generalize a.toList = as at h
  generalize b.toList = bs at h
  induction h with
  | @nil c cs =>
    have hne : String.utf8EncodeChar c ≠ [] := String.utf8EncodeChar_ne_nil
    obtain ⟨byte, bytes, hcons⟩ := List.exists_cons_of_ne_nil hne
    rw [List.flatMap_cons, hcons]
    exact .nil
  | @cons c cs ds _ ih => exact List.Lex.append_left _ ih (String.utf8EncodeChar c)
  | rel h => exact encodeChar_append_lt h _ _

/-! ### Bytes that are shown -/

theorem shown_append {first : List UInt8} {passed : ℕ} (h : first.length = passed)
    (bytes : List UInt8) : shown passed (first ++ bytes) = shown 0 bytes := by
  induction first generalizing passed with
  | nil => rw [← h, List.length_nil, List.nil_append]
  | cons byte first ih =>
    rw [← h, List.length_cons, List.cons_append, shown]
    exact ih rfl

theorem shown_encodeChar_append (c : Char) (bytes : List UInt8) :
    shown 0 (String.utf8EncodeChar c ++ bytes) = c :: shown 0 bytes := by
  obtain ⟨first, rest, hcons⟩ := List.exists_cons_of_ne_nil (String.utf8EncodeChar_ne_nil (c := c))
  have hlength : rest.length + 1 = c.utf8Size := by
    rw [← String.length_utf8EncodeChar, hcons, List.length_cons]
  have hsize : c.utf8Size ≤ 4 := c.utf8Size_le_four
  have htake : first :: (rest ++ bytes).take 3 =
      String.utf8EncodeChar c ++ bytes.take (3 - rest.length) := by
    rw [hcons, List.cons_append, List.take_append, List.take_of_length_le (by omega)]
  rw [hcons, List.cons_append, shown, htake, List.toByteArray_append,
    ByteArray.utf8DecodeChar?_utf8EncodeChar_append]
  exact congrArg (c :: ·) (shown_append (by omega) bytes)

/-- The bytes of a text are shown as the text. -/
@[simp]
theorem ofBytes_bytes (text : String) : ofBytes (bytes text) = text := by
  have hshown (chars : List Char) : shown 0 (chars.flatMap String.utf8EncodeChar) = chars := by
    induction chars with
    | nil => rfl
    | cons c chars ih => rw [List.flatMap_cons, shown_encodeChar_append, ih]
  rw [ofBytes, bytes_eq, hshown, String.ofList_toList]

end ReturnPaths.Text
