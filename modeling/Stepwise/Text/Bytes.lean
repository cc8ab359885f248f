import Stepwise.Text.Basic

/-!
# Bytes of a text

A text in UTF-8.

## Main results

* `bytes_append`: a text may be encoded in parts.
* `length_bytes`: the number of bytes is the length in bytes.
-/

namespace Stepwise.Text

/-- The bytes of a text. -/
def bytes (t : List Char) : List UInt8 := t.flatMap String.utf8EncodeChar

theorem bytes_append (s t : List Char) : bytes (s ++ t) = bytes s ++ bytes t := by
  simp [bytes]

theorem length_bytes (t : List Char) : (bytes t).length = byteLength t := by
  induction t with
  | nil => rfl
  | cons c rest ih =>
      simp only [bytes, List.flatMap_cons, List.length_append] at ih ⊢
      simp [ih, byteLength, String.length_utf8EncodeChar]

end Stepwise.Text
