import Mathlib
import Spreadsheet.Text.Utf8

/-! # Bytes of characters

The bytes of encoded characters are read as these characters, none of them ill-formed.
-/

namespace Spreadsheet.Text

variable {c : Char} {bs : List UInt8}

namespace Utf8

theorem front?_encode_append (c : Char) (bs : List UInt8) :
    front? (String.utf8EncodeChar c ++ bs) = some c := by
  have hsize : (String.utf8EncodeChar c).length ≤ 4 := by
    rw [String.length_utf8EncodeChar]
    exact c.utf8Size_le_four
  rw [front?, List.take_append, List.take_of_length_le hsize, List.toByteArray_append]
  exact ByteArray.utf8DecodeChar?_utf8EncodeChar_append

theorem symbols_encode_append (c : Char) (bs : List UInt8) :
    symbols (String.utf8EncodeChar c ++ bs) = .char c :: symbols bs := by
  have hlen := String.length_utf8EncodeChar c
  have hfront := front?_encode_append c bs
  cases henc : String.utf8EncodeChar c with
  | nil => exact absurd henc String.utf8EncodeChar_ne_nil
  | cons b tail =>
    rw [henc] at hlen hfront
    rw [List.length_cons] at hlen
    rw [List.cons_append] at hfront ⊢
    rw [symbols, hfront]
    simp only [← hlen, Nat.add_sub_cancel, List.drop_left]

theorem symbols_encode (cs : List Char) :
    symbols (cs.flatMap String.utf8EncodeChar) = cs.map Symbol.char := by
  induction cs with
  | nil =>
    rw [List.flatMap_nil, symbols]
    rfl
  | cons c cs ih => rw [List.flatMap_cons, symbols_encode_append, ih, List.map_cons]

/-- The bytes of a text are read as its characters. -/
theorem symbols_toUTF8 (s : String) : symbols s.toUTF8.data.toList = s.toList.map Symbol.char := by
  rw [String.toUTF8_eq_toByteArray, ← String.utf8Encode_toList, List.utf8Encode,
    List.toList_data_toByteArray, symbols_encode]

end Utf8

theorem characters?_map_char (cs : List Char) : characters? (cs.map Symbol.char) = some cs := by
  induction cs with
  | nil => rfl
  | cons c cs ih =>
    rw [characters?] at ih ⊢
    simp [List.mapM_cons, ih, Symbol.char?]

end Spreadsheet.Text
