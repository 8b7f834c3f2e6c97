/-! # Characters from bytes

Bytes are read as UTF-8 into symbols: characters, and runs of bytes that begin no character. A run
is as long as it could still have become one. An ASCII byte is a symbol of its own wherever it stands,
so text can be cut at ASCII characters before or after it is read.
-/

namespace Spreadsheet.Text

inductive Symbol where
  | char (c : Char)
  | illFormed (bytes : List UInt8)
  deriving DecidableEq

namespace Symbol

def char? : Symbol → Option Char
  | char c => some c
  | illFormed _ => none

/-- The character, or the replacement character for what is none. -/
def replaced : Symbol → Char
  | char c => c
  | illFormed _ => '\ufffd'

end Symbol

namespace Utf8

def front? (bytes : List UInt8) : Option Char := (bytes.take 4).toByteArray.utf8DecodeChar? 0

/-- How many bytes follow the first byte of a character, and between which bounds the next one
lies. -/
def following (first : UInt8) : Nat × UInt8 × UInt8 :=
  if first < 0xC2 then (0, 0, 0)
  else if first < 0xE0 then (1, 0x80, 0xBF)
  else if first = 0xE0 then (2, 0xA0, 0xBF)
  else if first = 0xED then (2, 0x80, 0x9F)
  else if first < 0xF0 then (2, 0x80, 0xBF)
  else if first = 0xF0 then (3, 0x90, 0xBF)
  else if first < 0xF4 then (3, 0x80, 0xBF)
  else if first = 0xF4 then (3, 0x80, 0x8F)
  else (0, 0, 0)

/-- How many of the bytes behind the first one belong to it, in bytes that begin no character. -/
def illFormedTail (first : UInt8) (rest : List UInt8) : Nat :=
  let (count, low, high) := following first
  match count, rest with
  | 0, _ => 0
  | _, [] => 0
  | count + 1, b :: bs =>
    if low ≤ b ∧ b ≤ high then
      1 + ((bs.take count).takeWhile fun b => decide (0x80 ≤ b) && decide (b ≤ 0xBF)).length
    else 0

def symbols (bytes : List UInt8) : List Symbol :=
  match bytes with
  | [] => []
  | b :: bs =>
    match front? (b :: bs) with
    | some c => .char c :: symbols (bs.drop (c.utf8Size - 1))
    | none =>
      let n := illFormedTail b bs
      .illFormed (b :: bs.take n) :: symbols (bs.drop n)
termination_by bytes.length
decreasing_by
  · simp only [List.length_drop, List.length_cons]; omega
  · simp only [List.length_drop, List.length_cons]; omega

end Utf8

def characters? (s : List Symbol) : Option (List Char) := s.mapM Symbol.char?

end Spreadsheet.Text
