import Spreadsheet.Text.CharSet

/-! # Encoded ranges

The UTF-8 encodings of a range of characters, as sequences of byte ranges: a sequence stands for all
ways to choose one byte from each of its ranges. Surrogates have no encoding and are left out.
-/

namespace Spreadsheet.Text.Utf8

abbrev ByteRange := Nat × Nat

/-- The numbers from `low` to `high` by their digits to base 64, of which `count` follow the first
one, in as few sequences of digit ranges as can be. -/
def digitRanges : Nat → Nat → Nat → List (List (Nat × Nat))
  | 0, low, high => [[(low, high)]]
  | count + 1, low, high =>
    let unit := 1 <<< (6 * (count + 1))
    let first := low / unit
    let last := high / unit
    let lowRest := low % unit
    let highRest := high % unit
    if first = last then (digitRanges count lowRest highRest).map ((first, first) :: ·)
    else
      let front := if lowRest = 0 then []
        else (digitRanges count lowRest (unit - 1)).map ((first, first) :: ·)
      let back := if highRest = unit - 1 then []
        else (digitRanges count 0 highRest).map ((last, last) :: ·)
      let first := if lowRest = 0 then first else first + 1
      let next := if highRest = unit - 1 then last + 1 else last
      let middle := if first < next then [(first, next - 1) :: List.replicate (count + 1) (0, 63)]
        else []
      front ++ middle ++ back

/-- The characters whose encodings have one length: their first and last code, how many bytes follow
the first one, and what is added to the first digit. -/
def blocks : List (Nat × Nat × Nat × Nat) :=
  [(0, 0x7F, 0, 0), (0x80, 0x7FF, 1, 0xC0), (0x800, 0xD7FF, 2, 0xE0), (0xE000, 0xFFFF, 2, 0xE0),
   (0x10000, 0x10FFFF, 3, 0xF0)]

def bytesOfDigits (lead : Nat) : List (Nat × Nat) → List ByteRange
  | [] => []
  | (low, high) :: rest =>
    (low + lead, high + lead) :: rest.map fun (low, high) => (low + 0x80, high + 0x80)

def sequencesOfRange (low high : Nat) : List (List ByteRange) :=
  blocks.flatMap fun (first, last, count, lead) =>
    let low := max low first
    let high := min high last
    if low ≤ high then (digitRanges count low high).map (bytesOfDigits lead) else []

/-- The encodings of the characters in a set, ascending. -/
def sequences (s : CharSet) : List (List ByteRange) :=
  s.ranges.flatMap fun (low, high) => sequencesOfRange low high

end Spreadsheet.Text.Utf8
