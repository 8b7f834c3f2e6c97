import Spreadsheet.Pattern.Flags
import Spreadsheet.Text.Category

/-! # Sets with a letter or a name

The sets that an escape with one letter stands for, and those with a name between `[:` and `:]` in a
class.
-/

namespace Spreadsheet.Pattern

open Text (CharSet Category)

/-- Digits, blanks and the characters of words, for the small letters; the capitals stand for all
others. -/
def letterSet? (flags : Flags) (c : Char) : Option CharSet :=
  match c.toLower, flags .unicode with
  | 'd', true => some (Category.set .decimalNumber)
  | 'd', false => some .asciiDigit
  | 's', true => some ⟨Text.blankRanges⟩
  | 's', false => some ⟨[(0x09, 0x0D), (0x20, 0x20)]⟩
  | 'w', true => some Text.wordSet
  | 'w', false => some .asciiWord
  | _, _ => none

def asciiSet? : String → Option CharSet
  | "alnum" => some ⟨[(0x30, 0x39), (0x41, 0x5A), (0x61, 0x7A)]⟩
  | "alpha" => some ⟨[(0x41, 0x5A), (0x61, 0x7A)]⟩
  | "ascii" => some ⟨[(0x00, 0x7F)]⟩
  | "blank" => some ⟨[(0x09, 0x09), (0x20, 0x20)]⟩
  | "cntrl" => some ⟨[(0x00, 0x1F), (0x7F, 0x7F)]⟩
  | "digit" => some .asciiDigit
  | "graph" => some ⟨[(0x21, 0x7E)]⟩
  | "lower" => some .asciiLower
  | "print" => some ⟨[(0x20, 0x7E)]⟩
  | "punct" => some ⟨[(0x21, 0x2F), (0x3A, 0x40), (0x5B, 0x60), (0x7B, 0x7E)]⟩
  | "space" => some ⟨[(0x09, 0x0D), (0x20, 0x20)]⟩
  | "upper" => some .asciiUpper
  | "word" => some .asciiWord
  | "xdigit" => some ⟨[(0x30, 0x39), (0x41, 0x46), (0x61, 0x66)]⟩
  | _ => none

/-- A set with a name: whether it is negated, and the set. -/
structure NamedSet where
  negated : Bool
  set : CharSet
  deriving DecidableEq

def NamedSet.read? : List Char → Option (NamedSet × List Char)
  | ':' :: cs =>
    let (negated, cs) := match cs with
      | '^' :: cs => (true, cs)
      | cs => (false, cs)
    let name := cs.takeWhile (· != ':')
    match cs.dropWhile (· != ':'), asciiSet? (String.ofList name) with
    | ':' :: ']' :: rest, some s => some (⟨negated, s⟩, rest)
    | _, _ => none
  | _ => none

def NamedSet.toSet (flags : Flags) (n : NamedSet) : Except Error CharSet :=
  flags.complIf? n.negated (flags.fold n.set)

end Spreadsheet.Pattern
