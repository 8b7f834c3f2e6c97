/-! # Sets of characters

Sets of code points as lists of ranges, ascending and apart from each other, so that equal sets made
by the operations below have equal lists.
-/

namespace Spreadsheet.Text

/-- The ranges of a set of code points, both ends included. -/
structure CharSet where
  ranges : List (Nat × Nat)
  deriving DecidableEq

namespace CharSet

def last : Nat := 0x10FFFF

def empty : CharSet := ⟨[]⟩

def single (n : Nat) : CharSet := ⟨[(n, n)]⟩

def isEmpty (s : CharSet) : Bool := s.ranges.isEmpty

/-- A code point lies in one of the ranges. Where they ascend, none behind one that starts later can
hold it. -/
def covers (n : Nat) : List (Nat × Nat) → Bool
  | [] => false
  | (low, high) :: rest => decide (low ≤ n) && (decide (n ≤ high) || covers n rest)

def contains (s : CharSet) (c : Char) : Bool := covers c.toNat s.ranges

/-- A range before others, which do not start earlier, joined with those that it touches. -/
def join (low high : Nat) : List (Nat × Nat) → List (Nat × Nat)
  | [] => [(low, high)]
  | (a, b) :: rest =>
    if a ≤ high + 1 then join low (max high b) rest else (low, high) :: join a b rest

/-- The set of all code points in some ranges, given in any order. -/
def ofRanges (ranges : List (Nat × Nat)) : CharSet :=
  match ranges.mergeSort fun a b => decide (a.1 ≤ b.1) with
  | [] => empty
  | (low, high) :: rest => ⟨join low high rest⟩

def unions (sets : List CharSet) : CharSet := ofRanges (sets.flatMap ranges)

def union (s t : CharSet) : CharSet := unions [s, t]

/-- The code points from `low` on that lie in none of the ranges. -/
def gaps (low : Nat) : List (Nat × Nat) → List (Nat × Nat)
  | [] => if low ≤ last then [(low, last)] else []
  | (a, b) :: rest => if low < a then (low, a - 1) :: gaps (b + 1) rest else gaps (b + 1) rest

def compl (s : CharSet) : CharSet := ⟨gaps 0 s.ranges⟩

def inter (s t : CharSet) : CharSet :=
  ⟨s.ranges.flatMap fun (a, b) => t.ranges.filterMap fun (c, d) =>
    if max a c ≤ min b d then some (max a c, min b d) else none⟩

def diff (s t : CharSet) : CharSet := s.inter t.compl

def symmDiff (s t : CharSet) : CharSet := (s.diff t).union (t.diff s)

def isAscii (s : CharSet) : Bool := s.ranges.all fun (_, high) => decide (high < 128)

/-- The character that is alone in the set. -/
def onlyMember? (s : CharSet) : Option Char :=
  match s.ranges with
  | [(low, high)] => if low = high ∧ low.isValidChar then some (Char.ofNat low) else none
  | _ => none

/-! ## ASCII classes -/

def asciiUpper : CharSet := ⟨[(0x41, 0x5A)]⟩

def asciiLower : CharSet := ⟨[(0x61, 0x7A)]⟩

def asciiDigit : CharSet := ⟨[(0x30, 0x39)]⟩

def asciiWord : CharSet := ⟨[(0x30, 0x39), (0x41, 0x5A), (0x5F, 0x5F), (0x61, 0x7A)]⟩

/-! ## Letter case -/

def foldedAscii (s : CharSet) : CharSet :=
  let lower := (s.inter asciiUpper).ranges.map fun (a, b) => (a + 32, b + 32)
  let upper := (s.inter asciiLower).ranges.map fun (a, b) => (a - 32, b - 32)
  if lower = [] ∧ upper = [] then s else ofRanges (s.ranges ++ lower ++ upper)

/-- The letters S and K, each with the one further character of which it is another case: the long s
and the Kelvin sign. -/
def sharedCases : List CharSet :=
  [⟨[(0x53, 0x53), (0x73, 0x73), (0x17F, 0x17F)]⟩,
   ⟨[(0x4B, 0x4B), (0x6B, 0x6B), (0x212A, 0x212A)]⟩]

/-- Add all cases of every ASCII letter, and its ASCII cases to a character that has some. Other
letters stay as they are. -/
def folded (s : CharSet) : CharSet :=
  match sharedCases.filter fun cases => !(s.inter cases).isEmpty with
  | [] => s.foldedAscii
  | cases => unions (s.foldedAscii :: cases)

end CharSet

end Spreadsheet.Text
