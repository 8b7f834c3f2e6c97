import Spreadsheet.Pattern.Regex
import Spreadsheet.Text.Category

/-! # Matches

What an expression matches in a text, as a relation between its places: for each place, from the
front of the text on, the lengths of the matches that begin there. A search asks from which places a
match leads to some others; only what is repeated needs its relation.
-/

namespace Spreadsheet.Pattern

/-- A place in a text: the character before it, and the text behind it. -/
structure Place where
  before : Option Char
  behind : List Char

namespace Place

def after (p : Place) : Option Char := p.behind.head?

def all (before : Option Char) : List Char → List Place
  | [] => [⟨before, []⟩]
  | c :: cs => ⟨before, c :: cs⟩ :: all (some c) cs

end Place

def isWord (c : Option Char) : Bool := c.any Text.wordSet.contains

/-- A line ends between a carriage return and no line feed, where the former ends lines. -/
def Assertion.holds (p : Place) : Assertion → Bool
  | textStart => p.before.isNone
  | textEnd => p.after.isNone
  | lineStart returns =>
    p.before.all (· == '\n') || (returns && p.before == some '\r' && p.after != some '\n')
  | lineEnd returns =>
    if returns then
      p.after.all (· == '\r') || (p.after == some '\n' && p.before != some '\r')
    else p.after.all (· == '\n')
  | wordBoundary => isWord p.before != isWord p.after
  | notWordBoundary => isWord p.before == isWord p.after
  | wordStart => !isWord p.before && isWord p.after
  | wordEnd => isWord p.before && !isWord p.after
  | beforeWord => !isWord p.before
  | afterWord => !isWord p.after

/-- `n` times a step, where a step without effect is not taken again. -/
def iterate {α : Type} [DecidableEq α] (step : α → α) : Nat → α → α
  | 0, a => a
  | n + 1, a =>
    let b := step a
    if b = a then a else iterate step n b

/-- The lengths of the matches that begin at each place of a text. Length `n` is the bit of value
two to the power `n`. -/
abbrev Spans := List Nat

namespace Spans

/-- From a place on matches of the given lengths, and behind each of them one more match, where
`next` has those from the same place on. -/
def extend (lengths : Nat) : Spans → Nat
  | [] => 0
  | found :: next =>
    if lengths = 0 then 0
    else (if lengths % 2 = 1 then found else 0) ||| 2 * extend (lengths / 2) next

def compose : Spans → Spans → Spans
  | lengths :: rest, found :: next => extend lengths (found :: next) :: compose rest next
  | _, _ => []

def union (a b : Spans) : Spans := List.zipWith (· ||| ·) a b

def unit (a : Spans) : Spans := a.map fun _ => 1

/-- Any number of matches, one behind the other. Empty ones among them add nothing. -/
def star : Spans → Spans
  | [] => []
  | lengths :: rest =>
    let next := star rest
    (1 ||| 2 * extend (lengths / 2) next) :: next

def power (a : Spans) (n : Nat) : Spans := iterate a.compose n a.unit

def upTo (a : Spans) (n : Nat) : Spans := iterate (fun b => a.unit.union (a.compose b)) n a.unit

/-- A match of one of the lengths leads to a marked place, where `marks` are those of the same place
on. -/
def reaches (lengths : Nat) : List Bool → Bool
  | [] => false
  | mark :: next =>
    if lengths = 0 then false else (lengths % 2 = 1 && mark) || reaches (lengths / 2) next

/-- The places from which a match leads to a marked one. -/
def leads : Spans → List Bool → List Bool
  | lengths :: rest, mark :: next => reaches lengths (mark :: next) :: leads rest next
  | _, _ => []

def leadsStar : Spans → List Bool → List Bool
  | lengths :: rest, mark :: next =>
    let found := leadsStar rest next
    (mark || reaches (lengths / 2) found) :: found
  | _, _ => []

end Spans

def either (a b : List Bool) : List Bool := List.zipWith (· || ·) a b

namespace Regex

/-- The matches of an expression at each of the places. -/
def spans (places : List Place) : Regex → Spans
  | empty => places.map fun _ => 1
  | literal cs => places.map fun p => if cs.isPrefixOf p.behind then 1 <<< cs.length else 0
  | set s => places.map fun p => if p.after.any s.contains then 2 else 0
  | assertion a => places.map fun p => if a.holds p then 1 else 0
  | group _ r => r.spans places
  | seq r s => (r.spans places).compose (s.spans places)
  | alt r s => (r.spans places).union (s.spans places)
  | repeated r least most =>
    let a := r.spans places
    (a.power least).compose (match most with
      | none => a.star
      | some most => a.upTo (most - least))

def leads (places : List Place) : Regex → List Bool → List Bool
  | seq r s, marks => r.leads places (s.leads places marks)
  | alt r s, marks => either (r.leads places marks) (s.leads places marks)
  | group _ r, marks => r.leads places marks
  | repeated r least most, marks =>
    let a := r.spans places
    let optional := match most with
      | none => a.leadsStar marks
      | some most => iterate (fun found => either marks (a.leads found)) (most - least) marks
    iterate a.leads least optional
  | r, marks => (r.spans places).leads marks

/-- The expression matches some part of the text. -/
def search (r : Regex) (text : List Char) : Bool :=
  let places := Place.all none text
  (r.leads places (places.map fun _ => true)).any id

end Regex

end Spreadsheet.Pattern
