import Spreadsheet.Text.CharSet

/-! # Regular expressions

Regular expressions with assertions about their surroundings. The functions that build them keep them
simple: characters in a row are one literal, sequences and alternatives are lists without lists in
them, and what can be said by a set of characters is one.
-/

namespace Spreadsheet.Pattern

open Text (CharSet)

/-- A condition on a place in a text. Where `returns` is set, a carriage return ends a line too. -/
inductive Assertion where
  | textStart
  | textEnd
  | lineStart (returns : Bool)
  | lineEnd (returns : Bool)
  | wordBoundary
  | notWordBoundary
  | wordStart
  | wordEnd
  | beforeWord
  | afterWord
  deriving DecidableEq

inductive Regex where
  | empty
  | literal (cs : List Char)
  | set (s : CharSet)
  | assertion (a : Assertion)
  | group (index : Nat) (r : Regex)
  | seq (r s : Regex)
  | alt (r s : Regex)
  | repeated (r : Regex) (least : Nat) (most : Option Nat)
  deriving DecidableEq

namespace Regex

/-- The least number of characters in a match. Nothing is said of what never matches. -/
def minLength : Regex → Option Nat
  | empty => some 0
  | literal cs => some cs.length
  | set s => if s.isEmpty then none else some 1
  | assertion _ => some 0
  | group _ r => r.minLength
  | seq r s => do pure ((← r.minLength) + (← s.minLength))
  | alt r s => do pure (min (← r.minLength) (← s.minLength))
  | repeated r least _ => do pure ((← r.minLength) * least)

/-- No match is longer than the empty text. It does not hold of a set, even of an empty one. -/
def onlyEmpty : Regex → Bool
  | empty => true
  | literal cs => cs.isEmpty
  | set _ => false
  | assertion _ => true
  | group _ r => r.onlyEmpty
  | seq r s => r.onlyEmpty && s.onlyEmpty
  | alt r s => r.onlyEmpty && s.onlyEmpty
  | repeated r _ most => r.onlyEmpty && most.isSome

/-! ## Building -/

def ofSet (s : CharSet) : Regex :=
  match s.onlyMember? with
  | some c => literal [c]
  | none => set s

def prepend (cs : List Char) : Regex → Regex
  | empty => literal cs
  | literal ds => literal (cs ++ ds)
  | seq (literal ds) s => seq (literal (cs ++ ds)) s
  | s => seq (literal cs) s

def append : Regex → Regex → Regex
  | empty, t => t
  | seq r s, t => r.append (s.append t)
  | literal cs, t => prepend cs t
  | r, empty => r
  | r, t => seq r t

def sequence (rs : List Regex) : Regex := rs.foldr append empty

def parts : Regex → List Regex
  | seq r s => r :: s.parts
  | r => [r]

/-- The parts of a sequence of two or more. -/
def manyParts : Regex → List Regex
  | seq r s => r :: s.parts
  | _ => []

def alternatives : Regex → List Regex
  | alt r s => r.alternatives ++ s.alternatives
  | r => [r]

def character? : Regex → Option CharSet
  | literal [c] => some (.single c.toNat)
  | _ => none

def set? : Regex → Option CharSet
  | set s => some s
  | _ => none

def chain : List Regex → Regex
  | [] => set .empty
  | [r] => r
  | r :: rs => alt r (chain rs)

/-- The alternatives as a set if they are characters or if they are sets, else as they are. -/
def merge (rs : List Regex) : Regex :=
  let rs := rs.flatMap alternatives
  match rs.mapM character? <|> rs.mapM set? with
  | some sets => ofSet (.unions sets)
  | none => chain rs

def shared : List Regex → List Regex → List Regex
  | r :: rs, s :: ss => if r = s then r :: shared rs ss else []
  | _, _ => []

/-- The parts with which all of the sequences begin. -/
def sharedParts : List Regex → List Regex
  | [] => []
  | r :: rs => rs.foldl (fun parts s => shared parts s.manyParts) r.manyParts

/-- One of several expressions. Parts with which all sequences begin are written once. -/
def choice (rs : List Regex) : Regex :=
  match rs.flatMap alternatives with
  | [] => set .empty
  | [r] => r
  | rs => match sharedParts rs with
    | [] => merge rs
    | parts => sequence (parts ++ [merge (rs.map fun r => sequence (r.parts.drop parts.length))])

/-- From `least` to `most` times an expression, without an upper bound if `most` is missing. What
only matches the empty text is not repeated. -/
def times (r : Regex) (least : Nat) (most : Option Nat) : Regex :=
  let (least, most) := if r.onlyEmpty then (min least 1, some (min (most.getD 1) 1))
    else (least, most)
  if most = some 0 then empty
  else if least = 1 ∧ most = some 1 then r
  else repeated r least most

end Regex

end Spreadsheet.Pattern
