import Spreadsheet.Pattern.NamedSet
import Spreadsheet.Pattern.Property
import Spreadsheet.Pattern.Regex
import Spreadsheet.Text.Digits

/-! # Escapes

What a backslash and the characters behind it stand for.
-/

namespace Spreadsheet.Pattern

open Text (CharSet)

/-- A character, a set of characters or a condition on a place. -/
inductive Symbol where
  | char (c : Char)
  | set (s : CharSet)
  | assertion (a : Assertion)
  deriving DecidableEq

/-- The characters that a backslash makes literal: the ASCII ones but letters, digits and angle
brackets. -/
def isEscapable (c : Char) : Bool :=
  decide (c.toNat < 128) && !c.isAlphanum && c != '<' && c != '>'

def escapedChar? (c : Char) : Option Char :=
  match c with
  | 'n' => some '\n'
  | 't' => some '\t'
  | 'r' => some '\r'
  | 'f' => some '\x0c'
  | 'v' => some '\x0b'
  | 'a' => some '\x07'
  | c => if isEscapable c then some c else none

def escapedAssertion? (c : Char) : Option Assertion :=
  match c with
  | 'A' => some .textStart
  | 'z' => some .textEnd
  | 'B' => some .notWordBoundary
  | '<' => some .wordStart
  | '>' => some .wordEnd
  | _ => none

def codeDigits? (flags : Flags) : Nat → List Char → Option (List Char × List Char)
  | 0, cs => some ([], cs)
  | n + 1, cs => match flags.skip cs with
    | [] => none
    | c :: cs => do
      let (digits, rest) ← codeDigits? flags n cs
      pure (c :: digits, rest)

/-- A character by its code, in braces or in as many digits as are given. Two digits are those of a
byte where bytes are meant. -/
def code? (flags : Flags) (count : Nat) (cs : List Char) : Except Error (Symbol × List Char) := do
  let (found, isByte) := match flags.skip cs with
    | '\x7b' :: cs => (flags.braced? false cs, false)
    | cs => (codeDigits? flags count cs, count == 2)
  match found with
  | none => throw .badEscape
  | some (digits, rest) => match Text.coded? digits with
    | none => throw .badEscape
    | some c => do
      if isByte then let _ ← flags.single? c
      pure (.char c, rest)

def property? (flags : Flags) (negated : Bool) (cs : List Char) :
    Except Error (Symbol × List Char) := do
  let found := match flags.skip cs with
    | [] => none
    | '\x7b' :: cs => do
      let (text, rest) ← flags.braced? false cs
      pure (← propertySet? text, rest)
    | c :: cs => do pure ((false, ← namedSet? [c]), cs)
  match found, flags .unicode with
  | some ((other, s), rest), true =>
    pure (.set (← flags.complIf? (negated != other) (flags.fold s)), rest)
  | _, _ => throw .unknownProperty

def isBoundaryChar (c : Char) : Bool := c.isAlpha || c == '-'

def boundary? : String → Option Assertion
  | "start" => some .wordStart
  | "end" => some .wordEnd
  | "start-half" => some .beforeWord
  | "end-half" => some .afterWord
  | _ => none

/-- A word boundary, of some kind if its name follows in braces. What else stands in braces is a
count. -/
def wordBoundary? (flags : Flags) (cs : List Char) : Except Error (Symbol × List Char) :=
  match cs with
  | '\x7b' :: inner => match flags.braced? false inner with
    | none => throw .badEscape
    | some (name, rest) =>
      if name.head?.any isBoundaryChar then match boundary? (String.ofList name) with
        | some a => pure (.assertion a, rest)
        | none => throw .badEscape
      else pure (.assertion .wordBoundary, cs)
  | cs => pure (.assertion .wordBoundary, cs)

def escape? (flags : Flags) : List Char → Except Error (Symbol × List Char)
  | [] => throw .badEscape
  | 'x' :: cs => code? flags 2 cs
  | 'u' :: cs => code? flags 4 cs
  | 'U' :: cs => code? flags 8 cs
  | 'p' :: cs => property? flags false cs
  | 'P' :: cs => property? flags true cs
  | 'b' :: cs => wordBoundary? flags cs
  | c :: cs => match letterSet? flags c, escapedChar? c, escapedAssertion? c with
    | some s, _, _ => do pure (.set (← flags.complIf? c.isUpper s), cs)
    | none, some d, _ => pure (.char d, cs)
    | none, none, some a => pure (.assertion a, cs)
    | none, none, none => throw .badEscape

end Spreadsheet.Pattern
