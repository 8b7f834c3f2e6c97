import Spreadsheet.Text.Digits
import Spreadsheet.Text.Utf8

/-! # The configuration file

A configuration holds at most one entry `pattern = "…"` beside blank lines and comments. A string
stands in double quotes, with escapes, or in single quotes, as it is; between three quotes it can run
over many lines.
-/

namespace Spreadsheet.Command

structure Config where
  pattern : Option String
  deriving DecidableEq

namespace Config

def empty : Config := ⟨none⟩

/-- The longest configuration that is read, in bytes. -/
def maxSize : Nat := 1048576

def isBlank (c : Char) : Bool := c == ' ' || c == '\t'

def isPlain (c : Char) : Bool := c == '\t' || (decide (32 ≤ c.toNat) && c.toNat != 127)

def skipBlanks (cs : List Char) : List Char := cs.dropWhile isBlank

/-- What follows the end of the line, if only blanks and a comment stand before it. -/
def endOfLine? (cs : List Char) : Option (List Char) :=
  let cs := match skipBlanks cs with
    | '#' :: cs => cs.dropWhile isPlain
    | cs => cs
  match cs with
  | [] => some []
  | '\n' :: cs => some cs
  | _ => none

def escaped? : Char → Option Char
  | 'b' => some '\x08'
  | 't' => some '\t'
  | 'n' => some '\n'
  | 'f' => some '\x0c'
  | 'r' => some '\r'
  | '"' => some '"'
  | '\\' => some '\\'
  | _ => none

/-- How far a string can go: to the end of its line, or over many lines. -/
inductive Extent where
  | line
  | block
  deriving DecidableEq

def isLineEnd (cs : List Char) : Bool := (skipBlanks cs).head? == some '\n'

/-- What the quotes behind the three that close a block add to its text, and what follows. At most
two of them belong to it. -/
def closeBlock (quote : Char) (cs : List Char) : List Char × List Char :=
  let quotes := (cs.take 2).takeWhile (· == quote)
  (quotes, cs.drop quotes.length)

def keep (c : Char) : Option (List Char × List Char) → Option (List Char × List Char) :=
  Option.map fun (text, rest) => (c :: text, rest)

/-- A string behind its opening double quotes, and what follows the closing ones. In a block a
backslash at the end of a line takes away the blanks and line ends behind it; while that goes on the
string is `folding`. -/
def doubleQuoted? (extent : Extent) (folding : Bool) :
    List Char → Option (List Char × List Char)
  | [] => none
  | c :: cs =>
    if folding && (isBlank c || c == '\n') then doubleQuoted? extent true cs
    else match c, extent with
    | '"', .line => some ([], cs)
    | '"', .block => match cs with
      | '"' :: '"' :: rest => some (closeBlock '"' rest)
      | _ => keep '"' (doubleQuoted? extent false cs)
    | '\n', .block => keep '\n' (doubleQuoted? extent false cs)
    | '\\', _ => match cs with
      | 'u' :: a :: b :: c :: d :: rest => do
        keep (← Text.coded? [a, b, c, d]) (doubleQuoted? extent false rest)
      | 'U' :: a :: b :: c :: d :: e :: f :: g :: h :: rest => do
        keep (← Text.coded? [a, b, c, d, e, f, g, h]) (doubleQuoted? extent false rest)
      | [] => none
      | c :: rest =>
        if extent = .block ∧ isLineEnd (c :: rest) then doubleQuoted? extent true rest
        else do keep (← escaped? c) (doubleQuoted? extent false rest)
    | c, _ => if isPlain c then keep c (doubleQuoted? extent false cs) else none

def singleQuoted? (extent : Extent) : List Char → Option (List Char × List Char)
  | [] => none
  | c :: cs => match c, extent with
    | '\'', .line => some ([], cs)
    | '\'', .block => match cs with
      | '\'' :: '\'' :: rest => some (closeBlock '\'' rest)
      | _ => keep '\'' (singleQuoted? extent cs)
    | '\n', .block => keep '\n' (singleQuoted? extent cs)
    | c, _ => if isPlain c then keep c (singleQuoted? extent cs) else none

def lineString? : List Char → Option (List Char × List Char)
  | '"' :: cs => doubleQuoted? .line false cs
  | '\'' :: cs => singleQuoted? .line cs
  | _ => none

/-- A block starts behind the end of the line that it is opened in, if nothing else stands there. -/
def dropLineEnd : List Char → List Char
  | '\n' :: cs => cs
  | cs => cs

def string? : List Char → Option (List Char × List Char)
  | '"' :: '"' :: '"' :: cs => doubleQuoted? .block false (dropLineEnd cs)
  | '\'' :: '\'' :: '\'' :: cs => singleQuoted? .block (dropLineEnd cs)
  | cs => lineString? cs

def isKeyChar (c : Char) : Bool := c.isAlphanum || c == '_' || c == '-'

def key? (cs : List Char) : Option (List Char × List Char) :=
  match cs.takeWhile isKeyChar with
  | [] => lineString? cs
  | key => some (key, cs.dropWhile isKeyChar)

def patternEntry? (cs : List Char) : Option (List Char × List Char) := do
  let (key, rest) ← key? cs
  if key = ['p', 'a', 't', 't', 'e', 'r', 'n'] then
    match skipBlanks rest with
    | '=' :: rest => do
      let (value, rest) ← string? (skipBlanks rest)
      let rest ← endOfLine? rest
      pure (value, rest)
    | _ => none
  else none

/-- Read on. Each turn takes a line or more, and there are no more lines than characters. -/
def read : Nat → Config → List Char → Option Config
  | 0, found, _ => some found
  | fuel + 1, found, cs =>
    match skipBlanks cs with
    | [] => some found
    | c :: cs =>
      if c = '#' ∨ c = '\n' then do
        let rest ← endOfLine? (c :: cs)
        read fuel found rest
      else do
        let (value, rest) ← patternEntry? (c :: cs)
        if found.pattern.isSome then none
        else read fuel ⟨some (String.ofList value)⟩ rest

def lineEnds : List Char → List Char
  | '\r' :: '\n' :: cs => '\n' :: lineEnds cs
  | c :: cs => c :: lineEnds cs
  | [] => []

/-- The configuration that a text spells. A byte order mark in front of it is dropped. -/
def parse? (text : String) : Option Config :=
  let cs := match text.toList with
    | '\ufeff' :: cs => lineEnds cs
    | cs => lineEnds cs
  read (cs.length + 1) empty cs

end Config

end Spreadsheet.Command
