import Spreadsheet.Pattern.Automaton
import Spreadsheet.Pattern.Class

/-! # The text of regular expressions

A pattern is cut into items from left to right; groups are then closed on a stack. Flags hold from
where they stand to the end of their group.
-/

namespace Spreadsheet.Pattern

open Text (CharSet)

def maxDepth : Nat := 250

/-- An expression, and how deeply the text that spells it is nested. -/
structure Piece where
  regex : Regex
  depth : Nat

inductive GroupKind where
  | plain
  | named (name : List Char)
  /-- What it matches is not noted; flags change in it. -/
  | changing (change : FlagChange)

inductive Item where
  | piece (p : Piece)
  | openGroup (kind : GroupKind)
  | closeGroup
  | bar
  | repeated (least : Nat) (most : Option Nat)
  | flags (change : FlagChange)

/-! ## Groups and flags -/

/-- The flags up to `:` or `)`, and what follows them with this character. A hyphen stands before
those that are switched off. -/
def flags? (on : Bool) (change : FlagChange) :
    List Char → Except Error (FlagChange × List Char)
  | [] => throw .badFlags
  | c :: cs =>
    if c = ':' ∨ c = ')' then
      if on ∨ change.any (!·.2) then pure (change, c :: cs) else throw .badFlags
    else if c = '-' then if on then flags? false change cs else throw .badFlags
    else match Flag.ofChar? c with
      | none => throw .badFlags
      | some flag =>
        if change.any (·.1 = flag) then throw .badFlags
        else flags? on (change ++ [(flag, on)]) cs

def isNameStart (c : Char) : Bool :=
  c == '_' || (Text.letterSet.union (Text.Category.set .spacingMark)).contains c

def isNameRest (c : Char) : Bool :=
  isNameStart c || (Text.Category.union Text.Category.numbers).contains c || c == '.' || c == '[' ||
    c == ']'

def groupName? (cs : List Char) : Except Error (Item × List Char) :=
  let name := cs.takeWhile (· != '>')
  match cs.dropWhile (· != '>'), name with
  | _ :: rest, c :: ds =>
    if isNameStart c && ds.all isNameRest then pure (.openGroup (.named name), rest)
    else throw .badGroup
  | _, _ => throw .badGroup

def group? (flags : Flags) (cs : List Char) : Except Error (Item × List Char) :=
  match flags.skip cs with
  | '?' :: 'P' :: '<' :: cs => groupName? cs
  | '?' :: '<' :: cs => groupName? cs
  | '?' :: cs => do
    match ← flags? true [] cs with
    | (change, ':' :: rest) => pure (.openGroup (.changing change), rest)
    | ([], _) => throw .missingOperand
    | (change, _ :: rest) => pure (.flags change, rest)
    | (_, []) => throw .badFlags
  | cs => pure (.openGroup .plain, cs)

/-! ## Repetitions -/

def dropBlanks (cs : List Char) : List Char := cs.dropWhile Text.isBlank

def count? (cs : List Char) : Except Error (Nat × List Char) :=
  let cs := dropBlanks cs
  let digits := cs.takeWhile Char.isDigit
  let n := Nat.ofDigitChars 10 digits 0
  if digits = [] ∨ 4294967296 ≤ n then throw .badCount
  else pure (n, dropBlanks (cs.dropWhile Char.isDigit))

def counts? (cs : List Char) : Except Error Item := do
  let (least, rest) ← count? cs
  match rest with
  | [] => pure (.repeated least (some least))
  | [','] => pure (.repeated least none)
  | ',' :: rest => do
    let (most, rest) ← count? rest
    if rest = [] ∧ least ≤ most then pure (.repeated least (some most)) else throw .badCount
  | _ => throw .badCount

/-- A question mark behind a repetition only says which match is preferred. -/
def dropLazy : List Char → List Char
  | '?' :: cs => cs
  | cs => cs

/-! ## Items -/

def Item.ofRegex (r : Regex) : Item := .piece ⟨r, 0⟩

/-- A character stands for itself, in all cases if case is ignored. -/
def Item.ofChar (flags : Flags) (c : Char) : Item :=
  .ofRegex (if flags .ignoreCase then .ofSet (flags.fold (.single c.toNat)) else .literal [c])

def Item.ofSymbol (flags : Flags) : Symbol → Item
  | .char c => .ofChar flags c
  | .set s => .ofRegex (.ofSet s)
  | .assertion a => .ofRegex (.assertion a)

def lineBreaks (flags : Flags) : CharSet :=
  if flags .dotAll then .empty
  else if flags .returns then ⟨[(0x0A, 0x0A), (0x0D, 0x0D)]⟩
  else .single 0x0A

/-- The item that starts with `c`, and what follows it. The length of the text is fuel enough. -/
def item? (flags : Flags) (fuel : Nat) (c : Char) (cs : List Char) :
    Except Error (Item × List Char) :=
  match c with
  | '.' => do pure (.ofRegex (.ofSet (← flags.compl? (lineBreaks flags))), cs)
  | '^' => pure (.ofRegex (.assertion
      (if flags .multiLine then .lineStart (flags .returns) else .textStart)), cs)
  | '$' => pure (.ofRegex (.assertion
      (if flags .multiLine then .lineEnd (flags .returns) else .textEnd)), cs)
  | '|' => pure (.bar, cs)
  | ')' => pure (.closeGroup, cs)
  | '(' => group? flags cs
  | '*' => pure (.repeated 0 none, dropLazy cs)
  | '+' => pure (.repeated 1 none, dropLazy cs)
  | '?' => pure (.repeated 0 (some 1), dropLazy cs)
  | '\x7b' => match flags.braced? false cs with
    | none => throw .badCount
    | some (counts, rest) => do pure (← counts? counts, dropLazy (flags.skip rest))
  | '[' => do
    let (s, rest) ← class? flags fuel cs
    pure (.piece ⟨.ofSet s.set, s.depth⟩, rest)
  | '\\' => do
    let (symbol, rest) ← escape? flags cs
    pure (.ofSymbol flags symbol, rest)
  | c => pure (.ofChar flags c, cs)

/-! ## Building -/

/-- The levels that some pieces make up. Only where there are several, they are a level of their
own. -/
def levels : List Nat → Nat
  | [] => 0
  | [n] => n
  | depths => depths.foldl max 0 + 1

/-- An open group: its number, if what it matches is noted, the flags to go back to behind it, the
alternatives before, last first, and the pieces of the current one, last first. What can be repeated
is a piece; flags cannot. -/
structure OpenGroup where
  number : Option Nat
  outerFlags : Flags
  alternatives : List Piece
  pieces : List (Option Piece)

namespace OpenGroup

def new (number : Option Nat) (flags : Flags) : OpenGroup := ⟨number, flags, [], []⟩

def push (g : OpenGroup) (p : Piece) : OpenGroup := { g with pieces := some p :: g.pieces }

def sequence (g : OpenGroup) : Piece :=
  let pieces := g.pieces.reverse
  ⟨.sequence (pieces.filterMap (·.map Piece.regex)),
    levels (pieces.map fun p => (p.map Piece.depth).getD 0)⟩

def nextAlternative (g : OpenGroup) : OpenGroup :=
  { g with alternatives := g.sequence :: g.alternatives, pieces := [] }

/-- What stands in the group. -/
def inside (g : OpenGroup) : Piece :=
  let alternatives := (g.sequence :: g.alternatives).reverse
  ⟨.choice (alternatives.map Piece.regex), levels (alternatives.map Piece.depth)⟩

def toPiece (g : OpenGroup) : Piece :=
  let ⟨r, depth⟩ := g.inside
  ⟨match g.number with
    | some n => .group n r
    | none => r, depth + 1⟩

end OpenGroup

/-- The state between two items: the open groups, innermost first, the flags in force, how many
groups have a number, and the names taken. -/
structure Building where
  inner : OpenGroup
  outer : List OpenGroup
  flags : Flags
  groups : Nat
  names : List (List Char)

namespace Building

def start : Building := ⟨.new none .initial, [], .initial, 0, []⟩

/-- Open a group, its number being one more than that of the last one. -/
def openNumbered (b : Building) : Building :=
  let n := b.groups + 1
  { b with inner := .new (some n) b.flags, outer := b.inner :: b.outer, groups := n }

def add (b : Building) : Item → Except Error Building
  | .piece p => pure { b with inner := b.inner.push p }
  | .bar => pure { b with inner := b.inner.nextAlternative }
  | .flags change =>
    pure { b with inner := { b.inner with pieces := none :: b.inner.pieces },
                  flags := b.flags.apply change }
  | .repeated least most => match b.inner.pieces with
    | some p :: pieces =>
      let p := ⟨p.regex.times least most, p.depth + 1⟩
      pure { b with inner := { b.inner with pieces := some p :: pieces } }
    | _ => throw .missingOperand
  | .openGroup .plain => pure b.openNumbered
  | .openGroup (.named name) =>
    if name ∈ b.names then throw .badGroup
    else pure { b.openNumbered with names := name :: b.names }
  | .openGroup (.changing change) =>
    pure { b with inner := .new none b.flags, outer := b.inner :: b.outer,
                  flags := b.flags.apply change }
  | .closeGroup => match b.outer with
    | [] => throw .unopenedGroup
    | g :: outer =>
      pure { b with inner := g.push b.inner.toPiece, outer := outer, flags := b.inner.outerFlags }

def finish (b : Building) : Except Error Regex :=
  match b.outer with
  | [] =>
    let p := b.inner.inside
    if maxDepth < p.depth then throw .tooNested else pure p.regex
  | _ => throw .unclosedGroup

/-- Read the rest of a pattern. Each turn takes a character of the text. -/
def read : Nat → Building → List Char → Except Error Regex
  | 0, b, _ => b.finish
  | fuel + 1, b, cs => match b.flags.skip cs with
    | [] => b.finish
    | c :: cs => do
      let (item, rest) ← item? b.flags (fuel + 1) c cs
      read fuel (← b.add item) rest

end Building

/-- The regular expression that a pattern spells, if its automata are not too large. -/
def Regex.ofChars? (cs : List Char) : Except Error Regex := do
  let r ← Building.start.read (cs.length + 1) cs
  if r.isCompact then pure r else throw .tooLarge

end Spreadsheet.Pattern
