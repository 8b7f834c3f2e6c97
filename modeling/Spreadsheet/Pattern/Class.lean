import Spreadsheet.Pattern.Escape

/-! # Character classes

The classes of characters between brackets. Classes can hold classes, and operations on all that
stands before and behind them.
-/

namespace Spreadsheet.Pattern

open Text (CharSet)

/-- A set, and how deeply the classes and operations that spell it are nested. -/
structure ClassSet where
  set : CharSet
  depth : Nat
  deriving DecidableEq

/-- The union of sets. Only where there are several, it is a level of its own. -/
def ClassSet.union : List ClassSet → ClassSet
  | [s] => s
  | sets =>
    ⟨.unions (sets.map set), if sets = [] then 0 else sets.foldl (fun n s => max n s.depth) 0 + 1⟩

inductive SetOperation where
  | inter
  | diff
  | symmDiff
  deriving DecidableEq

def SetOperation.apply : SetOperation → CharSet → CharSet → CharSet
  | inter => .inter
  | diff => .diff
  | symmDiff => .symmDiff

/-- A class still open: whether it is negated, the left operand of an operation in it, the members
since then, and whether only hyphens stand in it so far. -/
structure OpenClass where
  negated : Bool
  operand : Option (SetOperation × ClassSet)
  members : List ClassSet
  atFront : Bool

namespace OpenClass

/-- Open a class behind its bracket: a caret negates. -/
def ofFront (flags : Flags) (cs : List Char) : OpenClass × List Char :=
  match flags.skip cs with
  | '^' :: cs => (⟨true, none, [], true⟩, cs)
  | cs => (⟨false, none, [], true⟩, cs)

def add (k : OpenClass) (s : ClassSet) : OpenClass :=
  { k with members := s :: k.members, atFront := false }

def combined (flags : Flags) (k : OpenClass) : ClassSet :=
  let right := ClassSet.union k.members
  match k.operand with
  | none => right
  | some (op, left) =>
    ⟨op.apply (flags.fold left.set) (flags.fold right.set), max left.depth right.depth + 1⟩

def operate (flags : Flags) (k : OpenClass) (op : SetOperation) : OpenClass :=
  ⟨k.negated, some (op, k.combined flags), [], false⟩

def toSet (flags : Flags) (k : OpenClass) : Except Error ClassSet := do
  let s := k.combined flags
  pure ⟨← flags.complIf? k.negated (flags.fold s.set), s.depth + 1⟩

end OpenClass

/-! ## Members -/

def member? (flags : Flags) : List Char → Except Error (Symbol × List Char)
  | [] => throw .unclosedClass
  | '\\' :: cs => escape? flags cs
  | c :: cs => pure (.char c, cs)

def Symbol.toSet (flags : Flags) : Symbol → Except Error CharSet
  | char c => flags.single? c
  | set s => pure s
  | assertion _ => throw .badEscape

/-- The character behind a hyphen. The number sign of a comment is passed over. -/
def afterHyphen? (flags : Flags) (cs : List Char) : Option Char :=
  if flags .spaced then
    match cs.dropWhile Text.isBlank with
    | '#' :: cs => (cs.dropWhile Text.isBlank).head?
    | cs => cs.head?
  else cs.head?

def range? (flags : Flags) (cs : List Char) : Except Error (CharSet × List Char) := do
  let (first, rest) ← member? flags cs
  match flags.skip rest with
  | [] => throw .unclosedClass
  | '-' :: behind =>
    let next := afterHyphen? flags behind
    if next = some ']' ∨ next = some '-' then pure (← first.toSet flags, flags.skip rest)
    else do
      let (last, rest) ← member? flags (flags.skip behind)
      match first, last with
      | .char low, .char high => do
        let _ ← flags.single? low
        let _ ← flags.single? high
        if low ≤ high then pure (⟨[(low.toNat, high.toNat)]⟩, rest) else throw .badRange
      | _, _ => throw .badRange
  | rest => pure (← first.toSet flags, rest)

/-- The rest of a class with the classes around it, innermost first. At the front of a class hyphens
are members, and so is a closing bracket. Each turn takes a character of the text. -/
def closeClass? (flags : Flags) :
    Nat → List OpenClass → List Char → Except Error (ClassSet × List Char)
  | 0, _, _ => throw .unclosedClass
  | _, [], _ => throw .unclosedClass
  | fuel + 1, k :: ks, cs =>
    let again := closeClass? flags fuel
    match flags.skip cs with
    | [] => throw .unclosedClass
    | '[' :: cs => match NamedSet.read? cs with
      | some (s, rest) => do again (k.add ⟨← s.toSet flags, 0⟩ :: ks) rest
      | none =>
        let (inner, rest) := OpenClass.ofFront flags cs
        again (inner :: k :: ks) rest
    | ']' :: cs =>
      if k.atFront ∧ k.members = [] then again (k.add ⟨.single 0x5D, 0⟩ :: ks) cs
      else do
        let s ← k.toSet flags
        match ks with
        | [] => pure (s, cs)
        | outer :: ks => again (outer.add s :: ks) cs
    | '-' :: cs =>
      if k.atFront then again ({ k.add ⟨.single 0x2D, 0⟩ with atFront := true } :: ks) cs
      else match cs with
        | '-' :: cs => again (k.operate flags .diff :: ks) cs
        | cs => do
          let (s, rest) ← range? flags ('-' :: cs)
          again (k.add ⟨s, 0⟩ :: ks) rest
    | '&' :: '&' :: cs => again (k.operate flags .inter :: ks) cs
    | '~' :: '~' :: cs => again (k.operate flags .symmDiff :: ks) cs
    | cs => do
      let (s, rest) ← range? flags cs
      again (k.add ⟨s, 0⟩ :: ks) rest

/-- The class behind an opening bracket, and what follows it. The length of the text is fuel
enough. -/
def class? (flags : Flags) (fuel : Nat) (cs : List Char) : Except Error (ClassSet × List Char) :=
  let (k, rest) := OpenClass.ofFront flags cs
  closeClass? flags fuel [k] rest

end Spreadsheet.Pattern
