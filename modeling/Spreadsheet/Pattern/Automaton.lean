import Std.Data.HashMap
import Spreadsheet.Pattern.Error
import Spreadsheet.Pattern.Regex
import Spreadsheet.Text.Utf8Ranges

/-! # The size of automata

How many bytes the automata of an expression take, one that reads a text forward and one that reads
it backward. An automaton reads bytes, so characters beyond ASCII take several states each. It is not
built here: its parts are only counted.
-/

namespace Spreadsheet.Pattern

open Text (CharSet)
open Text.Utf8 (ByteRange)

/-- A state takes this many bytes; … -/
def stateSize : Nat := 32

/-- … each transition of a state with several takes some more, … -/
def arcSize : Nat := 8

/-- … and so does each way out of a state that branches. -/
def branchSize : Nat := 4

inductive Direction where
  | forward
  | backward
  deriving DecidableEq

/-- A part of an automaton: its size, and whether it ends in a state that branches, which takes more
room as soon as something follows. -/
structure Fragment where
  size : Nat
  branches : Bool
  deriving DecidableEq

namespace Fragment

def link (f : Fragment) : Nat := if f.branches then branchSize else 0

def andThen (f g : Fragment) : Fragment := ⟨f.size + f.link + g.size, g.branches⟩

def oneOf (fs : List Fragment) : Fragment :=
  ⟨fs.foldl (fun n f => n + branchSize + f.size + f.link) (2 * stateSize), false⟩

def power (f : Fragment) : Nat → Fragment
  | 0 => ⟨stateSize, false⟩
  | n + 1 => ⟨(n + 1) * f.size + n * f.link, f.branches⟩

def optional (f : Fragment) : Fragment := ⟨f.size + 2 * stateSize + 2 * branchSize + f.link, false⟩

def plus (f : Fragment) : Fragment := ⟨f.size + f.link + stateSize + branchSize, true⟩

/-- A part any number of times. One that can match the empty text is walked once or more, or passed
by. -/
def star (f : Fragment) (consumes : Bool) : Fragment :=
  if consumes then f.plus else ⟨f.plus.size + branchSize + 2 * stateSize + 2 * branchSize, false⟩

def atLeast (f : Fragment) (consumes : Bool) : Nat → Fragment
  | 0 => f.star consumes
  | 1 => f.plus
  | n + 2 => (f.power (n + 1)).andThen f.plus

/-- From `least` to `most` times a part. Each time that is not needed can be left out. -/
def between (f : Fragment) (least most : Nat) : Fragment :=
  if least = most then f.power least
  else if least = 0 ∧ most = 1 then f.optional
  else
    let needed := f.power least
    ⟨needed.size + needed.link + stateSize +
      (most - least) * (stateSize + 2 * branchSize + f.size + f.link), false⟩

end Fragment

/-! ## Characters -/

/-- The states that read characters, each by its transitions: a range of bytes and the number of the
state that it leads to. States with the same transitions are one. -/
structure States where
  numbers : Std.HashMap (List (ByteRange × Nat)) Nat
  size : Nat

namespace States

def start : States := ⟨∅, stateSize⟩

def insert (states : States) (arcs : List (ByteRange × Nat)) : Nat × States :=
  match states.numbers[arcs]? with
  | some n => (n, states)
  | none =>
    let n := states.numbers.size + 1
    (n, ⟨states.numbers.insert arcs n, states.size + stateSize + arcSize * arcs.length⟩)

/-- The state from which the sequences are read. No sequence is longer than `fuel`. -/
def read : Nat → States → List (List ByteRange) → Nat × States
  | 0, states, _ => (0, states)
  | fuel + 1, states, sequences =>
    if sequences.all List.isEmpty then (0, states)
    else
      let (arcs, states) := (sequences.splitBy fun s t => s.head? == t.head?).foldl
        (fun (arcs, states) group => match group with
          | (range :: _) :: _ =>
            let (n, states) := read fuel states (group.map List.tail)
            (arcs ++ [(range, n)], states)
          | _ => (arcs, states))
        ([], states)
      states.insert arcs

end States

def sharedFront : List ByteRange → List ByteRange → Nat
  | r :: rs, s :: ss => if r = s then sharedFront rs ss + 1 else 0
  | _, _ => 0

/-- The states that read sequences from their ends, where a sequence shares its front with the one
before it. -/
def statesBackward (previous : List ByteRange) : List (List ByteRange) → Nat
  | [] => 0
  | s :: rest => s.length - sharedFront previous s + statesBackward s rest

/-- A state that reads an ASCII character; the encodings of other sets are read byte by byte. -/
def setSize (d : Direction) (s : CharSet) : Nat :=
  if s.isAscii then 2 * stateSize + arcSize * s.ranges.length
  else
    let sequences := Text.Utf8.sequences s
    match d with
    | .forward => (States.start.read 4 sequences).2.size
    | .backward =>
      2 * stateSize + branchSize * sequences.length + stateSize * statesBackward [] sequences

/-! ## Literals -/

def utf8Bytes (cs : List Char) : List UInt8 := cs.flatMap String.utf8EncodeChar

/-- Texts that follow a common front, cut where one of them ends: behind it comes what is only
preferred if that is not. -/
def chunks : List (List UInt8) → List (List (List UInt8))
  | [] => [[]]
  | [] :: rest => [] :: chunks rest
  | text :: rest => match chunks rest with
    | [] => [[text]]
    | chunk :: more => (text :: chunk) :: more

def byFirst (chunk : List (List UInt8)) : List (List (List UInt8)) :=
  let firsts := (chunk.filterMap List.head?).eraseDups
  firsts.map fun b => chunk.filterMap fun text =>
    if text.head? = some b then some text.tail else none

/-- The states of a tree that reads one of several texts. No text is longer than `fuel`. -/
def treeSize : Nat → List (List UInt8) → Nat
  | 0, _ => 0
  | fuel + 1, texts =>
    if texts.all List.isEmpty then 0
    else
      let parts := chunks texts
      let ends := parts.length - 1
      (parts.filter fun chunk => !chunk.isEmpty).foldl
        (fun n chunk =>
          let groups := byFirst chunk
          let arcs := if groups.length = 1 then 0 else arcSize * groups.length
          n + branchSize + stateSize + arcs +
            groups.foldl (fun m group => m + treeSize fuel group) 0)
        (stateSize + branchSize * ends)

def literalsSize (d : Direction) (literals : List (List Char)) : Nat :=
  let texts := literals.map utf8Bytes
  let texts := match d with
    | .forward => texts
    | .backward => texts.map List.reverse
  stateSize + treeSize (texts.foldl (fun n text => max n text.length) 0 + 1) texts

namespace Regex

def literals? : Regex → Option (List (List Char))
  | literal cs => some [cs]
  | alt r s => do pure ((← r.literals?) ++ (← s.literals?))
  | _ => none

/-! ## Expressions -/

def whole (d : Direction) (r : Regex) (branches : List Fragment) : Fragment :=
  match branches with
  | [f] => f
  | branches => match r.literals? with
    | some literals => ⟨literalsSize d literals, false⟩
    | none => .oneOf branches

/-- The automata of the alternatives of an expression. Groups are noted when a text is read
forward. -/
def fragments (d : Direction) : Regex → List Fragment
  | empty => [⟨stateSize, false⟩]
  | literal cs => [⟨stateSize * (utf8Bytes cs).length, false⟩]
  | set s => [⟨setSize d s, false⟩]
  | assertion _ => [⟨stateSize, false⟩]
  | group _ r =>
    let f := r.whole d (r.fragments d)
    [match d with
      | .forward => ⟨f.size + f.link + 2 * stateSize, false⟩
      | .backward => f]
  | seq r s =>
    let f := r.whole d (r.fragments d)
    let g := s.whole d (s.fragments d)
    [match d with
      | .forward => f.andThen g
      | .backward => g.andThen f]
  | alt r s => r.whole d (r.fragments d) :: s.fragments d
  | repeated r least most =>
    let f := r.whole d (r.fragments d)
    [match most with
      | none => f.atLeast (r.minLength.any (0 < ·)) least
      | some most => f.between least most]

def fragment (d : Direction) (r : Regex) : Fragment := r.whole d (r.fragments d)

/-- Every match begins at the start of the text. -/
def startsText : Regex → Bool
  | assertion a => a = .textStart
  | group _ r => r.startsText
  | seq r s => r.startsText || (r.onlyEmpty && s.startsText)
  | alt r s => r.startsText && s.startsText
  | repeated r least _ => least ≠ 0 && r.startsText
  | _ => false

/-- Every match ends at the end of the text. -/
def endsText : Regex → Bool
  | assertion a => a = .textEnd
  | group _ r => r.endsText
  | seq r s => s.endsText || (s.onlyEmpty && r.endsText)
  | alt r s => r.endsText && s.endsText
  | repeated r least _ => least ≠ 0 && r.endsText
  | _ => false

/-- The automaton with what leads to it, which skips bytes up to the place where a match begins, and
the state where matches end. -/
def automatonSize (d : Direction) (r : Regex) : Nat :=
  let skipped : Fragment :=
    (Fragment.mk (2 * stateSize + arcSize) false).plus
  let skip := skipped.size + skipped.link
  match d with
  | .forward =>
    (if r.startsText then stateSize else skip) + ((group 0 r).fragment d).size + stateSize
  | .backward =>
    let f := r.fragment d
    (if r.endsText then stateSize else skip) + f.size + f.link + stateSize

/-- Neither automaton is too large. -/
def isCompact (r : Regex) : Bool :=
  decide (r.automatonSize .forward ≤ maxSize) && decide (r.automatonSize .backward ≤ maxSize)

end Regex

end Spreadsheet.Pattern
