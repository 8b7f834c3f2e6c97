import Spreadsheet.Pattern.Error
import Spreadsheet.Text.Blank
import Spreadsheet.Text.CharSet

/-! # Flags

Flags change how the rest of a pattern is read. Those that leave out blanks and comments work on its
text, the others on what it means.
-/

namespace Spreadsheet.Pattern

open Text (CharSet)

inductive Flag where
  | ignoreCase
  | multiLine
  | dotAll
  /-- A carriage return ends a line too. -/
  | returns
  /-- Which match is preferred. It changes no answer to whether a text matches. -/
  | swapGreed
  /-- Characters are meant, not bytes. -/
  | unicode
  /-- Blanks and comments are left out. -/
  | spaced
  deriving DecidableEq

def Flag.ofChar? : Char → Option Flag
  | 'i' => some ignoreCase
  | 'm' => some multiLine
  | 's' => some dotAll
  | 'R' => some returns
  | 'U' => some swapGreed
  | 'u' => some unicode
  | 'x' => some spaced
  | _ => none

abbrev Flags := Flag → Bool

/-- A change of flags: those switched on and those switched off. -/
abbrev FlagChange := List (Flag × Bool)

namespace Flags

def initial : Flags := (· == .unicode)

def apply (flags : Flags) (change : FlagChange) : Flags :=
  fun f => (change.lookup f).getD (flags f)

/-- The text without the blanks and comments at its front. A comment runs from a number sign to the
end of its line. -/
def dropIgnored (inComment : Bool) : List Char → List Char
  | [] => []
  | c :: cs =>
    if inComment then dropIgnored (c != '\n') cs
    else if Text.isBlank c then dropIgnored false cs
    else if c = '#' then dropIgnored true cs
    else c :: cs

def skip (flags : Flags) (cs : List Char) : List Char :=
  if flags .spaced then dropIgnored false cs else cs

def braced? (flags : Flags) (inComment : Bool) : List Char → Option (List Char × List Char)
  | [] => none
  | c :: cs =>
    if inComment then flags.braced? (c != '\n') cs
    else if c = '\x7d' then some ([], cs)
    else if flags .spaced && Text.isBlank c then flags.braced? false cs
    else if flags .spaced && c == '#' then flags.braced? true cs
    else do
      let (text, rest) ← flags.braced? false cs
      pure (c :: text, rest)

def fold (flags : Flags) (s : CharSet) : CharSet :=
  if flags .ignoreCase then if flags .unicode then s.folded else s.foldedAscii else s

/-- The other characters. Where bytes are meant, some of the others are no characters. -/
def compl? (flags : Flags) (s : CharSet) : Except Error CharSet :=
  if flags .unicode then .ok s.compl else .error .splitsCharacter

def complIf? (flags : Flags) (negated : Bool) (s : CharSet) : Except Error CharSet :=
  if negated then flags.compl? s else .ok s

/-- A character in a set. Where bytes are meant, only ASCII characters can be. -/
def single? (flags : Flags) (c : Char) : Except Error CharSet :=
  if flags .unicode ∨ c.toNat < 128 then .ok (.single c.toNat) else .error .splitsCharacter

end Flags

end Spreadsheet.Pattern
