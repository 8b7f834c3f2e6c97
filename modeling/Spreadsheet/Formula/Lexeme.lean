import Spreadsheet.Decimal.Numeral
import Spreadsheet.Text.Blank

/-! # Lexemes of formula text

Formula text is cut into parentheses, operators, variables and unsigned numerals, each as long as it
can be. Blank characters only separate. What can start none of these is kept in runs, so that it can
be reported.
-/

namespace Spreadsheet

inductive Operator where
  | add
  | subtract
  | multiply
  | divide
  deriving DecidableEq, Repr

namespace Operator

def symbol : Operator → Char
  | add => '+'
  | subtract => '-'
  | multiply => '*'
  | divide => '/'

def ofSymbol? : Char → Option Operator
  | '+' => some add
  | '-' => some subtract
  | '*' => some multiply
  | '/' => some divide
  | _ => none

/-- Multiplicative operators bind tighter than additive ones. -/
def isMultiplicative : Operator → Bool
  | add | subtract => false
  | multiply | divide => true

theorem ofSymbol?_symbol (op : Operator) : ofSymbol? op.symbol = some op := by
  cases op <;> rfl

end Operator

inductive Lexeme where
  | leftParen
  | rightParen
  | operator (op : Operator)
  | var (name : String)
  | number (value : Float) (text : String)
  /-- A run of characters at none of which another lexeme starts. -/
  | other (text : String)
  deriving DecidableEq

namespace Lexeme

/-- The letters of variables: ASCII alone. -/
def isLetter (c : Char) : Bool := c.isAlpha

def isLetterOrDigit (c : Char) : Bool := c.isAlphanum

/-- The longest lexeme at the front of a text, and what follows it. -/
def ofFront? : List Char → Option (Lexeme × List Char)
  | [] => none
  | '(' :: cs => some (leftParen, cs)
  | ')' :: cs => some (rightParen, cs)
  | c :: cs =>
    if isLetter c then
      some (var (String.ofList (c :: cs.takeWhile isLetterOrDigit)),
        cs.dropWhile isLetterOrDigit)
    else match Operator.ofSymbol? c with
      | some op => some (operator op, cs)
      | none => (Decimal.Numeral.scan? (c :: cs)).map fun (n, rest) =>
          (number n.value (String.ofList n.text), rest)

/-- The characters up to the next blank or lexeme, and what follows them. -/
def otherRun : List Char → List Char × List Char
  | [] => ([], [])
  | c :: cs =>
    if Text.isBlank c || (ofFront? (c :: cs)).isSome then ([], c :: cs)
    else
      let (run, rest) := otherRun cs
      (c :: run, rest)

theorem length_ofFront?_lt {cs rest : List Char} {l : Lexeme} (h : ofFront? cs = some (l, rest)) :
    rest.length < cs.length := by
  unfold ofFront? at h
  split at h
  · cases h
  · cases h; simp
  · cases h; simp
  · split at h
    · cases h
      have := Decimal.length_dropWhile_le isLetterOrDigit ‹List Char›
      simp; omega
    · split at h
      · cases h; simp
      · simp only [Option.map_eq_some_iff, Prod.exists, Prod.mk.injEq] at h
        obtain ⟨n, r, hs, -, rfl⟩ := h
        exact Decimal.Numeral.length_scan?_lt hs

theorem length_otherRun_le (cs : List Char) : (otherRun cs).2.length ≤ cs.length := by
  induction cs with
  | nil => simp [otherRun]
  | cons c cs ih =>
    unfold otherRun
    split
    · simp
    · simp only [List.length_cons]; omega

def ofChars (cs : List Char) : List Lexeme :=
  match cs with
  | [] => []
  | c :: cs =>
    if Text.isBlank c then ofChars cs
    else match _h : ofFront? (c :: cs) with
      | some (l, rest) => l :: ofChars rest
      | none => other (String.ofList (c :: (otherRun cs).1)) :: ofChars (otherRun cs).2
termination_by cs.length
decreasing_by
  · simp
  · exact length_ofFront?_lt ‹_›
  · have := length_otherRun_le cs
    simp; omega

end Lexeme

def tokenize (text : String) : List Lexeme := Lexeme.ofChars text.toList

end Spreadsheet
