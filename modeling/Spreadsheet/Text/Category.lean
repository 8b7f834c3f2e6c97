import Spreadsheet.Text.CharSet
import Spreadsheet.Text.Category.Letter
import Spreadsheet.Text.Category.Mark
import Spreadsheet.Text.Category.Sign

/-! # General categories

The Unicode general categories of characters as sets, and the characters of words.
-/

namespace Spreadsheet.Text

inductive Category where
  | uppercaseLetter
  | lowercaseLetter
  | titlecaseLetter
  | modifierLetter
  | otherLetter
  | nonspacingMark
  | spacingMark
  | enclosingMark
  | decimalNumber
  | letterNumber
  | otherNumber
  | connectorPunctuation
  | dashPunctuation
  | openPunctuation
  | closePunctuation
  | initialPunctuation
  | finalPunctuation
  | otherPunctuation
  | mathSymbol
  | currencySymbol
  | modifierSymbol
  | otherSymbol
  | spaceSeparator
  | lineSeparator
  | paragraphSeparator
  | control
  | format
  | privateUse
  | unassigned
  deriving DecidableEq

namespace Category

def letters : List Category :=
  [uppercaseLetter, lowercaseLetter, titlecaseLetter, modifierLetter, otherLetter]

def marks : List Category := [nonspacingMark, spacingMark, enclosingMark]

def numbers : List Category := [decimalNumber, letterNumber, otherNumber]

def punctuation : List Category :=
  [connectorPunctuation, dashPunctuation, openPunctuation, closePunctuation, initialPunctuation,
   finalPunctuation, otherPunctuation]

def symbols : List Category := [mathSymbol, currencySymbol, modifierSymbol, otherSymbol]

def separators : List Category := [spaceSeparator, lineSeparator, paragraphSeparator]

/-- The code points that stand for no character by themselves. -/
def surrogates : CharSet := ⟨[(0xD800, 0xDFFF)]⟩

/-- The table of a category; code points without one are `unassigned`. -/
def table : Category → List (Nat × Nat)
  | uppercaseLetter => uppercaseLetters
  | lowercaseLetter => lowercaseLetters
  | titlecaseLetter => titlecaseLetters
  | modifierLetter => modifierLetters
  | otherLetter => otherLetters
  | nonspacingMark => nonspacingMarks
  | spacingMark => spacingMarks
  | enclosingMark => enclosingMarks
  | decimalNumber => decimalNumbers
  | letterNumber => letterNumbers
  | otherNumber => otherNumbers
  | connectorPunctuation => Text.connectorPunctuation
  | dashPunctuation => Text.dashPunctuation
  | openPunctuation => Text.openPunctuation
  | closePunctuation => Text.closePunctuation
  | initialPunctuation => Text.initialPunctuation
  | finalPunctuation => Text.finalPunctuation
  | otherPunctuation => Text.otherPunctuation
  | mathSymbol => mathSymbols
  | currencySymbol => currencySymbols
  | modifierSymbol => modifierSymbols
  | otherSymbol => otherSymbols
  | spaceSeparator => spaceSeparators
  | lineSeparator => lineSeparators
  | paragraphSeparator => paragraphSeparators
  | control => controls
  | format => formats
  | privateUse => Text.privateUse
  | unassigned => []

def union (cs : List Category) : CharSet := CharSet.unions (cs.map fun c => ⟨c.table⟩)

def assigned : CharSet :=
  union (letters ++ marks ++ numbers ++ punctuation ++ symbols ++ separators ++
    [control, format, privateUse])

def set : Category → CharSet
  | unassigned => (assigned.union surrogates).compl
  | c => ⟨c.table⟩

end Category

def asciiLetters : CharSet := ⟨[(0x41, 0x5A), (0x61, 0x7A)]⟩

/-- Letters in circles and squares, which are symbols by category. -/
def framedLetters : CharSet :=
  ⟨[(0x24B6, 0x24E9), (0x1F130, 0x1F149), (0x1F150, 0x1F169), (0x1F170, 0x1F189)]⟩

def letterSet : CharSet :=
  (Category.union (.letterNumber :: Category.letters)).union framedLetters

/-- The two invisible characters that say whether their neighbours are joined. -/
def joiners : CharSet := ⟨[(0x200C, 0x200D)]⟩

/-- What words are written in: letters, marks, digits, connectors and joiners. -/
def wordSet : CharSet :=
  CharSet.unions [letterSet, joiners,
    Category.union (.decimalNumber :: .connectorPunctuation :: Category.marks)]

end Spreadsheet.Text
