/-! # Bad patterns

Why a text cannot be used as a pattern.
-/

namespace Spreadsheet.Pattern

/-- The bytes that the automaton of a pattern may take. -/
def maxSize : Nat := 10485760

inductive Error where
  | unclosedGroup
  | unopenedGroup
  | badGroup
  | badFlags
  | unclosedClass
  | badRange
  | badEscape
  | unknownProperty
  | missingOperand
  | badCount
  /-- It would match a part of a character, or needs characters where only bytes are meant. -/
  | splitsCharacter
  | tooNested
  | tooLarge
  deriving DecidableEq, Repr

namespace Error

def reason : Error → String
  | unclosedGroup => "unclosed group"
  | unopenedGroup => "unopened group"
  | badGroup => "invalid group"
  | badFlags => "invalid flags"
  | unclosedClass => "unclosed character class"
  | badRange => "invalid character class range"
  | badEscape => "unrecognized escape sequence"
  | unknownProperty => "Unicode property not found"
  | missingOperand => "repetition operator missing expression"
  | badCount => "invalid repetition count"
  | splitsCharacter => "pattern can match invalid UTF-8"
  | tooNested => "too much nesting"
  | tooLarge => "too large"

def message : Error → String
  | tooLarge => "Compiled regex exceeds size limit of " ++ toString maxSize ++ " bytes."
  | e => "regex parse error: " ++ e.reason

end Error

end Spreadsheet.Pattern
