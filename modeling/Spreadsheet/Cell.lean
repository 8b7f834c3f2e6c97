import Spreadsheet.Formula.Evaluation

/-! # Cells

What a cell stores, and what it computes to.
-/

namespace Spreadsheet

inductive Content where
  | text (s : String)
  | number (x : Float)
  | formula (f : Formula)
  deriving DecidableEq

inductive Value where
  | text (s : String)
  | number (x : Float)
  | error (e : Formula.EvaluationError)
  deriving DecidableEq

namespace Content

/-- What a cell that was never set holds. -/
def empty : Content := text ""

def isEmpty : Content → Bool
  | text s => s == ""
  | _ => false

def formula? : Content → Option Formula
  | formula f => some f
  | _ => none

/-- The text that recreates the content when it is typed in. -/
def display : Content → String
  | text s => s
  | number x => Decimal.text x
  | formula f => "=" ++ f.text

/-- The value of the content, where `lookup` gives the numbers of the variables that have one. -/
def evaluate (lookup : String → Option Float) : Content → Value
  | text s => .text s
  | number x => .number x
  | formula f => match f.evaluate lookup with
    | .ok x => .number x
    | .error e => .error e

end Content

namespace Value

def empty : Value := text ""

def number? : Value → Option Float
  | number x => some x
  | _ => none

def isError : Value → Bool
  | error _ => true
  | _ => false

def display : Value → String
  | text s => s
  | number x => Decimal.text x
  | error e => "#ERROR(" ++ e.message ++ ")"

end Value

/-- A content with the value last computed from it. -/
structure Cell where
  content : Content
  value : Value
  deriving DecidableEq

/-- A cell whose value is not computed yet. -/
def Cell.new (content : Content) : Cell := ⟨content, .empty⟩

end Spreadsheet
