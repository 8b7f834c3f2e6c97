import Spreadsheet.Decimal.Shortest
import Spreadsheet.Formula.Lexeme

/-! # Formulas

A formula is a list of tokens. Checking goes through the lexemes once: each is placed after the one
before it, with a count of the parentheses still open, and the first that has no place is reported.
-/

namespace Spreadsheet

inductive Token where
  | leftParen
  | rightParen
  | operator (op : Operator)
  | var (name : String)
  | number (value : Float)
  deriving DecidableEq

namespace Token

def text : Token → String
  | leftParen => "("
  | rightParen => ")"
  | operator op => op.symbol.toString
  | var name => name
  | number value => Decimal.text value

def isOpener : Token → Bool
  | leftParen | operator _ => true
  | rightParen | var _ | number _ => false

/-- Whether two tokens are the same, where numbers are compared by their value: the zeros of both
signs are the same, and what is not a number is not even the same as itself. -/
def same : Token → Token → Bool
  | leftParen, leftParen => true
  | rightParen, rightParen => true
  | operator op, operator op' => op == op'
  | var name, var name' => name == name'
  | number value, number value' => value == value'
  | _, _ => false

end Token

namespace Formula

inductive SyntaxError where
  | empty
  | unknownToken (text : String)
  | numberOutOfRange (text : String)
  | misplacedOperand (text : String)
  | misplacedOperator (op : Operator)
  | misplacedLeftParen
  | misplacedRightParen
  | unbalancedRightParen
  | unclosedParen (count : Nat)
  | trailingToken (text : String)
  | invalidVariable (name : String)
  deriving DecidableEq

namespace SyntaxError

def message : SyntaxError → String
  | empty => "formula contains no tokens"
  | unknownToken text => "unrecognized token '" ++ text ++ "'"
  | numberOutOfRange text => "number '" ++ text ++ "' is out of range"
  | misplacedOperand text =>
    "'" ++ text ++ "' must follow an operator, an opening parenthesis or the start of the formula"
  | misplacedOperator op =>
    "operator '" ++ op.symbol.toString ++
      "' must follow a number, a variable or a closing parenthesis"
  | misplacedLeftParen =>
    "opening parenthesis must follow an operator, an opening parenthesis or the start of the formula"
  | misplacedRightParen =>
    "closing parenthesis must follow a number, a variable or a closing parenthesis"
  | unbalancedRightParen => "closing parenthesis has no matching opening parenthesis"
  | unclosedParen count => toString count ++ " opening parenthesis left unclosed"
  | trailingToken text => "formula cannot end with '" ++ text ++ "'"
  | invalidVariable name => "variable '" ++ name ++ "' is not valid"

end SyntaxError

/-- The rules for the variables of a formula: how each is rewritten, and which results may stand. -/
structure VariableRules where
  normalize : String → String
  isValid : String → Bool

/-- Variables stay as written, and every one may stand. -/
def VariableRules.free : VariableRules := ⟨id, fun _ => true⟩

/-- What the check knows between two lexemes: the last token and the number of parentheses open. -/
structure Position where
  last : Option Token
  depth : Nat

namespace Position

def start : Position := ⟨none, 0⟩

/-- An operand or an opening parenthesis can stand here. -/
def expectsOperand (p : Position) : Bool := p.last.all Token.isOpener

def after (p : Position) (t : Token) : Position :=
  match t with
  | .leftParen => ⟨some t, p.depth + 1⟩
  | .rightParen => ⟨some t, p.depth - 1⟩
  | _ => ⟨some t, p.depth⟩

def place (rules : VariableRules) (p : Position) : Lexeme → Except SyntaxError Token
  | .other text => throw (.unknownToken text)
  | .number value text =>
    if ¬ value.isFinite then throw (.numberOutOfRange text)
    else if ¬ p.expectsOperand then throw (.misplacedOperand (Decimal.text value))
    else pure (.number value)
  | .var name =>
    if ¬ p.expectsOperand then throw (.misplacedOperand name)
    else if ¬ rules.isValid (rules.normalize name) then
      throw (.invalidVariable (rules.normalize name))
    else pure (.var (rules.normalize name))
  | .operator op =>
    if p.expectsOperand then throw (.misplacedOperator op) else pure (.operator op)
  | .leftParen => if ¬ p.expectsOperand then throw .misplacedLeftParen else pure .leftParen
  | .rightParen =>
    if p.expectsOperand then throw .misplacedRightParen
    else if p.depth = 0 then throw .unbalancedRightParen
    else pure .rightParen

def finish (p : Position) : Except SyntaxError Unit :=
  match p.last with
  | none => throw .empty
  | some t =>
    if t.isOpener then throw (.trailingToken t.text)
    else if p.depth ≠ 0 then throw (.unclosedParen p.depth)
    else pure ()

/-- The tokens of the lexemes that follow, down to the end of the formula. -/
def check (rules : VariableRules) (p : Position) : List Lexeme → Except SyntaxError (List Token)
  | [] => do
    p.finish
    pure []
  | l :: ls => do
    let t ← p.place rules l
    let ts ← (p.after t).check rules ls
    pure (t :: ts)

end Position

end Formula

structure Formula where
  tokens : List Token
  deriving DecidableEq

namespace Formula

def ofLexemes (rules : VariableRules) (ls : List Lexeme) : Except SyntaxError Formula :=
  (Position.start.check rules ls).map Formula.mk

def parse (rules : VariableRules) (text : String) : Except SyntaxError Formula :=
  ofLexemes rules (tokenize text)

def text (f : Formula) : String := String.join (f.tokens.map Token.text)

/-- Whether two formulas are the same, token by token. -/
def same (f g : Formula) : Bool := f.tokens.isEqv g.tokens Token.same

/-- The hash of a formula is that of its text, whatever hash texts have. -/
def hash {α : Type} (ofText : String → α) (f : Formula) : α := ofText f.text

def mentions (ts : List Token) : List String :=
  ts.filterMap fun
    | .var name => some name
    | _ => none

/-- The distinct variables, in order of first use. -/
def variableNames (f : Formula) : List String := (mentions f.tokens).eraseDups

end Formula

end Spreadsheet
