import Mathlib.Data.List.Forall2
import Spreadsheet.Formula.Evaluation

/-! # Expressions

The trees behind formulas: a sum of products of factors, both levels grouped to the left, with their
tokens and their value by recursion. `Sentence` says which lexemes spell a tree.
-/

namespace Spreadsheet.Formula

mutual

/-- A term, or an expression and a term with an additive operator between them. -/
inductive Expression where
  | term (t : Term)
  | combine (left : Expression) (op : Operator) (additive : op.isMultiplicative = false)
      (right : Term)

inductive Term where
  | factor (f : Factor)
  | combine (left : Term) (op : Operator) (multiplicative : op.isMultiplicative = true)
      (right : Factor)

inductive Factor where
  | number (value : Float)
  | var (name : String)
  | paren (e : Expression)

end

mutual

def Expression.tokens : Expression → List Token
  | .term t => t.tokens
  | .combine left op _ right => left.tokens ++ Token.operator op :: right.tokens

def Term.tokens : Term → List Token
  | .factor f => f.tokens
  | .combine left op _ right => left.tokens ++ Token.operator op :: right.tokens

def Factor.tokens : Factor → List Token
  | .number value => [Token.number value]
  | .var name => [Token.var name]
  | .paren e => Token.leftParen :: (e.tokens ++ [Token.rightParen])

end

mutual

/-- The value of an expression, operands from left to right. -/
def Expression.value (lookup : String → Option Float) :
    Expression → Except EvaluationError Float
  | .term t => t.value lookup
  | .combine left op additive right => do
    let x ← left.value lookup
    let y ← right.value lookup
    match op, additive with
    | .add, _ => pure (x + y)
    | .subtract, _ => pure (x - y)

/-- Nothing can be divided by a zero of either sign. -/
def Term.value (lookup : String → Option Float) : Term → Except EvaluationError Float
  | .factor f => f.value lookup
  | .combine left op multiplicative right => do
    let x ← left.value lookup
    let y ← right.value lookup
    match op, multiplicative with
    | .multiply, _ => pure (x * y)
    | .divide, _ => if y == 0 then throw .divisionByZero else pure (x / y)

def Factor.value (lookup : String → Option Float) : Factor → Except EvaluationError Float
  | .number value => pure value
  | .var name => match lookup name with
    | some x => pure x
    | none => throw (.undefinedVariable name)
  | .paren e => e.value lookup

end

/-- The value of a whole formula's tree: a number that is not finite is no result. -/
def Expression.result (lookup : String → Option Float) (e : Expression) :
    Except EvaluationError Float := do
  let x ← e.value lookup
  if x.isFinite then pure x else throw .notFinite

def IsExpression (ts : List Token) : Prop := ∃ e : Expression, e.tokens = ts

/-- The token that a lexeme stands for when it may stand in a formula at all. -/
inductive Stands (rules : VariableRules) : Lexeme → Token → Prop
  | leftParen : Stands rules .leftParen .leftParen
  | rightParen : Stands rules .rightParen .rightParen
  | operator (op : Operator) : Stands rules (.operator op) (.operator op)
  | number {value : Float} (text : String) (finite : value.isFinite = true) :
      Stands rules (.number value text) (.number value)
  | var {name : String} (valid : rules.isValid (rules.normalize name) = true) :
      Stands rules (.var name) (.var (rules.normalize name))

/-- The lexemes stand, one by one, for the tokens of an expression. -/
def Sentence (rules : VariableRules) (ls : List Lexeme) (ts : List Token) : Prop :=
  List.Forall₂ (Stands rules) ls ts ∧ IsExpression ts

end Spreadsheet.Formula
