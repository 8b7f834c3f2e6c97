import Spreadsheet.Formula.Basic

/-! # Evaluation on two stacks

The tokens are read once. Operands wait on one stack, operators and opening parentheses on another;
a multiplicative operator is applied as soon as its right operand is there, an additive one when the
next additive operator, the closing parenthesis or the end comes.
-/

namespace Spreadsheet.Formula

inductive EvaluationError where
  | undefinedVariable (name : String)
  | divisionByZero
  | notFinite
  | malformed
  deriving DecidableEq

def EvaluationError.message : EvaluationError → String
  | undefinedVariable name => "undefined variable '" ++ name ++ "'"
  | divisionByZero => "division by zero"
  | notFinite => "result is not a finite number"
  | malformed => "malformed expression"

end Spreadsheet.Formula

namespace Spreadsheet.Operator

open Formula (EvaluationError)

/-- Apply an operator; nothing can be divided by a zero of either sign. -/
def apply (op : Operator) (x y : Float) : Except EvaluationError Float :=
  match op with
  | add => pure (x + y)
  | subtract => pure (x - y)
  | multiply => pure (x * y)
  | divide => if y == 0 then throw .divisionByZero else pure (x / y)

end Spreadsheet.Operator

namespace Spreadsheet.Formula

/-- What waits for its right operand or for its closing parenthesis. -/
inductive Pending where
  | operator (op : Operator)
  | leftParen
  deriving DecidableEq

/-- The two stacks, their tops first. -/
structure Stacks where
  operands : List Float
  pending : List Pending

namespace Stacks

def empty : Stacks := ⟨[], []⟩

def wait (s : Stacks) (p : Pending) : Stacks := ⟨s.operands, p :: s.pending⟩

/-- Push an operand, applying a multiplicative operator that waits for it. -/
def push (s : Stacks) (y : Float) : Except EvaluationError Stacks :=
  match s.pending with
  | .operator op :: pending =>
    if op.isMultiplicative then
      match s.operands with
      | x :: operands => do
        let z ← op.apply x y
        pure ⟨z :: operands, pending⟩
      | [] => throw .malformed
    else pure ⟨y :: s.operands, s.pending⟩
  | _ => pure ⟨y :: s.operands, s.pending⟩

/-- Apply the operator on top to the two operands on top, if it is of the chosen kind. -/
def reduce (s : Stacks) (chosen : Operator → Bool) : Except EvaluationError Stacks :=
  match s.pending with
  | .operator op :: pending =>
    if chosen op then
      match s.operands with
      | y :: x :: operands => do
        let z ← op.apply x y
        pure ⟨z :: operands, pending⟩
      | _ => throw .malformed
    else pure s
  | _ => pure s

def reduceAdditive (s : Stacks) : Except EvaluationError Stacks :=
  s.reduce fun op => !op.isMultiplicative

def closeParen (s : Stacks) : Except EvaluationError Stacks :=
  match s.pending with
  | .leftParen :: pending => pure ⟨s.operands, pending⟩
  | _ => throw .malformed

def step (lookup : String → Option Float) (s : Stacks) : Token → Except EvaluationError Stacks
  | .number x => s.push x
  | .var name => match lookup name with
    | some x => s.push x
    | none => throw (.undefinedVariable name)
  | .operator op =>
    if op.isMultiplicative then pure (s.wait (.operator op))
    else do
      let s ← s.reduceAdditive
      pure (s.wait (.operator op))
  | .leftParen => pure (s.wait .leftParen)
  | .rightParen => do
    let s ← s.reduceAdditive
    let s ← s.closeParen
    s.reduce Operator.isMultiplicative

def result (s : Stacks) : Except EvaluationError Float := do
  let s ← s.reduceAdditive
  match s.operands, s.pending with
  | [x], [] => if x.isFinite then pure x else throw .notFinite
  | _, _ => throw .malformed

end Stacks

/-- The number of a formula, where `lookup` gives the numbers of the variables that have one. -/
def evaluate (f : Formula) (lookup : String → Option Float) : Except EvaluationError Float := do
  let s ← f.tokens.foldlM (Stacks.step lookup) Stacks.empty
  s.result

end Spreadsheet.Formula
