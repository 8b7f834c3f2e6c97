import Spreadsheet.Proofs.Formula.Unambiguous

/-! # The two stacks and the tree

Reading the tokens of a factor pushes its value; reading those of a term pushes its value where no
multiplicative operator waits; reading those of an expression leaves at most one additive operator
to apply. Additive operators never fail, so applying one late does not change which error comes
first.
-/

namespace Spreadsheet.Formula

variable {lookup : String → Option Float} {s : Stacks}

namespace Stacks

def readAll (lookup : String → Option Float) (s : Stacks) (ts : List Token) :
    Except EvaluationError Stacks :=
  ts.foldlM (step lookup) s

theorem readAll_append (ts us : List Token) :
    s.readAll lookup (ts ++ us) = s.readAll lookup ts >>= fun s => s.readAll lookup us := by
  simp only [readAll, List.foldlM_append]

theorem readAll_cons (s : Stacks) (t : Token) (ts : List Token) :
    s.readAll lookup (t :: ts) = s.step lookup t >>= fun s => s.readAll lookup ts := by
  simp only [readAll, List.foldlM_cons]

theorem readAll_singleton (t : Token) : s.readAll lookup [t] = s.step lookup t := by
  simp only [readAll, List.foldlM_cons, List.foldlM_nil]
  exact bind_pure _

/-- No multiplicative operator waits for its right operand. -/
def Settled (s : Stacks) : Prop :=
  ∀ op ps, s.pending = .operator op :: ps → op.isMultiplicative = false

def Fresh (s : Stacks) : Prop := ∀ op ps, s.pending ≠ .operator op :: ps

theorem Fresh.settled (h : s.Fresh) : s.Settled := fun op ps hp => absurd hp (h op ps)

theorem fresh_empty : empty.Fresh := fun _ _ h => by cases h

theorem fresh_leftParen : (s.wait .leftParen).Fresh := fun _ _ h => by cases h

theorem Settled.push (h : s.Settled) (x : Float) : s.push x = .ok ⟨x :: s.operands, s.pending⟩ := by
  obtain ⟨xs, ps⟩ := s
  unfold Stacks.push
  split
  · rename_i op ps' hp
    rw [if_neg (by simp [h op ps' hp])]
    rfl
  · rfl

/-- An operand in parentheses is pushed like any other when the parenthesis closes. -/
theorem reduce_eq_push (xs : List Float) (ps : List Pending) (x : Float) :
    reduce ⟨x :: xs, ps⟩ Operator.isMultiplicative = push ⟨xs, ps⟩ x := by
  unfold reduce Stacks.push
  rcases ps with _ | ⟨⟨op⟩ | _, ps⟩
  · rfl
  · cases op <;> cases xs <;> rfl
  · rfl

theorem push_wait_multiplicative {op : Operator} (h : op.isMultiplicative = true) (x y : Float) :
    push (wait ⟨x :: s.operands, s.pending⟩ (.operator op)) y =
      op.apply x y >>= fun z => .ok ⟨z :: s.operands, s.pending⟩ := by
  simp only [push, wait, h, if_true]
  rfl

theorem reduceAdditive_wait {op : Operator} (h : op.isMultiplicative = false) (x y : Float) :
    reduceAdditive ⟨y :: x :: s.operands, .operator op :: s.pending⟩ =
      op.apply x y >>= fun z => .ok ⟨z :: s.operands, s.pending⟩ := by
  simp only [reduceAdditive, reduce, h, Bool.not_false, if_true]
  rfl

theorem Fresh.reduceAdditive (h : s.Fresh) (x : Float) :
    Stacks.reduceAdditive ⟨x :: s.operands, s.pending⟩ = .ok ⟨x :: s.operands, s.pending⟩ := by
  obtain ⟨xs, ps⟩ := s
  unfold Stacks.reduceAdditive reduce
  split
  · rename_i op ps' hp
    exact absurd hp (h op ps')
  · rfl

end Stacks

/-! ## Operators in trees -/

section

variable {op : Operator}

theorem Expression.value_combine (left : Expression) (additive : op.isMultiplicative = false)
    (right : Term) : (Expression.combine left op additive right).value lookup =
      left.value lookup >>= fun x => right.value lookup >>= fun y => op.apply x y := by
  cases op with
  | add => rfl
  | subtract => rfl
  | multiply => cases additive
  | divide => cases additive

theorem Term.value_combine (left : Term) (multiplicative : op.isMultiplicative = true)
    (right : Factor) : (Term.combine left op multiplicative right).value lookup =
      left.value lookup >>= fun x => right.value lookup >>= fun y => op.apply x y := by
  cases op with
  | add => cases multiplicative
  | subtract => cases multiplicative
  | multiply => rfl
  | divide => rfl

end

/-! ## Tokens of trees -/

open Stacks

mutual

theorem Expression.readAll_tokens (e : Expression) {s : Stacks} (hs : s.Fresh) :
    (s.readAll lookup e.tokens >>= reduceAdditive) =
      e.value lookup >>= fun x => .ok ⟨x :: s.operands, s.pending⟩ := by
  cases e with
  | term t =>
    simp only [Expression.tokens, Expression.value, t.readAll_tokens hs.settled, bind_assoc,
      Except.ok_bind, hs.reduceAdditive]
  | combine left op additive right =>
    have hop (x : Float) : Settled (wait ⟨x :: s.operands, s.pending⟩ (.operator op)) := by
      rintro op' ps ⟨⟩
      exact additive
    have hstep (s : Stacks) : s.step lookup (.operator op) =
        s.reduceAdditive >>= fun s => .ok (s.wait (.operator op)) := by
      simp only [step, additive, Bool.false_eq_true, if_false]
      rfl
    calc (s.readAll lookup (left.tokens ++ Token.operator op :: right.tokens) >>= reduceAdditive)
        = (s.readAll lookup left.tokens >>= reduceAdditive) >>= fun s =>
            (s.wait (.operator op)).readAll lookup right.tokens >>= reduceAdditive := by
          simp only [readAll_append, readAll_cons _ (.operator op), hstep, bind_assoc,
            Except.ok_bind]
      _ = left.value lookup >>= fun x => right.value lookup >>= fun y =>
            reduceAdditive ⟨y :: x :: s.operands, .operator op :: s.pending⟩ := by
          simp only [left.readAll_tokens hs, right.readAll_tokens (hop _), bind_assoc,
            Except.ok_bind]
          rfl
      _ = _ := by
          simp only [reduceAdditive_wait additive, Expression.value_combine, bind_assoc]

theorem Term.readAll_tokens (t : Term) {s : Stacks} (hs : s.Settled) :
    s.readAll lookup t.tokens = t.value lookup >>= fun x => .ok ⟨x :: s.operands, s.pending⟩ := by
  cases t with
  | factor f => simp only [Term.tokens, Term.value, f.readAll_tokens, hs.push]
  | combine left op multiplicative right =>
    have hstep (s : Stacks) : s.step lookup (.operator op) = .ok (s.wait (.operator op)) := by
      simp only [step, multiplicative, if_true]
      rfl
    simp only [Term.tokens, Term.value_combine, readAll_append, readAll_cons _ (.operator op),
      left.readAll_tokens hs, hstep, right.readAll_tokens,
      push_wait_multiplicative multiplicative, bind_assoc, Except.ok_bind]

theorem Factor.readAll_tokens (f : Factor) {s : Stacks} :
    s.readAll lookup f.tokens = f.value lookup >>= fun x => s.push x := by
  cases f with
  | number value => exact readAll_singleton _
  | var name =>
    rw [Factor.tokens, readAll_singleton, step, Factor.value]
    cases lookup name <;> rfl
  | paren e =>
    have hclose (s' : Stacks) : s'.step lookup .rightParen =
        s'.reduceAdditive >>= closeParen >>= fun s => s.reduce Operator.isMultiplicative := by
      simp only [step, bind_assoc]
    calc s.readAll lookup (.leftParen :: (e.tokens ++ [.rightParen]))
        = ((s.wait .leftParen).readAll lookup e.tokens >>= reduceAdditive) >>= closeParen >>=
            fun s => s.reduce Operator.isMultiplicative := by
          simp only [readAll_cons s .leftParen, readAll_append, readAll_singleton, hclose,
            bind_assoc]
          rfl
      _ = e.value lookup >>= fun x =>
            reduce ⟨x :: s.operands, s.pending⟩ Operator.isMultiplicative := by
          simp only [e.readAll_tokens fresh_leftParen, bind_assoc, Except.ok_bind]
          rfl
      _ = _ := by
          simp only [reduce_eq_push, Factor.value]

end

theorem evaluate_eq_result {f : Formula} {e : Expression} (h : e.tokens = f.tokens) :
    f.evaluate lookup = e.result lookup := by
  have hr : (Stacks.empty.readAll lookup f.tokens >>= reduceAdditive) =
      e.value lookup >>= fun x => .ok ⟨[x], []⟩ := h ▸ e.readAll_tokens fresh_empty
  have hf : f.evaluate lookup = Stacks.empty.readAll lookup f.tokens >>= Stacks.result := rfl
  unfold Stacks.result at hf
  rw [hf, ← bind_assoc, hr, bind_assoc]
  rfl

/-! ## Reasons -/

/-- What can leave a formula without a number, and the text that says so. -/
inductive Reason (lookup : String → Option Float) : EvaluationError → String → Prop
  | undefinedVariable {name : String} (undefined : lookup name = none) :
      Reason lookup (.undefinedVariable name) ("undefined variable '" ++ name ++ "'")
  | divisionByZero : Reason lookup .divisionByZero "division by zero"
  | notFinite : Reason lookup .notFinite "result is not a finite number"

def Reasoned {α : Type} (lookup : String → Option Float) (r : Except EvaluationError α) : Prop :=
  ∀ err, r = .error err → Reason lookup err err.message

theorem Reasoned.ok {α : Type} (a : α) : Reasoned lookup (.ok a) := nofun

theorem Reason.reasoned {α : Type} {err : EvaluationError} (h : Reason lookup err err.message) :
    Reasoned lookup (.error err : Except EvaluationError α) := by
  rintro _ ⟨⟩
  exact h

theorem Reasoned.bind {α β : Type} {r : Except EvaluationError α}
    {f : α → Except EvaluationError β} (hr : Reasoned lookup r)
    (hf : ∀ a, Reasoned lookup (f a)) : Reasoned lookup (r >>= f) := by
  cases r with
  | error err => exact (hr err rfl).reasoned
  | ok a => exact hf a

theorem reasoned_apply (op : Operator) (x y : Float) : Reasoned lookup (op.apply x y) := by
  cases op with
  | divide =>
    rw [Operator.apply]
    split
    · exact Reason.divisionByZero.reasoned
    · exact .ok _
  | _ => exact .ok _

mutual

theorem Expression.reasoned_value (e : Expression) : Reasoned lookup (e.value lookup) := by
  cases e with
  | term t => exact t.reasoned_value
  | combine left op additive right =>
    rw [Expression.value_combine]
    exact left.reasoned_value.bind fun x =>
      right.reasoned_value.bind fun y => reasoned_apply op x y

theorem Term.reasoned_value (t : Term) : Reasoned lookup (t.value lookup) := by
  cases t with
  | factor f => exact f.reasoned_value
  | combine left op multiplicative right =>
    rw [Term.value_combine]
    exact left.reasoned_value.bind fun x =>
      right.reasoned_value.bind fun y => reasoned_apply op x y

theorem Factor.reasoned_value (f : Factor) : Reasoned lookup (f.value lookup) := by
  cases f with
  | number value => exact .ok value
  | var name =>
    rw [Factor.value]
    cases hx : lookup name with
    | some x => exact .ok x
    | none => exact (Reason.undefinedVariable hx).reasoned
  | paren e => exact e.reasoned_value

end

theorem Expression.reasoned_result (e : Expression) : Reasoned lookup (e.result lookup) := by
  refine e.reasoned_value.bind fun x => ?_
  split
  · exact .ok x
  · exact Reason.notFinite.reasoned

theorem Reasoned.ne_malformed {α : Type} {r : Except EvaluationError α} (h : Reasoned lookup r) :
    r ≠ .error .malformed := by
  intro hr
  cases h _ hr

/-- Accepted text spells one tree, and whatever numbers its variables have, evaluation gives the
number or the first error of this tree; the stacks are never found out of step. The text of an error
is that of its reason. -/
theorem evaluate_parsed {rules : VariableRules} {text : String} {f : Formula}
    (h : parse rules text = .ok f) :
    ∃ e : Expression, (∀ e' : Expression, e'.tokens = f.tokens ↔ e' = e) ∧
      ∀ lookup : String → Option Float, f.evaluate lookup = e.result lookup ∧
        f.evaluate lookup ≠ .error .malformed ∧
        ∀ err, f.evaluate lookup = .error err → Reason lookup err err.message := by
  obtain ⟨e, he⟩ := (ofLexemes_eq_ok_iff.mp h).2
  refine ⟨e, fun e' => ⟨fun he' => Expression.tokens_injective (he'.trans he.symm), ?_⟩, ?_⟩
  · rintro rfl
    exact he
  · intro lookup
    rw [evaluate_eq_result he]
    exact ⟨rfl, e.reasoned_result.ne_malformed, e.reasoned_result⟩

/-- Quotients and differences are taken from the left. With zeros for all variables, the first thing
to go wrong is a division. -/
theorem evaluate_parsed_nested :
    ∃ f, parse .free "a-b/c/c*(b-a)" = .ok f ∧
      f.evaluate (fun v => if v = "a" then some 1 else if v = "b" then some 8 else some 2) =
        .ok (-13) ∧
      f.evaluate (fun _ => some 0) = .error .divisionByZero ∧
      ∃ e : Expression, (∀ e' : Expression, e'.tokens = f.tokens ↔ e' = e) ∧
        ∀ lookup : String → Option Float, f.evaluate lookup = e.result lookup ∧
          f.evaluate lookup ≠ .error .malformed ∧
          ∀ err, f.evaluate lookup = .error err → Reason lookup err err.message := by
  have h : parse .free "a-b/c/c*(b-a)" =
      .ok ⟨[.var "a", .operator .subtract, .var "b", .operator .divide, .var "c",
        .operator .divide, .var "c", .operator .multiply, .leftParen, .var "b",
        .operator .subtract, .var "a", .rightParen]⟩ := by cbv
  exact ⟨_, h, by decide +kernel, by decide +kernel, evaluate_parsed h⟩

end Spreadsheet.Formula
