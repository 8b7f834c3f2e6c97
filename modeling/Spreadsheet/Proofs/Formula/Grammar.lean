import Spreadsheet.Formula.Expression
import Spreadsheet.Proofs.Except

/-! # Formulas and the grammar

The check goes through the lexemes once and knows only whether an operand is expected and how many
parentheses are open. It lets through exactly the lexemes that spell the tokens of an expression.
-/

namespace Spreadsheet.Formula

variable {rules : VariableRules} {p q : Position} {ts rest : List Token}

namespace Position

/-- The token has a place here. -/
def Admits (p : Position) : Token → Prop
  | .number _ | .var _ | .leftParen => p.expectsOperand = true
  | .operator _ => p.expectsOperand = false
  | .rightParen => p.expectsOperand = false ∧ p.depth ≠ 0

/-- The tokens, one after the other, have their places from here to the end of a formula. -/
def Completes (p : Position) : List Token → Prop
  | [] => p.expectsOperand = false ∧ p.depth = 0
  | t :: ts => p.Admits t ∧ (p.after t).Completes ts

def behindOperand (depth : ℕ) : Position := ⟨some .rightParen, depth⟩

@[simp] theorem expectsOperand_behindOperand (d : ℕ) :
    (behindOperand d).expectsOperand = false := rfl

@[simp] theorem depth_behindOperand (d : ℕ) : (behindOperand d).depth = d := rfl

theorem place_eq_ok_iff {l : Lexeme} {t : Token} :
    p.place rules l = .ok t ↔ Stands rules l t ∧ p.Admits t := by
  constructor
  · intro h
    cases l with
    | leftParen =>
      simp only [place] at h
      split at h <;> cases h
      rename_i hp
      exact ⟨.leftParen, not_not.mp hp⟩
    | rightParen =>
      simp only [place] at h
      split at h
      · cases h
      · split at h <;> cases h
        rename_i hp hd
        exact ⟨.rightParen, Bool.eq_false_iff.mpr hp, hd⟩
    | operator op =>
      simp only [place] at h
      split at h <;> cases h
      rename_i hp
      exact ⟨.operator op, Bool.eq_false_iff.mpr hp⟩
    | var name =>
      simp only [place] at h
      split at h
      · cases h
      · split at h <;> cases h
        rename_i hp hv
        exact ⟨.var (not_not.mp hv), not_not.mp hp⟩
    | number value text =>
      simp only [place] at h
      split at h
      · cases h
      · split at h <;> cases h
        rename_i hf hp
        exact ⟨.number text (not_not.mp hf), not_not.mp hp⟩
    | other text => cases h
  · rintro ⟨hs, ha⟩
    cases hs <;> simp_all [Admits, place]

theorem finish_eq_ok_iff : p.finish = .ok () ↔ p.expectsOperand = false ∧ p.depth = 0 := by
  obtain ⟨last, depth⟩ := p
  cases last with
  | none => simp [finish, expectsOperand]
  | some t =>
    cases ht : t.isOpener with
    | true => simp [finish, expectsOperand, ht]
    | false => by_cases hd : depth = 0 <;> simp [finish, expectsOperand, ht, hd]

theorem check_eq_ok_iff {ls : List Lexeme} :
    p.check rules ls = .ok ts ↔ List.Forall₂ (Stands rules) ls ts ∧ p.Completes ts := by
  induction ls generalizing p ts with
  | nil =>
    simp only [check, Except.bind_eq_ok_iff, List.forall₂_nil_left_iff, Except.pure_eq_ok,
      Except.ok.injEq]
    constructor
    · rintro ⟨_, hf, rfl⟩
      exact ⟨rfl, finish_eq_ok_iff.mp hf⟩
    · rintro ⟨rfl, hc⟩
      exact ⟨(), finish_eq_ok_iff.mpr hc, rfl⟩
  | cons l ls ih =>
    simp only [check, Except.bind_eq_ok_iff, place_eq_ok_iff, ih, Except.pure_eq_ok,
      Except.ok.injEq]
    constructor
    · rintro ⟨t, ⟨hs, ha⟩, us, ⟨hf, hc⟩, rfl⟩
      exact ⟨.cons hs hf, ha, hc⟩
    · rintro ⟨_ | ⟨hs, hf⟩, hc⟩
      exact ⟨_, ⟨hs, hc.1⟩, _, ⟨hf, hc.2⟩, rfl⟩

theorem admits_congr (he : p.expectsOperand = q.expectsOperand) (hd : p.depth = q.depth)
    (t : Token) : p.Admits t ↔ q.Admits t := by
  cases t <;> simp only [Admits, he, hd]

theorem completes_congr (he : p.expectsOperand = q.expectsOperand) (hd : p.depth = q.depth) :
    p.Completes ts ↔ q.Completes ts := by
  induction ts generalizing p q with
  | nil => simp only [Completes, he, hd]
  | cons t ts ih =>
    have h : (p.after t).Completes ts ↔ (q.after t).Completes ts := by
      cases t <;> exact ih rfl (by simp [after, hd])
    simp only [Completes, admits_congr he hd, h]

theorem completes_operand_iff {t : Token} (ht : t.isOpener = false) (hr : t ≠ .rightParen)
    (hp : p.expectsOperand = true) :
    p.Completes (t :: rest) ↔ (behindOperand p.depth).Completes rest := by
  have ha : p.Admits t := by cases t <;> simp_all [Admits, Token.isOpener]
  have hc : (p.after t).Completes rest ↔ (behindOperand p.depth).Completes rest := by
    cases t <;> first | exact completes_congr rfl rfl | simp_all [Token.isOpener]
  simp only [Completes, ha, true_and, hc]

theorem completes_operator_iff {op : Operator} {d : ℕ} :
    (behindOperand d).Completes (Token.operator op :: rest) ↔
      Completes ⟨some (.operator op), d⟩ rest := by
  simp only [Completes, Admits, after, expectsOperand_behindOperand, depth_behindOperand, true_and]

theorem completes_rightParen_iff {d : ℕ} :
    (behindOperand d).Completes (.rightParen :: rest) ↔
      ∃ d', d = d' + 1 ∧ (behindOperand d').Completes rest := by
  cases d with
  | zero => simp [Completes, Admits]
  | succ d => simp [Completes, Admits, after, behindOperand, expectsOperand, Token.isOpener]

end Position

open Position

/-! ## Expressions complete a formula -/

mutual

theorem Expression.completes_iff (e : Expression) {p : Position} {rest : List Token}
    (hp : p.expectsOperand = true) :
    p.Completes (e.tokens ++ rest) ↔ (behindOperand p.depth).Completes rest := by
  cases e with
  | term t => exact t.completes_iff hp
  | combine left op _ right =>
    rw [Expression.tokens, List.append_assoc, left.completes_iff hp, List.cons_append,
      completes_operator_iff]
    exact right.completes_iff rfl

theorem Term.completes_iff (t : Term) {p : Position} {rest : List Token}
    (hp : p.expectsOperand = true) :
    p.Completes (t.tokens ++ rest) ↔ (behindOperand p.depth).Completes rest := by
  cases t with
  | factor f => exact f.completes_iff hp
  | combine left op _ right =>
    rw [Term.tokens, List.append_assoc, left.completes_iff hp, List.cons_append,
      completes_operator_iff]
    exact right.completes_iff rfl

theorem Factor.completes_iff (f : Factor) {p : Position} {rest : List Token}
    (hp : p.expectsOperand = true) :
    p.Completes (f.tokens ++ rest) ↔ (behindOperand p.depth).Completes rest := by
  cases f with
  | number value => exact completes_operand_iff rfl (by simp) hp
  | var name => exact completes_operand_iff rfl (by simp) hp
  | paren e =>
    have hin : (p.after .leftParen).Completes (e.tokens ++ Token.rightParen :: rest) ↔
        (behindOperand p.depth).Completes rest := by
      rw [e.completes_iff rfl, completes_rightParen_iff]
      simp [after]
    simp only [Factor.tokens, List.cons_append, List.append_assoc, List.nil_append, Completes,
      Admits, hp, true_and, hin]

end

/-! ## Every completed formula is an expression -/

namespace Expression

/-- Continue an expression by an operator and a factor, which a multiplicative operator joins to the
last term. -/
def extend (e : Expression) (op : Operator) (f : Factor) : Expression :=
  if h : op.isMultiplicative = true then
    match e with
    | term t => term (t.combine op h f)
    | combine left op' h' right => combine left op' h' (right.combine op h f)
  else combine e op (Bool.eq_false_iff.mpr h) (.factor f)

theorem tokens_extend (e : Expression) (op : Operator) (f : Factor) :
    (e.extend op f).tokens = e.tokens ++ Token.operator op :: f.tokens := by
  unfold extend
  split
  · cases e <;> simp [tokens, Term.tokens]
  · simp [tokens, Term.tokens]

end Expression

/-- An expression is read up to the end of the formula or up to the parenthesis that closes the
last one open. -/
def Ends (depth : ℕ) (rest : List Token) : Prop :=
  (rest = [] ∧ depth = 0) ∨
    ∃ d rest', rest = .rightParen :: rest' ∧ depth = d + 1 ∧ (behindOperand d).Completes rest'

theorem exists_expression_of_factors {n : ℕ}
    (factor : ∀ {p : Position} {ts : List Token}, ts.length < n → p.expectsOperand = true →
      p.Completes ts → ∃ (f : Factor) (rest : List Token), ts = f.tokens ++ rest ∧
        (behindOperand p.depth).Completes rest)
    {d : ℕ} (hl : ts.length ≤ n) (h : (behindOperand d).Completes ts) (e : Expression) :
    ∃ (e' : Expression) (rest : List Token), e.tokens ++ ts = e'.tokens ++ rest ∧ Ends d rest := by
  induction hk : ts.length using Nat.strongRecOn generalizing ts e with
  | ind k ih =>
    cases ts with
    | nil => exact ⟨e, [], rfl, .inl ⟨rfl, h.2⟩⟩
    | cons t ts =>
      simp only [List.length_cons] at hl hk
      cases t with
      | leftParen => exact absurd h.1 (by simp [Admits])
      | var name => exact absurd h.1 (by simp [Admits])
      | number value => exact absurd h.1 (by simp [Admits])
      | rightParen =>
        obtain ⟨d', hd, hc⟩ := completes_rightParen_iff.mp h
        exact ⟨e, _, rfl, .inr ⟨d', ts, rfl, hd, hc⟩⟩
      | operator op =>
        obtain ⟨f, rest, rfl, hc⟩ := factor hl rfl (completes_operator_iff.mp h)
        have hf : rest.length < k := by simp only [List.length_append] at hk; omega
        obtain ⟨e', rest', he, hends⟩ := ih _ hf (by omega) hc (e.extend op f) rfl
        refine ⟨e', rest', ?_, hends⟩
        rw [← he, Expression.tokens_extend]
        simp

theorem exists_factor (h : p.Completes ts) (hp : p.expectsOperand = true) :
    ∃ (f : Factor) (rest : List Token), ts = f.tokens ++ rest ∧
      (behindOperand p.depth).Completes rest := by
  induction hk : ts.length using Nat.strongRecOn generalizing p ts with
  | ind k ih =>
    cases ts with
    | nil => exact absurd h.1 (by simp [hp])
    | cons t ts =>
      cases t with
      | rightParen => exact absurd h.1.1 (by simp [hp])
      | operator op => exact absurd h.1 (by simp [Admits, hp])
      | number value =>
        exact ⟨.number value, ts, rfl, (completes_operand_iff rfl (by simp) hp).mp h⟩
      | var name =>
        exact ⟨.var name, ts, rfl, (completes_operand_iff rfl (by simp) hp).mp h⟩
      | leftParen =>
        simp only [List.length_cons] at hk
        obtain ⟨f, rest, rfl, hc⟩ := ih _ (by omega) h.2 rfl rfl
        simp only [List.length_append] at hk
        have factor {q : Position} {us : List Token} (hu : us.length < rest.length + 1)
            (hq : q.expectsOperand = true) (hc : q.Completes us) :=
          ih us.length (by omega) hc hq rfl
        obtain ⟨e, rest', he, hends⟩ :=
          exists_expression_of_factors factor (by omega) hc (.term (.factor f))
        obtain ⟨-, hd⟩ | ⟨d, rest'', rfl, hd, hc'⟩ := hends
        · simp [after] at hd
        · obtain rfl : p.depth = d := by simpa [after] using hd
          refine ⟨.paren e, rest'', ?_, hc'⟩
          simp only [Expression.tokens, Term.tokens] at he
          simp [Factor.tokens, he]

theorem isExpression_iff_completes : IsExpression ts ↔ Position.start.Completes ts := by
  constructor
  · rintro ⟨e, rfl⟩
    have h : Position.start.Completes (e.tokens ++ []) := (e.completes_iff rfl).mpr ⟨rfl, rfl⟩
    simpa using h
  · intro h
    obtain ⟨f, rest, rfl, hc⟩ := exists_factor h rfl
    obtain ⟨e, rest', he, hends⟩ :=
      exists_expression_of_factors (fun _ hp hc => exists_factor hc hp) (Nat.le_refl _) hc
        (.term (.factor f))
    obtain ⟨rfl, -⟩ | ⟨d, _, _, hd, -⟩ := hends
    · exact ⟨e, by simpa [Expression.tokens, Term.tokens] using he.symm⟩
    · simp [start] at hd

theorem ofLexemes_eq_ok_iff {ls : List Lexeme} {f : Formula} :
    ofLexemes rules ls = .ok f ↔ Sentence rules ls f.tokens := by
  simp only [ofLexemes, Except.map_eq_ok_iff, check_eq_ok_iff, Sentence,
    isExpression_iff_completes]
  constructor
  · rintro ⟨ts, h, rfl⟩
    exact h
  · intro h
    exact ⟨f.tokens, h, rfl⟩

/-- Formula text is accepted exactly when its lexemes spell an expression, and then its tokens are
those of the expression. -/
theorem parse_eq_ok_iff_sentence (rules : VariableRules) (text : String) (f : Formula) :
    parse rules text = .ok f ↔ Sentence rules (tokenize text) f.tokens :=
  ofLexemes_eq_ok_iff

end Spreadsheet.Formula
