import Spreadsheet.Proofs.Formula.Grammar

/-! # One tree for one formula

An expression is its first factor and the operators and factors that extend it, in order. Factors
delimit themselves, so tokens spell at most one expression.
-/

namespace Spreadsheet.Formula

abbrev Link := Operator × Factor

def Link.tokens (l : Link) : List Token := Token.operator l.1 :: l.2.tokens

def extendAll (e : Expression) (ls : List Link) : Expression :=
  ls.foldl (fun e l => e.extend l.1 l.2) e

theorem extendAll_append (e : Expression) (ls ms : List Link) :
    extendAll e (ls ++ ms) = extendAll (extendAll e ls) ms := List.foldl_append

namespace Term

/-- The first factor of a term and the links behind it. -/
def chain : Term → Factor × List Link
  | factor f => (f, [])
  | combine left op _ right => (left.chain.1, left.chain.2 ++ [(op, right)])

theorem tokens_chain (t : Term) : t.chain.1.tokens ++ t.chain.2.flatMap Link.tokens = t.tokens := by
  cases t with
  | factor f => simp [chain, tokens]
  | combine left op _ right =>
    have ih := left.tokens_chain
    simp [chain, tokens, ← ih, Link.tokens]

theorem extendAll_chain (t : Term) :
    extendAll (.term (.factor t.chain.1)) t.chain.2 = .term t := by
  cases t with
  | factor f => rfl
  | combine left op h right =>
    rw [chain, extendAll_append, left.extendAll_chain]
    simp [extendAll, Expression.extend, h]

theorem extendAll_combine_chain (t : Term) (e : Expression) (op : Operator)
    (h : op.isMultiplicative = false) :
    extendAll (.combine e op h (.factor t.chain.1)) t.chain.2 = .combine e op h t := by
  cases t with
  | factor f => rfl
  | combine left op' h' right =>
    rw [chain, extendAll_append, left.extendAll_combine_chain]
    simp [extendAll, Expression.extend, h']

end Term

namespace Expression

def chain : Expression → Factor × List Link
  | term t => t.chain
  | combine left op _ right => (left.chain.1, left.chain.2 ++ (op, right.chain.1) :: right.chain.2)

theorem tokens_chain (e : Expression) :
    e.chain.1.tokens ++ e.chain.2.flatMap Link.tokens = e.tokens := by
  cases e with
  | term t => exact t.tokens_chain
  | combine left op _ right =>
    have ih := left.tokens_chain
    simp [chain, tokens, ← ih, ← right.tokens_chain, Link.tokens]

theorem extendAll_chain (e : Expression) :
    extendAll (.term (.factor e.chain.1)) e.chain.2 = e := by
  cases e with
  | term t => exact t.extendAll_chain
  | combine left op h right =>
    rw [chain, extendAll_append, left.extendAll_chain]
    simpa [extendAll, extend, h] using right.extendAll_combine_chain left op h

theorem chain_injective {e e' : Expression} (h : e.chain = e'.chain) : e = e' := by
  rw [← e.extendAll_chain, ← e'.extendAll_chain, h]

end Expression

/-- No operator stands in front: the tokens do not continue an expression. -/
def Stops (ts : List Token) : Prop := ∀ op us, ts ≠ .operator op :: us

variable {ts us : List Token}

theorem links_eq_of_append_eq {n : ℕ}
    (factor : ∀ {f g : Factor} {ts us : List Token}, f.tokens.length < n →
      f.tokens ++ ts = g.tokens ++ us → f = g ∧ ts = us)
    {ls ms : List Link} (hn : (ls.flatMap Link.tokens).length ≤ n) (ht : Stops ts) (hu : Stops us)
    (h : ls.flatMap Link.tokens ++ ts = ms.flatMap Link.tokens ++ us) : ls = ms ∧ ts = us := by
  induction ls generalizing ms with
  | nil =>
    cases ms with
    | nil => exact ⟨rfl, h⟩
    | cons m ms => exact absurd h (ht _ _)
  | cons l ls ih =>
    cases ms with
    | nil => exact absurd h.symm (hu _ _)
    | cons m ms =>
      simp only [List.flatMap_cons, Link.tokens, List.cons_append, List.append_assoc,
        List.cons.injEq, Token.operator.injEq] at h
      simp only [List.flatMap_cons, Link.tokens, List.length_append, List.length_cons] at hn
      obtain ⟨hop, h⟩ := h
      obtain ⟨hf, hr⟩ := factor (by omega) h
      obtain ⟨rfl, rfl⟩ := ih (by omega) hr
      exact ⟨congrArg (· :: ls) (Prod.ext hop hf), rfl⟩

theorem Factor.eq_of_append_eq {f g : Factor} (h : f.tokens ++ ts = g.tokens ++ us) :
    f = g ∧ ts = us := by
  induction hn : f.tokens.length using Nat.strongRecOn generalizing f g ts us with
  | ind n ih =>
    cases f <;> cases g <;> simp only [Factor.tokens, List.cons_append, List.nil_append,
      List.append_assoc, List.cons.injEq, reduceCtorEq, false_and] at h
    case number x y => simpa using h
    case var v w => simpa using h
    case paren e e' =>
      obtain ⟨-, h⟩ := h
      rw [← e.tokens_chain, ← e'.tokens_chain, List.append_assoc, List.append_assoc] at h
      have hl : e.chain.1.tokens.length + (e.chain.2.flatMap Link.tokens).length < n := by
        rw [← hn, ← List.length_append, e.tokens_chain]
        simp only [Factor.tokens, List.length_cons, List.length_append]
        omega
      obtain ⟨hf, hr⟩ := ih _ (by omega) h rfl
      obtain ⟨hls, hr⟩ := links_eq_of_append_eq
        (fun hlt h => ih _ (Nat.lt_trans hlt (by omega)) h rfl) (Nat.le_refl _)
        (by simp [Stops]) (by simp [Stops]) hr
      have he := Expression.chain_injective (Prod.ext hf hls)
      exact ⟨congrArg paren he, by simpa using hr⟩

theorem Expression.tokens_injective {e e' : Expression} (h : e.tokens = e'.tokens) : e = e' := by
  have h : e.chain.1.tokens ++ (e.chain.2.flatMap Link.tokens ++ []) =
      e'.chain.1.tokens ++ (e'.chain.2.flatMap Link.tokens ++ []) := by
    simpa [Expression.tokens_chain] using h
  obtain ⟨hf, hr⟩ := Factor.eq_of_append_eq h
  obtain ⟨hls, -⟩ := links_eq_of_append_eq (fun _ h => Factor.eq_of_append_eq h) (Nat.le_refl _)
    (by simp [Stops]) (by simp [Stops]) hr
  exact chain_injective (Prod.ext hf hls)

end Spreadsheet.Formula
