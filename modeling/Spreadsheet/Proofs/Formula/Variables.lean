import Spreadsheet.Proofs.Formula.Evaluation
import Spreadsheet.Proofs.Formula.Text

/-! # Variables of formulas

Evaluation looks up the variables that the formula lists and no others, and gives a number only where
each of them has one. Each passed the rules that the formula was checked under.
-/

namespace Spreadsheet.Formula

variable {lookup lookup' : String → Option Float} {v : String}

theorem mem_mentions_iff {ts : List Token} : v ∈ mentions ts ↔ Token.var v ∈ ts := by
  simp only [mentions, List.mem_filterMap]
  constructor
  · rintro ⟨t, ht, hv⟩
    cases t <;> simp at hv
    exact hv ▸ ht
  · exact fun h => ⟨_, h, rfl⟩

theorem mem_variableNames_iff {f : Formula} : v ∈ f.variableNames ↔ Token.var v ∈ f.tokens := by
  rw [variableNames, List.mem_eraseDups, mem_mentions_iff]

theorem exists_normalize_of_parse {rules : VariableRules} {s : String} {f : Formula}
    (h : parse rules s = .ok f) (hv : .var v ∈ f.tokens) :
    ∃ name, rules.normalize name = v ∧ rules.isValid v = true := by
  obtain ⟨hf, -⟩ := ofLexemes_eq_ok_iff.mp h
  obtain ⟨l, -, hl⟩ := exists_stands hf hv
  cases hl with
  | @var name valid => exact ⟨name, rfl, valid⟩

theorem Stacks.readAll_congr {s : Stacks} {ts : List Token}
    (h : ∀ v, Token.var v ∈ ts → lookup v = lookup' v) :
    s.readAll lookup ts = s.readAll lookup' ts := by
  induction ts generalizing s with
  | nil => rfl
  | cons t ts ih =>
    have hstep : s.step lookup t = s.step lookup' t := by
      cases t with
      | var v => simp only [step, h v List.mem_cons_self]
      | _ => rfl
    rw [readAll_cons, readAll_cons, hstep]
    congr 1
    funext s'
    exact ih fun v hv => h v (List.mem_cons_of_mem _ hv)

theorem evaluate_congr {f : Formula} (h : ∀ v ∈ f.variableNames, lookup v = lookup' v) :
    f.evaluate lookup = f.evaluate lookup' := by
  have hr : Stacks.empty.readAll lookup f.tokens = Stacks.empty.readAll lookup' f.tokens :=
    Stacks.readAll_congr fun v hv => h v (mem_variableNames_iff.mpr hv)
  exact congrArg (· >>= Stacks.result) hr

/-- Reading stops at the first variable that has no number. -/
theorem Stacks.exists_lookup_of_readAll {s s' : Stacks} {ts : List Token}
    (h : s.readAll lookup ts = .ok s') (hv : Token.var v ∈ ts) : ∃ x, lookup v = some x := by
  induction ts generalizing s with
  | nil => cases hv
  | cons t ts ih =>
    rw [readAll_cons] at h
    obtain ⟨next, hstep, hrest⟩ := Except.bind_eq_ok_iff.mp h
    rcases List.mem_cons.mp hv with rfl | hv
    · rw [step] at hstep
      split at hstep
      · rename_i x hx
        exact ⟨x, hx⟩
      · cases hstep
    · exact ih hrest hv

theorem exists_lookup_of_evaluate {f : Formula} {x : Float} (h : f.evaluate lookup = .ok x)
    (hv : v ∈ f.variableNames) : ∃ y, lookup v = some y := by
  obtain ⟨s, hs, -⟩ := Except.bind_eq_ok_iff.mp h
  exact Stacks.exists_lookup_of_readAll hs (mem_variableNames_iff.mp hv)

end Spreadsheet.Formula
