import Spreadsheet.Proofs.Sheet.Values

/-! # Numbers behind numbers

A formula has a number only where each variable that it lists has one. In a reachable sheet the
number of a formula cell therefore rests on numbers along every reference behind it, however far
back this goes.
-/

namespace Spreadsheet.Sheet

open Relation (TransGen)

variable {sheet : Sheet} {a s t : CellName} {x : Float}

theorem Consistent.exists_number_of_mentions (h : sheet.Consistent) (hm : sheet.Mentions s t)
    (hx : sheet.number? t = some x) : ∃ y, sheet.number? s = some y := by
  obtain ⟨c, hcell⟩ := number?_eq_some_iff.mp hx
  obtain ⟨_, hcell', f, hf, hs⟩ := hm
  rw [hcell] at hcell'
  cases hcell'
  obtain rfl : c = .formula f := hf
  have hv := h t _ hcell
  rw [Content.evaluate] at hv
  split at hv
  · rename_i y hy
    rw [← lookup_text]
    exact Formula.exists_lookup_of_evaluate hy (Formula.mem_variableNames_iff.mpr hs)
  · cases hv

theorem Consistent.exists_number_of_transGen (h : sheet.Consistent)
    (hm : TransGen sheet.Mentions s t) (hx : sheet.number? t = some x) :
    ∃ y, sheet.number? s = some y := by
  induction hm using TransGen.head_induction_on with
  | single hm => exact h.exists_number_of_mentions hm hx
  | head hm _ ih =>
    obtain ⟨y, hy⟩ := ih
    exact h.exists_number_of_mentions hm hy

/-- Evaluation reads the variables that a formula lists and no others. Where two lookups agree on
them the result is the same, number or error, and it is a number only where each of them has one. So
in a reachable sheet a formula cell has a number only if every cell that it mentions, directly or
through others, is stored and has a number. -/
theorem exists_number_of_reachable :
    (∀ (f : Formula) (lookup lookup' : String → Option Float),
      (∀ v ∈ f.variableNames, lookup v = lookup' v) → f.evaluate lookup = f.evaluate lookup') ∧
    (∀ (f : Formula) (lookup : String → Option Float) (x : Float), f.evaluate lookup = .ok x →
      ∀ v ∈ f.variableNames, ∃ y, lookup v = some y) ∧
    ∀ sheet : Sheet, Reachable sheet → ∀ (t : CellName) (f : Formula) (x : Float),
      sheet.cells[t]? = some ⟨.formula f, .number x⟩ →
      ∀ s, TransGen sheet.Mentions s t → ∃ c y, sheet.cells[s]? = some ⟨c, .number y⟩ := by
  refine ⟨?_, ?_, ?_⟩
  · intro f lookup lookup' h
    exact Formula.evaluate_congr h
  · intro f lookup x h v hv
    exact Formula.exists_lookup_of_evaluate h hv
  · intro sheet h t f x hcell s hm
    have hx : sheet.number? t = some x := number?_eq_some_iff.mpr ⟨_, hcell⟩
    obtain ⟨y, hy⟩ := h.sound.consistent.exists_number_of_transGen hm hx
    obtain ⟨c, hc⟩ := number?_eq_some_iff.mp hy
    exact ⟨c, y, hc⟩

theorem exists_number_of_reachable_tiered :
    ∃ (a c : CellName) (x : Float) (f : Formula), a.text = "A1" ∧ f.variableNames = ["B1"] ∧
    (∀ v ∈ f.variableNames, tiered.lookup v = some x) ∧
    f.evaluate tiered.lookup = f.evaluate (fun _ => some x) ∧ f.evaluate tiered.lookup = .ok x ∧
    (∀ v ∈ f.variableNames, ∃ y, tiered.lookup v = some y) ∧
    Reachable tiered ∧ tiered.cells[c]? = some ⟨.formula f, .number x⟩ ∧
    TransGen tiered.Mentions a c ∧ ∃ d y, tiered.cells[a]? = some ⟨d, .number y⟩ := by
  obtain ⟨a, b, c, ha, hb, hcellA, hcellB, hcellC⟩ := exists_cells_tiered
  have hlookup : tiered.lookup "B1" = some 1 := lookup_eq_some_iff.mpr ⟨b, _, hb, hcellB⟩
  have hevaluate := evaluate_var (by decide +kernel) hlookup
  have hmentionsB : tiered.Mentions a b := ⟨_, hcellB, _, rfl, ha ▸ List.mem_cons_self⟩
  have hmentionsC : tiered.Mentions b c := ⟨_, hcellC, _, rfl, hb ▸ List.mem_cons_self⟩
  have hpath : TransGen tiered.Mentions a c := .tail (.single hmentionsB) hmentionsC
  obtain ⟨hagree, hdefined, hnumbers⟩ := exists_number_of_reachable
  have hsame : ∀ v ∈ Formula.variableNames ⟨[.var "B1"]⟩, tiered.lookup v = some 1 := by
    intro v hv
    obtain rfl : v = "B1" := by simpa [Formula.mem_variableNames_iff] using hv
    exact hlookup
  exact ⟨a, c, 1, ⟨[.var "B1"]⟩, ha, by decide, hsame, hagree _ _ _ hsame, hevaluate,
    hdefined _ _ _ hevaluate, reachable_tiered, hcellC, hpath,
    hnumbers _ reachable_tiered _ _ _ hcellC _ hpath⟩

end Spreadsheet.Sheet
