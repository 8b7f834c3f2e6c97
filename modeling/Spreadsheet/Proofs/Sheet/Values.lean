import Spreadsheet.Proofs.Sheet.Effect

/-! # Values that are stored

A reachable sheet holds the value of each content, computed among the values that it holds. What a
formula sees there under a name is the number of the cell with this name; texts, errors and cells that
are not stored are no numbers.
-/

namespace Spreadsheet.Sheet

variable {sheet : Sheet} {a : CellName} {v : String} {x : Float}

theorem evaluate_ne_empty {c : Content} (h : sheet.Types c)
    (lookup : String → Option Float) : c.evaluate lookup ≠ .empty := by
  cases c with
  | text s =>
    have hs := isEmpty_of_types h
    simpa [Content.evaluate, Content.isEmpty, Value.empty] using hs
  | number x => simp [Content.evaluate, Value.empty]
  | formula f =>
    simp only [Content.evaluate, Value.empty]
    cases f.evaluate lookup <;> simp

/-- Whatever was asked of a sheet, the value of each stored cell is that of its content among the
values stored now, and none waits for its value. What is looked up among them is the number that the
cell of this name holds. -/
theorem value_eq_of_reachable (h : Reachable sheet) :
    (∀ (a : CellName) (cell : Cell), sheet.cells[a]? = some cell →
      cell.value = cell.content.evaluate sheet.lookup ∧ cell.value ≠ .empty) ∧
    ∀ v x, sheet.lookup v = some x ↔
      ∃ (b : CellName) (c : Content), b.text = v ∧ sheet.cells[b]? = some ⟨c, .number x⟩ := by
  refine ⟨fun a cell hcell => ?_, fun v x => lookup_eq_some_iff⟩
  have hvalue := h.sound.consistent a cell hcell
  refine ⟨hvalue, ?_⟩
  rw [hvalue]
  exact evaluate_ne_empty (h.sound.typed a cell hcell).2 _

/-! ## A number behind two formulas -/

theorem Consistent.getElem?_of_content? {c : Content} (h : sheet.Consistent)
    (hc : sheet.content? a = some c) : sheet.cells[a]? = some ⟨c, c.evaluate sheet.lookup⟩ := by
  obtain ⟨cell, hcell, rfl⟩ := Option.map_eq_some_iff.mp hc
  rw [← h a cell hcell]
  exact hcell

theorem evaluate_var {lookup : String → Option Float} (hx : x.isFinite = true)
    (hv : lookup v = some x) : Formula.evaluate ⟨[.var v]⟩ lookup = .ok x := by
  change (Formula.Stacks.step lookup .empty (.var v) >>= pure) >>= Formula.Stacks.result = _
  rw [Formula.Stacks.step, hv]
  change (if x.isFinite = true then pure x else throw Formula.EvaluationError.notFinite) = _
  rw [if_pos hx]
  rfl

/-- Two formulas, one behind the other, that wait for a number. -/
def waiting : Sheet := ((Sheet.empty .any).respondAll [.set "c1" "=B1", .set "B1" "=a1"]).2

def tiered : Sheet := (waiting.respond (.set "A1" "1")).2

theorem reachable_waiting : Reachable waiting := (Reachable.empty .any).respondAll _

theorem reachable_tiered : Reachable tiered := reachable_waiting.respond _

theorem pattern_waiting : waiting.pattern = .any := by
  simp only [waiting, Sheet.respondAll, respond_set, pattern_set]
  rfl

theorem exists_put_waiting : ∃ (a : CellName) (order : List CellName), a.text = "A1" ∧
    waiting.put a (.number 1) = (.ok order, tiered) := by
  let a : CellName := ⟨"A1", by decide⟩
  have haddress : waiting.address "A1" = .ok a := by
    rw [address, pattern_waiting]
    rfl
  have hclassify : waiting.classify "1" = .ok (.number 1) := by
    rw [classify_congr (show waiting.pattern = (Sheet.empty .any).pattern from pattern_waiting)]
    decide +kernel
  -- A number has no references, so its value plays no part in the order.
  have horder : (waiting.graph.setPrecedents a []).2.recalculationOrder [a] =
      .ok [a, ⟨"B1", by decide⟩, ⟨"C1", by decide⟩] := by cbv
  have hfst : (waiting.put a (.number 1)).1 = .ok [a, ⟨"B1", by decide⟩, ⟨"C1", by decide⟩] := by
    rw [put_fst]
    exact congrArg (Except.mapError (EditError.circular a)) horder
  have hsnd : (waiting.put a (.number 1)).2 = tiered := by
    rw [tiered, respond_set, set_eq_put haddress (by decide) hclassify]
  exact ⟨a, _, rfl, Prod.ext hfst hsnd⟩

theorem exists_cells_tiered : ∃ a b c : CellName, a.text = "A1" ∧ b.text = "B1" ∧
    tiered.cells[a]? = some ⟨.number 1, .number 1⟩ ∧
    tiered.cells[b]? = some ⟨.formula ⟨[.var "A1"]⟩, .number 1⟩ ∧
    tiered.cells[c]? = some ⟨.formula ⟨[.var "B1"]⟩, .number 1⟩ := by
  obtain ⟨a, order, ha, hput⟩ := exists_put_waiting
  let b : CellName := ⟨"B1", by decide⟩
  let c : CellName := ⟨"C1", by decide⟩
  have hne (d : CellName) (hd : d.text ≠ "A1") : d ≠ a := by
    rintro rfl
    exact hd ha
  have hwaiting := reachable_waiting.sound
  have hconsistent := reachable_tiered.sound.consistent
  have hone : (1 : Float).isFinite = true := by decide +kernel
  have hb : waiting.content? b = some (.formula ⟨[.var "A1"]⟩) := by cbv
  have hc : waiting.content? c = some (.formula ⟨[.var "B1"]⟩) := by cbv
  rw [← hwaiting.content?_put hput (hne b (by decide))] at hb
  rw [← hwaiting.content?_put hput (hne c (by decide))] at hc
  have hcellA := hconsistent.getElem?_of_content? (hwaiting.content?_put_self hput)
  have hlookupA : tiered.lookup "A1" = some 1 := lookup_eq_some_iff.mpr ⟨a, _, ha, hcellA⟩
  have hcellB := hconsistent.getElem?_of_content? hb
  rw [Content.evaluate, evaluate_var hone hlookupA] at hcellB
  have hlookupB : tiered.lookup "B1" = some 1 := lookup_eq_some_iff.mpr ⟨b, _, rfl, hcellB⟩
  have hcellC := hconsistent.getElem?_of_content? hc
  rw [Content.evaluate, evaluate_var hone hlookupB] at hcellC
  exact ⟨a, b, c, ha, rfl, hcellA, hcellB, hcellC⟩

theorem value_eq_of_reachable_tiered : Reachable tiered ∧
    ∃ b c : CellName, b.text = "B1" ∧
      tiered.cells[b]? = some ⟨.formula ⟨[.var "A1"]⟩, .number 1⟩ ∧
      tiered.cells[c]? = some ⟨.formula ⟨[.var "B1"]⟩, .number 1⟩ ∧
      Value.number 1 = (Content.formula ⟨[.var "B1"]⟩).evaluate tiered.lookup ∧
      Value.number 1 ≠ .empty ∧
      (tiered.lookup "B1" = some 1 ↔
        ∃ (d : CellName) (e : Content), d.text = "B1" ∧ tiered.cells[d]? = some ⟨e, .number 1⟩) ∧
      tiered.lookup "B1" = some 1 := by
  obtain ⟨-, b, c, -, hb, -, hcellB, hcellC⟩ := exists_cells_tiered
  obtain ⟨hvalues, hlookup⟩ := value_eq_of_reachable reachable_tiered
  obtain ⟨hvalue, hempty⟩ := hvalues c _ hcellC
  exact ⟨reachable_tiered, b, c, hb, hcellB, hcellC, hvalue, hempty, hlookup "B1" 1,
    (hlookup "B1" 1).mpr ⟨b, _, hb, hcellB⟩⟩

end Spreadsheet.Sheet
