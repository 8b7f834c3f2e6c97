import Spreadsheet.Proofs.Sheet.Reachable
import Spreadsheet.Proofs.Sheet.Typing

/-! # Graphs and formulas

The variables of a formula that was typed in are names of cells in their canonical spelling, so none
is lost when they are read as cells. The graph of a reachable sheet therefore holds exactly the pairs
of a cell and a stored formula with this cell among its variables, whatever was set, cleared, refused
or loaded before.
-/

namespace Spreadsheet

variable {s : CellName} {c : Content} {v : String}

namespace Sheet

variable {sheet : Sheet}

/-- A variable of a formula that can be typed in is the name of a cell that the pattern accepts. -/
theorem exists_cell_of_types {f : Formula} (h : sheet.Types (.formula f))
    (hv : .var v ∈ f.tokens) : ∃ a : CellName, a.text = v ∧ sheet.pattern.accepts a = true := by
  obtain ⟨text, htext⟩ := exists_parse_of_types h
  obtain ⟨name, hname, hvalid⟩ := Formula.exists_normalize_of_parse htext hv
  refine exists_cell_of_isValid hvalid ?_
  rw [← hname]
  exact Text.upper_upper name

theorem mem_references_iff (h : sheet.Types c) : s ∈ c.references ↔ c.Mentions s := by
  refine ⟨fun hs => ?_, Content.Mentions.mem_references⟩
  cases c with
  | text x => cases hs
  | number x => cases hs
  | formula f =>
    obtain ⟨v, hv, hs⟩ := List.mem_filterMap.mp hs
    rw [Formula.mem_variableNames_iff] at hv
    obtain ⟨a, rfl, -⟩ := exists_cell_of_types h hv
    rw [CellName.parse?_text] at hs
    cases hs
    exact ⟨f, rfl, hv⟩

theorem references_eq_mentions (h : sheet.Typed) : sheet.References = sheet.Mentions := by
  funext s t
  rw [eq_iff_iff]
  refine ⟨?_, Mentions.references⟩
  rintro ⟨cell, hcell, hs⟩
  exact ⟨cell, hcell, (mem_references_iff (h t cell hcell).2).mp hs⟩

theorem Sound.represents_mentions (h : sheet.Sound) : sheet.graph.Represents sheet.Mentions := by
  rw [← references_eq_mentions h.typed]
  exact h.represents

theorem Sound.acyclic_mentions (h : sheet.Sound) : Acyclic sheet.Mentions := by
  rw [← references_eq_mentions h.typed]
  exact h.acyclic

/-- However a sheet came about, its graph lists `t` behind `s`, and `s` before `t`, exactly when the
formula stored at `t` mentions `s`, and its size is the number of such pairs. -/
theorem mem_graph_iff_of_reachable (h : Reachable sheet) :
    (∀ s t, (t ∈ sheet.graph.dependentsOf s ↔ sheet.Mentions s t) ∧
      (s ∈ sheet.graph.precedentsOf t ↔ sheet.Mentions s t)) ∧
    (DependencyGraph.pairs sheet.Mentions).encard = sheet.graph.size := by
  have hr := h.sound.represents_mentions
  refine ⟨fun s t => ⟨hr.mem_dependentsOf, hr.mem_precedentsOf⟩, ?_⟩
  rw [hr.size_eq, hr.finite.cast_ncard_eq]

/-- A formula that mentions a cell twice is replaced, an edit that closes a cycle is refused, and a
formula is cleared. -/
def rewired : Sheet :=
  ((Sheet.empty .any).respondAll [.set "B1" "=A1+A1*C1", .set "d1" "=b1", .set "B1" "=a2 + A2",
    .set "A2" "=D1", .set "D1" ""]).2

theorem mem_graph_iff_of_reachable_rewired :
    Reachable rewired ∧
    (∀ s t, (t ∈ rewired.graph.dependentsOf s ↔ rewired.Mentions s t) ∧
      (s ∈ rewired.graph.precedentsOf t ↔ rewired.Mentions s t)) ∧
    (DependencyGraph.pairs rewired.Mentions).encard = rewired.graph.size ∧
    rewired.graph.size = 1 := by
  have h : Reachable rewired := (Reachable.empty .any).respondAll _
  have hsize : rewired.graph.size = 1 := by cbv
  obtain ⟨hmem, hcard⟩ := mem_graph_iff_of_reachable h
  exact ⟨h, hmem, hcard, hsize⟩

end Sheet

end Spreadsheet
