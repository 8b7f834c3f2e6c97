import Spreadsheet.Proofs.Sheet.Edit

/-! # Sheets by their contents

A sound sheet is determined by its contents: its graph by the references in them, and its values one
after the other, each from those of the cells it mentions. Putting a content in fails only where the
references with it close a cycle.
-/

namespace Spreadsheet.Sheet

variable {sheet sheet' : Sheet} {a b s t : CellName} {c : Content}

theorem getElem?_eq_of_consistent (h : sheet.Consistent) (h' : sheet'.Consistent)
    (hc : sheet.content? a = sheet'.content? a)
    (hn : ∀ s, sheet.Mentions s a → sheet.number? s = sheet'.number? s) :
    sheet.cells[a]? = sheet'.cells[a]? := by
  cases ha : sheet.cells[a]? with
  | none =>
    have hnone : sheet'.content? a = none := by rw [← hc, content?, ha, Option.map_none]
    exact (Option.map_eq_none_iff.mp hnone).symm
  | some cell =>
    have hsome : sheet'.content? a = some cell.content := by
      rw [← hc, content?, ha, Option.map_some]
    obtain ⟨cell', ha', hcell⟩ := Option.map_eq_some_iff.mp hsome
    have hv := h a cell ha
    have hv' := h' a cell' ha'
    rw [hcell, ← evaluate_congr fun s hs => hn s ⟨cell, ha, hs⟩, ← hv] at hv'
    obtain ⟨content, value⟩ := cell
    obtain ⟨content', value'⟩ := cell'
    obtain rfl : content' = content := hcell
    obtain rfl : value' = value := hv'
    exact ha'.symm

/-- Two sound sheets with the same contents, pattern and mark are the same. -/
theorem Sound.ext (h : sheet.Sound) (h' : sheet'.Sound) (hp : sheet.pattern = sheet'.pattern)
    (hm : sheet.changed = sheet'.changed) (hc : ∀ a, sheet.content? a = sheet'.content? a) :
    sheet = sheet' := by
  have hrefs := references_congr hc
  have hw := h.acyclic.wellFounded h.represents.finite
  have hcells (a : CellName) : sheet.cells[a]? = sheet'.cells[a]? := by
    induction a using hw.induction with
    | _ a ih =>
      exact getElem?_eq_of_consistent h.consistent h'.consistent (hc a) fun s hs =>
        number?_congr (ih s hs.references)
  have hg := h'.represents
  rw [← hrefs] at hg
  obtain ⟨cells, graph, pattern, changed⟩ := sheet
  obtain ⟨cells', graph', pattern', changed'⟩ := sheet'
  obtain rfl : cells = cells' := Std.ExtTreeMap.ext_getElem? hcells
  obtain rfl : graph = graph' := h.represents.unique hg
  obtain rfl : pattern = pattern' := hp
  obtain rfl : changed = changed' := hm
  rfl

theorem Exchanges.content? {new : Option Cell} (h : sheet.Exchanges sheet' a new) (b : CellName) :
    sheet'.content? b = if a = b then new.map Cell.content else sheet.content? b := by
  rw [Sheet.content?, h.getElem?]
  split <;> rfl

theorem Sound.put_eq_ok (h : sheet.Sound) (hc : Acyclic (sheet.store a c).References) :
    ∃ order, sheet.put a c = (.ok order, (sheet.store a c).recalculate order) := by
  obtain ⟨order, ho⟩ := (represents_store h.represents).exists_recalculationOrder hc [a]
  refine ⟨order, ?_⟩
  rw [put_eq h.represents, ho]

end Spreadsheet.Sheet
