import Spreadsheet.Proofs.Sheet.Mentions

/-! # Well-formed cells

What a reachable sheet stores is fit to be looked up and saved: names are canonical, numbers finite,
and a text is stored only where nothing else could be read. This follows from each content being one
that was typed in, and from evaluation giving finite numbers only.
-/

namespace Spreadsheet

variable {pattern : NamePattern} {lookup : String → Option Float}

/-- A text that is not empty and reads as nothing else, a finite number, or a formula whose variables
are names of cells as they stand. -/
def Content.WellFormed (pattern : NamePattern) : Content → Prop
  | .text s => s ≠ "" ∧ s.toList.head? ≠ some '=' ∧
      ∀ x, Decimal.read? (Text.trim s.toList) = some x → x.isFinite = false
  | .number x => x.isFinite = true
  | .formula f => ∀ v, .var v ∈ f.tokens →
      ∃ a, CellName.ofCanonical? v = some a ∧ pattern.accepts a = true

def Value.WellFormed : Value → Prop
  | .number x => x.isFinite = true
  | .text _ | .error _ => True

structure Cell.WellFormed (pattern : NamePattern) (a : CellName) (cell : Cell) : Prop where
  canonical : IsCanonical a.text.toList
  accepted : pattern.accepts a = true
  content : cell.content.WellFormed pattern
  value : cell.value.WellFormed

theorem Formula.isFinite_of_evaluate {f : Formula} {x : Float} (h : f.evaluate lookup = .ok x) :
    x.isFinite = true := by
  obtain ⟨s, -, hs⟩ := Except.bind_eq_ok_iff.mp h
  obtain ⟨s', -, hs⟩ := Except.bind_eq_ok_iff.mp hs
  split at hs
  · split at hs
    · cases hs
      assumption
    · cases hs
  · cases hs

theorem Content.WellFormed.evaluate {c : Content} (h : c.WellFormed pattern) :
    (c.evaluate lookup).WellFormed := by
  cases c with
  | text s => trivial
  | number x => exact h
  | formula f =>
    rw [Content.evaluate]
    cases hf : f.evaluate lookup with
    | ok x => exact Formula.isFinite_of_evaluate hf
    | error e => trivial

namespace Sheet

variable {sheet : Sheet} {a : CellName} {cell : Cell} {c : Content} {text s : String} {x : Float}

/-- Text is kept as text where it is no formula and reads as no finite number. -/
theorem classify_eq_text_iff : sheet.classify text = .ok (.text s) ↔
    text = s ∧ s.toList.head? ≠ some '=' ∧
      ∀ x, Decimal.read? (Text.trim s.toList) = some x → x.isFinite = false := by
  unfold classify
  split
  · rename_i cs hcs
    constructor
    · intro h
      obtain ⟨f, -, hf⟩ := Except.map_eq_ok_iff.mp h
      cases hf
    · rintro ⟨rfl, hhead, -⟩
      simp [hcs] at hhead
  · rename_i hne
    have hhead : text.toList.head? ≠ some '=' := by
      intro he
      obtain ⟨cs, hcs⟩ := List.head?_eq_some_iff.mp he
      exact hne cs hcs
    split
    · rename_i x hx
      constructor
      · intro h
        split at h
        · cases h
        · rename_i hfinite
          cases h
          refine ⟨rfl, hhead, fun y hy => ?_⟩
          rw [hx] at hy
          cases hy
          exact Bool.eq_false_iff.mpr hfinite
      · rintro ⟨rfl, -, hread⟩
        rw [if_neg (Bool.eq_false_iff.mp (hread x hx))]
    · rename_i hnone
      constructor
      · intro h
        cases h
        exact ⟨rfl, hhead, fun y hy => by simp [hnone] at hy⟩
      · rintro ⟨rfl, -, -⟩
        rfl

theorem isFinite_of_classify (h : sheet.classify text = .ok (.number x)) : x.isFinite = true := by
  unfold classify at h
  split at h
  · obtain ⟨f, -, hf⟩ := Except.map_eq_ok_iff.mp h
    cases hf
  · split at h
    · split at h
      · cases h
        assumption
      · cases h
    · cases h

theorem wellFormed_of_types (h : sheet.Types c) : c.WellFormed sheet.pattern := by
  cases c with
  | text s =>
    obtain ⟨text, hne, hc⟩ := h
    obtain ⟨rfl, hhead, hread⟩ := classify_eq_text_iff.mp hc
    exact ⟨hne, hhead, hread⟩
  | number x =>
    obtain ⟨text, -, hc⟩ := h
    exact isFinite_of_classify hc
  | formula f =>
    intro v hv
    obtain ⟨a, rfl, haccepts⟩ := exists_cell_of_types h hv
    exact ⟨a, a.ofCanonical?_text, haccepts⟩

/-- Whatever was asked of a sheet, every cell it stores is well formed under its pattern. -/
theorem wellFormed_of_reachable (h : Reachable sheet) (hcell : sheet.cells[a]? = some cell) :
    cell.WellFormed sheet.pattern a := by
  obtain ⟨haccepts, htypes⟩ := h.sound.typed a cell hcell
  have hcontent := wellFormed_of_types htypes
  refine ⟨isCellName_iff.mp a.canonical, haccepts, hcontent, ?_⟩
  rw [h.sound.consistent a cell hcell]
  exact hcontent.evaluate

def narrow : NamePattern := ⟨"A", .literal ['A'], by cbv⟩

/-- A text with an equals sign in it, a formula with a variable that no cell is stored for, and two
edits refused, one for its name and one for its cycle. -/
def narrowed : Sheet :=
  ((Sheet.empty narrow).respondAll [.set "a1" " x=1", .set "ba3" "=aa2+A1", .set "C1" "1",
    .set "A1" "=ba3"]).2

theorem wellFormed_of_reachable_narrowed :
    Reachable narrowed ∧ ∃ (a : CellName) (f : Formula) (value : Value),
      narrowed.cells[a]? = some ⟨.formula f, value⟩ ∧
        Cell.WellFormed narrowed.pattern a ⟨.formula f, value⟩ := by
  have h : Reachable narrowed := (Reachable.empty narrow).respondAll _
  let a : CellName := ⟨"BA3", by decide⟩
  let f : Formula := ⟨[.var "AA2", .operator .add, .var "A1"]⟩
  have ha : narrowed.cells[a]? = some ⟨.formula f, .error (.undefinedVariable "AA2")⟩ := by cbv
  exact ⟨h, a, f, _, ha, wellFormed_of_reachable h ha⟩

end Sheet

end Spreadsheet
