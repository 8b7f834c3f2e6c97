import Spreadsheet.Proofs.Formula.Text
import Spreadsheet.Proofs.Sheet.Edit

/-! # Typing displayed contents

The text that a content displays is read as this content again: formulas and numbers by what they
are printed as, texts because they were read from themselves.
-/

namespace Spreadsheet

theorem CellName.isVariable_text (a : CellName) : Lexeme.IsVariable a.text := by
  have hmem {c : Char} (hc : c ∈ a.text.toList) : c.isAlphanum = true := by
    rw [Text.isAlphanum_iff, Text.isAlpha_iff]
    exact (mem_of_isCellName a.canonical hc).imp_left .inl
  have hcanonical := a.canonical
  cases htext : a.text.toList with
  | nil => simp [htext, isCellName] at hcanonical
  | cons c cs =>
    rw [htext] at hmem
    refine ⟨c, cs, htext, ?_, fun d hd => hmem (List.mem_cons_of_mem _ hd)⟩
    have hc : c.isUpper = true := by
      by_contra hc
      simp [htext, isCellName, hc] at hcanonical
    exact Text.isAlpha_iff.mpr (.inl hc)

namespace Sheet

variable {sheet : Sheet} {c : Content}

theorem exists_cell_of_isValid {v : String} (hv : sheet.variableRules.isValid v = true)
    (hupper : Text.upper v = v) : ∃ a : CellName, a.text = v ∧ sheet.pattern.accepts a = true := by
  simp only [variableRules] at hv
  obtain ⟨a, ha⟩ := Option.isSome_iff_exists.mp hv
  obtain ⟨hparse, haccepts⟩ := NamePattern.cell?_eq_some_iff.mp ha
  rw [CellName.parse?, hupper] at hparse
  exact ⟨a, CellName.ofCanonical?_eq_some_iff.mp hparse, haccepts⟩

theorem stable_variableRules (sheet : Sheet) : sheet.variableRules.Stable := by
  intro v _ hv
  have hupper := Text.upper_upper v
  obtain ⟨a, ha, -⟩ := exists_cell_of_isValid hv hupper
  have hvar := a.isVariable_text
  rw [ha] at hvar
  exact ⟨hvar, hupper⟩

theorem classify_formula {s : String} (cs : List Char) (h : s.toList = '=' :: cs) :
    sheet.classify s = (sheet.parseFormula cs).map Content.formula := by
  unfold classify
  rw [h]
  rfl

/-- Every text can be read but for a formula that cannot. -/
theorem exists_classify_iff {text : String} : (∃ c, sheet.classify text = .ok c) ↔
    ∀ cs, text.toList = '=' :: cs →
      ∃ f, Formula.parse sheet.variableRules (String.ofList cs) = .ok f := by
  unfold classify
  split
  · rename_i cs hcs
    constructor
    · rintro ⟨c, hc⟩ cs' hcs'
      obtain rfl : cs = cs' := by simpa [hcs] using hcs'
      obtain ⟨f, hf, -⟩ := Except.map_eq_ok_iff.mp hc
      exact ⟨f, Except.mapError_eq_ok_iff.mp hf⟩
    · intro h
      obtain ⟨f, hf⟩ := h cs hcs
      exact ⟨.formula f, Except.map_eq_ok_iff.mpr ⟨f, Except.mapError_eq_ok_iff.mpr hf, rfl⟩⟩
  · rename_i hne
    refine iff_of_true ?_ fun cs hcs => absurd hcs (hne cs)
    split <;> exact ⟨_, rfl⟩

theorem classify_number {x : Float} {s : String} (h : s.toList = Decimal.print x)
    (hx : x.isFinite = true) : sheet.classify s = .ok (.number x) := by
  have hread := Decimal.read?_print hx
  unfold classify
  split
  · rename_i hcs
    rw [h] at hcs
    have hmem := Decimal.mem_print hx (hcs ▸ List.mem_cons_self)
    simp at hmem
  · rw [h, Decimal.trim_print hx, hread]
    simp [hx]

theorem exists_parse_of_types {f : Formula} (h : sheet.Types (.formula f)) :
    ∃ text, Formula.parse sheet.variableRules text = .ok f := by
  obtain ⟨s, -, hs⟩ := h
  unfold classify at hs
  split at hs
  · obtain ⟨g, hg, hgf⟩ := Except.map_eq_ok_iff.mp hs
    cases hgf
    exact ⟨_, Except.mapError_eq_ok_iff.mp hg⟩
  · split at hs
    · split at hs <;> cases hs
    · cases hs

theorem classify_display (h : sheet.Types c) : sheet.classify c.display = .ok c := by
  obtain ⟨s, -, hs⟩ := h
  have hc := hs
  unfold classify at hc
  split at hc
  · obtain ⟨f, hf, rfl⟩ := Except.map_eq_ok_iff.mp hc
    have hparse := Formula.parse_text sheet.stable_variableRules (Except.mapError_eq_ok_iff.mp hf)
    have htext : (Content.formula f).display.toList = '=' :: f.text.toList := by
      simp [Content.display]
    rw [classify_formula _ htext, parseFormula, String.ofList_toList, hparse]
    rfl
  · split at hc
    · split at hc
      · rename_i hx
        cases hc
        exact classify_number String.toList_ofList hx
      · cases hc
        exact hs
    · cases hc
      exact hs

theorem display_ne_empty (h : sheet.Types c) : c.display ≠ "" := by
  intro he
  have hc := classify_display h
  have hread : Decimal.read? (Text.trim []) = none := by decide
  rw [he, classify, String.toList_empty] at hc
  simp only [hread, Except.ok.injEq] at hc
  have hempty := isEmpty_of_types h
  simp [← hc, Content.isEmpty] at hempty

end Sheet

end Spreadsheet
