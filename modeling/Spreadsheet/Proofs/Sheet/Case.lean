import Spreadsheet.Proofs.Formula.Case
import Spreadsheet.Proofs.Sheet.Effect

/-! # Letter case of names and formulas

A name in upper case addresses the cell that the name addresses, and formula text in upper case is
the same formula. Whatever is done with them gives the same, down to the errors, which quote what
was typed.
-/

namespace Spreadsheet

theorem CellName.parse?_upper (name : String) : parse? (Text.upper name) = parse? name := by
  rw [parse?, Text.upper_upper, parse?]

theorem NamePattern.cell?_upper (p : NamePattern) (name : String) :
    p.cell? (Text.upper name) = p.cell? name := by
  rw [cell?, CellName.parse?_upper, cell?]

namespace Sheet

variable {sheet : Sheet} {a : CellName} {text : String}

/-- The error with what was typed in upper case. -/
def EditError.upper : EditError → EditError
  | invalidName name => invalidName (Text.upper name)
  | formula e => formula e.upper
  | circular cell cycle => circular cell cycle

theorem address_upper (sheet : Sheet) (name : String) :
    sheet.address (Text.upper name) = (sheet.address name).mapError EditError.upper := by
  rw [address, NamePattern.cell?_upper, address]
  cases sheet.pattern.cell? name <;> rfl

theorem foldsCase_variableRules (sheet : Sheet) : sheet.variableRules.FoldsCase where
  normalize_upper := Text.upper_upper
  upper_normalize := Text.upper_upper

theorem parseFormula_map_toUpper (sheet : Sheet) (cs : List Char) :
    sheet.parseFormula (cs.map Char.toUpper) =
      (sheet.parseFormula cs).mapError EditError.upper := by
  rw [parseFormula, ← Text.upper_ofList, Formula.parse_upper sheet.foldsCase_variableRules,
    parseFormula]
  cases Formula.parse sheet.variableRules (String.ofList cs) <;> rfl

theorem classify_upper (sheet : Sheet) (text : String) :
    sheet.classify ("=" ++ Text.upper text) =
      (sheet.classify ("=" ++ text)).mapError EditError.upper := by
  have hcs (s : String) : ("=" ++ s).toList = '=' :: s.toList := by simp
  rw [classify_formula _ (hcs _), Text.upper, String.toList_ofList, parseFormula_map_toUpper,
    classify_formula _ (hcs _)]
  cases sheet.parseFormula text.toList <;> rfl

/-! ## The cycles reported -/

theorem mapError_dependentsInOrder (sheet : Sheet) (a : CellName) :
    (sheet.dependentsInOrder a).mapError EditError.upper = sheet.dependentsInOrder a := by
  rw [dependentsInOrder]
  cases sheet.graph.recalculationOrder [a] <;> rfl

theorem mapError_put (sheet : Sheet) (a : CellName) (c : Content) :
    (sheet.put a c).1.mapError EditError.upper = (sheet.put a c).1 := by
  rw [put_fst]
  cases (sheet.store a c).graph.recalculationOrder [a] <;> rfl

/-! ## Operations -/

theorem set_upper (sheet : Sheet) (name text : String) :
    sheet.set (Text.upper name) ("=" ++ Text.upper text) =
      ((sheet.set name ("=" ++ text)).1.mapError EditError.upper,
        (sheet.set name ("=" ++ text)).2) := by
  have hne (s : String) : "=" ++ s ≠ "" := by simp
  rw [set, address_upper, set]
  cases sheet.address name with
  | error e => rfl
  | ok a =>
    simp only [Except.mapError, if_neg (hne _), classify_upper]
    cases sheet.classify ("=" ++ text) with
    | error e => rfl
    | ok c =>
      exact Prod.ext (mapError_put sheet a c).symm rfl

theorem evaluate_bare (sheet : Sheet) (h : ∀ cs, text.toList ≠ '=' :: cs) :
    sheet.evaluate text =
      (sheet.parseFormula text.toList).map fun f => (Content.formula f).evaluate sheet.lookup := by
  rw [evaluate_eq_map]
  split
  · rename_i hcs
    exact absurd hcs (h _)
  · rfl

theorem evaluate_upper (sheet : Sheet) (text : String) :
    sheet.evaluate (Text.upper text) = (sheet.evaluate text).mapError EditError.upper := by
  have hupper : (Text.upper text).toList = text.toList.map Char.toUpper := String.toList_ofList
  by_cases h : ∃ cs, text.toList = '=' :: cs
  · obtain ⟨cs, hcs⟩ := h
    have htext : text = "=" ++ String.ofList cs := by simp [← String.toList_inj, hcs]
    have htext' : Text.upper text = "=" ++ String.ofList (cs.map Char.toUpper) := by
      simp [← String.toList_inj, hupper, hcs]
    rw [htext', htext, evaluate_formula, evaluate_formula, String.toList_ofList,
      String.toList_ofList, parseFormula_map_toUpper]
    cases sheet.parseFormula cs <;> rfl
  · rw [not_exists] at h
    have h' : ∀ cs, (Text.upper text).toList ≠ '=' :: cs := by
      intro cs hcs
      rw [hupper, List.map_eq_cons_iff] at hcs
      obtain ⟨c, ds, hds, hc, -⟩ := hcs
      rw [Text.toUpper_eq_iff (by decide)] at hc
      exact h ds (hc ▸ hds)
    rw [evaluate_bare sheet h, evaluate_bare sheet h', hupper, parseFormula_map_toUpper]
    cases sheet.parseFormula text.toList <;> rfl

theorem content_upper (sheet : Sheet) (name : String) :
    sheet.content (Text.upper name) = (sheet.content name).mapError EditError.upper := by
  rw [content, address_upper, content]
  cases sheet.address name <;> rfl

theorem value_upper (sheet : Sheet) (name : String) :
    sheet.value (Text.upper name) = (sheet.value name).mapError EditError.upper := by
  rw [value, address_upper, value]
  cases sheet.address name <;> rfl

theorem recalculationOrder_upper (sheet : Sheet) (name : String) :
    sheet.recalculationOrder (Text.upper name) =
      (sheet.recalculationOrder name).mapError EditError.upper := by
  rw [recalculationOrder, address_upper, recalculationOrder, Except.mapError_bind]
  congr 1
  funext a
  exact (mapError_dependentsInOrder sheet a).symm

/-- A name and a formula in upper case do what they do as typed: the edit gives the same order and
leaves the same sheet, or is refused for the same error, and the sheet answers the same questions by
the same answers. Of an error, only the case of what it quotes from the input can differ. -/
theorem operations_upper (sheet : Sheet) (name text : String) :
    sheet.set name.toUpper ("=" ++ text.toUpper) =
        ((sheet.set name ("=" ++ text)).1.mapError EditError.upper,
          (sheet.set name ("=" ++ text)).2) ∧
      sheet.evaluate text.toUpper = (sheet.evaluate text).mapError EditError.upper ∧
      sheet.content name.toUpper = (sheet.content name).mapError EditError.upper ∧
      sheet.value name.toUpper = (sheet.value name).mapError EditError.upper ∧
      sheet.recalculationOrder name.toUpper =
        (sheet.recalculationOrder name).mapError EditError.upper := by
  simp only [← Text.upper_eq_toUpper]
  refine ⟨?_, ?_, ?_, ?_, ?_⟩
  · exact set_upper sheet name text
  · exact evaluate_upper sheet text
  · exact content_upper sheet name
  · exact value_upper sheet name
  · exact recalculationOrder_upper sheet name

end Sheet

end Spreadsheet
