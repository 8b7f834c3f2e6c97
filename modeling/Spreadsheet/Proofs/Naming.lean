import Mathlib.Data.List.TakeWhile
import Spreadsheet.NamePattern
import Spreadsheet.Proofs.Text.Ascii

/-! # Canonical names

A canonical name is in upper case already, so it addresses its own cell.
-/

namespace Spreadsheet

variable {a : CellName} {cs : List Char} {s : String}

/-- The grammar of canonical names: upper case letters, at least one, and behind them the digits of a
number that does not start with zero. -/
def IsCanonical (cs : List Char) : Prop :=
  ∃ letters d digits, cs = letters ++ d :: digits ∧ letters ≠ [] ∧
    (∀ c ∈ letters, c.isUpper = true) ∧ d.isDigit = true ∧ d ≠ '0' ∧ ∀ c ∈ digits, c.isDigit = true

theorem isCellName_iff : isCellName cs = true ↔ IsCanonical cs := by
  constructor
  · intro h
    simp only [isCellName, Bool.and_eq_true, Bool.not_eq_true', List.isEmpty_eq_false_iff] at h
    obtain ⟨hletters, hnumber⟩ := h
    cases hd : cs.dropWhile Char.isUpper with
    | nil => simp [hd] at hnumber
    | cons d digits =>
      simp only [hd, Bool.and_eq_true, bne_iff_ne, List.all_eq_true] at hnumber
      obtain ⟨⟨hdigit, hzero⟩, hdigits⟩ := hnumber
      refine ⟨cs.takeWhile Char.isUpper, d, digits, ?_, hletters, ?_, hdigit, hzero, hdigits⟩
      · rw [← hd, List.takeWhile_append_dropWhile]
      · exact fun c hc => List.mem_takeWhile_imp hc
  · rintro ⟨letters, d, digits, rfl, hletters, hupper, hdigit, hzero, hdigits⟩
    have hd : ¬ d.isUpper = true := by
      rw [Text.isUpper_iff]
      rw [Text.isDigit_iff] at hdigit
      omega
    rw [isCellName, List.takeWhile_append_of_pos hupper, List.dropWhile_append_of_pos hupper,
      List.takeWhile_cons_of_neg hd, List.dropWhile_cons_of_neg hd]
    simp [hletters, hdigit, hzero, List.all_eq_true.mpr hdigits]

theorem mem_of_isCellName (h : isCellName cs = true) {c : Char} (hc : c ∈ cs) :
    c.isUpper = true ∨ c.isDigit = true := by
  obtain ⟨letters, d, digits, rfl, -, hletters, hd, -, hdigits⟩ := isCellName_iff.mp h
  rcases List.mem_append.mp hc with hc | hc
  · exact .inl (hletters c hc)
  · right
    rcases List.mem_cons.mp hc with rfl | hc
    · exact hd
    · exact hdigits c hc

namespace CellName

theorem upper_text (a : CellName) : Text.upper a.text = a.text := by
  refine Text.upper_eq_self fun c hc => ?_
  rw [Text.isLower_iff]
  rcases mem_of_isCellName a.canonical hc with h | h
  · rw [Text.isUpper_iff] at h
    omega
  · rw [Text.isDigit_iff] at h
    omega

@[simp] theorem parse?_text (a : CellName) : parse? a.text = some a := by
  rw [parse?, a.upper_text, ofCanonical?_text]

end CellName

namespace NamePattern

theorem cell?_text {p : NamePattern} (h : p.accepts a = true) : p.cell? a.text = some a := by
  simp [cell?, h]

theorem cell?_eq_some_iff {p : NamePattern} :
    p.cell? s = some a ↔ CellName.parse? s = some a ∧ p.accepts a = true := by
  simp only [cell?, Option.filter_eq_some_iff]

end NamePattern

end Spreadsheet
