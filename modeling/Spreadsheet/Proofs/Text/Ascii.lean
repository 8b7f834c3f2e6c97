import Mathlib
import Spreadsheet.Text.Blank
import Spreadsheet.Text.Case

/-! # ASCII letters and digits

The classes of ASCII characters as ranges of codes, what upper case does to them, and that none of
those with a shape is blank.
-/

namespace Spreadsheet.Text

variable {c : Char}

theorem isUpper_iff : c.isUpper = true ↔ 65 ≤ c.toNat ∧ c.toNat ≤ 90 := by
  simp only [Char.isUpper, ge_iff_le, decide_eq_true_eq, UInt32.le_iff_toNat_le, Char.toNat_val]
  rfl

theorem isLower_iff : c.isLower = true ↔ 97 ≤ c.toNat ∧ c.toNat ≤ 122 := by
  simp only [Char.isLower, ge_iff_le, Bool.and_eq_true, decide_eq_true_eq, UInt32.le_iff_toNat_le,
    Char.toNat_val]
  rfl

theorem isDigit_iff : c.isDigit = true ↔ 48 ≤ c.toNat ∧ c.toNat ≤ 57 := Char.isDigit_iff_toNat

theorem isAlpha_iff : c.isAlpha = true ↔ c.isUpper = true ∨ c.isLower = true := by
  simp [Char.isAlpha]

theorem isAlphanum_iff : c.isAlphanum = true ↔ c.isAlpha = true ∨ c.isDigit = true := by
  simp [Char.isAlphanum]

theorem toNat_toUpper : c.toUpper.toNat = if c.isLower = true then c.toNat - 32 else c.toNat := by
  unfold Char.toUpper
  split
  · rename_i h
    have hl : c.isLower = true := by simpa [Char.isLower] using h
    have := isLower_iff.mp hl
    rw [if_pos hl, Char.toNat_mk, UInt32.toNat_add, Char.toNat_val]
    simp only [UInt32.toNat_sub]
    change (c.toNat + (2 ^ 32 - 97 + 65) % 2 ^ 32) % 2 ^ 32 = _
    omega
  · rename_i h
    have hl : ¬ c.isLower = true := by simpa [Char.isLower] using h
    rw [if_neg hl]

theorem toLower_eq_self (h : ¬ c.isUpper = true) : c.toLower = c := by
  unfold Char.toLower
  split
  · rename_i hc
    exact absurd (by simpa [Char.isUpper] using hc) h
  · rfl

theorem toUpper_eq_self (h : ¬ c.isLower = true) : c.toUpper = c := by
  rw [← Char.toNat_inj, toNat_toUpper, if_neg h]

theorem not_isLower_toUpper (c : Char) : ¬ c.toUpper.isLower = true := by
  rw [isLower_iff, toNat_toUpper]
  split
  · rename_i h
    rw [isLower_iff] at h
    omega
  · rename_i h
    rwa [isLower_iff] at h

theorem toUpper_toUpper (c : Char) : c.toUpper.toUpper = c.toUpper :=
  toUpper_eq_self (not_isLower_toUpper c)

theorem isAlpha_toUpper : c.toUpper.isAlpha = c.isAlpha := by
  rw [Bool.eq_iff_iff, isAlpha_iff, isAlpha_iff, isUpper_iff, isLower_iff, isUpper_iff, isLower_iff,
    toNat_toUpper]
  split
  · rename_i h
    rw [isLower_iff] at h
    omega
  · rfl

theorem isDigit_toUpper : c.toUpper.isDigit = c.isDigit := by
  rw [Bool.eq_iff_iff, isDigit_iff, isDigit_iff, toNat_toUpper]
  split
  · rename_i h
    rw [isLower_iff] at h
    omega
  · rfl

theorem isAlphanum_toUpper : c.toUpper.isAlphanum = c.isAlphanum := by
  rw [Char.isAlphanum, Char.isAlphanum, isAlpha_toUpper, isDigit_toUpper]

/-- Upper case changes letters only, and into letters only. -/
theorem toUpper_eq_iff {d : Char} (hd : d.isAlpha = false) : c.toUpper = d ↔ c = d := by
  have hlower (hc : c.isAlpha = false) : ¬ c.isLower = true := by
    intro h
    rw [isAlpha_iff.mpr (.inr h)] at hc
    cases hc
  constructor
  · rintro rfl
    rw [isAlpha_toUpper] at hd
    exact (toUpper_eq_self (hlower hd)).symm
  · rintro rfl
    exact toUpper_eq_self (hlower hd)

theorem not_isLower_of_isDigit (h : c.isDigit = true) : ¬ c.isLower = true := by
  rw [isDigit_iff] at h
  rw [isLower_iff]
  omega

theorem map_toUpper_eq_self {cs : List Char} (h : ∀ c ∈ cs, ¬ c.isLower = true) :
    cs.map Char.toUpper = cs := by
  conv_rhs => rw [← List.map_id cs]
  exact List.map_congr_left fun c hc => toUpper_eq_self (h c hc)

theorem upper_eq_toUpper (s : String) : upper s = s.toUpper := by
  rw [← String.toList_inj, upper, String.toList_ofList, String.toUpper, String.toList_map]

theorem upper_ofList (cs : List Char) :
    upper (String.ofList cs) = String.ofList (cs.map Char.toUpper) := by
  rw [upper, String.toList_ofList]

theorem upper_upper (s : String) : upper (upper s) = upper s := by
  simp only [upper, String.toList_ofList, List.map_map]
  congr 1
  exact List.map_congr_left fun c _ => toUpper_toUpper c

theorem upper_eq_self {s : String} (h : ∀ c ∈ s.toList, ¬ c.isLower = true) : upper s = s := by
  rw [upper, map_toUpper_eq_self h, String.ofList_toList]

/-! ## Blanks -/

theorem isBlank_eq_false (h : 33 ≤ c.toNat) (h' : c.toNat ≤ 126) : isBlank c = false := by
  simp only [isBlank, blankRanges, List.any_cons, List.any_nil, Bool.or_false, Bool.or_eq_false_iff,
    Bool.and_eq_false_iff, decide_eq_false_iff_not]
  omega

theorem isBlank_eq_false_of_isAlphanum (h : c.isAlphanum = true) : isBlank c = false := by
  rw [isAlphanum_iff, isAlpha_iff, isUpper_iff, isLower_iff, isDigit_iff] at h
  exact isBlank_eq_false (by omega) (by omega)

theorem isBlank_toUpper : isBlank c.toUpper = isBlank c := by
  by_cases hc : c.isLower = true
  · have ha : c.isAlphanum = true := isAlphanum_iff.mpr (.inl (isAlpha_iff.mpr (.inr hc)))
    have ha' : c.toUpper.isAlphanum = true := by rwa [isAlphanum_toUpper]
    rw [isBlank_eq_false_of_isAlphanum ha, isBlank_eq_false_of_isAlphanum ha']
  · rw [toUpper_eq_self hc]

end Spreadsheet.Text
