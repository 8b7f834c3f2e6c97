import Mathlib.Data.List.DropRight
import Spreadsheet.Text.Blank

/-! # Trimmed texts

To trim a text is to find the one way to write it as blanks, a text with no blank at its ends, and
blanks again.
-/

namespace Spreadsheet.Text

variable {cs ds before behind : List Char} {c : Char}

structure IsTrimmed (cs : List Char) : Prop where
  head : ∀ c, cs.head? = some c → isBlank c = false
  last : ∀ c, cs.getLast? = some c → isBlank c = false

theorem trim_eq_rdropWhile (cs : List Char) :
    trim cs = (cs.dropWhile isBlank).rdropWhile isBlank := rfl

theorem exists_eq_append_trim (cs : List Char) : ∃ before behind,
    (∀ c ∈ before, isBlank c = true) ∧ (∀ c ∈ behind, isBlank c = true) ∧
      cs = before ++ trim cs ++ behind := by
  refine ⟨cs.takeWhile isBlank, (cs.dropWhile isBlank).rtakeWhile isBlank,
    fun c hc => List.mem_takeWhile_imp hc, fun c hc => List.mem_rtakeWhile_imp hc, ?_⟩
  rw [trim_eq_rdropWhile, List.append_assoc, List.rdropWhile_append_rtakeWhile,
    List.takeWhile_append_dropWhile]

theorem eq_false_of_head?_dropWhile (h : (cs.dropWhile isBlank).head? = some c) :
    isBlank c = false := by
  have hnot := List.head?_dropWhile_not isBlank cs
  rw [h] at hnot
  exact hnot

theorem isTrimmed_trim (cs : List Char) : IsTrimmed (trim cs) where
  head c hc := by
    obtain ⟨rest, hrest⟩ := List.rdropWhile_prefix isBlank (cs.dropWhile isBlank)
    rw [← trim_eq_rdropWhile] at hrest
    refine eq_false_of_head?_dropWhile (?_ : (cs.dropWhile isBlank).head? = some c)
    rw [← hrest, List.head?_append, hc, Option.some_or]
  last c hc := by
    rw [trim, List.getLast?_reverse] at hc
    exact eq_false_of_head?_dropWhile hc

theorem trim_eq_nil (h : ∀ c ∈ cs, isBlank c = true) : trim cs = [] := by
  rw [trim, List.dropWhile_eq_nil_iff.mpr h]
  rfl

theorem IsTrimmed.dropWhile_append (h : IsTrimmed cs) (hcs : cs ≠ []) (behind : List Char) :
    (cs ++ behind).dropWhile isBlank = cs ++ behind := by
  obtain ⟨c, cs, rfl⟩ := List.exists_cons_of_ne_nil hcs
  exact List.dropWhile_cons_of_neg (by simp [h.head c rfl])

theorem IsTrimmed.reverse (h : IsTrimmed cs) : IsTrimmed cs.reverse where
  head c hc := h.last c (by rwa [List.head?_reverse] at hc)
  last c hc := h.head c (by rwa [List.getLast?_reverse] at hc)

theorem IsTrimmed.trim_append (h : IsTrimmed cs) (hbefore : ∀ c ∈ before, isBlank c = true)
    (hbehind : ∀ c ∈ behind, isBlank c = true) : trim (before ++ cs ++ behind) = cs := by
  by_cases hcs : cs = []
  · subst cs
    refine trim_eq_nil fun c hc => ?_
    rw [List.append_nil, List.mem_append] at hc
    exact hc.elim (hbefore c) (hbehind c)
  · have hfront : (before ++ cs ++ behind).dropWhile isBlank = cs ++ behind := by
      rw [List.append_assoc, List.dropWhile_append_of_pos hbefore, h.dropWhile_append hcs behind]
    have hback : (behind.reverse ++ cs.reverse).dropWhile isBlank = cs.reverse := by
      rw [List.dropWhile_append_of_pos fun c hc => hbehind c (List.mem_reverse.mp hc)]
      simpa using h.reverse.dropWhile_append (List.reverse_ne_nil_iff.mpr hcs) []
    rw [trim, hfront, List.reverse_append, hback, List.reverse_reverse]

theorem trim_eq_iff : trim cs = ds ↔ IsTrimmed ds ∧ ∃ before behind,
    (∀ c ∈ before, isBlank c = true) ∧ (∀ c ∈ behind, isBlank c = true) ∧
      cs = before ++ ds ++ behind := by
  constructor
  · rintro rfl
    exact ⟨isTrimmed_trim cs, exists_eq_append_trim cs⟩
  · rintro ⟨h, before, behind, hbefore, hbehind, rfl⟩
    exact h.trim_append hbefore hbehind

theorem trim_eq_self (h : ∀ c ∈ cs, isBlank c = false) : trim cs = cs :=
  trim_eq_iff.mpr ⟨⟨fun c hc => h c (List.mem_of_mem_head? hc),
    fun c hc => h c (List.mem_of_mem_getLast? hc)⟩, [], [], by simp, by simp, by simp⟩

end Spreadsheet.Text
