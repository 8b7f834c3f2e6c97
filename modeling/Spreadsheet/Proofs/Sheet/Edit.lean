import Spreadsheet.Proofs.Dependency.Walk
import Spreadsheet.Proofs.Sheet.Recalculation

/-! # Edits

Storing or removing a content exchanges the references of one cell. What is recalculated then holds
every cell that depends on this one, in order, so that a sound sheet stays sound. References that
close a cycle are exchanged back, which leaves the sheet as it was.
-/

namespace Spreadsheet.Sheet

open Relation (TransGen ReflTransGen)

variable {sheet : Sheet} {a b s t : CellName} {c : Content} {cell : Cell} {order : List CellName}
  {name text : String}

/-- The content is what some text reads as when it is typed into the sheet. -/
def Types (sheet : Sheet) (c : Content) : Prop := ∃ text, text ≠ "" ∧ sheet.classify text = .ok c

/-- Every stored cell has a name that the pattern accepts and a content that can be typed in. -/
def Typed (sheet : Sheet) : Prop :=
  ∀ (a : CellName) (cell : Cell), sheet.cells[a]? = some cell →
    sheet.pattern.accepts a = true ∧ sheet.Types cell.content

/-- The graph holds the references of the formulas, no cell depends on itself, every value is that
of its content, and every cell could be typed in. -/
structure Sound (sheet : Sheet) : Prop where
  represents : sheet.graph.Represents sheet.References
  acyclic : Acyclic sheet.References
  consistent : sheet.Consistent
  typed : sheet.Typed

theorem classify_congr {sheet' : Sheet} (h : sheet.pattern = sheet'.pattern) :
    sheet.classify = sheet'.classify := by
  funext text
  simp only [classify, parseFormula, variableRules, h]

theorem types_congr {sheet' : Sheet} (h : sheet.pattern = sheet'.pattern) :
    sheet.Types = sheet'.Types := by
  funext c
  rw [Types, Types, classify_congr h]

theorem sound_empty (pattern : NamePattern) : (empty pattern).Sound where
  represents := DependencyGraph.represents_empty.congr fun s t => by simp [References, empty]
  acyclic := acyclic_false.mono fun s t => by simp [References, empty]
  consistent a cell h := by simp [empty] at h
  typed a cell h := by simp [empty] at h

/-! ## Exchanging one cell -/

/-- The second sheet has another cell than the first at `a`, or none there, and is the same
elsewhere. -/
structure Exchanges (sheet sheet' : Sheet) (a : CellName) (new : Option Cell) : Prop where
  getElem? : ∀ b, sheet'.cells[b]? = if a = b then new else sheet.cells[b]?
  pattern : sheet'.pattern = sheet.pattern

namespace Exchanges

variable {sheet' : Sheet} {new : Option Cell}

theorem references_iff (h : sheet.Exchanges sheet' a new) : sheet'.References s t ↔
    if t = a then ∃ cell, new = some cell ∧ s ∈ cell.content.references
    else sheet.References s t := by
  rw [References, h.getElem?]
  split
  · rename_i hat
    rw [if_pos hat.symm]
  · rename_i hat
    rw [if_neg (Ne.symm hat)]
    rfl

/-- The order lists the exchanged cell and all that depends on it, so the values outside are not
touched. -/
theorem consistentOutside (he : sheet.Exchanges sheet' a new) (h : sheet.Consistent)
    (ha : a ∈ order) (ho : ∀ t, t ≠ a → sheet.References a t → t ∈ order) :
    sheet'.ConsistentOutside order := by
  intro b cell hb hcell
  have hab : a ≠ b := by
    rintro rfl
    exact hb ha
  rw [he.getElem?, if_neg hab] at hcell
  rw [h b cell hcell]
  refine evaluate_congr fun s hs => number?_congr ?_
  have has : a ≠ s := by
    rintro rfl
    exact hb (ho b (Ne.symm hab) ⟨cell, hcell, hs.mem_references⟩)
  rw [he.getElem?, if_neg has]

theorem typed (he : sheet.Exchanges sheet' a new) (h : sheet.Typed)
    (hnew : ∀ cell, new = some cell → sheet.pattern.accepts a = true ∧ sheet.Types cell.content) :
    sheet'.Typed := by
  intro b cell hb
  rw [he.pattern, types_congr he.pattern]
  rw [he.getElem?] at hb
  split at hb
  · subst b
    exact hnew cell hb
  · exact h b cell hb

end Exchanges

theorem Sound.recalculate (hg : sheet.graph.Represents sheet.References)
    (hc : Acyclic sheet.References) (hi : InOrder sheet.References order)
    (ho : sheet.ConsistentOutside order) (ht : sheet.Typed) : (sheet.recalculate order).Sound where
  represents := by
    rw [(sheet.recalculate_frame order).1, references_recalculate]
    exact hg
  acyclic := by
    rw [references_recalculate]
    exact hc
  consistent := ho.recalculate (hi.mono fun _ _ h => h.2.references)
  typed b cell hb := by
    have hm := sheet.content?_recalculate order b
    rw [content?, hb] at hm
    obtain ⟨cell', hcell', hc'⟩ := Option.map_eq_some_iff.mp hm.symm
    have hp := (sheet.recalculate_frame order).2.1
    rw [hp, types_congr hp, ← hc']
    exact ht b cell' hcell'

/-! ## Storing a content -/

/-- The sheet with a content put in, before anything is computed again. -/
def store (sheet : Sheet) (a : CellName) (c : Content) : Sheet :=
  { sheet with
    cells := sheet.cells.insert a (Cell.new c)
    graph := (sheet.graph.setPrecedents a c.references).2
    changed := true }

theorem exchanges_store (sheet : Sheet) (a : CellName) (c : Content) :
    sheet.Exchanges (sheet.store a c) a (some (Cell.new c)) where
  getElem? b := by
    simp [store, Std.ExtTreeMap.getElem?_insert, Std.LawfulEqCmp.compare_eq_iff_eq]
  pattern := rfl

theorem references_store_iff : (sheet.store a c).References s t ↔
    if t = a then s ∈ c.references else sheet.References s t := by
  simp [(sheet.exchanges_store a c).references_iff, Cell.new]

theorem represents_store (h : sheet.graph.Represents sheet.References) :
    (sheet.store a c).graph.Represents (sheet.store a c).References :=
  (h.setPrecedents a c.references).congr fun _ _ => references_store_iff.symm

theorem put_eq (h : sheet.graph.Represents sheet.References) :
    sheet.put a c = match (sheet.store a c).graph.recalculationOrder [a] with
      | .ok order => (.ok order, (sheet.store a c).recalculate order)
      | .error cycle => (.error (.circular a cycle), sheet) := by
  have hr := h.setPrecedents_restore a c.references
  simp only [put, store]
  cases (sheet.graph.setPrecedents a c.references).2.recalculationOrder [a] with
  | ok order => rfl
  | error cycle => rw [hr]

theorem Sound.put (h : sheet.Sound) (haccepts : sheet.pattern.accepts a = true)
    (hc : sheet.Types c) : (sheet.put a c).2.Sound := by
  rw [put_eq h.represents]
  cases ho : (sheet.store a c).graph.recalculationOrder [a] with
  | error cycle => exact h
  | ok order =>
    have hg := represents_store (a := a) (c := c) h.represents
    obtain ⟨hi, ha⟩ := hg.inOrder ho
    have hnew {s t : CellName} (hta : t ≠ a) :
        (sheet.store a c).References s t ↔ sheet.References s t := by
      rw [references_store_iff, if_neg hta]
    refine Sound.recalculate hg ?_ hi ?_ ?_
    · exact h.acyclic.exchange (fun s t hta => (hnew hta).mp) (hi.not_transGen_self ha)
    · exact (sheet.exchanges_store a c).consistentOutside h.consistent ha fun t hta ht =>
        hi.mem_of_edge ha ((hnew hta).mpr ht)
    · refine (sheet.exchanges_store a c).typed h.typed fun cell hcell => ?_
      cases hcell
      exact ⟨haccepts, hc⟩

/-! ## Removing a content -/

def remove (sheet : Sheet) (a : CellName) : Sheet :=
  { sheet with
    cells := sheet.cells.erase a
    graph := (sheet.graph.setPrecedents a []).2
    changed := true }

theorem exchanges_remove (sheet : Sheet) (a : CellName) :
    sheet.Exchanges (sheet.remove a) a none where
  getElem? b := by
    simp [remove, Std.ExtTreeMap.getElem?_erase, Std.LawfulEqCmp.compare_eq_iff_eq]
  pattern := rfl

theorem references_remove_iff :
    (sheet.remove a).References s t ↔ if t = a then False else sheet.References s t := by
  simp [(sheet.exchanges_remove a).references_iff]

theorem represents_remove (h : sheet.graph.Represents sheet.References) :
    (sheet.remove a).graph.Represents (sheet.remove a).References :=
  (h.setPrecedents a []).congr fun s t => by
    rw [references_remove_iff]
    simp

theorem references_of_remove (h : (sheet.remove a).References s t) : sheet.References s t := by
  rw [references_remove_iff] at h
  split at h
  · exact h.elim
  · exact h

/-- A sound sheet can be cleared anywhere: there is no cycle to stop at. -/
theorem Sound.clear_eq (h : sheet.Sound) (a : CellName) :
    ∃ order, sheet.graph.recalculationOrder [a] = .ok order ∧
      sheet.clear a = (.ok [], (sheet.remove a).recalculate order) := by
  obtain ⟨order, ho⟩ := h.represents.exists_recalculationOrder h.acyclic [a]
  exact ⟨order, ho, by simp [clear, dependentsInOrder, ho, Except.mapError, remove]⟩

theorem Sound.clear (h : sheet.Sound) : (sheet.clear a).2.Sound := by
  obtain ⟨order, ho, hclear⟩ := h.clear_eq a
  rw [hclear]
  obtain ⟨hi, ha⟩ := h.represents.inOrder ho
  refine Sound.recalculate (represents_remove h.represents) ?_ ?_ ?_ ?_
  · exact h.acyclic.mono fun s t => references_of_remove
  · exact hi.mono fun s t => references_of_remove
  · exact (sheet.exchanges_remove a).consistentOutside h.consistent ha fun t _ ht =>
      hi.mem_of_edge ha ht
  · exact (sheet.exchanges_remove a).typed h.typed fun cell hcell => by cases hcell

/-! ## Setting a cell -/

theorem isEmpty_of_classify (ht : text ≠ "") (h : sheet.classify text = .ok c) :
    c.isEmpty = false := by
  unfold classify at h
  split at h
  · obtain ⟨f, -, rfl⟩ := Except.map_eq_ok_iff.mp h
    rfl
  · split at h
    · cases h
      split
      · rfl
      · simpa [Content.isEmpty] using ht
    · cases h
      simpa [Content.isEmpty] using ht

theorem isEmpty_of_types (h : sheet.Types c) : c.isEmpty = false := by
  obtain ⟨text, ht, hc⟩ := h
  exact isEmpty_of_classify ht hc

theorem accepts_of_address (h : sheet.address name = .ok a) : sheet.pattern.accepts a = true := by
  unfold address at h
  split at h
  · rename_i ha
    cases h
    exact (Option.filter_eq_some_iff.mp ha).2
  · cases h

theorem Sound.set (h : sheet.Sound) (name text : String) : (sheet.set name text).2.Sound := by
  unfold Sheet.set
  split
  · exact h
  · rename_i ha
    split
    · exact h.clear
    · rename_i ht
      split
      · exact h
      · rename_i hc
        exact h.put (accepts_of_address ha) ⟨text, ht, hc⟩

theorem Sound.markSaved (h : sheet.Sound) : sheet.markSaved.Sound :=
  ⟨h.represents, h.acyclic, h.consistent, h.typed⟩

/-! ## What an edit leaves -/

theorem pattern_put (sheet : Sheet) (a : CellName) (c : Content) :
    (sheet.put a c).2.pattern = sheet.pattern := by
  simp only [Sheet.put]
  split
  · rfl
  · exact (recalculate_frame _ _).2.1

theorem pattern_clear (sheet : Sheet) (a : CellName) :
    (sheet.clear a).2.pattern = sheet.pattern := by
  simp only [Sheet.clear]
  split
  · rfl
  · exact (recalculate_frame _ _).2.1

theorem pattern_set (sheet : Sheet) (name text : String) :
    (sheet.set name text).2.pattern = sheet.pattern := by
  unfold Sheet.set
  split
  · rfl
  · split
    · exact sheet.pattern_clear _
    · split
      · rfl
      · exact sheet.pattern_put _ _

end Spreadsheet.Sheet
