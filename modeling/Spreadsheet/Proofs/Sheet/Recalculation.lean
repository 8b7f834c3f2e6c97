import Spreadsheet.Proofs.Dependency.Acyclic
import Spreadsheet.Proofs.Formula.Variables
import Spreadsheet.Proofs.Naming
import Spreadsheet.Sheet.Edit

/-! # Recalculation

Values are overwritten one after the other while later ones read them. The cells that are still to
come are the only ones whose values may be out of date: each cell done is computed from cells that no
later step changes.
-/

namespace Spreadsheet

def Content.Mentions (c : Content) (s : CellName) : Prop :=
  ∃ f, c = .formula f ∧ .var s.text ∈ f.tokens

theorem Content.Mentions.mem_references {c : Content} {s : CellName} (h : c.Mentions s) :
    s ∈ c.references := by
  obtain ⟨f, rfl, hs⟩ := h
  exact List.mem_filterMap.mpr ⟨s.text, Formula.mem_variableNames_iff.mpr hs, s.parse?_text⟩

/-- The numbers that variables stand for are looked up in the cells that a content mentions. -/
theorem Content.evaluate_congr {c : Content} {lookup lookup' : String → Option Float}
    (h : ∀ v a, CellName.ofCanonical? v = some a → c.Mentions a → lookup v = lookup' v)
    (hn : ∀ v, CellName.ofCanonical? v = none → lookup v = lookup' v) :
    c.evaluate lookup = c.evaluate lookup' := by
  cases c with
  | text s => rfl
  | number x => rfl
  | formula f =>
    have he : f.evaluate lookup = f.evaluate lookup' := by
      refine Formula.evaluate_congr fun v hv => ?_
      cases ha : CellName.ofCanonical? v with
      | none => exact hn v ha
      | some a =>
        obtain rfl := CellName.ofCanonical?_eq_some_iff.mp ha
        exact h _ a ha ⟨f, rfl, Formula.mem_variableNames_iff.mp hv⟩
    simp only [Content.evaluate, he]

namespace Sheet

variable {sheet sheet' : Sheet} {a b s t : CellName} {cell : Cell} {order : List CellName}
  {v : String} {x : Float}

/-- `t` holds a formula that mentions `s`. -/
def References (sheet : Sheet) (s t : CellName) : Prop :=
  ∃ cell, sheet.cells[t]? = some cell ∧ s ∈ cell.content.references

/-- At `t` a formula is stored that has `s` among its variables. -/
def Mentions (sheet : Sheet) (s t : CellName) : Prop :=
  ∃ cell, sheet.cells[t]? = some cell ∧ cell.content.Mentions s

def content? (sheet : Sheet) (a : CellName) : Option Content := sheet.cells[a]?.map Cell.content

/-- The number that formulas see in a cell. -/
def number? (sheet : Sheet) (a : CellName) : Option Float := do
  let cell ← sheet.cells[a]?
  cell.value.number?

/-- The value of each stored cell outside the list is that of its content. -/
def ConsistentOutside (sheet : Sheet) (l : List CellName) : Prop :=
  ∀ (a : CellName) (cell : Cell), a ∉ l → sheet.cells[a]? = some cell →
    cell.value = cell.content.evaluate sheet.lookup

def Consistent (sheet : Sheet) : Prop :=
  ∀ (a : CellName) (cell : Cell), sheet.cells[a]? = some cell →
    cell.value = cell.content.evaluate sheet.lookup

theorem consistentOutside_nil_iff : sheet.ConsistentOutside [] ↔ sheet.Consistent :=
  ⟨fun h a cell => h a cell List.not_mem_nil, fun h a cell _ => h a cell⟩

theorem lookup_text (sheet : Sheet) (a : CellName) : sheet.lookup a.text = sheet.number? a := by
  simp only [lookup, number?, a.ofCanonical?_text, Option.bind_eq_bind, Option.bind_some]

theorem evaluate_congr {c : Content}
    (h : ∀ a, c.Mentions a → sheet.number? a = sheet'.number? a) :
    c.evaluate sheet.lookup = c.evaluate sheet'.lookup := by
  refine Content.evaluate_congr (fun v a ha hr => ?_) fun v hv => ?_
  · obtain rfl := CellName.ofCanonical?_eq_some_iff.mp ha
    rw [lookup_text, lookup_text, h a hr]
  · simp [lookup, hv]

theorem number?_congr (h : sheet.cells[a]? = sheet'.cells[a]?) :
    sheet.number? a = sheet'.number? a := by
  rw [number?, number?, h]

theorem number?_eq_some_iff :
    sheet.number? a = some x ↔ ∃ c, sheet.cells[a]? = some ⟨c, .number x⟩ := by
  simp only [number?, Option.bind_eq_bind, Option.bind_eq_some_iff]
  constructor
  · rintro ⟨⟨c, v⟩, hcell, hv⟩
    cases v with
    | number y =>
      cases hv
      exact ⟨c, hcell⟩
    | text s => cases hv
    | error e => cases hv
  · rintro ⟨c, hcell⟩
    exact ⟨_, hcell, rfl⟩

theorem lookup_eq_some_iff : sheet.lookup v = some x ↔
    ∃ (b : CellName) (c : Content), b.text = v ∧ sheet.cells[b]? = some ⟨c, .number x⟩ := by
  constructor
  · intro h
    cases hb : CellName.ofCanonical? v with
    | none => simp [lookup, hb] at h
    | some b =>
      obtain rfl := CellName.ofCanonical?_eq_some_iff.mp hb
      rw [lookup_text] at h
      obtain ⟨c, hcell⟩ := number?_eq_some_iff.mp h
      exact ⟨b, c, rfl, hcell⟩
  · rintro ⟨b, c, rfl, hcell⟩
    rw [lookup_text]
    exact number?_eq_some_iff.mpr ⟨c, hcell⟩

theorem mem_iff_isSome_content? : a ∈ sheet.cells ↔ (sheet.content? a).isSome = true := by
  rw [content?, Option.isSome_map, Std.ExtTreeMap.mem_iff_isSome_getElem?]

theorem references_iff :
    sheet.References s t ↔ ∃ c, sheet.content? t = some c ∧ s ∈ c.references := by
  simp [References, content?]

theorem references_congr (h : ∀ t, sheet.content? t = sheet'.content? t) :
    sheet.References = sheet'.References := by
  funext s t
  rw [eq_iff_iff, references_iff, references_iff, h t]

theorem mentions_iff : sheet.Mentions s t ↔ ∃ c, sheet.content? t = some c ∧ c.Mentions s := by
  simp [Mentions, content?]

theorem mentions_congr (h : ∀ t, sheet.content? t = sheet'.content? t) :
    sheet.Mentions = sheet'.Mentions := by
  funext s t
  rw [eq_iff_iff, mentions_iff, mentions_iff, h t]

theorem Mentions.references (h : sheet.Mentions s t) : sheet.References s t := by
  obtain ⟨cell, hcell, hs⟩ := h
  exact ⟨cell, hcell, hs.mem_references⟩

/-! ## One cell -/

theorem recalculateCell_eq_self (ha : sheet.cells[a]? = none) :
    sheet.recalculateCell a = sheet := by
  simp only [recalculateCell, ha]

theorem getElem?_recalculateCell (sheet : Sheet) (a b : CellName) :
    (sheet.recalculateCell a).cells[b]? =
      if a = b then
        sheet.cells[a]?.map fun cell => ⟨cell.content, cell.content.evaluate sheet.lookup⟩
      else sheet.cells[b]? := by
  cases ha : sheet.cells[a]? with
  | none =>
    rw [recalculateCell_eq_self ha]
    split
    · rename_i h
      rw [← h, ha]
      rfl
    · rfl
  | some cell =>
    simp [recalculateCell, ha, Std.ExtTreeMap.getElem?_insert, Std.LawfulEqCmp.compare_eq_iff_eq]

theorem content?_recalculateCell (sheet : Sheet) (a b : CellName) :
    (sheet.recalculateCell a).content? b = sheet.content? b := by
  rw [content?, content?, getElem?_recalculateCell]
  split
  · subst a
    cases sheet.cells[b]? <;> rfl
  · rfl

theorem mentions_recalculateCell (sheet : Sheet) (a : CellName) :
    (sheet.recalculateCell a).Mentions = sheet.Mentions :=
  mentions_congr (sheet.content?_recalculateCell a)

theorem mem_recalculateCell : b ∈ (sheet.recalculateCell a).cells ↔ b ∈ sheet.cells := by
  rw [mem_iff_isSome_content?, mem_iff_isSome_content?, content?_recalculateCell]

/-- A cell that does not mention itself has the right value once it is computed, and so has each
cell that does not mention it and had the right value before. -/
theorem ConsistentOutside.recalculateCell {l : List CellName}
    (h : sheet.ConsistentOutside (a :: l))
    (hr : a ∈ sheet.cells → ∀ t, sheet.Mentions a t → t ∈ l) (ha : a ∉ l) :
    (sheet.recalculateCell a).ConsistentOutside l := by
  intro b cell hb hcell
  have keeps {c : Cell} (hc : sheet.cells[b]? = some c) :
      c.content.evaluate (sheet.recalculateCell a).lookup = c.content.evaluate sheet.lookup := by
    refine Sheet.evaluate_congr fun s hs => ?_
    by_cases hsa : a = s
    · subst s
      -- Only a stored cell is changed, and a stored one mentioned by `b` would put `b` in the list.
      by_cases hm : a ∈ sheet.cells
      · exact absurd (hr hm b ⟨c, hc, hs⟩) hb
      · refine number?_congr ?_
        rw [getElem?_recalculateCell, if_pos rfl, Std.ExtTreeMap.getElem?_eq_none hm]
        rfl
    · exact number?_congr (by rw [getElem?_recalculateCell, if_neg hsa])
  rw [getElem?_recalculateCell] at hcell
  split at hcell
  · subst a
    obtain ⟨c, hc, rfl⟩ := Option.map_eq_some_iff.mp hcell
    exact (keeps hc).symm
  · rename_i hab
    rw [keeps hcell]
    exact h b cell (by simp [Ne.symm hab, hb]) hcell

/-! ## All cells -/

theorem recalculate_cons (sheet : Sheet) (a : CellName) (order : List CellName) :
    sheet.recalculate (a :: order) = (sheet.recalculateCell a).recalculate order := rfl

theorem content?_recalculate (sheet : Sheet) (order : List CellName) (b : CellName) :
    (sheet.recalculate order).content? b = sheet.content? b := by
  induction order generalizing sheet with
  | nil => rfl
  | cons a order ih => rw [recalculate_cons, ih, content?_recalculateCell]

theorem getElem?_recalculate (hb : b ∉ order) :
    (sheet.recalculate order).cells[b]? = sheet.cells[b]? := by
  induction order generalizing sheet with
  | nil => rfl
  | cons a order ih =>
    rw [List.mem_cons, not_or] at hb
    rw [recalculate_cons, ih hb.2, getElem?_recalculateCell, if_neg (Ne.symm hb.1)]

theorem mem_recalculate (sheet : Sheet) (order : List CellName) :
    a ∈ (sheet.recalculate order).cells ↔ a ∈ sheet.cells := by
  rw [mem_iff_isSome_content?, mem_iff_isSome_content?, content?_recalculate]

theorem recalculate_filter (sheet : Sheet) (order : List CellName) :
    sheet.recalculate (order.filter sheet.cells.contains) = sheet.recalculate order := by
  induction order generalizing sheet with
  | nil => rfl
  | cons a order ih =>
    by_cases ha : a ∈ sheet.cells
    · have hcontains : (sheet.recalculateCell a).cells.contains = sheet.cells.contains := by
        funext b
        rw [Bool.eq_iff_iff, Std.ExtTreeMap.contains_iff_mem, Std.ExtTreeMap.contains_iff_mem,
          mem_recalculateCell]
      rw [List.filter_cons_of_pos (Std.ExtTreeMap.contains_iff_mem.mpr ha), recalculate_cons,
        recalculate_cons, ← hcontains, ih]
    · rw [List.filter_cons_of_neg (mt Std.ExtTreeMap.contains_iff_mem.mp ha), recalculate_cons,
        recalculateCell_eq_self (Std.ExtTreeMap.getElem?_eq_none ha), ih]

theorem references_recalculate (sheet : Sheet) (order : List CellName) :
    (sheet.recalculate order).References = sheet.References :=
  references_congr (sheet.content?_recalculate order)

theorem mentions_recalculate (sheet : Sheet) (order : List CellName) :
    (sheet.recalculate order).Mentions = sheet.Mentions :=
  mentions_congr (sheet.content?_recalculate order)

theorem recalculateCell_frame (sheet : Sheet) (a : CellName) :
    (sheet.recalculateCell a).graph = sheet.graph ∧
      (sheet.recalculateCell a).pattern = sheet.pattern ∧
      (sheet.recalculateCell a).changed = sheet.changed := by
  unfold recalculateCell
  split <;> exact ⟨rfl, rfl, rfl⟩

theorem recalculate_frame (sheet : Sheet) (order : List CellName) :
    (sheet.recalculate order).graph = sheet.graph ∧
      (sheet.recalculate order).pattern = sheet.pattern ∧
      (sheet.recalculate order).changed = sheet.changed := by
  induction order generalizing sheet with
  | nil => exact ⟨rfl, rfl, rfl⟩
  | cons a order ih =>
    obtain ⟨hg, hp, hc⟩ := ih (sheet.recalculateCell a)
    obtain ⟨hg', hp', hc'⟩ := sheet.recalculateCell_frame a
    exact ⟨hg.trans hg', hp.trans hp', hc.trans hc'⟩

/-- Computing the cells of a list in order leaves no value out of date when the others had theirs
and mention no stored cell of the list. -/
theorem ConsistentOutside.recalculate
    (ho : InOrder (fun s t => s ∈ sheet.cells ∧ sheet.Mentions s t) order)
    (h : sheet.ConsistentOutside order) : (sheet.recalculate order).Consistent := by
  induction order generalizing sheet with
  | nil => exact consistentOutside_nil_iff.mp h
  | cons a order ih =>
    rw [recalculate_cons]
    refine ih ?_ (h.recalculateCell (fun hm t ht => ho.1 t ⟨hm, ht⟩) ho.2.1)
    simp only [mem_recalculateCell, mentions_recalculateCell]
    exact ho.2.2

end Sheet

end Spreadsheet
