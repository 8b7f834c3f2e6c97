import Spreadsheet.Proofs.Dependency.Order
import Spreadsheet.Proofs.Sheet.Contents
import Spreadsheet.Proofs.Sheet.Mentions

/-! # Schedules

Cells can be computed again in every order that has each of them behind the listed ones it mentions,
as long as the cells outside have their values already and mention none of the list. Then it does not
matter which of these orders is taken, nor what the listed cells held before: the values left are the
only ones that fit the contents.
-/

namespace Spreadsheet.Sheet

variable {sheet sheet' : Sheet} {a s t : CellName} {order order' : List CellName}

/-- The list names each cell once and none in front of one that it mentions. A stored cell that is not
listed has the value of its content, and mentions no listed cell that is stored. -/
structure IsSchedule (sheet : Sheet) (order : List CellName) : Prop where
  nodup : order.Nodup
  behind : order.Pairwise fun s t => ¬ sheet.Mentions t s
  outside : sheet.ConsistentOutside order
  apart : ∀ s t, s ∈ order → s ∈ sheet.cells → t ∉ order → ¬ sheet.Mentions s t

/-- The same contents are stored, and outside a list also the same values. -/
structure AgreesOutside (sheet sheet' : Sheet) (l : List CellName) : Prop where
  content? : ∀ a, sheet.content? a = sheet'.content? a
  getElem? : ∀ a, a ∉ l → sheet.cells[a]? = sheet'.cells[a]?

namespace AgreesOutside

variable {l l' : List CellName}

theorem mem_iff (h : sheet.AgreesOutside sheet' l) : a ∈ sheet.cells ↔ a ∈ sheet'.cells := by
  rw [mem_iff_isSome_content?, mem_iff_isSome_content?, h.content? a]

theorem perm (h : sheet.AgreesOutside sheet' l) (hp : l'.Perm l) : sheet.AgreesOutside sheet' l' where
  content? := h.content?
  getElem? a ha := h.getElem? a fun hm => ha (hp.mem_iff.mpr hm)

theorem number?_eq (h : sheet.AgreesOutside sheet' l) (hs : s ∈ l → s ∉ sheet.cells) :
    sheet.number? s = sheet'.number? s := by
  refine number?_congr ?_
  by_cases hm : s ∈ l
  · rw [Std.ExtTreeMap.getElem?_eq_none (hs hm),
      Std.ExtTreeMap.getElem?_eq_none (mt h.mem_iff.mpr (hs hm))]
  · exact h.getElem? s hm

theorem recalculate (h : sheet.AgreesOutside sheet' order) (hp : order'.Perm order) :
    (sheet.recalculate order).AgreesOutside (sheet'.recalculate order') order where
  content? a := by
    rw [content?_recalculate, content?_recalculate, h.content? a]
  getElem? a ha := by
    rw [getElem?_recalculate ha, getElem?_recalculate (mt hp.mem_iff.mp ha), h.getElem? a ha]

end AgreesOutside

def overwritten (sheet : Sheet) (l : List CellName) (v : CellName → Value) : Sheet :=
  { sheet with cells := sheet.cells.map fun a cell => if a ∈ l then ⟨cell.content, v a⟩ else cell }

theorem agreesOutside_overwritten (sheet : Sheet) (l : List CellName) (v : CellName → Value) :
    sheet.AgreesOutside (sheet.overwritten l v) l where
  content? a := by
    rw [content?, content?, overwritten, Std.ExtTreeMap.getElem?_map, Option.map_map]
    congr 1
    funext cell
    simp only [Function.comp_apply]
    split <;> rfl
  getElem? a ha := by
    rw [overwritten, Std.ExtTreeMap.getElem?_map]
    simp [ha]

namespace IsSchedule

theorem of_agreesOutside (h : sheet.IsSchedule order) (ha : sheet.AgreesOutside sheet' order) :
    sheet'.IsSchedule order where
  nodup := h.nodup
  behind := by
    rw [← mentions_congr ha.content?]
    exact h.behind
  outside t cell ht hcell := by
    rw [← ha.getElem? t ht] at hcell
    rw [h.outside t cell ht hcell]
    refine evaluate_congr fun s hs => ha.number?_eq fun hm hstored => ?_
    exact h.apart s t hm hstored ht ⟨cell, hcell, hs⟩
  apart s t hm hstored ht := by
    rw [← mentions_congr ha.content?]
    exact h.apart s t hm (ha.mem_iff.mpr hstored) ht

/-- Without cycles no listed cell mentions itself, so all that mentions a stored one stands behind it. -/
theorem inOrder (h : sheet.IsSchedule order) (hacyclic : Acyclic sheet.Mentions) :
    InOrder (fun s t => s ∈ sheet.cells ∧ sheet.Mentions s t) order := by
  refine inOrder_iff.mpr ⟨h.nodup, h.behind.imp fun hn he => hn he.2, fun s hs => ⟨?_, ?_⟩⟩
  · exact fun he => hacyclic s (.single he.2)
  · intro t he
    by_contra ht
    exact h.apart s t hs he.1 ht he.2

theorem consistent_recalculate (h : sheet.IsSchedule order) (hacyclic : Acyclic sheet.Mentions) :
    (sheet.recalculate order).Consistent :=
  h.outside.recalculate (h.inOrder hacyclic)

end IsSchedule

/-- Along an order the values are determined one after the other, from those outside the list on. -/
theorem Consistent.getElem?_eq (h : sheet.Consistent) (h' : sheet'.Consistent)
    (ho : InOrder (fun s t => s ∈ sheet.cells ∧ sheet.Mentions s t) order)
    (ha : sheet.AgreesOutside sheet' order) (a : CellName) :
    sheet.cells[a]? = sheet'.cells[a]? := by
  induction hn : order.idxOf a using Nat.strong_induction_on generalizing a with
  | _ n ih =>
    refine getElem?_eq_of_consistent h h' (ha.content? a) fun s hs => ?_
    by_cases hm : s ∈ order ∧ s ∈ sheet.cells
    · have hlt : order.idxOf s < order.idxOf a := ho.idxOf_lt hm.1 ⟨hm.2, hs⟩
      exact number?_congr (ih _ (hn ▸ hlt) s rfl)
    · exact ha.number?_eq fun hl hstored => hm ⟨hl, hstored⟩

/-- All schedules of the same cells lead to the same cells, whatever values are computed again. -/
theorem IsSchedule.cells_recalculate_eq (h : sheet.IsSchedule order)
    (h' : sheet.IsSchedule order') (hacyclic : Acyclic sheet.Mentions) (hp : order'.Perm order)
    (ha : sheet.AgreesOutside sheet' order) :
    (sheet.recalculate order).cells = (sheet'.recalculate order').cells := by
  have hmentions := mentions_congr ha.content?
  have hinOrder := h.inOrder hacyclic
  have hconsistent' := (h'.of_agreesOutside (ha.perm hp)).consistent_recalculate (hmentions ▸ hacyclic)
  refine Std.ExtTreeMap.ext_getElem? fun a => ?_
  refine (h.consistent_recalculate hacyclic).getElem?_eq hconsistent' ?_ (ha.recalculate hp) a
  simp only [mem_recalculate, mentions_recalculate]
  exact hinOrder

theorem Sound.isSchedule {starts : List CellName} (h : sheet.Sound)
    (ho : sheet.graph.recalculationOrder starts = .ok order) : sheet.IsSchedule order := by
  have hi := (DependencyGraph.inOrder_of_recalculationOrder ho).1
  rw [h.represents_mentions.edge_eq] at hi
  obtain ⟨hnodup, hbehind, hclosed⟩ := inOrder_iff.mp hi
  exact {
    nodup := hnodup
    behind := hbehind
    outside := fun a cell _ => h.consistent a cell
    apart := fun s t hs _ ht hm => ht ((hclosed s hs).2 t hm) }

/-- Computing the cells of a schedule again gives every stored cell the value of its content among
the values then stored, where names stand for the numbers held by their cells. Listed cells that are
not stored are passed over, and what is stored where does not change, nor the contents. The same
cells come about from every other schedule of the same names, and from all other values that the
listed cells may have held before. -/
theorem recalculate_of_isSchedule (hacyclic : Acyclic sheet.Mentions) (h : sheet.IsSchedule order) :
    (∀ (a : CellName) (cell : Cell), (sheet.recalculate order).cells[a]? = some cell →
      cell.value = cell.content.evaluate (sheet.recalculate order).lookup) ∧
    (∀ v x, (sheet.recalculate order).lookup v = some x ↔ ∃ (b : CellName) (c : Content),
      b.text = v ∧ (sheet.recalculate order).cells[b]? = some ⟨c, .number x⟩) ∧
    sheet.recalculate order = sheet.recalculate (order.filter sheet.cells.contains) ∧
    (∀ a, a ∈ (sheet.recalculate order).cells ↔ a ∈ sheet.cells) ∧
    (∀ a, (sheet.recalculate order).content? a = sheet.content? a) ∧
    ∀ (sheet' : Sheet) (order' : List CellName), sheet.AgreesOutside sheet' order →
      order'.Perm order → sheet.IsSchedule order' →
      (sheet.recalculate order).cells = (sheet'.recalculate order').cells := by
  refine ⟨h.consistent_recalculate hacyclic, fun v x => lookup_eq_some_iff,
    (recalculate_filter sheet order).symm, fun a => mem_recalculate sheet order,
    content?_recalculate sheet order, ?_⟩
  intro sheet' order' ha hp h'
  exact h.cells_recalculate_eq h' hacyclic hp ha

/-- `D1` mentions two formulas that mention the same text. -/
def forked : Sheet :=
  ((Sheet.empty .any).respondAll [.set "A1" "x", .set "B1" "=A1", .set "C1" "=A1*A1",
    .set "D1" "=B1+C1"]).2

/-- The three formulas had numbers before. With them a cell is listed that is not stored. -/
theorem recalculate_of_isSchedule_forked : ∃ (order order' : List CellName) (stale : Sheet),
    order.map CellName.text = ["C1", "E1", "B1", "D1"] ∧
    order'.map CellName.text = ["B1", "C1", "D1", "E1"] ∧
    stale = forked.overwritten order (fun _ => .number 1) ∧
    Acyclic stale.Mentions ∧ stale.IsSchedule order ∧
    (∀ (a : CellName) (cell : Cell), (stale.recalculate order).cells[a]? = some cell →
      cell.value = cell.content.evaluate (stale.recalculate order).lookup) ∧
    (∀ v x, (stale.recalculate order).lookup v = some x ↔ ∃ (b : CellName) (c : Content),
      b.text = v ∧ (stale.recalculate order).cells[b]? = some ⟨c, .number x⟩) ∧
    stale.recalculate order = stale.recalculate (order.filter stale.cells.contains) ∧
    (∀ a, a ∈ (stale.recalculate order).cells ↔ a ∈ stale.cells) ∧
    (∀ a, (stale.recalculate order).content? a = stale.content? a) ∧
    stale.IsSchedule order' ∧ order'.Perm order ∧
    (stale.recalculate order).cells = (stale.recalculate order').cells := by
  let b : CellName := ⟨"B1", by decide⟩
  let c : CellName := ⟨"C1", by decide⟩
  let d : CellName := ⟨"D1", by decide⟩
  let e : CellName := ⟨"E1", by decide⟩
  have hs : forked.Sound := ((Reachable.empty .any).respondAll _).sound
  have ho : forked.graph.recalculationOrder [b, e, c] = .ok [c, e, b, d] := by cbv
  have ho' : forked.graph.recalculationOrder [e, c, b] = .ok [b, c, d, e] := by cbv
  have ha := forked.agreesOutside_overwritten [c, e, b, d] fun _ => .number 1
  have hp : [b, c, d, e].Perm [c, e, b, d] := by decide
  have hacyclic := mentions_congr ha.content? ▸ hs.acyclic_mentions
  have h := (hs.isSchedule ho).of_agreesOutside ha
  have h' := (hs.isSchedule ho').of_agreesOutside (ha.perm hp)
  obtain ⟨hvalue, hlookup, hfilter, hmem, hcontent, hsame⟩ := recalculate_of_isSchedule hacyclic h
  exact ⟨_, _, _, rfl, rfl, rfl, hacyclic, h, hvalue, hlookup, hfilter, hmem, hcontent, h', hp,
    hsame _ _ ⟨fun _ => rfl, fun _ _ => rfl⟩ hp h'⟩

end Spreadsheet.Sheet
