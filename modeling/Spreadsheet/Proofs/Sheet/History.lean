import Spreadsheet.Proofs.Sheet.Contents
import Spreadsheet.Proofs.Sheet.Reachable

/-! # Sheets without their history

Reachable sheets with the same pattern and the same contents are the same but for the mark that says
whether contents changed. No answer depends on this mark, so however the two came about, they answer
whatever is asked next alike.
-/

namespace Spreadsheet.Sheet

variable {sheet sheet' : Sheet}

/-- The sheets are the same but for the mark that contents changed. -/
structure Agrees (sheet sheet' : Sheet) : Prop where
  cells : sheet.cells = sheet'.cells
  graph : sheet.graph = sheet'.graph
  pattern : sheet.pattern = sheet'.pattern

namespace Agrees

theorem refl (sheet : Sheet) : sheet.Agrees sheet := ⟨rfl, rfl, rfl⟩

theorem of_markSaved_eq (h : sheet.markSaved = sheet'.markSaved) : sheet.Agrees sheet' := by
  obtain ⟨hcells, hgraph, hpattern, -⟩ := Sheet.mk.inj h
  exact ⟨hcells, hgraph, hpattern⟩

theorem exists_eq (h : sheet.Agrees sheet') :
    ∃ changed, sheet' = { sheet with changed := changed } := by
  obtain ⟨cells, graph, pattern, changed⟩ := sheet
  obtain ⟨cells', graph', pattern', changed'⟩ := sheet'
  obtain ⟨rfl, rfl, rfl⟩ := h
  exact ⟨changed', rfl⟩

/-! ## What is read of a sheet -/

theorem address (h : sheet.Agrees sheet') (name : String) :
    sheet.address name = sheet'.address name := by
  rw [Sheet.address, Sheet.address, h.pattern]

theorem lookup (h : sheet.Agrees sheet') : sheet.lookup = sheet'.lookup := by
  funext v
  simp only [Sheet.lookup, h.cells]

theorem classify (h : sheet.Agrees sheet') (text : String) :
    sheet.classify text = sheet'.classify text := by
  rw [classify_congr h.pattern]

theorem evaluate (h : sheet.Agrees sheet') (text : String) :
    sheet.evaluate text = sheet'.evaluate text := by
  simp only [Sheet.evaluate, parseFormula, variableRules, h.pattern, h.lookup]

theorem content (h : sheet.Agrees sheet') (name : String) :
    sheet.content name = sheet'.content name := by
  have hcontent : sheet.contentOf = sheet'.contentOf := by
    funext a
    simp only [contentOf, h.cells]
  rw [Sheet.content, Sheet.content, h.address, hcontent]

theorem value (h : sheet.Agrees sheet') (name : String) : sheet.value name = sheet'.value name := by
  have hvalue : sheet.valueOf = sheet'.valueOf := by
    funext a
    simp only [valueOf, h.cells]
  rw [Sheet.value, Sheet.value, h.address, hvalue]

theorem recalculationOrder (h : sheet.Agrees sheet') (name : String) :
    sheet.recalculationOrder name = sheet'.recalculationOrder name := by
  simp only [Sheet.recalculationOrder, dependentsInOrder, h.address, h.graph]

theorem saveBytes (h : sheet.Agrees sheet') : sheet.saveBytes = sheet'.saveBytes := by
  simp only [Sheet.saveBytes, save, document, h.cells, h.pattern]

theorem names (h : sheet.Agrees sheet') : sheet.names = sheet'.names := by
  rw [Sheet.names, Sheet.names, h.cells]

/-! ## One request -/

theorem clear (h : sheet.Agrees sheet') (a : CellName) :
    (sheet.clear a).1 = (sheet'.clear a).1 ∧ (sheet.clear a).2.Agrees (sheet'.clear a).2 := by
  obtain ⟨changed, rfl⟩ := h.exists_eq
  simp only [Sheet.clear, dependentsInOrder]
  cases (sheet.graph.recalculationOrder [a]).mapError (EditError.circular a) with
  | error e => exact ⟨rfl, ⟨rfl, rfl, rfl⟩⟩
  | ok order => exact ⟨rfl, refl _⟩

theorem put (h : sheet.Agrees sheet') (a : CellName) (c : Content) :
    (sheet.put a c).1 = (sheet'.put a c).1 ∧ (sheet.put a c).2.Agrees (sheet'.put a c).2 := by
  obtain ⟨changed, rfl⟩ := h.exists_eq
  simp only [Sheet.put]
  cases (sheet.graph.setPrecedents a c.references).2.recalculationOrder [a] with
  | error cycle => exact ⟨rfl, ⟨rfl, rfl, rfl⟩⟩
  | ok order => exact ⟨rfl, refl _⟩

theorem set (h : sheet.Agrees sheet') (name text : String) :
    (sheet.set name text).1 = (sheet'.set name text).1 ∧
      (sheet.set name text).2.Agrees (sheet'.set name text).2 := by
  unfold Sheet.set
  rw [← h.address, ← h.classify]
  cases sheet.address name with
  | error e => exact ⟨rfl, h⟩
  | ok a =>
    by_cases ht : text = ""
    · simp only [if_pos ht]
      exact h.clear a
    · simp only [if_neg ht]
      cases sheet.classify text with
      | error e => exact ⟨rfl, h⟩
      | ok c => exact h.put a c

theorem respond (h : sheet.Agrees sheet') (r : Request) :
    (sheet.respond r).1 = (sheet'.respond r).1 ∧ (sheet.respond r).2.Agrees (sheet'.respond r).2 := by
  cases r with
  | set name text =>
    obtain ⟨hanswer, hnext⟩ := h.set name text
    rw [respond_set, respond_set]
    exact ⟨congrArg Answer.cells hanswer, hnext⟩
  | markSaved => exact ⟨rfl, h.cells, h.graph, h.pattern⟩
  | save => exact ⟨congrArg Answer.saved h.saveBytes, h⟩
  | reload =>
    simp only [Sheet.respond, ← h.saveBytes, ← h.pattern]
    cases load sheet.saveBytes sheet.pattern with
    | error e => exact ⟨rfl, h⟩
    | ok loaded => exact ⟨rfl, refl loaded⟩
  | evaluate text => exact ⟨congrArg Answer.value (h.evaluate text), h⟩
  | content name => exact ⟨congrArg Answer.content (h.content name), h⟩
  | value name => exact ⟨congrArg Answer.value (h.value name), h⟩
  | recalculationOrder name => exact ⟨congrArg Answer.cells (h.recalculationOrder name), h⟩
  | names => exact ⟨congrArg (fun names => Answer.cells (.ok names)) h.names, h⟩

/-! ## All requests -/

theorem respondAll (h : sheet.Agrees sheet') (requests : List Request) :
    (sheet.respondAll requests).1 = (sheet'.respondAll requests).1 ∧
      (sheet.respondAll requests).2.Agrees (sheet'.respondAll requests).2 := by
  induction requests generalizing sheet sheet' with
  | nil => exact ⟨rfl, h⟩
  | cons r requests ih =>
    obtain ⟨hanswer, hnext⟩ := h.respond r
    obtain ⟨hanswers, hlast⟩ := ih hnext
    rw [respondAll_cons, respondAll_cons]
    exact ⟨congrArg₂ List.cons hanswer hanswers, hlast⟩

end Agrees

/-! ## Contents -/

/-- No empty content is stored, so what a cell is seen to hold tells whether it is stored. -/
theorem content?_eq_of_typed (h : sheet.Typed) (a : CellName) : sheet.content? a =
    if (sheet.contentOf a).isEmpty then none else some (sheet.contentOf a) := by
  cases ha : sheet.cells[a]? with
  | none => simp [content?, contentOf, ha, Content.isEmpty, Content.empty]
  | some cell =>
    have hc := isEmpty_of_types (h a cell ha).2
    simp [content?, contentOf, ha, hc]

theorem Sound.agrees (h : sheet.Sound) (h' : sheet'.Sound) (hp : sheet.pattern = sheet'.pattern)
    (hc : ∀ a, sheet.contentOf a = sheet'.contentOf a) : sheet.Agrees sheet' := by
  refine .of_markSaved_eq (h.markSaved.ext h'.markSaved hp rfl fun a => ?_)
  calc sheet.content? a
      = if (sheet.contentOf a).isEmpty then none else some (sheet.contentOf a) :=
        content?_eq_of_typed h.typed a
    _ = if (sheet'.contentOf a).isEmpty then none else some (sheet'.contentOf a) := by rw [hc a]
    _ = sheet'.content? a := (content?_eq_of_typed h'.typed a).symm

/-- However two sheets came about, when they have the same pattern and the same content in every
cell, they have the same cells with the same values and the same graph, save to the same bytes, and
answer whatever is asked of them, one request or many, in the same way. -/
theorem agrees_of_reachable (h : Reachable sheet) (h' : Reachable sheet')
    (hp : sheet.pattern = sheet'.pattern) (hc : ∀ a, sheet.contentOf a = sheet'.contentOf a) :
    sheet.cells = sheet'.cells ∧ sheet.graph = sheet'.graph ∧
    (∀ name, sheet.value name = sheet'.value name) ∧
    (∀ name, sheet.recalculationOrder name = sheet'.recalculationOrder name) ∧
    (∀ text, sheet.evaluate text = sheet'.evaluate text) ∧
    sheet.saveBytes = sheet'.saveBytes ∧
    ∀ requests, (sheet.respondAll requests).1 = (sheet'.respondAll requests).1 ∧
      (sheet.respondAll requests).2.Agrees (sheet'.respondAll requests).2 := by
  have hagrees := h.sound.agrees h'.sound hp hc
  exact ⟨hagrees.cells, hagrees.graph, hagrees.value, hagrees.recalculationOrder,
    hagrees.evaluate, hagrees.saveBytes, hagrees.respondAll⟩

def direct : Sheet := ((Sheet.empty .any).respondAll [.set "b1" "=A1", .set "A1" "x"]).2

/-- The same contents, but with a cell emptied and an edit refused on the way. -/
def roundabout : Sheet :=
  ((Sheet.empty .any).respondAll [.set "C1" "=b1", .set "B1" "= a1", .set "a1" "=C1", .set "C1" "",
    .set "a1" "x"]).2

theorem agrees_of_reachable_roundabout :
    Reachable direct ∧ Reachable roundabout ∧ direct.pattern = roundabout.pattern ∧
    (∀ a, direct.contentOf a = roundabout.contentOf a) ∧
    direct.cells = roundabout.cells ∧ direct.graph = roundabout.graph ∧
    (∀ name, direct.value name = roundabout.value name) ∧
    (∀ name, direct.recalculationOrder name = roundabout.recalculationOrder name) ∧
    (∀ text, direct.evaluate text = roundabout.evaluate text) ∧
    direct.saveBytes = roundabout.saveBytes ∧
    ∀ requests, (direct.respondAll requests).1 = (roundabout.respondAll requests).1 ∧
      (direct.respondAll requests).2.Agrees (roundabout.respondAll requests).2 := by
  have h : Reachable direct := (Reachable.empty .any).respondAll _
  have h' : Reachable roundabout := (Reachable.empty .any).respondAll _
  have hp : direct.pattern = roundabout.pattern := by
    simp only [direct, roundabout, Sheet.respondAll, respond_set, pattern_set]
  have hlist : direct.cells.toList = roundabout.cells.toList := by cbv
  have hc (a : CellName) : direct.contentOf a = roundabout.contentOf a := by
    rw [contentOf, contentOf, Std.ExtTreeMap.toList_inj.mp hlist]
  exact ⟨h, h', hp, hc, agrees_of_reachable h h' hp hc⟩

end Spreadsheet.Sheet
