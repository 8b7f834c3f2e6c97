import Spreadsheet.Proofs.Dependency.Locality
import Spreadsheet.Proofs.Sheet.Loading

/-! # What an accepted edit changes

The order that is returned for an accepted content lists its cell and all that depends on it, as
before the edit: only the precedents of the cell are exchanged, and a walk that starts from it does
not see them. Nothing outside the list changes. No cell that the new content mentions is in the
list, so the value of the content can be told before it is stored.
-/

namespace Spreadsheet

open Relation (TransGen ReflTransGen)

namespace DependencyGraph

variable {g : DependencyGraph} {E : CellName → CellName → Prop} {a : CellName}
  {order : List CellName}

/-- The order for one cell is this cell, and behind it what depends on it. -/
theorem Represents.exists_order_eq_cons (h : g.Represents E)
    (ho : g.recalculationOrder [a] = .ok order) :
    ∃ dependents, order = a :: dependents ∧ ∀ b, b ∈ dependents ↔ TransGen E a b := by
  obtain ⟨dependents, rfl⟩ := List.head?_eq_some_iff.mp (head?_recalculationOrder ho)
  obtain ⟨⟨hlast, hnew, hi⟩, -⟩ := h.inOrder ho
  refine ⟨dependents, rfl, fun b => ?_⟩
  constructor
  · intro hb
    obtain ⟨s, hs, hp⟩ := ((inOrder_of_recalculationOrder ho).2 b).mp (List.mem_cons_of_mem a hb)
    obtain rfl := List.mem_singleton.mp hs
    rw [h.edge_eq] at hp
    rcases Relation.reflTransGen_iff_eq_or_transGen.mp hp with rfl | hp
    · exact absurd hb hnew
    · exact hp
  · intro hp
    obtain ⟨c, he, hp⟩ := TransGen.head'_iff.mp hp
    exact hi.mem_of_reflTransGen (hlast c he) hp

end DependencyGraph

namespace Sheet

variable {sheet next : Sheet} {a b : CellName} {c : Content} {cell : Cell}
  {order : List CellName} {name text : String}

/-! ## The order -/

theorem order_of_put (h : sheet.graph.Represents sheet.References)
    (hput : sheet.put a c = (.ok order, next)) :
    (sheet.store a c).graph.recalculationOrder [a] = .ok order ∧
      next = (sheet.store a c).recalculate order := by
  rw [put_eq h] at hput
  split at hput
  · rename_i ho
    cases hput
    exact ⟨ho, rfl⟩
  · cases hput

theorem exists_put_of_set (ht : text ≠ "") (hset : sheet.set name text = (.ok order, next)) :
    ∃ a c, sheet.address name = .ok a ∧ sheet.classify text = .ok c ∧
      sheet.put a c = (.ok order, next) := by
  unfold Sheet.set at hset
  split at hset
  · cases hset
  · rename_i a ha
    rw [if_neg ht] at hset
    split at hset
    · cases hset
    · rename_i c hc
      exact ⟨a, c, ha, hc, hset⟩

theorem recalculationOrder_eq_ok (ha : sheet.address name = .ok a)
    (ho : sheet.graph.recalculationOrder [a] = .ok order) :
    sheet.recalculationOrder name = .ok order := by
  rw [Sheet.recalculationOrder, ha, Except.ok_bind, dependentsInOrder, ho]
  rfl

theorem Sound.of_set (h : sheet.Sound) (hset : sheet.set name text = (.ok order, next)) :
    next.Sound := by
  have hnext := h.set name text
  rwa [hset] at hnext

theorem address_of_set (hset : sheet.set name text = (.ok order, next)) :
    next.address = sheet.address := by
  have hp := sheet.pattern_set name text
  rw [hset] at hp
  funext name
  rw [address, address, hp]

theorem Sound.not_transGen_of_put (h : sheet.Sound) (hput : sheet.put a c = (.ok order, next)) :
    ¬ TransGen (sheet.store a c).References a a := by
  obtain ⟨ho, -⟩ := order_of_put h.represents hput
  obtain ⟨hi, ha⟩ := (represents_store h.represents).inOrder ho
  exact hi.not_transGen_self ha

/-- The order was the same before the content was put in. -/
theorem Sound.order_before_put (h : sheet.Sound) (hput : sheet.put a c = (.ok order, next)) :
    sheet.graph.recalculationOrder [a] = .ok order := by
  obtain ⟨ho, -⟩ := order_of_put h.represents hput
  rw [← ho]
  apply h.represents.recalculationOrder_exchange (represents_store h.represents)
  · intro s t hta
    rw [references_store_iff, if_neg hta]
  · exact h.acyclic a
  · exact h.not_transGen_of_put hput

theorem Sound.order_after_put (h : sheet.Sound) (hput : sheet.put a c = (.ok order, next)) :
    next.graph.recalculationOrder [a] = .ok order := by
  obtain ⟨ho, rfl⟩ := order_of_put h.represents hput
  rw [((sheet.store a c).recalculate_frame order).1]
  exact ho

/-! ## What stays -/

theorem Sound.content?_put_self (h : sheet.Sound) (hput : sheet.put a c = (.ok order, next)) :
    next.content? a = some c := by
  obtain ⟨-, rfl⟩ := order_of_put h.represents hput
  rw [content?_recalculate, (sheet.exchanges_store a c).content?, if_pos rfl]
  rfl

theorem Sound.content?_put (h : sheet.Sound) (hput : sheet.put a c = (.ok order, next))
    (hb : b ≠ a) : next.content? b = sheet.content? b := by
  obtain ⟨-, rfl⟩ := order_of_put h.represents hput
  rw [content?_recalculate, (sheet.exchanges_store a c).content?, if_neg (Ne.symm hb)]

theorem Sound.getElem?_put (h : sheet.Sound) (hput : sheet.put a c = (.ok order, next))
    (hb : b ∉ order) : next.cells[b]? = sheet.cells[b]? := by
  obtain ⟨ho, rfl⟩ := order_of_put h.represents hput
  have hab : a ≠ b := by
    rintro rfl
    exact hb (represents_store h.represents |>.inOrder ho).2
  rw [getElem?_recalculate hb, (sheet.exchanges_store a c).getElem?, if_neg hab]

/-- The order returned for a text that is accepted is the one told for its cell just before and just
after. It is the cell itself, and behind it, each once, the cells that depend on it, before as
after. No other content changes, and nothing at all at a cell that is not listed. -/
theorem set_order_of_reachable (h : Reachable sheet) (ht : text ≠ "")
    (hset : sheet.set name text = (.ok order, next)) :
    sheet.recalculationOrder name = .ok order ∧ next.recalculationOrder name = .ok order ∧
    ∃ a dependents, sheet.address name = .ok a ∧ order = a :: dependents ∧ order.Nodup ∧
      (∀ b, (b ∈ dependents ↔ TransGen sheet.Mentions a b) ∧
        (b ∈ dependents ↔ TransGen next.Mentions a b)) ∧
      (∀ b, b ≠ a → next.content? b = sheet.content? b) ∧
      ∀ b, b ∉ order → next.cells[b]? = sheet.cells[b]? := by
  have hs := h.sound
  obtain ⟨a, c, ha, hc, hput⟩ := exists_put_of_set ht hset
  have hnext := hs.of_set hset
  have haddress : next.address name = .ok a := by rw [address_of_set hset, ha]
  have hbefore := hs.order_before_put hput
  have hafter := hs.order_after_put hput
  obtain ⟨dependents, rfl, hmem⟩ := hs.represents_mentions.exists_order_eq_cons hbefore
  obtain ⟨_, ⟨⟩, hmem'⟩ := hnext.represents_mentions.exists_order_eq_cons hafter
  refine ⟨recalculationOrder_eq_ok ha hbefore, recalculationOrder_eq_ok haddress hafter, a,
    dependents, ha, rfl, (hs.represents.inOrder hbefore).1.nodup, ?_, ?_, ?_⟩
  · intro b
    exact ⟨hmem b, hmem' b⟩
  · intro b hb
    exact hs.content?_put hput hb
  · intro b hb
    exact hs.getElem?_put hput hb

/-- Two cells that mention `A1`, one of them also through the other. -/
def branched : Sheet :=
  ((Sheet.empty .any).respondAll [.set "b1" "=A1", .set "C1" "=a1+B1", .set "a1" "=D1+D1",
    .set "d1" "x"]).2

theorem reachable_branched : Reachable branched := (Reachable.empty .any).respondAll _

theorem set_branched : ∃ order next, branched.set "a1" "=E1-D1" = (.ok order, next) ∧
    order.map CellName.text = ["A1", "B1", "C1"] := by
  have hset : (branched.set "a1" "=E1-D1").1 =
      .ok [⟨"A1", by decide⟩, ⟨"B1", by decide⟩, ⟨"C1", by decide⟩] := by cbv
  exact ⟨_, _, Prod.ext hset rfl, rfl⟩

theorem set_order_of_reachable_branched :
    Reachable branched ∧ "=E1-D1" ≠ "" ∧
    ∃ order next, branched.set "a1" "=E1-D1" = (.ok order, next) ∧
      order.map CellName.text = ["A1", "B1", "C1"] ∧
      branched.recalculationOrder "a1" = .ok order ∧ next.recalculationOrder "a1" = .ok order ∧
      ∃ a dependents, branched.address "a1" = .ok a ∧ order = a :: dependents ∧ order.Nodup ∧
        (∀ b, (b ∈ dependents ↔ TransGen branched.Mentions a b) ∧
          (b ∈ dependents ↔ TransGen next.Mentions a b)) ∧
        (∀ b, b ≠ a → next.content? b = branched.content? b) ∧
        ∀ b, b ∉ order → next.cells[b]? = branched.cells[b]? := by
  have ht : "=E1-D1" ≠ "" := by decide
  obtain ⟨order, next, hset, horder⟩ := set_branched
  exact ⟨reachable_branched, ht, order, next, hset, horder,
    set_order_of_reachable reachable_branched ht hset⟩

/-! ## The value -/

/-- No cell that an accepted content mentions is computed again, so the content has the value that
it has in the sheet before. -/
theorem Sound.evaluate_put (h : sheet.Sound) (hput : sheet.put a c = (.ok order, next)) :
    c.evaluate next.lookup = c.evaluate sheet.lookup := by
  obtain ⟨ho, -⟩ := order_of_put h.represents hput
  obtain ⟨dependents, rfl, hmem⟩ := (represents_store h.represents).exists_order_eq_cons ho
  have hacyclic := h.not_transGen_of_put hput
  apply evaluate_congr
  intro s hs
  have he : (sheet.store a c).References s a :=
    references_store_iff.mpr (by rw [if_pos rfl]; exact hs.mem_references)
  apply number?_congr
  apply h.getElem?_put hput
  intro hm
  rcases List.mem_cons.mp hm with rfl | hm
  · exact hacyclic (.single he)
  · exact hacyclic (((hmem s).mp hm).tail he)

theorem Sound.valueOf_put (h : sheet.Sound) (hput : sheet.put a c = (.ok order, next))
    (hnext : next.Consistent) : next.valueOf a = c.evaluate sheet.lookup := by
  obtain ⟨cell, hcell, rfl⟩ := Option.map_eq_some_iff.mp (h.content?_put_self hput)
  simp only [valueOf, hcell]
  rw [hnext a cell hcell, h.evaluate_put hput]

/-- Evaluation of text gives what a cell with its formula would get among the values as they stand. -/
theorem evaluate_eq_map (sheet : Sheet) (text : String) : sheet.evaluate text =
    (sheet.parseFormula (match text.toList with | '=' :: cs => cs | cs => cs)).map fun f =>
      (Content.formula f).evaluate sheet.lookup := by
  unfold evaluate
  dsimp only
  generalize sheet.parseFormula _ = r
  cases r with
  | error e => rfl
  | ok f =>
    simp only [Except.ok_bind, Except.map, Content.evaluate]
    cases f.evaluate sheet.lookup <;> rfl

theorem evaluate_formula (text : String) : sheet.evaluate ("=" ++ text) =
    (sheet.parseFormula text.toList).map fun f => (Content.formula f).evaluate sheet.lookup := by
  have hcs : ("=" ++ text).toList = '=' :: text.toList := by simp
  rw [evaluate_eq_map, hcs]
  rfl

theorem set_fst_eq_formula_iff (ha : sheet.address name = .ok a) (ht : text ≠ "")
    {e : Formula.SyntaxError} : (sheet.set name text).1 = .error (.formula e) ↔
      sheet.classify text = .error (.formula e) := by
  cases hc : sheet.classify text with
  | error e' => simp only [Sheet.set, ha, if_neg ht, hc, Except.error.injEq]
  | ok c =>
    rw [set_eq_put ha ht hc, put_fst, Except.mapError_eq_error_iff]
    simp

/-- Formula text that can be stored in a cell is evaluated to the value that the cell gets, and it
cannot be evaluated for the very reason for which it is no formula to be stored. -/
theorem evaluate_eq_value_of_reachable (h : Reachable sheet) (ha : sheet.address name = .ok a)
    (text : String) :
    (∀ order next, sheet.set name ("=" ++ text) = (.ok order, next) →
      ∃ v, next.value name = .ok v ∧ sheet.evaluate ("=" ++ text) = .ok v) ∧
    ∀ e, sheet.evaluate ("=" ++ text) = .error (.formula e) ↔
      (sheet.set name ("=" ++ text)).1 = .error (.formula e) := by
  have hs := h.sound
  have hcs : ("=" ++ text).toList = '=' :: text.toList := by simp
  have ht : "=" ++ text ≠ "" := by simp
  have hclassify : sheet.classify ("=" ++ text) = _ := classify_formula _ hcs
  constructor
  · intro order next hset
    obtain ⟨b, c, hb, hc, hput⟩ := exists_put_of_set ht hset
    rw [hclassify] at hc
    obtain ⟨f, hf, rfl⟩ := Except.map_eq_ok_iff.mp hc
    refine ⟨(Content.formula f).evaluate sheet.lookup, ?_, ?_⟩
    · rw [value, address_of_set hset, hb, ← hs.valueOf_put hput (hs.of_set hset).consistent]
      rfl
    · rw [evaluate_formula, hf]
      rfl
  · intro e
    rw [set_fst_eq_formula_iff ha ht, hclassify, evaluate_formula, Except.map_eq_error_iff,
      Except.map_eq_error_iff]

theorem evaluate_eq_value_of_reachable_branched :
    Reachable branched ∧ (∃ a, branched.address "a1" = .ok a) ∧
    (∃ order next v, branched.set "a1" ("=" ++ "E1-D1") = (.ok order, next) ∧
      next.value "a1" = .ok v ∧ branched.evaluate ("=" ++ "E1-D1") = .ok v) ∧
    ∀ e, branched.evaluate ("=" ++ "E1-D1") = .error (.formula e) ↔
      (branched.set "a1" ("=" ++ "E1-D1")).1 = .error (.formula e) := by
  obtain ⟨order, next, hset, -⟩ := set_branched
  obtain ⟨a, -, ha, -, -⟩ := exists_put_of_set (by decide) hset
  obtain ⟨hvalue, herror⟩ := evaluate_eq_value_of_reachable reachable_branched ha "E1-D1"
  obtain ⟨v, hv⟩ := hvalue order next hset
  exact ⟨reachable_branched, ⟨a, ha⟩, ⟨order, next, v, hset, hv⟩, herror⟩

/-! ## Typing a content in again -/

theorem references_store_self (hcell : sheet.cells[a]? = some cell) :
    (sheet.store a cell.content).References = sheet.References := by
  ext s t
  rw [references_store_iff]
  split
  · subst t
    constructor
    · intro hs
      exact ⟨cell, hcell, hs⟩
    · rintro ⟨cell', hcell', hs⟩
      rw [hcell] at hcell'
      cases hcell'
      exact hs
  · rfl

theorem Sound.put_self (h : sheet.Sound) (hcell : sheet.cells[a]? = some cell) :
    ∃ order, sheet.put a cell.content = (.ok order, { sheet with changed := true }) := by
  obtain ⟨haccepts, htypes⟩ := h.typed a cell hcell
  obtain ⟨order, hput⟩ := h.put_eq_ok (references_store_self hcell ▸ h.acyclic)
  have hnext := h.put haccepts htypes
  rw [hput] at hnext
  have hmarked : Sound { sheet with changed := true } :=
    ⟨h.represents, h.acyclic, h.consistent, h.typed⟩
  obtain ⟨-, hpattern, hchanged⟩ := (sheet.store a cell.content).recalculate_frame order
  refine ⟨order, hput.trans (congrArg (Prod.mk _) ?_)⟩
  apply hnext.ext hmarked hpattern hchanged
  intro b
  by_cases hb : b = a
  · subst b
    rw [h.content?_put_self hput, content?, hcell]
    rfl
  · exact h.content?_put hput hb

/-- A cell that is set to the text that it displays keeps its content, and nothing else of the sheet
changes either, but that it counts as changed. -/
theorem set_display_of_reachable (h : Reachable sheet) (hcell : sheet.cells[a]? = some cell) :
    ∃ order, sheet.set a.text cell.content.display =
      (.ok order, { sheet with changed := true }) := by
  obtain ⟨haccepts, htypes⟩ := h.sound.typed a cell hcell
  obtain ⟨order, hput⟩ := h.sound.put_self hcell
  refine ⟨order, ?_⟩
  rw [set_eq_put (address_text haccepts) (display_ne_empty htypes) (classify_display htypes), hput]

/-- The cell mentions another, which is no formula, and is mentioned by two. -/
theorem set_display_of_reachable_branched :
    Reachable branched.markSaved ∧ branched.markSaved.changed = false ∧
    ∃ (a : CellName) (cell : Cell), branched.markSaved.cells[a]? = some cell ∧
      a.text = "A1" ∧ cell.content.display = "=D1+D1" ∧
      ∃ order, branched.markSaved.set a.text cell.content.display =
        (.ok order, { branched.markSaved with changed := true }) := by
  have h : Reachable branched.markSaved := reachable_branched.respond .markSaved
  let a : CellName := ⟨"A1", by decide⟩
  let f : Formula := ⟨[.var "D1", .operator .add, .var "D1"]⟩
  have ha : branched.markSaved.cells[a]? =
      some ⟨.formula f, .error (.undefinedVariable "D1")⟩ := by cbv
  exact ⟨h, rfl, a, _, ha, rfl, by decide, set_display_of_reachable h ha⟩

end Sheet

end Spreadsheet
