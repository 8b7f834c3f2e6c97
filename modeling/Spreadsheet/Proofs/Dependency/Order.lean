import Spreadsheet.Proofs.Dependency.Walk

/-! # Orders and cycles

What a walk along dependents answers: an order of the given cells and all that depend on them, each
once and in front of the cells that mention it, or a cycle among them. There is an order exactly when
none of these cells depends on itself.
-/

namespace Spreadsheet

open Relation (TransGen ReflTransGen)

theorem InOrder.idxOf_lt {E : CellName → CellName → Prop} {l : List CellName} {s t : CellName}
    (h : InOrder E l) (hs : s ∈ l) (he : E s t) : l.idxOf s < l.idxOf t := by
  induction l with
  | nil => cases hs
  | cons a as ih =>
    obtain ⟨hlast, hnew, hrest⟩ := h
    rcases List.mem_cons.mp hs with rfl | hs
    · have hts : t ≠ s := ne_of_mem_of_not_mem (hlast t he) hnew
      rw [List.idxOf_cons_self, List.idxOf_cons_ne _ hts.symm]
      exact Nat.succ_pos _
    · have ht := hrest.mem_of_edge hs he
      rw [List.idxOf_cons_ne _ (ne_of_mem_of_not_mem hs hnew).symm,
        List.idxOf_cons_ne _ (ne_of_mem_of_not_mem ht hnew).symm]
      exact Nat.succ_lt_succ (ih hrest hs)

namespace Walk

/-- One turn of a walk that goes on: a frame without pending cells is left, and a pending cell is
passed over when it is finished, or met for the first time. -/
inductive Turn : Walk × List Frame → Walk × List Frame → Prop
  | leave (w : Walk) (c : CellName) (stack : List Frame) :
      Turn (w, ⟨c, []⟩ :: stack) (w.leave c, stack)
  | skip {w : Walk} {a : CellName} (finished : w.marks[a]? = some .done) (c : CellName)
      (pending : List CellName) (stack : List Frame) :
      Turn (w, ⟨c, a :: pending⟩ :: stack) (w, ⟨c, pending⟩ :: stack)
  | meet {w : Walk} {a : CellName} (new : w.marks[a]? = none) (c : CellName)
      (pending : List CellName) (stack : List Frame) :
      Turn (w, ⟨c, a :: pending⟩ :: stack) (w.enter a, w.frame a :: ⟨c, pending⟩ :: stack)

theorem Turn.run_eq {x y : Walk × List Frame} (h : Turn x y) : x.1.run x.2 = y.1.run y.2 := by
  cases h with
  | leave w c stack => rw [Walk.run]
  | skip finished c pending stack => rw [Walk.run, finished]
  | meet new c pending stack => rw [Walk.run, new]

/-- No walk goes on for ever: each turn leaves fewer cells unmet, or less to do on the stack. -/
theorem wellFounded_turn : WellFounded fun next previous => Turn previous next := by
  let rest (x : Walk × List Frame) : Nat × Nat := (x.1.unmet.size, work x.2)
  refine Subrelation.wf (r := InvImage (Prod.Lex (· < ·) (· < ·)) rest) ?_
    (InvImage.wf rest (Prod.lex Nat.lt_wfRel Nat.lt_wfRel).wf)
  intro next previous h
  cases h with
  | leave w c stack => exact Prod.Lex.right _ (by simp [work])
  | skip finished c pending stack => exact Prod.Lex.right _ (by simp [work])
  | meet new c pending stack => exact enter_decreasing _ _ pending c stack

end Walk

namespace DependencyGraph

variable {g : DependencyGraph} {starts order : List CellName}

/-- An order lists the given cells and those that depend on them, and no others, each once and in
front of all that depend on it. A cell given alone comes first. -/
theorem recalculationOrder_sorted (h : g.recalculationOrder starts = .ok order) :
    order.Nodup ∧ (∀ a, a ∈ order ↔ ∃ s ∈ starts, ReflTransGen g.Edge s a) ∧
    (∀ s t, s ∈ order → t ∈ order → g.Edge s t → order.idxOf s < order.idxOf t) ∧
    ∀ a, starts = [a] → order.head? = some a := by
  obtain ⟨hi, hm⟩ := inOrder_of_recalculationOrder h
  refine ⟨hi.nodup, hm, fun s t hs _ he => hi.idxOf_lt hs he, ?_⟩
  rintro a rfl
  exact head?_recalculationOrder h

def joined : DependencyGraph :=
  ((empty.add ⟨"A1", by decide⟩ ⟨"C1", by decide⟩).add ⟨"C1", by decide⟩ ⟨"D1", by decide⟩).add
    ⟨"B1", by decide⟩ ⟨"C1", by decide⟩

/-- The first of the given cells depends on the two others, one of which is given twice. -/
theorem recalculationOrder_sorted_joined : ∃ starts order : List CellName,
    joined.recalculationOrder starts = .ok order ∧
    starts.map CellName.text = ["C1", "A1", "B1", "A1"] ∧
    order.map CellName.text = ["B1", "A1", "C1", "D1"] ∧
    order.Nodup ∧ (∀ a, a ∈ order ↔ ∃ s ∈ starts, ReflTransGen joined.Edge s a) ∧
    (∀ s t, s ∈ order → t ∈ order → joined.Edge s t → order.idxOf s < order.idxOf t) ∧
    ∀ a, starts = [a] → order.head? = some a := by
  let a : CellName := ⟨"A1", by decide⟩
  let b : CellName := ⟨"B1", by decide⟩
  let c : CellName := ⟨"C1", by decide⟩
  have h : joined.recalculationOrder [c, a, b, a] = .ok [b, a, c, ⟨"D1", by decide⟩] := by cbv
  exact ⟨_, _, h, rfl, rfl, recalculationOrder_sorted h⟩

/-- Every walk comes to an end, since its turns do not go on for ever: with an order, or, exactly
where one of the cells given or affected depends on itself, with a cycle. The cycle leads through
affected cells only, from one back to it without any other twice. -/
theorem recalculationOrder_error_iff (g : DependencyGraph) (starts : List CellName) :
    (WellFounded fun next previous => Walk.Turn previous next) ∧
    (∀ x y, Walk.Turn x y → x.1.run x.2 = y.1.run y.2) ∧
    ((∃ c, g.recalculationOrder starts = .error c) ↔
      ∃ a, g.Affected starts a ∧ TransGen g.Edge a a) ∧
    ∀ c, g.recalculationOrder starts = .error c →
      c.Closes g.Edge ∧ ∀ a ∈ c.path, g.Affected starts a :=
  ⟨Walk.wellFounded_turn, fun _ _ => Walk.Turn.run_eq, exists_cycle_iff g starts,
    fun _ => closes_of_recalculationOrder⟩

/-- `B1` and `C1` mention each other behind `A1`, and `D1` mentions itself. -/
def knotted : DependencyGraph :=
  (((empty.add ⟨"A1", by decide⟩ ⟨"B1", by decide⟩).add ⟨"B1", by decide⟩ ⟨"C1", by decide⟩).add
    ⟨"C1", by decide⟩ ⟨"B1", by decide⟩).add ⟨"D1", by decide⟩ ⟨"D1", by decide⟩

/-- The cycle found does not lead through the cell given. -/
theorem recalculationOrder_error_iff_knotted : ∃ (a : CellName) (c : Cycle),
    knotted.recalculationOrder [a] = .error c ∧ c.path.map CellName.text = ["B1", "C1", "B1"] ∧
    (∃ b, knotted.Affected [a] b ∧ TransGen knotted.Edge b b) ∧
    c.Closes knotted.Edge ∧ ∀ b ∈ c.path, knotted.Affected [a] b := by
  let b : CellName := ⟨"B1", by decide⟩
  have h : knotted.recalculationOrder [⟨"A1", by decide⟩] =
      .error ⟨[b, ⟨"C1", by decide⟩, b]⟩ := by cbv
  obtain ⟨-, -, hiff, hcycle⟩ := recalculationOrder_error_iff knotted [⟨"A1", by decide⟩]
  exact ⟨_, _, h, rfl, hiff.mp ⟨_, h⟩, hcycle _ h⟩

end DependencyGraph

end Spreadsheet
