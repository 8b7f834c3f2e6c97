import Mathlib.Data.List.Chain
import Spreadsheet.Dependency.Order
import Spreadsheet.Proofs.Dependency.Acyclic
import Spreadsheet.Proofs.Except

/-! # The walk along dependents

One invariant ties the marks, the stack and the finished cells together: the stack is a path of the
graph, the finished cells are in order, and what a frame has already gone through is finished or
stands above it on the stack. So a walk that ends lists all that it reached in order, and a walk
that stops has found a cycle.
-/

namespace Spreadsheet

open Relation (TransGen ReflTransGen)

/-- `t` depends on `s`. -/
def DependencyGraph.Edge (g : DependencyGraph) (s t : CellName) : Prop := t ∈ g.dependentsOf s

namespace Cycle

/-- Every cell of the path depends on the one before it, and only the first one comes again, at the
end. -/
def Closes (E : CellName → CellName → Prop) (c : Cycle) : Prop :=
  ∃ a inner, c.path = a :: (inner ++ [a]) ∧ c.path.IsChain E ∧ (a :: inner).Nodup

theorem Closes.transGen {E : CellName → CellName → Prop} {c : Cycle} (h : c.Closes E) :
    ∃ a, c.path.head? = some a ∧ TransGen E a a := by
  obtain ⟨a, inner, hp, hc, -⟩ := h
  refine ⟨a, by simp [hp], ?_⟩
  rw [hp] at hc
  cases inner with
  | nil => exact .single (List.isChain_cons_cons.mp hc).1
  | cons b inner =>
    obtain ⟨hb, hc⟩ := List.isChain_cons_cons.mp hc
    exact .head' hb (List.relationReflTransGen_of_exists_isChain_cons _ hc (by simp))

/-- Where only the precedents of `a` are new to an acyclic relation, each cycle leads through `a`. -/
theorem Closes.mem_of_acyclic {E E' : CellName → CellName → Prop} {c : Cycle} {a : CellName}
    (h : c.Closes E') (hE : ∀ s t, t ≠ a → E' s t → E s t) (hacyclic : Acyclic E) :
    a ∈ c.path := by
  obtain ⟨b, inner, hp, hc, hn⟩ := h
  by_contra ha
  have hold : c.path.IsChain E := hc.imp_of_mem_imp fun s t _ ht =>
    hE s t (ne_of_mem_of_not_mem ht ha)
  obtain ⟨b, -, hb⟩ := Closes.transGen ⟨b, inner, hp, hold, hn⟩
  exact hacyclic b hb

end Cycle

namespace Walk

variable {g : DependencyGraph} {R : CellName → Prop} {w w' : Walk} {stack stack' : List Frame}
  {a b c : CellName} {pending as : List CellName}

/-- What a frame has gone through is settled: finished, or above it on the stack. -/
def Covered (g : DependencyGraph) (settled : List CellName) : List Frame → Prop
  | [] => True
  | f :: fs => (∀ t, g.Edge f.cell t → t ∈ f.pending ∨ t ∈ settled) ∧
      Covered g (f.cell :: settled) fs

theorem Covered.mono {settled settled' : List CellName} (h : Covered g settled stack)
    (hs : settled ⊆ settled') : Covered g settled' stack := by
  induction stack generalizing settled settled' with
  | nil => trivial
  | cons f fs ih =>
    exact ⟨fun t ht => (h.1 t ht).imp_right (@hs t), ih h.2 (List.cons_subset_cons _ hs)⟩

/-- The state of a walk that has met only cells in `R`. -/
structure Invariant (g : DependencyGraph) (R : CellName → Prop) (w : Walk) (stack : List Frame) :
    Prop where
  onStack : ∀ a, w.marks[a]? = some .onStack ↔ a ∈ stack.map Frame.cell
  done : ∀ a, w.marks[a]? = some .done ↔ a ∈ w.finished
  unmet : ∀ a, w.marks[a]? = none → w.unmet.neighbours a = g.dependentsOf a
  nodup : (stack.map Frame.cell).Nodup
  linked : (stack.map Frame.cell).IsChain fun b a => g.Edge a b
  pending : ∀ f ∈ stack, ∀ t ∈ f.pending, g.Edge f.cell t
  covered : Covered g w.finished stack
  inOrder : InOrder g.Edge w.finished
  reached : ∀ a, a ∈ w.finished ∨ a ∈ stack.map Frame.cell → R a

theorem invariant_start : (start g).Invariant g R [] where
  onStack a := by simp [start]
  done a := by simp [start]
  unmet a _ := rfl
  nodup := List.nodup_nil
  linked := List.isChain_nil
  pending := by simp
  covered := trivial
  inOrder := trivial
  reached := by simp [start]

namespace Invariant

theorem not_finished_of_onStack (h : w.Invariant g R stack) (ha : a ∈ stack.map Frame.cell) :
    a ∉ w.finished := fun hf => by
  have := ((h.onStack a).mpr ha).symm.trans ((h.done a).mpr hf)
  simp at this

theorem leave (h : w.Invariant g R (⟨c, []⟩ :: stack)) : (w.leave c).Invariant g R stack where
  onStack a := by
    have hc : c ∉ stack.map Frame.cell := (List.nodup_cons.mp h.nodup).1
    have ha := h.onStack a
    simp only [Walk.leave, Std.ExtTreeMap.getElem?_insert, Std.LawfulEqCmp.compare_eq_iff_eq]
    split
    · subst a
      simpa using hc
    · rename_i hne
      rw [ha, List.map_cons, List.mem_cons, or_iff_right (Ne.symm hne)]
  done a := by
    have ha := h.done a
    simp only [Walk.leave, Std.ExtTreeMap.getElem?_insert, Std.LawfulEqCmp.compare_eq_iff_eq,
      List.mem_cons]
    split
    · subst a
      simp
    · rename_i hne
      rw [ha, or_iff_right (Ne.symm hne)]
  unmet a ha := by
    simp only [Walk.leave, Std.ExtTreeMap.getElem?_insert, Std.LawfulEqCmp.compare_eq_iff_eq] at ha
    split at ha
    · cases ha
    · exact h.unmet a ha
  nodup := (List.nodup_cons.mp h.nodup).2
  linked := h.linked.tail
  pending f hf := h.pending f (List.mem_cons_of_mem _ hf)
  covered := h.covered.2
  inOrder := by
    refine ⟨fun t ht => ?_, h.not_finished_of_onStack (by simp), h.inOrder⟩
    exact (h.covered.1 t ht).resolve_left List.not_mem_nil
  reached a ha := by
    refine h.reached a ?_
    simp only [Walk.leave, List.mem_cons, List.map_cons] at ha ⊢
    tauto

theorem skip (h : w.Invariant g R (⟨c, a :: pending⟩ :: stack)) (ha : w.marks[a]? = some .done) :
    w.Invariant g R (⟨c, pending⟩ :: stack) where
  onStack := h.onStack
  done := h.done
  unmet := h.unmet
  nodup := h.nodup
  linked := h.linked
  pending f hf := by
    rcases List.mem_cons.mp hf with rfl | hf
    · exact fun t ht => h.pending _ List.mem_cons_self t (List.mem_cons_of_mem _ ht)
    · exact h.pending f (List.mem_cons_of_mem _ hf)
  covered := by
    refine ⟨fun t ht => ?_, h.covered.2⟩
    rcases h.covered.1 t ht with hp | hf
    · rcases List.mem_cons.mp hp with rfl | hp
      · exact .inr ((h.done t).mp ha)
      · exact .inl hp
    · exact .inr hf
  inOrder := h.inOrder
  reached := h.reached

theorem push (h : w.Invariant g R stack') (hm : w.marks[a]? = none) (hR : R a)
    (hcell : stack'.map Frame.cell = stack.map Frame.cell)
    (hp : ∀ f ∈ stack, ∀ t ∈ f.pending, g.Edge f.cell t)
    (hl : ∀ b ∈ (stack.map Frame.cell).head?, g.Edge b a)
    (hc : Covered g (a :: w.finished) stack) :
    (w.enter a).Invariant g R (w.frame a :: stack) where
  onStack b := by
    have hb := h.onStack b
    simp only [enter, Std.ExtTreeMap.getElem?_insert, Std.LawfulEqCmp.compare_eq_iff_eq,
      List.map_cons, List.mem_cons, frame, ← hcell]
    split
    · subst b
      simp
    · rename_i hne
      rw [hb, or_iff_right (Ne.symm hne)]
  done b := by
    have hb := h.done b
    simp only [enter, Std.ExtTreeMap.getElem?_insert, Std.LawfulEqCmp.compare_eq_iff_eq]
    split
    · subst b
      simp [← hb, hm]
    · exact hb
  unmet b hb := by
    simp only [enter, Std.ExtTreeMap.getElem?_insert, Std.LawfulEqCmp.compare_eq_iff_eq] at hb ⊢
    split at hb
    · cases hb
    · rename_i hne
      rw [Adjacency.neighbours_erase, if_neg hne, h.unmet b hb]
  nodup := by
    refine List.nodup_cons.mpr ⟨fun ha => ?_, hcell ▸ h.nodup⟩
    rw [← hcell, ← h.onStack, show (w.frame a).cell = a from rfl, hm] at ha
    cases ha
  linked := List.isChain_cons.mpr ⟨hl, hcell ▸ h.linked⟩
  pending f hf := by
    rcases List.mem_cons.mp hf with rfl | hf
    · intro t ht
      rw [frame, h.unmet a hm] at ht
      exact Std.ExtTreeSet.mem_toList.mp ht
    · exact hp f hf
  covered := by
    refine ⟨fun t ht => .inl ?_, hc⟩
    rw [frame, h.unmet a hm]
    exact Std.ExtTreeSet.mem_toList.mpr ht
  inOrder := h.inOrder
  reached b hb := by
    rw [List.map_cons, List.mem_cons, ← hcell] at hb
    rcases hb with hb | rfl | hb
    · exact h.reached b (.inl hb)
    · exact hR
    · exact h.reached b (.inr hb)

theorem meet (h : w.Invariant g R (⟨c, a :: pending⟩ :: stack)) (hm : w.marks[a]? = none)
    (hR : ∀ s t, R s → g.Edge s t → R t) :
    (w.enter a).Invariant g R (w.frame a :: ⟨c, pending⟩ :: stack) := by
  have hc : g.Edge c a := h.pending _ List.mem_cons_self a List.mem_cons_self
  refine h.push hm (hR c a (h.reached c (.inr List.mem_cons_self)) hc) rfl ?_ ?_ ⟨?_, ?_⟩
  · intro f hf t ht
    rcases List.mem_cons.mp hf with rfl | hf
    · exact h.pending _ List.mem_cons_self t (List.mem_cons_of_mem _ ht)
    · exact h.pending f (List.mem_cons_of_mem _ hf) t ht
  · intro b hb
    obtain rfl : c = b := by simpa using hb
    exact hc
  · intro t ht
    rcases h.covered.1 t ht with ht | ht
    · rcases List.mem_cons.mp ht with rfl | ht
      · exact .inr List.mem_cons_self
      · exact .inl ht
    · exact .inr (List.mem_cons_of_mem _ ht)
  · exact h.covered.2.mono (List.cons_subset_cons _ (List.subset_cons_self _ _))

end Invariant

theorem path_cycle {above : List CellName} (ha : a ∉ above) (below : List CellName) :
    (cycle a (above ++ a :: below)).path = a :: (above.reverse ++ [a]) := by
  have hw : (above ++ a :: below).takeWhile (· ≠ a) = above := by
    rw [List.takeWhile_append_of_pos fun b hb => by simpa using ne_of_mem_of_not_mem hb ha]
    simp
  rw [cycle, hw]

/-- The stack from a cell on it up to its top, and back to this cell, is a cycle. -/
theorem cycle_closes {E : CellName → CellName → Prop} {cells : List CellName} (ha : a ∈ cells)
    (hn : cells.Nodup) (hl : cells.IsChain fun b a => E a b) (ht : ∀ c ∈ cells.head?, E c a) :
    (cycle a cells).Closes E := by
  obtain ⟨above, below, rfl, hab⟩ := List.eq_append_cons_of_mem ha
  have hpath := path_cycle hab below
  have hpre : (above ++ [a]) <+: above ++ a :: below :=
    (List.prefix_append_right_inj above).mpr ⟨below, rfl⟩
  have hup : (a :: above.reverse).IsChain E := by
    rw [← List.reverse_concat, List.isChain_reverse]
    exact hl.infix hpre.isInfix
  refine ⟨a, above.reverse, hpath, ?_, ?_⟩
  · rw [hpath, ← List.cons_append]
    refine List.isChain_append.mpr ⟨hup, List.isChain_singleton a, fun c hc d hd => ?_⟩
    obtain rfl : a = d := by simpa using hd
    refine ht c ?_
    rw [← List.reverse_concat, List.getLast?_reverse] at hc
    cases above <;> simpa using hc
  · rw [← List.reverse_concat, List.nodup_reverse]
    exact hn.sublist hpre.sublist

/-- A cycle that holds the cell at the bottom of the stack begins with it. -/
theorem head?_path_cycle {cells : List CellName} (ha : a ∈ cells) (hn : cells.Nodup)
    (hlast : cells.getLast? = some b) (hb : b ∈ (cycle a cells).path) :
    (cycle a cells).path.head? = some b := by
  obtain ⟨above, below, rfl, hab⟩ := List.eq_append_cons_of_mem ha
  have hbelow : b ∈ a :: below := by
    rw [List.getLast?_append_of_ne_nil _ (List.cons_ne_nil a below)] at hlast
    exact List.mem_of_getLast? hlast
  have habove : b ∉ above := fun h => List.disjoint_of_nodup_append hn h hbelow
  rw [path_cycle hab] at hb ⊢
  obtain rfl : b = a := by simpa [habove] using hb
  rfl

theorem mem_of_mem_cycle {cells : List CellName} (ha : a ∈ cells) (hb : b ∈ (cycle a cells).path) :
    b ∈ cells := by
  simp only [cycle, List.mem_cons, List.mem_append, List.mem_reverse, List.not_mem_nil,
    or_false] at hb
  rcases hb with rfl | hb | rfl
  · exact ha
  · exact List.takeWhile_subset _ hb
  · exact ha

/-- How a walk ends that has to finish the given cells: with an empty stack, or at a cycle. -/
def Ends (g : DependencyGraph) (R : CellName → Prop) (cells : List CellName) :
    Except Cycle Walk → Prop
  | .ok w => w.Invariant g R [] ∧ ∀ a ∈ cells, a ∈ w.finished
  | .error c => c.Closes g.Edge ∧ ∀ a ∈ c.path, R a

theorem Ends.mono {cells cells' : List CellName} {x : Except Cycle Walk} (h : Ends g R cells x)
    (hs : cells' ⊆ cells) : Ends g R cells' x := by
  cases x with
  | ok w => exact ⟨h.1, fun a ha => h.2 a (hs ha)⟩
  | error c => exact h

theorem Invariant.run (h : w.Invariant g R stack) (hR : ∀ s t, R s → g.Edge s t → R t) :
    Ends g R (stack.map Frame.cell ++ w.finished) (w.run stack) := by
  fun_induction Walk.run w stack with
  | case1 w => exact ⟨h, fun _ => id⟩
  | case2 w c stack ih =>
    refine (ih h.leave).mono fun a ha => ?_
    simp only [Walk.leave, List.mem_append, List.mem_cons, List.map_cons] at ha ⊢
    tauto
  | case3 w c a pending stack ha ih => exact ih (h.skip ha)
  | case4 w c a pending stack ha =>
    have hm : a ∈ c :: stack.map Frame.cell := (h.onStack a).mp ha
    refine ⟨cycle_closes hm h.nodup h.linked fun b hb => ?_, fun b hb =>
      h.reached b (.inr (mem_of_mem_cycle hm hb))⟩
    obtain rfl : c = b := by simpa using hb
    exact h.pending _ List.mem_cons_self a List.mem_cons_self
  | case5 w c a pending stack ha ih =>
    exact (ih (h.meet ha hR)).mono fun b hb => List.mem_cons_of_mem _ hb

theorem head?_finished_of_run (hr : w.run stack = .ok w')
    (hb : (stack.map Frame.cell).getLast? = some b) : w'.finished.head? = some b := by
  fun_induction Walk.run w stack with
  | case1 w => cases hb
  | case2 w c stack ih =>
    cases stack with
    | nil =>
      obtain rfl : c = b := by simpa using hb
      simp only [Walk.run, Except.ok.injEq] at hr
      rw [← hr]
      rfl
    | cons f stack => exact ih hr (by simpa using hb)
  | case3 w c a pending stack ha ih => exact ih hr hb
  | case4 w c a pending stack ha => cases hr
  | case5 w c a pending stack ha ih => exact ih hr (by simpa [List.getLast?_cons_cons] using hb)

/-- A walk that stops at a cycle through the cell at the bottom of its stack tells this cycle from
that cell on. -/
theorem Invariant.head?_cycle_of_run (h : w.Invariant g R stack)
    (hR : ∀ s t, R s → g.Edge s t → R t) {e : Cycle} (hr : w.run stack = .error e)
    (hlast : (stack.map Frame.cell).getLast? = some b) (hb : b ∈ e.path) :
    e.path.head? = some b := by
  fun_induction Walk.run w stack with
  | case1 w => cases hr
  | case2 w c stack ih =>
    cases stack with
    | nil => simp [Walk.run] at hr
    | cons f stack => exact ih h.leave hr (by simpa using hlast)
  | case3 w c a pending stack ha ih => exact ih (h.skip ha) hr hlast
  | case4 w c a pending stack ha =>
    cases hr
    exact head?_path_cycle ((h.onStack a).mp ha) h.nodup hlast hb
  | case5 w c a pending stack ha ih =>
    exact ih (h.meet ha hR) hr (by simpa [List.getLast?_cons_cons] using hlast)

theorem Invariant.start (h : w.Invariant g R []) (hm : w.marks[a]? = none) (hR : R a) :
    (w.enter a).Invariant g R [w.frame a] :=
  h.push hm hR rfl (by simp) (by simp) trivial

theorem mem_finished_of_contains (h : w.Invariant g R []) (hm : w.marks.contains a = true) :
    a ∈ w.finished := by
  rw [Std.ExtTreeMap.contains_eq_isSome_getElem?, Option.isSome_iff_exists] at hm
  obtain ⟨mark, hmark⟩ := hm
  cases mark with
  | onStack => exact absurd ((h.onStack a).mp hmark) List.not_mem_nil
  | done => exact (h.done a).mp hmark

theorem Invariant.runAll (h : w.Invariant g R []) (hR : ∀ s t, R s → g.Edge s t → R t)
    (hs : ∀ a ∈ as, R a) : Ends g R (as ++ w.finished) (w.runAll as) := by
  induction as generalizing w with
  | nil => exact ⟨h, fun _ => id⟩
  | cons a as ih =>
    obtain ⟨ha, hs⟩ := List.forall_mem_cons.mp hs
    rw [Walk.runAll]
    by_cases hm : w.marks.contains a = true
    · rw [if_pos hm]
      refine (ih h hs).mono fun b hb => ?_
      rcases List.mem_cons.mp hb with rfl | hb
      · exact List.mem_append_right _ (mem_finished_of_contains h hm)
      · exact hb
    · rw [if_neg hm]
      have hnone : w.marks[a]? = none := by
        rw [Std.ExtTreeMap.contains_eq_isSome_getElem?] at hm
        exact Option.not_isSome_iff_eq_none.mp hm
      have hrun := (h.start hnone ha).run hR
      cases hw : (w.enter a).run [w.frame a] with
      | error c =>
        rw [hw] at hrun
        exact hrun
      | ok w₁ =>
        rw [hw] at hrun
        refine (ih hrun.1 hs).mono fun b hb => ?_
        rw [List.cons_append, List.mem_cons, List.mem_append] at hb
        rw [List.mem_append]
        rcases hb with rfl | hb | hb
        · exact .inr (hrun.2 b List.mem_cons_self)
        · exact .inl hb
        · exact .inr (hrun.2 b (List.mem_cons_of_mem _ hb))

end Walk

namespace DependencyGraph

variable {g : DependencyGraph} {a : CellName} {starts order : List CellName} {c : Cycle}

/-- The given cells and those that depend on them, directly or not. -/
def Affected (g : DependencyGraph) (starts : List CellName) (a : CellName) : Prop :=
  ∃ s ∈ starts, ReflTransGen g.Edge s a

theorem runAll_start (g : DependencyGraph) (starts : List CellName) :
    Walk.Ends g (g.Affected starts) starts ((Walk.start g).runAll starts) :=
  (Walk.invariant_start.runAll (fun _ _ ⟨s, hs, hp⟩ he => ⟨s, hs, hp.tail he⟩)
    fun a ha => ⟨a, ha, .refl⟩).mono (List.subset_append_left _ _)

/-- An order lists exactly the affected cells, each before those that depend on it. -/
theorem inOrder_of_recalculationOrder (h : g.recalculationOrder starts = .ok order) :
    InOrder g.Edge order ∧ ∀ a, a ∈ order ↔ g.Affected starts a := by
  obtain ⟨w, hw, rfl⟩ := Except.map_eq_ok_iff.mp h
  have hr := g.runAll_start starts
  rw [hw] at hr
  obtain ⟨hi, hs⟩ := hr
  refine ⟨hi.inOrder, fun a => ⟨fun ha => hi.reached a (.inl ha), ?_⟩⟩
  rintro ⟨s, hs', hp⟩
  exact hi.inOrder.mem_of_reflTransGen (hs s hs') hp

theorem closes_of_recalculationOrder (h : g.recalculationOrder starts = .error c) :
    c.Closes g.Edge ∧ ∀ a ∈ c.path, g.Affected starts a := by
  have hr := g.runAll_start starts
  rw [Except.map_eq_error_iff.mp h] at hr
  exact hr

/-- There is no order exactly when one of the given cells, or of those that depend on them, depends
on itself. -/
theorem exists_cycle_iff (g : DependencyGraph) (starts : List CellName) :
    (∃ c, g.recalculationOrder starts = .error c) ↔
      ∃ a, g.Affected starts a ∧ TransGen g.Edge a a := by
  constructor
  · rintro ⟨c, hc⟩
    obtain ⟨hcloses, haffected⟩ := closes_of_recalculationOrder hc
    obtain ⟨a, ha, hp⟩ := hcloses.transGen
    exact ⟨a, haffected a (List.mem_of_mem_head? ha), hp⟩
  · rintro ⟨a, ha, hp⟩
    cases hr : g.recalculationOrder starts with
    | error c => exact ⟨c, rfl⟩
    | ok order =>
      obtain ⟨hi, hm⟩ := inOrder_of_recalculationOrder hr
      exact absurd hp (hi.not_transGen_self ((hm a).mpr ha))

theorem exists_recalculationOrder (h : Acyclic g.Edge) (starts : List CellName) :
    ∃ order, g.recalculationOrder starts = .ok order := by
  cases hr : g.recalculationOrder starts with
  | ok order => exact ⟨order, rfl⟩
  | error c =>
    obtain ⟨a, -, ha⟩ := (exists_cycle_iff g starts).mp ⟨c, hr⟩
    exact absurd ha (h a)

theorem recalculationOrder_singleton (g : DependencyGraph) (a : CellName) :
    g.recalculationOrder [a] =
      (((Walk.start g).enter a).run [(Walk.start g).frame a]).map Walk.finished := by
  have hm : ¬ (Walk.start g).marks.contains a = true := by simp [Walk.start]
  rw [recalculationOrder, Walk.runAll, if_neg hm]
  cases ((Walk.start g).enter a).run [(Walk.start g).frame a] <;> rfl

theorem head?_recalculationOrder (h : g.recalculationOrder [a] = .ok order) :
    order.head? = some a := by
  rw [recalculationOrder_singleton] at h
  obtain ⟨w, hw, rfl⟩ := Except.map_eq_ok_iff.mp h
  exact Walk.head?_finished_of_run hw rfl

theorem head?_path_of_recalculationOrder (h : g.recalculationOrder [a] = .error c)
    (ha : a ∈ c.path) : c.path.head? = some a := by
  have hstart : (Walk.start g).Invariant g (fun _ => True) [] := Walk.invariant_start
  have hframe := hstart.start (a := a) (by simp [Walk.start]) trivial
  rw [recalculationOrder_singleton] at h
  exact hframe.head?_cycle_of_run (fun _ _ _ _ => trivial) (Except.map_eq_error_iff.mp h) rfl ha

/-! ## Graphs that represent a relation -/

variable {E : CellName → CellName → Prop}

theorem Represents.edge_eq (h : g.Represents E) : g.Edge = E := by
  funext s t
  exact propext h.mem_dependentsOf

theorem Represents.inOrder (h : g.Represents E) (ho : g.recalculationOrder [a] = .ok order) :
    InOrder E order ∧ a ∈ order := by
  obtain ⟨hi, hm⟩ := inOrder_of_recalculationOrder ho
  rw [h.edge_eq] at hi
  exact ⟨hi, (hm a).mpr ⟨a, List.mem_singleton_self a, .refl⟩⟩

theorem Represents.exists_recalculationOrder (h : g.Represents E) (hE : Acyclic E)
    (starts : List CellName) : ∃ order, g.recalculationOrder starts = .ok order := by
  rw [← h.edge_eq] at hE
  exact DependencyGraph.exists_recalculationOrder hE starts

/-! ## New precedents of one cell -/

variable {E' : CellName → CellName → Prop}

/-- Where only the precedents of `a` are new to an acyclic relation, the walk from `a` stops at a
cycle that begins and ends with `a`. -/
theorem Represents.closes_of_exchange (h : g.Represents E') (hE : ∀ s t, t ≠ a → E' s t → E s t)
    (hacyclic : Acyclic E) (hr : g.recalculationOrder [a] = .error c) :
    c.Closes E' ∧ c.path.head? = some a := by
  have hc := (closes_of_recalculationOrder hr).1
  rw [h.edge_eq] at hc
  exact ⟨hc, head?_path_of_recalculationOrder hr (hc.mem_of_acyclic hE hacyclic)⟩

theorem Represents.exists_error_iff (h : g.Represents E') (hE : ∀ s t, t ≠ a → E' s t → E s t)
    (hacyclic : Acyclic E) :
    (∃ c, g.recalculationOrder [a] = .error c) ↔ TransGen E' a a := by
  rw [exists_cycle_iff, h.edge_eq]
  constructor
  · rintro ⟨b, -, hb⟩
    by_contra ha
    exact hacyclic.exchange hE ha b hb
  · intro hp
    exact ⟨a, ⟨a, List.mem_singleton_self a, .refl⟩, hp⟩

end DependencyGraph

end Spreadsheet
