import Spreadsheet.Proofs.Dependency.Walk

/-! # What a walk reads of a graph

A walk asks only for the dependents of cells that it reaches, so graphs that list the same
dependents for these are walked alike. Exchanging the precedents of one cell is not seen by the walk
from this cell, as long as no cycle leads back to it.
-/

namespace Spreadsheet

open Relation (TransGen ReflTransGen)

variable {R : CellName → Prop} {a b : CellName}

section Paths

variable {E E' : CellName → CellName → Prop}

/-- A path from `a` that never leads back to it does not need the precedents of `a`. -/
theorem transGen_exchange (hE : ∀ s t, t ≠ a → E s t → E' s t) (ha : ¬ TransGen E a a)
    (h : TransGen E a b) : TransGen E' a b := by
  have hne {c : CellName} (hp : TransGen E a c) : c ≠ a := by
    rintro rfl
    exact ha hp
  induction h with
  | single he => exact .single (hE _ _ (hne (.single he)) he)
  | tail hp he ih => exact ih.tail (hE _ _ (hne (hp.tail he)) he)

theorem transGen_exchange_iff (hE : ∀ s t, t ≠ a → (E s t ↔ E' s t)) (ha : ¬ TransGen E a a)
    (ha' : ¬ TransGen E' a a) : TransGen E a b ↔ TransGen E' a b :=
  ⟨transGen_exchange (fun s t ht => (hE s t ht).mp) ha,
    transGen_exchange (fun s t ht => (hE s t ht).mpr) ha'⟩

theorem not_edge_of_reflTransGen (ha : ¬ TransGen E a a) (h : ReflTransGen E a b) : ¬ E b a :=
  fun he => ha (TransGen.tail' h he)

end Paths

namespace Walk

variable {w w' : Walk} {stack : List Frame} {c : CellName}

/-- Two walks that have come equally far and have the same before them from the cells of `R`, which
the cells not met yet do not lead out of. -/
structure Alike (R : CellName → Prop) (w w' : Walk) : Prop where
  marks : w.marks = w'.marks
  finished : w.finished = w'.finished
  unmet : ∀ s, R s → w.unmet.neighbours s = w'.unmet.neighbours s
  closed : ∀ s t, R s → t ∈ w.unmet.neighbours s → R t

namespace Alike

theorem frame (h : w.Alike R w') (ha : R a) : w.frame a = w'.frame a := by
  rw [Walk.frame, Walk.frame, h.unmet a ha]

theorem leave (h : w.Alike R w') (c : CellName) : (w.leave c).Alike R (w'.leave c) where
  marks := congrArg (·.insert c .done) h.marks
  finished := congrArg (c :: ·) h.finished
  unmet := h.unmet
  closed := h.closed

theorem enter (h : w.Alike R w') (a : CellName) : (w.enter a).Alike R (w'.enter a) where
  marks := congrArg (·.insert a .onStack) h.marks
  finished := h.finished
  unmet s hs := by
    simp only [Walk.enter, Adjacency.neighbours_erase, h.unmet s hs]
  closed s t hs ht := by
    simp only [Walk.enter, Adjacency.neighbours_erase] at ht
    split at ht
    · exact absurd ht Std.ExtTreeSet.not_mem_empty
    · exact h.closed s t hs ht

theorem run (h : w.Alike R w') (hs : ∀ f ∈ stack, ∀ t ∈ f.pending, R t) :
    (w.run stack).map Walk.finished = (w'.run stack).map Walk.finished := by
  fun_induction Walk.run w stack generalizing w' with
  | case1 w =>
    rw [Walk.run]
    exact congrArg Except.ok h.finished
  | case2 w c stack ih =>
    rw [Walk.run]
    exact ih (h.leave c) fun f hf => hs f (List.mem_cons_of_mem _ hf)
  | case3 w c a pending stack ha ih =>
    rw [Walk.run, ← h.marks, ha]
    obtain ⟨hp, hs⟩ := List.forall_mem_cons.mp hs
    exact ih h (List.forall_mem_cons.mpr ⟨fun t ht => hp t (List.mem_cons_of_mem _ ht), hs⟩)
  | case4 w c a pending stack ha =>
    rw [Walk.run, ← h.marks, ha]
  | case5 w c a pending stack ha ih =>
    obtain ⟨hp, hs⟩ := List.forall_mem_cons.mp hs
    have hR : R a := hp a List.mem_cons_self
    rw [Walk.run, ← h.marks, ha, ← h.frame hR]
    refine ih (h.enter a) (List.forall_mem_cons.mpr ⟨fun t ht => ?_, List.forall_mem_cons.mpr
      ⟨fun t ht => hp t (List.mem_cons_of_mem _ ht), hs⟩⟩)
    exact h.closed a t hR (Std.ExtTreeSet.mem_toList.mp ht)

end Alike

end Walk

namespace DependencyGraph

variable {g g' : DependencyGraph} {E E' : CellName → CellName → Prop}

/-- Graphs with the same dependents for every cell of `R`, which these do not lead out of, are
walked alike from a cell of `R`. -/
theorem recalculationOrder_congr (hg : ∀ s, R s → g.dependentsOf s = g'.dependentsOf s)
    (hR : ∀ s t, R s → g.Edge s t → R t) (ha : R a) :
    g.recalculationOrder [a] = g'.recalculationOrder [a] := by
  have hstart : (Walk.start g).Alike R (Walk.start g') := ⟨rfl, rfl, hg, hR⟩
  rw [recalculationOrder_singleton, recalculationOrder_singleton, ← hstart.frame ha]
  refine (hstart.enter a).run fun f hf t ht => ?_
  obtain rfl := List.mem_singleton.mp hf
  exact hR a t ha (Std.ExtTreeSet.mem_toList.mp ht)

/-- The walk from a cell does not see the precedents of this cell. -/
theorem Represents.recalculationOrder_exchange (h : g.Represents E) (h' : g'.Represents E')
    (hE : ∀ s t, t ≠ a → (E s t ↔ E' s t)) (ha : ¬ TransGen E a a) (ha' : ¬ TransGen E' a a) :
    g.recalculationOrder [a] = g'.recalculationOrder [a] := by
  apply recalculationOrder_congr (R := ReflTransGen E a)
  · intro s hs
    have hs' : ReflTransGen E' a s := by
      rcases Relation.reflTransGen_iff_eq_or_transGen.mp hs with rfl | hs
      · exact .refl
      · exact ((transGen_exchange_iff hE ha ha').mp hs).to_reflTransGen
    apply Std.ExtTreeSet.ext_mem
    intro t
    rw [h.mem_dependentsOf, h'.mem_dependentsOf]
    by_cases ht : t = a
    · subst t
      exact iff_of_false (not_edge_of_reflTransGen ha hs) (not_edge_of_reflTransGen ha' hs')
    · exact hE s t ht
  · intro s t hs he
    exact hs.tail (h.mem_dependentsOf.mp he)
  · exact .refl

end DependencyGraph

end Spreadsheet
