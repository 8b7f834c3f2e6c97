import Spreadsheet.Proofs.Dependency.Order
import Spreadsheet.Proofs.Dependency.Updates

/-! # The search behind the walk

Depth-first search by recursion, without a stack of its own: the cells whose dependents are being
visited are those of the calls not yet returned. A frame of the walk is such a call, and what is
pending in it are the dependents that the call has still to visit.
-/

namespace Spreadsheet

namespace DependencyGraph

/-- The cells with dependents that the path does not lead through. -/
def ahead (g : DependencyGraph) (path : List CellName) : List CellName :=
  g.dependents.keys.filter (· ∉ path)

/-- A call for `a` has fewer cells ahead, or no dependents to visit. -/
theorem ahead_decreasing (g : DependencyGraph) {path : List CellName} {a : CellName}
    (ha : a ∉ path) (as : List CellName) :
    Prod.Lex (· < ·) (· < ·) ((g.ahead (path ++ [a])).length, (g.dependentsOf a).toList.length)
      ((g.ahead path).length, (a :: as).length) := by
  have hsub : (g.ahead (path ++ [a])).Sublist (g.ahead path) :=
    List.monotone_filter_right _ fun b hb => by simp_all
  by_cases hg : a ∈ g.dependents
  · refine Prod.Lex.left _ _ (hsub.length_le.lt_of_ne fun hl => ?_)
    have hmem : a ∈ g.ahead path := by simpa [ahead, ha] using hg
    rw [← hsub.eq_of_length hl] at hmem
    simp [ahead] at hmem
  · have hn : g.dependentsOf a = ∅ := Std.ExtTreeMap.getD_eq_fallback hg
    refine Prod.Lex.right' _ hsub.length_le ?_
    rw [hn]
    exact Nat.succ_pos _

/-- Visit cells one after the other, where `path` leads down to the cell they depend on. A cell on
the path closes a cycle, a finished one is passed over, and any other goes in front of the finished
cells once its dependents are visited, in ascending order. -/
def search (g : DependencyGraph) (path finished : List CellName) :
    List CellName → Except Cycle (List CellName)
  | [] => .ok finished
  | a :: as =>
    if a ∈ path then .error ⟨path.dropWhile (· ≠ a) ++ [a]⟩
    else if a ∈ finished then g.search path finished as
    else do
      let below ← g.search (path ++ [a]) finished (g.dependentsOf a).toList
      g.search path (a :: below) as
termination_by as => ((g.ahead path).length, as.length)
decreasing_by
  · exact Prod.Lex.right _ (Nat.lt_succ_self _)
  · exact g.ahead_decreasing ‹_› as
  · exact Prod.Lex.right _ (Nat.lt_succ_self _)

variable {g h : DependencyGraph}

theorem search_congr (hg : ∀ s, g.dependentsOf s = h.dependentsOf s)
    (path finished as : List CellName) : g.search path finished as = h.search path finished as := by
  fun_induction search g path finished as with
  | case1 => rw [search]
  | case2 path finished a as ha => rw [search, if_pos ha]
  | case3 path finished a as ha hf ih => rw [search, if_neg ha, if_pos hf, ih]
  | case4 path finished a as ha hf inner outer =>
    rw [search, if_neg ha, if_neg hf, ← hg, inner]
    congr 1
    funext below
    exact outer below

end DependencyGraph

namespace Walk

variable {g : DependencyGraph} {R : CellName → Prop} {w : Walk} {stack : List Frame}
  {a c : CellName} {cells pending : List CellName}

theorem cycle_eq_dropWhile (ha : a ∈ cells) (hn : cells.Nodup) :
    cycle a cells = ⟨cells.reverse.dropWhile (· ≠ a) ++ [a]⟩ := by
  obtain ⟨above, below, rfl, hab⟩ := List.eq_append_cons_of_mem ha
  have hbelow : ∀ b ∈ below.reverse, decide (b ≠ a) = true := fun b hb => by
    have hnb : a ∉ below := (List.nodup_cons.mp hn.of_append_right).1
    simpa using ne_of_mem_of_not_mem (List.mem_reverse.mp hb) hnb
  rw [Cycle.mk.injEq, path_cycle hab, List.reverse_append, List.reverse_cons, List.append_assoc,
    List.dropWhile_append_of_pos hbelow]
  simp

/-- A walk with `c` on top follows the search through what is pending there: it stops at the same
cycle, or comes to the same finished cells with nothing pending for `c`. -/
def Follows (g : DependencyGraph) (R : CellName → Prop) (c : CellName) (stack : List Frame)
    (run : Except Cycle Walk) : Except Cycle (List CellName) → Prop
  | .error e => run = .error e
  | .ok finished => ∃ w : Walk, w.finished = finished ∧ w.Invariant g R (⟨c, []⟩ :: stack) ∧
      run = w.run (⟨c, []⟩ :: stack)

namespace Invariant

theorem marks_eq_none (h : w.Invariant g R stack) (ha : a ∉ stack.map Frame.cell)
    (hf : a ∉ w.finished) : w.marks[a]? = none := by
  cases hmark : w.marks[a]? with
  | none => rfl
  | some mark =>
    cases mark with
    | onStack => exact absurd ((h.onStack a).mp hmark) ha
    | done => exact absurd ((h.done a).mp hmark) hf

theorem frame_eq (h : w.Invariant g R stack) (hm : w.marks[a]? = none) :
    w.frame a = ⟨a, (g.dependentsOf a).toList⟩ := by
  rw [frame, h.unmet a hm]

theorem follows (h : w.Invariant g R (⟨c, pending⟩ :: stack))
    (hR : ∀ s t, R s → g.Edge s t → R t) :
    Follows g R c stack (w.run (⟨c, pending⟩ :: stack))
      (g.search (c :: stack.map Frame.cell).reverse w.finished pending) := by
  generalize hpath : (c :: stack.map Frame.cell).reverse = path
  generalize hfin : w.finished = finished
  fun_induction DependencyGraph.search g path finished pending generalizing w c stack with
  | case1 path finished => exact ⟨w, hfin, h, rfl⟩
  | case2 path finished a as ha =>
    have hm : a ∈ c :: stack.map Frame.cell := by rwa [← List.mem_reverse, hpath]
    have hmark : w.marks[a]? = some .onStack := (h.onStack a).mpr hm
    rw [Follows, Walk.run, hmark, cycle_eq_dropWhile hm h.nodup, hpath]
  | case3 path finished a as ha hf ih =>
    have hmark : w.marks[a]? = some .done := (h.done a).mpr (hfin ▸ hf)
    rw [(Turn.skip hmark c as stack).run_eq]
    exact ih (h.skip hmark) hpath hfin
  | case4 path finished a as ha hf inner outer =>
    have hm : a ∉ c :: stack.map Frame.cell := by rwa [← List.mem_reverse, hpath]
    have hmark : w.marks[a]? = none := h.marks_eq_none hm (hfin ▸ hf)
    have hframe := h.frame_eq hmark
    have hmeet := h.meet hmark hR
    rw [(Turn.meet hmark c as stack).run_eq]
    rw [hframe] at hmeet ⊢
    have hinner := inner hmeet (by simp [← hpath]) hfin
    -- The call for `a` is over when its frame has nothing pending: leaving it adds `a`.
    cases hbelow : g.search (path ++ [a]) finished (g.dependentsOf a).toList with
    | error e =>
      rw [hbelow] at hinner
      exact hinner
    | ok below =>
      rw [hbelow] at hinner
      obtain ⟨w', rfl, hw', hrun⟩ := hinner
      rw [hrun, (Turn.leave w' a (⟨c, as⟩ :: stack)).run_eq]
      exact outer w'.finished hw'.leave hpath rfl

theorem runAll_eq_search (h : w.Invariant g R []) (hR : ∀ s t, R s → g.Edge s t → R t)
    {starts : List CellName} (hs : ∀ a ∈ starts, R a) :
    (w.runAll starts).map Walk.finished = g.search [] w.finished starts := by
  induction starts generalizing w with
  | nil =>
    rw [Walk.runAll, DependencyGraph.search]
    rfl
  | cons a as ih =>
    obtain ⟨ha, hs⟩ := List.forall_mem_cons.mp hs
    rw [Walk.runAll, DependencyGraph.search, if_neg List.not_mem_nil,
      Std.ExtTreeMap.contains_eq_isSome_getElem?]
    by_cases hf : a ∈ w.finished
    · rw [(h.done a).mpr hf, Option.isSome_some, if_pos rfl, if_pos hf]
      exact ih h hs
    · have hmark : w.marks[a]? = none := h.marks_eq_none List.not_mem_nil hf
      have hstart := h.start hmark ha
      rw [hmark, if_neg (by simp), if_neg hf, h.frame_eq hmark]
      rw [h.frame_eq hmark] at hstart
      have hfollows : Follows g R a [] _ (g.search [a] w.finished (g.dependentsOf a).toList) :=
        hstart.follows hR
      rw [List.nil_append]
      cases hbelow : g.search [a] w.finished (g.dependentsOf a).toList with
      | error e =>
        rw [hbelow] at hfollows
        rw [hfollows]
        rfl
      | ok below =>
        rw [hbelow] at hfollows
        obtain ⟨w', rfl, hw', hrun⟩ := hfollows
        rw [hrun, (Turn.leave w' a []).run_eq, Walk.run]
        exact ih hw'.leave hs

end Invariant

end Walk

namespace DependencyGraph

variable {g h : DependencyGraph} {starts : List CellName}

theorem recalculationOrder_eq_search_nil (g : DependencyGraph) (starts : List CellName) :
    g.recalculationOrder starts = g.search [] [] starts :=
  Walk.invariant_start.runAll_eq_search (R := fun _ => True) (fun _ _ _ _ => trivial)
    fun _ _ => trivial

theorem recalculationOrder_eq_of_edge_iff (he : ∀ s t, h.Edge s t ↔ g.Edge s t) :
    h.recalculationOrder starts = g.recalculationOrder starts := by
  rw [recalculationOrder_eq_search_nil, recalculationOrder_eq_search_nil]
  exact search_congr (fun s => Std.ExtTreeSet.ext_mem (he s)) [] [] starts

/-- The walk over a graph answers what the search by recursion answers, an order or a cycle. Each
cell's dependents are visited in ascending order, so nothing but the edges counts, whichever updates
they come from. -/
theorem recalculationOrder_eq_search (g : DependencyGraph) (starts : List CellName) :
    g.recalculationOrder starts = g.search [] [] starts ∧
    (∀ s, (g.dependentsOf s).toList.Pairwise (fun t u => compare t u = .lt) ∧
      ∀ t, t ∈ (g.dependentsOf s).toList ↔ g.Edge s t) ∧
    (∀ h : DependencyGraph, (∀ s t, h.Edge s t ↔ g.Edge s t) →
      h.recalculationOrder starts = g.recalculationOrder starts) ∧
    ∀ us : List Update, (∀ s t, (s, t) ∈ pairsAfter us ↔ g.Edge s t) →
      (after us).recalculationOrder starts = g.recalculationOrder starts := by
  refine ⟨recalculationOrder_eq_search_nil g starts, fun s => ?_, fun h => ?_, fun us hus => ?_⟩
  · exact ⟨Std.ExtTreeSet.ordered_toList, fun t => Std.ExtTreeSet.mem_toList⟩
  · exact recalculationOrder_eq_of_edge_iff
  · refine recalculationOrder_eq_of_edge_iff fun s t => ?_
    rw [(Represents.after us).edge_eq]
    exact hus s t

theorem recalculationOrder_eq_search_knotted : ∃ (us : List Update) (starts : List CellName)
    (c : Cycle), (∀ s t, (s, t) ∈ pairsAfter us ↔ knotted.Edge s t) ∧
    knotted.search [] [] starts = .error c ∧ c.path.map CellName.text = ["B1", "C1", "B1"] ∧
    (after us).recalculationOrder starts = .error c := by
  let a : CellName := ⟨"A1", by decide⟩
  let b : CellName := ⟨"B1", by decide⟩
  let c : CellName := ⟨"C1", by decide⟩
  let d : CellName := ⟨"D1", by decide⟩
  let us : List Update := [.add d d, .add c b, .setDependents b [a, c], .add a b, .add c b,
    .remove b a]
  have hus (s t : CellName) : (s, t) ∈ pairsAfter us ↔ knotted.Edge s t := by
    have hknotted : knotted = after [.add a b, .add b c, .add c b, .add d d] := by
      simp only [knotted, after, List.foldl_cons, List.foldl_nil, Update.onGraph, a, b, c, d]
    have hpairs : pairsAfter us = pairsAfter [.add a b, .add b c, .add c b, .add d d] := by decide
    rw [hknotted, (Represents.after _).edge_eq, hpairs]
  have h : knotted.recalculationOrder [a] = .error ⟨[b, c, b]⟩ := by cbv
  obtain ⟨hsearch, -, -, hupdates⟩ := recalculationOrder_eq_search knotted [a]
  exact ⟨us, [a], _, hus, hsearch ▸ h, rfl, (hupdates us hus).trans h⟩

end DependencyGraph

end Spreadsheet
