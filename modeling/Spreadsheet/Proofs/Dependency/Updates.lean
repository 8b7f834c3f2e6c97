import Mathlib.Data.Finset.Prod
import Mathlib.Data.Finset.Union
import Spreadsheet.Proofs.Dependency.Edges

/-! # Updates of a dependency graph

The three parts of a graph are kept in step by every update: whatever was added, removed or exchanged
from the empty graph on, it is seen to hold the set of pairs that the same updates make of the empty
set, from both ends and counted.
-/

namespace Spreadsheet

variable {s t : CellName}

theorem CellSet.nodup_toList (c : CellSet) : c.toList.Nodup :=
  c.distinct_toList.imp fun h he => h (Std.LawfulEqCmp.compare_eq_iff_eq.mpr he)

theorem Adjacency.Pruned.contains_iff {m : Adjacency} (h : m.Pruned) (a : CellName) :
    m.contains a = true ↔ ∃ b, b ∈ m.neighbours a := by
  rw [Std.ExtTreeMap.contains_iff_mem]
  constructor
  · intro ha
    by_contra hn
    exact h a ha (Std.ExtTreeSet.eq_empty_iff_forall_not_mem.mpr (not_exists.mp hn))
  · rintro ⟨b, hb⟩
    by_contra ha
    rw [Adjacency.neighbours, Std.ExtTreeMap.getD_eq_fallback ha] at hb
    exact Std.ExtTreeSet.not_mem_empty hb

namespace DependencyGraph

variable {g : DependencyGraph} {P : Finset (CellName × CellName)}

inductive Update where
  | add (s t : CellName)
  | remove (s t : CellName)
  | setDependents (s : CellName) (ts : List CellName)
  | setPrecedents (t : CellName) (ss : List CellName)

namespace Update

def onGraph (g : DependencyGraph) : Update → DependencyGraph
  | add s t => g.add s t
  | remove s t => g.remove s t
  | setDependents s ts => (g.setDependents s ts).2
  | setPrecedents t ss => (g.setPrecedents t ss).2

def onPairs (P : Finset (CellName × CellName)) : Update → Finset (CellName × CellName)
  | add s t => insert (s, t) P
  | remove s t => P.erase (s, t)
  | setDependents s ts => P.filter (·.1 ≠ s) ∪ (ts.map (s, ·)).toFinset
  | setPrecedents t ss => P.filter (·.2 ≠ t) ∪ (ss.map (·, t)).toFinset

/-- The update as one link after the other: first those that are broken, then those that are made. -/
def singles (g : DependencyGraph) : Update → List Update
  | setDependents s ts => (g.dependentsOf s).toList.map (remove s) ++ ts.map (add s)
  | setPrecedents t ss => (g.precedentsOf t).toList.map (remove · t) ++ ss.map (add · t)
  | u => [u]

theorem onGraph_eq_singles (g : DependencyGraph) (u : Update) :
    u.onGraph g = (u.singles g).foldl onGraph g := by
  cases u with
  | setDependents s ts =>
    rw [singles, List.foldl_append, List.foldl_map, List.foldl_map]
    rfl
  | setPrecedents t ss =>
    rw [singles, List.foldl_append, List.foldl_map, List.foldl_map]
    rfl
  | _ => rfl

end Update

def after (us : List Update) : DependencyGraph := us.foldl Update.onGraph empty

def pairsAfter (us : List Update) : Finset (CellName × CellName) := us.foldl Update.onPairs ∅

namespace Represents

theorem onGraph (h : g.Represents fun s t => (s, t) ∈ P) (u : Update) :
    (u.onGraph g).Represents fun s t => (s, t) ∈ u.onPairs P := by
  cases u with
  | add s t =>
    refine h.add.congr fun a b => ?_
    simp [Update.onPairs, or_comm]
  | remove s t =>
    refine h.remove.congr fun a b => ?_
    simp [Update.onPairs, and_comm]
  | setDependents s ts =>
    refine (h.setDependents s ts).congr fun a b => ?_
    by_cases ha : a = s
    · subst a
      simp [Update.onPairs]
    · simp [Update.onPairs, ha, Ne.symm ha]
  | setPrecedents t ss =>
    refine (h.setPrecedents t ss).congr fun a b => ?_
    by_cases hb : b = t
    · subst b
      simp [Update.onPairs]
    · simp [Update.onPairs, hb, Ne.symm hb]

theorem after (us : List Update) : (after us).Represents fun s t => (s, t) ∈ pairsAfter us := by
  have hrun {g : DependencyGraph} {P : Finset (CellName × CellName)}
      (h : g.Represents fun s t => (s, t) ∈ P) :
      (us.foldl Update.onGraph g).Represents fun s t => (s, t) ∈ us.foldl Update.onPairs P := by
    induction us generalizing g P with
    | nil => exact h
    | cons u us ih => exact ih (h.onGraph u)
  exact hrun (represents_empty.congr fun s t => by simp)

/-! ## What is seen of the pairs -/

theorem hasDependents_iff (h : g.Represents fun s t => (s, t) ∈ P) :
    g.hasDependents s = true ↔ ∃ t, (s, t) ∈ P :=
  (h.pruned_dependents.contains_iff s).trans (exists_congr fun _ => h.mem_dependentsOf)

theorem hasPrecedents_iff (h : g.Represents fun s t => (s, t) ∈ P) :
    g.hasPrecedents t = true ↔ ∃ s, (s, t) ∈ P :=
  (h.pruned_precedents.contains_iff t).trans (exists_congr fun _ => h.mem_precedentsOf)

theorem precedentCount_eq (h : g.Represents fun s t => (s, t) ∈ P) (t : CellName) :
    g.precedentCount t = (P.filter (·.2 = t)).card := by
  have hpairs : P.filter (·.2 = t) = ((g.precedentsOf t).toList.map (·, t)).toFinset := by
    ext ⟨a, b⟩
    simp only [Finset.mem_filter, List.mem_toFinset, List.mem_map, Std.ExtTreeSet.mem_toList,
      h.mem_precedentsOf, Prod.mk.injEq]
    constructor
    · rintro ⟨hab, rfl⟩
      exact ⟨a, hab, rfl, rfl⟩
    · rintro ⟨s, hs, rfl, rfl⟩
      exact ⟨hs, rfl⟩
  have hnodup : ((g.precedentsOf t).toList.map (·, t)).Nodup :=
    (CellSet.nodup_toList _).map fun a b hab => congrArg Prod.fst hab
  rw [hpairs, List.toFinset_card_of_nodup hnodup, List.length_map, Std.ExtTreeSet.length_toList]
  rfl

theorem size_eq_card (h : g.Represents fun s t => (s, t) ∈ P) : g.size = P.card := by
  rw [h.size_eq, ← Set.ncard_coe_finset]
  rfl

theorem isEmpty_iff (h : g.Represents fun s t => (s, t) ∈ P) : g.isEmpty = true ↔ P = ∅ := by
  rw [isEmpty, beq_iff_eq, h.size_eq_card, Finset.card_eq_zero]

theorem size_remove (h : g.Represents fun s t => (s, t) ∈ P) (hp : (s, t) ∈ P) :
    (g.remove s t).size + 1 = g.size := by
  have hr : (g.remove s t).size = (P.erase (s, t)).card := (h.onGraph (.remove s t)).size_eq_card
  rw [hr, h.size_eq_card, Finset.card_erase_add_one hp]

end Represents

/-- Whatever a graph is asked, it answers for this set of pairs. -/
structure Shows (g : DependencyGraph) (P : Finset (CellName × CellName)) : Prop where
  mem_dependentsOf : ∀ s t, t ∈ g.dependentsOf s ↔ (s, t) ∈ P
  mem_precedentsOf : ∀ s t, s ∈ g.precedentsOf t ↔ (s, t) ∈ P
  hasDependents_iff : ∀ s, g.hasDependents s = true ↔ ∃ t, (s, t) ∈ P
  hasPrecedents_iff : ∀ t, g.hasPrecedents t = true ↔ ∃ s, (s, t) ∈ P
  precedentCount_eq : ∀ t, g.precedentCount t = (P.filter (·.2 = t)).card
  size_eq : g.size = P.card
  isEmpty_iff : g.isEmpty = true ↔ P = ∅
  /-- An exchange hands back what was there. -/
  previousDependents : ∀ s ts t, t ∈ (g.setDependents s ts).1 ↔ (s, t) ∈ P
  previousPrecedents : ∀ t ss s, s ∈ (g.setPrecedents t ss).1 ↔ (s, t) ∈ P
  /-- No empty set of neighbours is kept. -/
  pruned : g.dependents.Pruned ∧ g.precedents.Pruned
  /-- The size never counts down from zero. -/
  size_remove : ∀ s t, (s, t) ∈ P → (g.remove s t).size + 1 = g.size

/-- After any updates a graph shows exactly the pairs that the same updates leave of the empty set,
and each update is made of single links, so this holds of the graphs in the middle of it too. -/
theorem shows_after (us : List Update) :
    (after us).Shows (pairsAfter us) ∧
    ∀ u : Update, after (us ++ [u]) = after (us ++ u.singles (after us)) := by
  have h := Represents.after us
  refine ⟨?_, fun u => ?_⟩
  · exact
      { mem_dependentsOf := fun _ _ => h.mem_dependentsOf
        mem_precedentsOf := fun _ _ => h.mem_precedentsOf
        hasDependents_iff := fun _ => h.hasDependents_iff
        hasPrecedents_iff := fun _ => h.hasPrecedents_iff
        precedentCount_eq := h.precedentCount_eq
        size_eq := h.size_eq_card
        isEmpty_iff := h.isEmpty_iff
        previousDependents := fun _ _ _ => h.mem_dependentsOf
        previousPrecedents := fun _ _ _ => h.mem_precedentsOf
        pruned := ⟨h.pruned_dependents, h.pruned_precedents⟩
        size_remove := fun _ _ => h.size_remove }
  · simp only [DependencyGraph.after, List.foldl_append]
    exact u.onGraph_eq_singles _

end DependencyGraph

end Spreadsheet
