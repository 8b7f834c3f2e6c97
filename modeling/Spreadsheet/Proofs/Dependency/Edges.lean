import Mathlib.Data.Set.Card
import Spreadsheet.Dependency.Graph

/-! # The relation behind a dependency graph

A graph represents a relation between cells when both of its maps list exactly the related pairs,
keep no empty set, and the size counts the pairs. Each operation changes the relation as its name
says, and a relation has at most one graph.
-/

namespace Spreadsheet

variable {a b s t : CellName}

theorem mem_cellSet_insert {c : CellSet} : b ∈ c.insert a ↔ a = b ∨ b ∈ c := by
  simp [Std.ExtTreeSet.mem_insert, Std.LawfulEqCmp.compare_eq_iff_eq]

theorem mem_cellSet_erase {c : CellSet} : b ∈ c.erase a ↔ a ≠ b ∧ b ∈ c := by
  simp [Std.ExtTreeSet.mem_erase, Std.LawfulEqCmp.compare_eq_iff_eq]

namespace Adjacency

variable {m : Adjacency}

theorem neighbours_insert {c : CellSet} :
    neighbours (m.insert a c) b = if a = b then c else neighbours m b := by
  simp [neighbours, Std.ExtTreeMap.getD_insert, Std.LawfulEqCmp.compare_eq_iff_eq]

theorem neighbours_erase : neighbours (m.erase a) b = if a = b then ∅ else neighbours m b := by
  simp [neighbours, Std.ExtTreeMap.getD_erase, Std.LawfulEqCmp.compare_eq_iff_eq]

theorem mem_neighbours_link {c d : CellName} :
    d ∈ neighbours (m.link a b) c ↔ d ∈ neighbours m c ∨ (c = a ∧ d = b) := by
  rw [link, neighbours_insert]
  split
  · subst a
    rw [mem_cellSet_insert, or_comm, eq_comm]
    simp
  · rename_i h
    simp [Ne.symm h]

theorem mem_neighbours_unlink {c d : CellName} :
    d ∈ neighbours (m.unlink a b) c ↔ d ∈ neighbours m c ∧ ¬(c = a ∧ d = b) := by
  have hn : neighbours (m.unlink a b) c =
      if a = c then (neighbours m a).erase b else neighbours m c := by
    unfold unlink
    dsimp only
    split
    · rename_i h
      rw [neighbours_erase, Std.ExtTreeSet.isEmpty_iff.mp h]
    · exact neighbours_insert
  rw [hn]
  split
  · subst a
    rw [mem_cellSet_erase, and_comm, ne_comm]
    simp
  · rename_i h
    simp [Ne.symm h]

def Pruned (m : Adjacency) : Prop := ∀ a ∈ m, neighbours m a ≠ ∅

theorem Pruned.insert {c : CellSet} (h : m.Pruned) (hc : c ≠ ∅) : Pruned (m.insert a c) := by
  intro b hb
  rw [neighbours_insert]
  split
  · exact hc
  · rename_i hab
    rw [Std.ExtTreeMap.mem_insert, Std.LawfulEqCmp.compare_eq_iff_eq] at hb
    exact h b (hb.resolve_left hab)

theorem Pruned.link (h : m.Pruned) : Pruned (m.link a s) :=
  h.insert Std.ExtTreeSet.insert_ne_empty

theorem Pruned.unlink (h : m.Pruned) : Pruned (m.unlink a s) := by
  unfold Adjacency.unlink
  dsimp only
  split
  · intro b hb
    rw [Std.ExtTreeMap.mem_erase, ne_eq, Std.LawfulEqCmp.compare_eq_iff_eq] at hb
    rw [neighbours_erase, if_neg hb.1]
    exact h b hb.2
  · rename_i hr
    exact h.insert fun he => hr (Std.ExtTreeSet.isEmpty_iff.mpr he)

theorem pruned_empty : Pruned ∅ := fun _ h => absurd h Std.ExtTreeMap.not_mem_empty

theorem Pruned.getElem?_eq (h : m.Pruned) (a : CellName) :
    m[a]? = if neighbours m a = ∅ then none else some (neighbours m a) := by
  by_cases ha : a ∈ m
  · rw [if_neg (h a ha), neighbours, Std.ExtTreeMap.getD_eq_getD_getElem?,
      Std.ExtTreeMap.getElem?_eq_some_getElem ha]
    rfl
  · have hn : neighbours m a = ∅ := Std.ExtTreeMap.getD_eq_fallback ha
    rw [if_pos hn, Std.ExtTreeMap.getElem?_eq_none ha]

theorem Pruned.ext {m' : Adjacency} (h : m.Pruned) (h' : m'.Pruned)
    (hn : ∀ a b, b ∈ neighbours m a ↔ b ∈ neighbours m' a) : m = m' := by
  apply Std.ExtTreeMap.ext_getElem?
  intro a
  rw [h.getElem?_eq, h'.getElem?_eq, Std.ExtTreeSet.ext_mem (hn a)]

end Adjacency

namespace DependencyGraph

variable {g g' : DependencyGraph} {E : CellName → CellName → Prop}

def pairs (E : CellName → CellName → Prop) : Set (CellName × CellName) := {p | E p.1 p.2}

/-- The graph holds exactly the related pairs, seen from both ends, and their number. -/
structure Represents (g : DependencyGraph) (E : CellName → CellName → Prop) : Prop where
  mem_dependentsOf : ∀ {s t}, t ∈ g.dependentsOf s ↔ E s t
  mem_precedentsOf : ∀ {s t}, s ∈ g.precedentsOf t ↔ E s t
  pruned_dependents : g.dependents.Pruned
  pruned_precedents : g.precedents.Pruned
  finite : (pairs E).Finite
  size_eq : g.size = (pairs E).ncard

theorem represents_empty : empty.Represents fun _ _ => False where
  mem_dependentsOf := iff_of_false Std.ExtTreeSet.not_mem_empty id
  mem_precedentsOf := iff_of_false Std.ExtTreeSet.not_mem_empty id
  pruned_dependents := Adjacency.pruned_empty
  pruned_precedents := Adjacency.pruned_empty
  finite := Set.finite_empty
  size_eq := Set.ncard_empty _ |>.symm

theorem Represents.congr {E' : CellName → CellName → Prop} (h : g.Represents E)
    (he : ∀ s t, E s t ↔ E' s t) : g.Represents E' := by
  obtain rfl : E = E' := funext fun s => funext fun t => propext (he s t)
  exact h

/-- A relation is represented by one graph only. -/
theorem Represents.unique (h : g.Represents E) (h' : g'.Represents E) : g = g' := by
  obtain ⟨d, p, n⟩ := g
  obtain ⟨d', p', n'⟩ := g'
  obtain rfl : d = d' := h.pruned_dependents.ext h'.pruned_dependents fun _ _ =>
    h.mem_dependentsOf.trans h'.mem_dependentsOf.symm
  obtain rfl : p = p' := h.pruned_precedents.ext h'.pruned_precedents fun _ _ =>
    h.mem_precedentsOf.trans h'.mem_precedentsOf.symm
  obtain rfl : n = n' := h.size_eq.trans h'.size_eq.symm
  rfl

theorem Represents.add (h : g.Represents E) :
    (g.add s t).Represents fun a b => E a b ∨ (a = s ∧ b = t) := by
  have hp : pairs (fun a b => E a b ∨ (a = s ∧ b = t)) = insert (s, t) (pairs E) := by
    ext ⟨a, b⟩
    simp only [pairs, Set.mem_ofPred_eq, Set.mem_insert_iff, Prod.mk.injEq]
    exact or_comm
  unfold DependencyGraph.add
  split
  · rename_i hm
    have hE : E s t := h.mem_dependentsOf.mp (Std.ExtTreeSet.contains_iff_mem.mp hm)
    exact h.congr fun a b => ⟨.inl, fun hab => hab.elim id fun ⟨ha, hb⟩ => ha ▸ hb ▸ hE⟩
  · rename_i hm
    have hE : (s, t) ∉ pairs E := fun hE =>
      hm (Std.ExtTreeSet.contains_iff_mem.mpr (h.mem_dependentsOf.mpr hE))
    constructor
    · intro a b
      exact Adjacency.mem_neighbours_link.trans (or_congr_left h.mem_dependentsOf)
    · intro a b
      rw [and_comm]
      exact Adjacency.mem_neighbours_link.trans (or_congr_left h.mem_precedentsOf)
    · exact h.pruned_dependents.link
    · exact h.pruned_precedents.link
    · exact hp ▸ h.finite.insert _
    · rw [hp, Set.ncard_insert_of_notMem hE h.finite, ← h.size_eq]

theorem Represents.remove (h : g.Represents E) :
    (g.remove s t).Represents fun a b => E a b ∧ ¬(a = s ∧ b = t) := by
  have hp : pairs (fun a b => E a b ∧ ¬(a = s ∧ b = t)) = pairs E \ {(s, t)} := by
    ext ⟨a, b⟩
    simp [pairs]
  unfold DependencyGraph.remove
  split
  · rename_i hm
    have hE : (s, t) ∈ pairs E := h.mem_dependentsOf.mp (Std.ExtTreeSet.contains_iff_mem.mp hm)
    constructor
    · intro a b
      exact Adjacency.mem_neighbours_unlink.trans (and_congr_left' h.mem_dependentsOf)
    · intro a b
      rw [and_comm (a := a = s)]
      exact Adjacency.mem_neighbours_unlink.trans (and_congr_left' h.mem_precedentsOf)
    · exact h.pruned_dependents.unlink
    · exact h.pruned_precedents.unlink
    · exact hp ▸ h.finite.sdiff
    · rw [hp, Set.ncard_sdiff_singleton_of_mem hE, ← h.size_eq]
  · rename_i hm
    refine h.congr fun a b => ⟨fun hE => ⟨hE, ?_⟩, And.left⟩
    rintro ⟨rfl, rfl⟩
    exact hm (Std.ExtTreeSet.contains_iff_mem.mpr (h.mem_dependentsOf.mpr hE))

theorem Represents.addAll (h : g.Represents E) (ps : List (CellName × CellName)) :
    (ps.foldl (fun g p => g.add p.1 p.2) g).Represents fun a b => E a b ∨ (a, b) ∈ ps := by
  induction ps generalizing g E with
  | nil => exact h.congr fun a b => by simp
  | cons p ps ih =>
    refine (ih h.add).congr fun a b => ?_
    rw [List.mem_cons, Prod.ext_iff]
    tauto

theorem Represents.removeAll (h : g.Represents E) (ps : List (CellName × CellName)) :
    (ps.foldl (fun g p => g.remove p.1 p.2) g).Represents fun a b => E a b ∧ (a, b) ∉ ps := by
  induction ps generalizing g E with
  | nil => exact h.congr fun a b => by simp
  | cons p ps ih =>
    refine (ih h.remove).congr fun a b => ?_
    rw [List.mem_cons, Prod.ext_iff]
    tauto

theorem Represents.setDependents (h : g.Represents E) (s : CellName) (ts : List CellName) :
    (g.setDependents s ts).2.Represents fun a b => if a = s then b ∈ ts else E a b := by
  have hm (b : CellName) : b ∈ (g.dependentsOf s).toList ↔ E s b :=
    Std.ExtTreeSet.mem_toList.trans h.mem_dependentsOf
  have hr := (h.removeAll ((g.dependentsOf s).toList.map (s, ·))).addAll (ts.map (s, ·))
  rw [List.foldl_map, List.foldl_map] at hr
  refine hr.congr fun a b => ?_
  split
  · subst a
    simp [hm]
  · rename_i ha
    simp [Ne.symm ha]

theorem Represents.setPrecedents (h : g.Represents E) (t : CellName) (ss : List CellName) :
    (g.setPrecedents t ss).2.Represents fun a b => if b = t then a ∈ ss else E a b := by
  have hm (a : CellName) : a ∈ (g.precedentsOf t).toList ↔ E a t :=
    Std.ExtTreeSet.mem_toList.trans h.mem_precedentsOf
  have hr := (h.removeAll ((g.precedentsOf t).toList.map (·, t))).addAll (ss.map (·, t))
  rw [List.foldl_map, List.foldl_map] at hr
  refine hr.congr fun a b => ?_
  split
  · subst b
    simp [hm]
  · rename_i hb
    simp [Ne.symm hb]

theorem mem_setPrecedents_fst (h : g.Represents E) (s t : CellName) (ss : List CellName) :
    s ∈ (g.setPrecedents t ss).1.toList ↔ E s t :=
  Std.ExtTreeSet.mem_toList.trans h.mem_precedentsOf

/-- Exchanging the precedents of a cell back restores the graph. -/
theorem Represents.setPrecedents_restore (h : g.Represents E) (t : CellName) (ss : List CellName) :
    ((g.setPrecedents t ss).2.setPrecedents t (g.setPrecedents t ss).1.toList).2 = g := by
  refine Represents.unique (((h.setPrecedents t ss).setPrecedents t _).congr fun a b => ?_) h
  split
  · subst b
    exact mem_setPrecedents_fst h a t ss
  · rfl

end DependencyGraph

end Spreadsheet
