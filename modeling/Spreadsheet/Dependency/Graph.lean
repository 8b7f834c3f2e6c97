import Std.Data.ExtTreeSet
import Spreadsheet.CellName

/-! # Dependency graphs

A set of references between cells: `t` depends on its precedent `s` when the formula of `t` mentions
`s`. The references are kept from both ends, together with their number.
-/

namespace Spreadsheet

abbrev CellSet := Std.ExtTreeSet CellName

/-- The neighbours of each cell that has some. -/
abbrev Adjacency := Std.ExtTreeMap CellName CellSet

namespace Adjacency

def neighbours (m : Adjacency) (a : CellName) : CellSet := m.getD a ∅

def link (m : Adjacency) (a b : CellName) : Adjacency := m.insert a ((neighbours m a).insert b)

/-- Take `b` from the neighbours of `a`; a cell left without neighbours is dropped. -/
def unlink (m : Adjacency) (a b : CellName) : Adjacency :=
  let rest := (neighbours m a).erase b
  if rest.isEmpty then m.erase a else m.insert a rest

end Adjacency

structure DependencyGraph where
  dependents : Adjacency
  precedents : Adjacency
  size : Nat

namespace DependencyGraph

def empty : DependencyGraph := ⟨∅, ∅, 0⟩

def isEmpty (g : DependencyGraph) : Bool := g.size == 0

/-- The cells whose formulas mention `s`. -/
def dependentsOf (g : DependencyGraph) (s : CellName) : CellSet := g.dependents.neighbours s

/-- The cells that the formula of `t` mentions. -/
def precedentsOf (g : DependencyGraph) (t : CellName) : CellSet := g.precedents.neighbours t

def hasDependents (g : DependencyGraph) (s : CellName) : Bool := g.dependents.contains s

def hasPrecedents (g : DependencyGraph) (t : CellName) : Bool := g.precedents.contains t

def precedentCount (g : DependencyGraph) (t : CellName) : Nat := (g.precedentsOf t).size

def add (g : DependencyGraph) (s t : CellName) : DependencyGraph :=
  if (g.dependentsOf s).contains t then g
  else ⟨g.dependents.link s t, g.precedents.link t s, g.size + 1⟩

def remove (g : DependencyGraph) (s t : CellName) : DependencyGraph :=
  if (g.dependentsOf s).contains t then
    ⟨g.dependents.unlink s t, g.precedents.unlink t s, g.size - 1⟩
  else g

/-- Let just the given cells depend on `s`. The dependents before are returned. -/
def setDependents (g : DependencyGraph) (s : CellName) (ts : List CellName) :
    CellSet × DependencyGraph :=
  let previous := g.dependentsOf s
  let cleared := previous.toList.foldl (fun g t => g.remove s t) g
  (previous, ts.foldl (fun g t => g.add s t) cleared)

/-- Let `t` depend on just the given cells. The precedents before are returned. -/
def setPrecedents (g : DependencyGraph) (t : CellName) (ss : List CellName) :
    CellSet × DependencyGraph :=
  let previous := g.precedentsOf t
  let cleared := previous.toList.foldl (fun g s => g.remove s t) g
  (previous, ss.foldl (fun g s => g.add s t) cleared)

end DependencyGraph

end Spreadsheet
