import Spreadsheet.Dependency.Graph

/-! # Recalculation order

When cells change, they and all that depend on them are computed again, each after the cells it
mentions. The order is found by a depth-first walk along dependents that keeps its own stack: a cell
goes in front of those finished before it, and a cell met again while it is on the stack closes a
cycle.
-/

namespace Spreadsheet

/-- A chain of cells, each of which mentions the one before it, from a cell back to itself. -/
structure Cycle where
  path : List CellName
  deriving DecidableEq

def Cycle.message (c : Cycle) : String :=
  "circular reference " ++ " -> ".intercalate (c.path.map CellName.text)

inductive Mark where
  | onStack
  | done
  deriving DecidableEq

/-- A cell on the stack with the dependents still to be met, ascending. -/
structure Frame where
  cell : CellName
  pending : List CellName

/-- What the walk knows beside its stack: the dependents of the cells not met yet, the marks of
those met, and the finished cells, last first. -/
structure Walk where
  unmet : Adjacency
  marks : Std.ExtTreeMap CellName Mark
  finished : List CellName

namespace Walk

def start (g : DependencyGraph) : Walk := ⟨g.dependents, ∅, []⟩

def enter (w : Walk) (a : CellName) : Walk :=
  ⟨w.unmet.erase a, w.marks.insert a .onStack, w.finished⟩

def frame (w : Walk) (a : CellName) : Frame := ⟨a, (w.unmet.neighbours a).toList⟩

def leave (w : Walk) (a : CellName) : Walk :=
  ⟨w.unmet, w.marks.insert a .done, a :: w.finished⟩

/-- The cycle closed by meeting `a` again, where `cells` is the stack, its top first. -/
def cycle (a : CellName) (cells : List CellName) : Cycle :=
  ⟨a :: ((cells.takeWhile (· ≠ a)).reverse ++ [a])⟩

/-- What remains to be done for the frames: more for a pending cell than for a frame. -/
def work : List Frame → Nat
  | [] => 0
  | f :: fs => 2 * f.pending.length + 1 + work fs

/-- Meeting a cell leaves fewer cells unmet, or no dependents to go through. -/
theorem enter_decreasing (w : Walk) (a : CellName) (pending : List CellName) (cell : CellName)
    (stack : List Frame) :
    Prod.Lex (· < ·) (· < ·)
      ((w.enter a).unmet.size, work (w.frame a :: ⟨cell, pending⟩ :: stack))
      (w.unmet.size, work (⟨cell, a :: pending⟩ :: stack)) := by
  by_cases h : a ∈ w.unmet
  · apply Prod.Lex.left
    have hs : w.unmet.size ≠ 0 := fun h0 => by
      have := Std.ExtTreeMap.eq_empty_iff_size_eq_zero.2 h0
      simp [this] at h
    simp only [enter, Std.ExtTreeMap.size_erase]
    have hc : w.unmet.contains a = true := h
    simp only [hc, if_true]
    omega
  · have hc : w.unmet.contains a = false := Bool.eq_false_iff.2 h
    have hn : w.unmet.neighbours a = ∅ := Std.ExtTreeMap.getD_eq_fallback h
    have hz : (w.enter a).unmet.size = w.unmet.size := by
      simp [enter, Std.ExtTreeMap.size_erase, hc]
    have ht : (∅ : CellSet).toList = [] := rfl
    rw [hz]
    apply Prod.Lex.right
    simp only [work, frame, hn, ht, List.length_cons, List.length_nil]
    omega

def run (w : Walk) (stack : List Frame) : Except Cycle Walk :=
  match stack with
  | [] => .ok w
  | ⟨cell, []⟩ :: stack => (w.leave cell).run stack
  | ⟨cell, a :: pending⟩ :: stack =>
    match w.marks[a]? with
    | some .done => w.run (⟨cell, pending⟩ :: stack)
    | some .onStack => .error (cycle a (cell :: stack.map Frame.cell))
    | none => (w.enter a).run (w.frame a :: ⟨cell, pending⟩ :: stack)
termination_by (w.unmet.size, work stack)
decreasing_by
  · apply Prod.Lex.right; simp [work]
  · apply Prod.Lex.right; simp [work]
  · exact enter_decreasing w a pending cell _

def runAll (w : Walk) : List CellName → Except Cycle Walk
  | [] => .ok w
  | a :: as =>
    if w.marks.contains a then w.runAll as
    else do
      let w ← (w.enter a).run [w.frame a]
      w.runAll as

end Walk

/-- The given cells and all that depend on them, each after the cells it mentions. -/
def DependencyGraph.recalculationOrder (g : DependencyGraph) (starts : List CellName) :
    Except Cycle (List CellName) :=
  ((Walk.start g).runAll starts).map Walk.finished

end Spreadsheet
