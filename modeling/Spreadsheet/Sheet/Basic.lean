import Spreadsheet.Cell
import Spreadsheet.Dependency.Order
import Spreadsheet.NamePattern

/-! # Sheets

A sheet stores the cells that are not empty, the references between them, the pattern that every
name in it has to match, and whether contents changed since it was last saved.
-/

namespace Spreadsheet

structure Sheet where
  cells : Std.ExtTreeMap CellName Cell
  graph : DependencyGraph
  pattern : NamePattern
  changed : Bool

namespace Sheet

inductive EditError where
  | invalidName (name : String)
  | formula (e : Formula.SyntaxError)
  | circular (cell : CellName) (cycle : Cycle)
  deriving DecidableEq

def EditError.message : EditError → String
  | invalidName name => "Invalid cell name: " ++ name
  | formula e => "Formula format error: " ++ e.message
  | circular cell cycle =>
    "Circular dependency detected at " ++ cell.text ++ ": " ++ cycle.message

def empty (pattern : NamePattern) : Sheet := ⟨∅, .empty, pattern, false⟩

def isEmpty (sheet : Sheet) : Bool := sheet.cells.isEmpty

def size (sheet : Sheet) : Nat := sheet.cells.size

/-- The names of the cells that are not empty, ascending. -/
def names (sheet : Sheet) : List CellName := sheet.cells.keys

/-- The cell that a name addresses in this sheet. -/
def address (sheet : Sheet) (name : String) : Except EditError CellName :=
  match sheet.pattern.cell? name with
  | some a => .ok a
  | none => .error (.invalidName name)

def contentOf (sheet : Sheet) (a : CellName) : Content :=
  match sheet.cells[a]? with
  | some cell => cell.content
  | none => .empty

def valueOf (sheet : Sheet) (a : CellName) : Value :=
  match sheet.cells[a]? with
  | some cell => cell.value
  | none => .empty

def content (sheet : Sheet) (name : String) : Except EditError Content :=
  (sheet.address name).map sheet.contentOf

def value (sheet : Sheet) (name : String) : Except EditError Value :=
  (sheet.address name).map sheet.valueOf

/-- The number that a variable stands for: the one held by the cell of this canonical name. -/
def lookup (sheet : Sheet) (v : String) : Option Float := do
  let a ← CellName.ofCanonical? v
  let cell ← sheet.cells[a]?
  cell.value.number?

/-- Variables are folded to upper case and have to name cells of the sheet. -/
def variableRules (sheet : Sheet) : Formula.VariableRules :=
  ⟨Text.upper, fun v => (sheet.pattern.cell? v).isSome⟩

def parseFormula (sheet : Sheet) (cs : List Char) : Except EditError Formula :=
  (Formula.parse sheet.variableRules (String.ofList cs)).mapError .formula

/-- The value of formula text in the sheet as it stands. An equals sign in front is optional. -/
def evaluate (sheet : Sheet) (text : String) : Except EditError Value := do
  let cs := match text.toList with
    | '=' :: cs => cs
    | cs => cs
  let f ← sheet.parseFormula cs
  match f.evaluate sheet.lookup with
  | .ok x => pure (.number x)
  | .error e => pure (.error e)

/-- What has to be computed again when a cell changes, in order. -/
def dependentsInOrder (sheet : Sheet) (a : CellName) : Except EditError (List CellName) :=
  (sheet.graph.recalculationOrder [a]).mapError (.circular a)

def recalculationOrder (sheet : Sheet) (name : String) : Except EditError (List CellName) := do
  let a ← sheet.address name
  sheet.dependentsInOrder a

def markSaved (sheet : Sheet) : Sheet := { sheet with changed := false }

end Sheet

end Spreadsheet
