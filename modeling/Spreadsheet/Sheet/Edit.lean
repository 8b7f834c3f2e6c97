import Spreadsheet.Sheet.Basic

/-! # Editing a sheet

Setting a cell classifies the text, exchanges the references of the cell, and computes again what
depends on it. References that close a cycle are exchanged back. Every operation returns the sheet
after it, also where it fails.
-/

namespace Spreadsheet

def Content.references (c : Content) : List CellName :=
  match c.formula? with
  | some f => f.variableNames.filterMap CellName.parse?
  | none => []

namespace Sheet

def recalculateCell (sheet : Sheet) (a : CellName) : Sheet :=
  match sheet.cells[a]? with
  | some cell =>
    { sheet with
      cells := sheet.cells.insert a ⟨cell.content, cell.content.evaluate sheet.lookup⟩ }
  | none => sheet

/-- Compute the values of the cells again, one after the other. -/
def recalculate (sheet : Sheet) (order : List CellName) : Sheet := order.foldl recalculateCell sheet

/-- Text behind an equals sign is a formula; what reads as a finite number, blanks around it left
out, is a number; all else is text. -/
def classify (sheet : Sheet) (text : String) : Except EditError Content :=
  match text.toList with
  | '=' :: cs => (sheet.parseFormula cs).map Content.formula
  | cs => match Decimal.read? (Text.trim cs) with
    | some x => .ok (if x.isFinite then .number x else .text text)
    | none => .ok (.text text)

def clear (sheet : Sheet) (a : CellName) : Except EditError (List CellName) × Sheet :=
  match sheet.dependentsInOrder a with
  | .error e => (.error e, sheet)
  | .ok order =>
    let (_, graph) := sheet.graph.setPrecedents a []
    let cleared := { sheet with cells := sheet.cells.erase a, graph := graph, changed := true }
    (.ok [], cleared.recalculate order)

/-- Give a cell a content and compute again what depends on it. -/
def put (sheet : Sheet) (a : CellName) (content : Content) :
    Except EditError (List CellName) × Sheet :=
  let (previous, graph) := sheet.graph.setPrecedents a content.references
  match graph.recalculationOrder [a] with
  | .error cycle =>
    let (_, graph) := graph.setPrecedents a previous.toList
    (.error (.circular a cycle), { sheet with graph := graph })
  | .ok order =>
    let stored :=
      { sheet with cells := sheet.cells.insert a (Cell.new content), graph := graph, changed := true }
    (.ok order, stored.recalculate order)

/-- Set the cell that a name addresses to the text typed in, the empty text emptying it. The result
is what was computed again, in order; nothing is listed for an emptied cell. -/
def set (sheet : Sheet) (name text : String) : Except EditError (List CellName) × Sheet :=
  match sheet.address name with
  | .error e => (.error e, sheet)
  | .ok a =>
    if text = "" then sheet.clear a
    else match sheet.classify text with
      | .error e => (.error e, sheet)
      | .ok content => sheet.put a content

end Sheet

end Spreadsheet
