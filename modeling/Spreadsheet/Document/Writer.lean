import Spreadsheet.Cell
import Spreadsheet.CellName
import Spreadsheet.Document.Basic
import Spreadsheet.Xml.Entity

/-! # Writing documents

Every element stands on its own line, cells indented by two spaces and their fields by four.
-/

namespace Spreadsheet.Document

def Field.line (f : Field) (text : String) : List Char :=
  ("    <" ++ f.element ++ ">").toList ++ Xml.escape text.toList ++
    ("</" ++ f.element ++ ">\n").toList

def Record.lines (r : Record) : List Char :=
  "  <cell>\n".toList ++ Field.name.line r.name ++ Field.contents.line r.contents ++
    "  </cell>\n".toList

def chars (d : Document) : List Char :=
  "<?xml version=\"1.0\" encoding=\"utf-8\"?>\n<spreadsheet IsValid=\"".toList ++
    Xml.escape d.pattern.toList ++ "\">\n".toList ++ d.records.flatMap Record.lines ++
    "</spreadsheet>\n".toList

def render (d : Document) : String := String.ofList d.chars

/-- The document of cells in the order given, the empty ones left out. -/
def ofCells (pattern : String) (cells : List (CellName × Content)) : Document :=
  ⟨pattern, (cells.filter fun (_, c) => !c.isEmpty).map fun (a, c) => ⟨a.text, c.display⟩⟩

end Spreadsheet.Document
