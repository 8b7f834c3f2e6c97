import Spreadsheet.Document.Reader
import Spreadsheet.Document.Writer
import Spreadsheet.Sheet.Edit
import Spreadsheet.Text.Quoted

/-! # Saving and loading sheets

A sheet is saved as a document of its contents, in the order of the names, and loaded by typing the
recorded contents in again. Every recorded name has to match both the pattern recorded with it and
the pattern asked for, which the loaded sheet gets.
-/

namespace Spreadsheet.Sheet

inductive LoadError where
  | document (e : Document.Error)
  | recordedPattern (source : String) (e : Pattern.Error)
  | recordedName (name : String)
  | duplicateCell (cell : CellName)
  | record (cell : CellName) (e : EditError)
  deriving DecidableEq

def LoadError.message (e : LoadError) : String :=
  "Invalid spreadsheet file: " ++ match e with
  | document e => e.message
  | recordedPattern source e =>
    "invalid IsValid pattern " ++ Text.quoted source ++ ": " ++ e.message
  | recordedName name => "invalid cell name " ++ Text.quoted name
  | duplicateCell cell => "cell " ++ cell.text ++ " appears more than once"
  | record cell e => "cell " ++ cell.text ++ ": " ++ e.message

def document (sheet : Sheet) : Document :=
  .ofCells sheet.pattern.source (sheet.cells.toList.map fun (a, cell) => (a, cell.content))

def save (sheet : Sheet) : String := sheet.document.render

/-- A sheet being loaded, and the cells that have had their record. -/
structure Loading where
  sheet : Sheet
  seen : CellSet

/-- The cell that a recorded name addresses, if both patterns accept it. -/
def recordedCell? (recorded pattern : NamePattern) (name : String) : Option CellName :=
  (recorded.cell? name).filter pattern.accepts

/-- Type a record in. -/
def Loading.enter (recorded : NamePattern) (l : Loading) (r : Document.Record) :
    Except LoadError Loading :=
  match recordedCell? recorded l.sheet.pattern r.name with
  | none => .error (.recordedName r.name)
  | some a =>
    if l.seen.contains a then .error (.duplicateCell a)
    else match l.sheet.set a.text r.contents with
      | (.error e, _) => .error (.record a e)
      | (.ok _, sheet) => .ok ⟨sheet, l.seen.insert a⟩

def ofDocument (d : Document) (pattern : NamePattern) : Except LoadError Sheet :=
  match NamePattern.ofSource? d.pattern with
  | .error e => .error (.recordedPattern d.pattern e)
  | .ok recorded => do
    let l ← d.records.foldlM (Loading.enter recorded) ⟨.empty pattern, ∅⟩
    pure l.sheet.markSaved

/-- Load a sheet from bytes, under a pattern of its own. -/
def load (bytes : List UInt8) (pattern : NamePattern) : Except LoadError Sheet :=
  match Document.ofBytes bytes with
  | .error e => .error (.document e)
  | .ok d => ofDocument d pattern

def saveBytes (sheet : Sheet) : List UInt8 := sheet.save.toUTF8.data.toList

end Spreadsheet.Sheet
