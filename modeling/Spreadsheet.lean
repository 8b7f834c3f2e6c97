import Spreadsheet.Main
import Spreadsheet.Proofs.Command.Failure
import Spreadsheet.Proofs.Command.Options
import Spreadsheet.Proofs.Command.Session
import Spreadsheet.Proofs.Dependency.Order
import Spreadsheet.Proofs.Dependency.Search
import Spreadsheet.Proofs.Dependency.Updates
import Spreadsheet.Proofs.Document.Grammar
import Spreadsheet.Proofs.Formula.Equality
import Spreadsheet.Proofs.Formula.Unambiguous
import Spreadsheet.Proofs.Formula.Viable
import Spreadsheet.Proofs.Sheet.Case
import Spreadsheet.Proofs.Sheet.Numbers
import Spreadsheet.Proofs.Sheet.Schedule
import Spreadsheet.Proofs.Sheet.Unsaved
import Spreadsheet.Proofs.Sheet.WellFormed

/-! # Spreadsheets

Cells, formulas and their dependencies, the documents that sheets are saved as, and the commands that
work on them.
-/
