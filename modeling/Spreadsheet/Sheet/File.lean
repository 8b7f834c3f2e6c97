import Spreadsheet.FileSystem
import Spreadsheet.Sheet.Storage

/-! # Sheets in files

A sheet is kept in a file of its own. Only a sheet that is written completely counts as saved.
-/

namespace Spreadsheet.Sheet

inductive OpenError where
  | file (e : FileError)
  | load (e : LoadError)
  deriving DecidableEq

/-- The sheet in what is read from a file. A directory is read as a document that breaks off. -/
def ofRead (pattern : NamePattern) : Except FileError (List UInt8) → Except OpenError Sheet
  | .ok bytes => (load bytes pattern).mapError .load
  | .error .isDirectory => .error (.load (.document .malformed))
  | .error e => .error (.file e)

variable {m : Type → Type} [Monad m]

/-- The sheet in the file at a path, under a pattern of its own. -/
def openFile (files : Files m) (path : String) (pattern : NamePattern) :
    m (Except OpenError Sheet) := do
  let bytes ← files.read path
  pure (ofRead pattern bytes)

/-- Write the sheet to a file. The sheet after it is returned, also where this fails. -/
def saveFile (files : Files m) (path : String) (sheet : Sheet) :
    m (Except FileError Unit × Sheet) := do
  match ← files.write path sheet.saveBytes with
  | .ok () => pure (.ok (), sheet.markSaved)
  | .error e => pure (.error e, sheet)

end Spreadsheet.Sheet
