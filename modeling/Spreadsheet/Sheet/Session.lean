import Spreadsheet.Sheet.Storage

/-! # Working on a sheet

What a sheet is asked, one request after the other, and what it answers. A sheet is reachable when
requests lead to it from an empty sheet or from one that was loaded.
-/

namespace Spreadsheet.Sheet

inductive Request where
  | set (name text : String)
  | markSaved
  | save
  /-- Save the sheet and load what was saved under its own pattern. -/
  | reload
  | evaluate (text : String)
  | content (name : String)
  | value (name : String)
  | recalculationOrder (name : String)
  | names

inductive Answer where
  | done
  | cells (r : Except EditError (List CellName))
  | content (r : Except EditError Content)
  | value (r : Except EditError Value)
  | saved (bytes : List UInt8)
  | loaded (r : Except LoadError Unit)

def respond (sheet : Sheet) : Request → Answer × Sheet
  | .set name text =>
    let (r, next) := sheet.set name text
    (.cells r, next)
  | .markSaved => (.done, sheet.markSaved)
  | .save => (.saved sheet.saveBytes, sheet)
  | .reload => match load sheet.saveBytes sheet.pattern with
    | .ok loaded => (.loaded (.ok ()), loaded)
    | .error e => (.loaded (.error e), sheet)
  | .evaluate text => (.value (sheet.evaluate text), sheet)
  | .content name => (.content (sheet.content name), sheet)
  | .value name => (.value (sheet.value name), sheet)
  | .recalculationOrder name => (.cells (sheet.recalculationOrder name), sheet)
  | .names => (.cells (.ok sheet.names), sheet)

theorem respond_set (sheet : Sheet) (name text : String) : sheet.respond (.set name text) =
    (.cells (sheet.set name text).1, (sheet.set name text).2) := by
  rw [respond]

def respondAll (sheet : Sheet) : List Request → List Answer × Sheet
  | [] => ([], sheet)
  | r :: rs =>
    let (answer, next) := sheet.respond r
    let (answers, last) := next.respondAll rs
    (answer :: answers, last)

theorem respondAll_cons (sheet : Sheet) (r : Request) (rs : List Request) :
    sheet.respondAll (r :: rs) =
      ((sheet.respond r).1 :: ((sheet.respond r).2.respondAll rs).1,
        ((sheet.respond r).2.respondAll rs).2) := rfl

/-- The sheets that requests lead to. -/
inductive Reachable : Sheet → Prop
  | empty (pattern : NamePattern) : Reachable (empty pattern)
  | load {bytes : List UInt8} {pattern : NamePattern} {sheet : Sheet}
      (loaded : load bytes pattern = .ok sheet) : Reachable sheet
  | respond {sheet : Sheet} (reachable : Reachable sheet) (r : Request) :
      Reachable (sheet.respond r).2

end Spreadsheet.Sheet
