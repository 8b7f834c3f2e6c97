/-! # Documents

What a sheet is stored as: its pattern and the name and contents of each cell, as texts that are not
interpreted yet.
-/

namespace Spreadsheet

namespace Document

/-- A cell as it is stored. -/
structure Record where
  name : String
  contents : String
  deriving DecidableEq

/-- The two fields of a record. -/
inductive Field where
  | name
  | contents
  deriving DecidableEq

def Field.element : Field → String
  | name => "name"
  | contents => "contents"

inductive Error where
  | malformed
  | unexpectedEnd
  | wrongRoot (element : String)
  | missingPattern
  | secondRoot
  | unexpectedInSheet (element : String)
  | unexpectedInCell (element : String)
  | fieldMarkup (field : Field)
  | duplicateField (field : Field)
  | missingField (field : Field)
  | strayText
  | unexpectedEvent
  deriving DecidableEq

def Error.message : Error → String
  | malformed => "malformed XML"
  | unexpectedEnd => "unexpected end of document"
  | wrongRoot element => "expected <spreadsheet> root element, found <" ++ element ++ ">"
  | missingPattern => "<spreadsheet> is missing the IsValid attribute"
  | secondRoot => "document has more than one root element"
  | unexpectedInSheet element => "unexpected <" ++ element ++ "> in <spreadsheet>"
  | unexpectedInCell element => "unexpected <" ++ element ++ "> in <cell>"
  | fieldMarkup field => "<" ++ field.element ++ "> may only contain text"
  | duplicateField field => "duplicate <" ++ field.element ++ "> in <cell>"
  | missingField field => "<cell> is missing <" ++ field.element ++ ">"
  | strayText => "unexpected text outside <name> and <contents>"
  | unexpectedEvent => "unexpected XML event"

end Document

structure Document where
  pattern : String
  records : List Document.Record
  deriving DecidableEq

end Spreadsheet
