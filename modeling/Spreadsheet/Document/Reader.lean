import Spreadsheet.Document.Basic
import Spreadsheet.Xml.Attribute
import Spreadsheet.Xml.Entity

/-! # Reading documents

The events of a document are judged one by one, each at its place: before the root element, in it,
in a cell, in one of the fields of a cell, or behind the root element.
-/

namespace Spreadsheet.Document

open Text (Symbol)
open Xml (Event Tag)

/-- A cell that is still being read. -/
structure Draft where
  name : Option String
  contents : Option String

namespace Draft

def empty : Draft := ⟨none, none⟩

def field? (d : Draft) : Field → Option String
  | .name => d.name
  | .contents => d.contents

def fill (d : Draft) (field : Field) (text : List Char) : Except Error Draft :=
  if (d.field? field).isSome then .error (.duplicateField field)
  else match field with
    | .name => .ok { d with name := some (String.ofList text) }
    | .contents => .ok { d with contents := some (String.ofList text) }

def finish (d : Draft) : Except Error Record :=
  match d.name, d.contents with
  | some name, some contents => .ok ⟨name, contents⟩
  | none, _ => .error (.missingField .name)
  | _, none => .error (.missingField .contents)

end Draft

/-- The pattern and the records read so far, last first. -/
structure Body where
  pattern : String
  records : List Record

inductive Place where
  | prolog
  | sheet (body : Body)
  | cell (body : Body) (draft : Draft)
  | field (body : Body) (draft : Draft) (field : Field) (text : List Char)
  | epilog (body : Body)

/-- Blank to the eye of the format: the five ASCII blanks. -/
def isFiller (s : Symbol) : Bool :=
  match s with
  | .char c => c == ' ' || c == '\t' || c == '\n' || c == '\x0c' || c == '\r'
  | .illFormed _ => false

/-- The text behind symbols in which entities stand for characters. -/
def decodeText (s : List Symbol) : Except Error (List Char) :=
  match (Text.characters? s).bind Xml.unescape? with
  | some cs => .ok cs
  | none => .error .malformed

def named (t : Tag) (element : String) : Bool := t.localName == Xml.symbols element

def shownName (t : Tag) : String := String.ofList (t.localName.map Symbol.replaced)

def fieldOf? (t : Tag) : Option Field :=
  if named t "name" then some .name
  else if named t "contents" then some .contents
  else none

/-- The pattern recorded in the root element. -/
def recordedPattern (t : Tag) : Except Error String :=
  match Xml.Attribute.find? (Xml.symbols "IsValid") [] t.rest with
  | .ok value => (decodeText value).map String.ofList
  | .error .malformed => .error .malformed
  | .error .missing => .error .missingPattern

namespace Place

def enterRoot (t : Tag) : Except Error Body :=
  if named t "spreadsheet" then (recordedPattern t).map (⟨·, []⟩)
  else .error (.wrongRoot (shownName t))

/-- The place behind an event that carries data. -/
def step : Place → Event → Except Error Place
  | field body draft f text, .text s => do
    let more ← decodeText s
    pure (field body draft f (text ++ more))
  | field body draft f text, .verbatim s => pure (field body draft f (text ++ s.map Symbol.replaced))
  | field body draft f text, .close => (draft.fill f text).map (cell body)
  | field _ _ f _, _ => .error (.fieldMarkup f)
  | place, .text s => if s.all isFiller then pure place else .error .strayText
  | prolog, .start t => (enterRoot t).map sheet
  | prolog, .empty t => (enterRoot t).map epilog
  | sheet body, .start t =>
    if named t "cell" then pure (cell body .empty) else .error (.unexpectedInSheet (shownName t))
  | sheet _, .empty t => .error (.unexpectedInSheet (shownName t))
  | sheet body, .close => pure (epilog body)
  | cell body draft, .start t =>
    match fieldOf? t with
    | some f => pure (field body draft f [])
    | none => .error (.unexpectedInCell (shownName t))
  | cell body draft, .empty t =>
    match fieldOf? t with
    | some f => (draft.fill f []).map (cell body)
    | none => .error (.unexpectedInCell (shownName t))
  | cell body draft, .close => do
    let record ← draft.finish
    pure (sheet ⟨body.pattern, record :: body.records⟩)
  | epilog _, .start _ | epilog _, .empty _ => .error .secondRoot
  | _, _ => .error .unexpectedEvent

/-- Judge the events from a place on. -/
def read (place : Place) : List Event → Except Error Document
  | [] | .finish :: _ => match place with
    | epilog body => .ok ⟨body.pattern, body.records.reverse⟩
    | _ => .error .unexpectedEnd
  | .malformed :: _ => .error .malformed
  | e :: es =>
    if e.isIgnored then place.read es
    else do
      let place ← place.step e
      place.read es

end Place

def ofEvents (es : List Event) : Except Error Document := Place.prolog.read es

def ofBytes (bytes : List UInt8) : Except Error Document := ofEvents (Xml.events bytes)

end Spreadsheet.Document
