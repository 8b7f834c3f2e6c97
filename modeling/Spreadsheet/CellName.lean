import Std.Data.ExtTreeMap
import Spreadsheet.Text.Case

/-! # Cell names

A cell name is one or more letters and a row number without leading zeros. Names are kept in upper
case, so that each cell has one name, and are ordered as texts.
-/

namespace Spreadsheet

/-- Upper case letters, at least one, and a number that does not start with zero. -/
def isCellName (cs : List Char) : Bool :=
  !(cs.takeWhile Char.isUpper).isEmpty &&
    match cs.dropWhile Char.isUpper with
    | [] => false
    | d :: ds => d.isDigit && d != '0' && ds.all Char.isDigit

structure CellName where
  text : String
  canonical : isCellName text.toList = true
  deriving DecidableEq

namespace CellName

def ofCanonical? (s : String) : Option CellName :=
  if h : isCellName s.toList = true then some ⟨s, h⟩ else none

/-- The cell that a name addresses, in upper or lower case. -/
def parse? (s : String) : Option CellName := ofCanonical? (Text.upper s)

theorem text_injective {a b : CellName} (h : a.text = b.text) : a = b := by
  cases a; cases b; simp_all

theorem ofCanonical?_text (a : CellName) : ofCanonical? a.text = some a := by
  simp [ofCanonical?, a.canonical]

theorem ofCanonical?_eq_some_iff {s : String} {a : CellName} :
    ofCanonical? s = some a ↔ a.text = s := by
  constructor
  · intro h
    unfold ofCanonical? at h
    split at h
    · cases h; rfl
    · cases h
  · rintro rfl
    exact ofCanonical?_text a

instance : Ord CellName where
  compare a b := compare a.text b.text

instance : Std.TransOrd CellName where
  eq_swap := Std.OrientedOrd.eq_swap (α := String)
  isLE_trans := Std.TransOrd.isLE_trans (α := String)

instance : Std.LawfulEqOrd CellName where
  eq_of_compare h := text_injective (Std.LawfulEqOrd.eq_of_compare (α := String) h)
  compare_self := Std.ReflOrd.compare_self (α := String)

end CellName

end Spreadsheet
