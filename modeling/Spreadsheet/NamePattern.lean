import Spreadsheet.CellName
import Spreadsheet.Pattern.Reader
import Spreadsheet.Pattern.Spans

/-! # Name patterns

A sheet accepts the cell names in which its pattern matches somewhere. The text of the pattern is
kept beside what it spells; two patterns with one text are equal.
-/

namespace Spreadsheet

structure NamePattern where
  source : String
  regex : Pattern.Regex
  spelled : Pattern.Regex.ofChars? source.toList = .ok regex

namespace NamePattern

def ofSource? (source : String) : Except Pattern.Error NamePattern :=
  match h : Pattern.Regex.ofChars? source.toList with
  | .ok regex => .ok ⟨source, regex, h⟩
  | .error e => .error e

/-- The empty pattern, found in every name. -/
def any : NamePattern := ⟨"", .empty, rfl⟩

theorem source_injective {p q : NamePattern} (h : p.source = q.source) : p = q := by
  obtain ⟨s, r, hr⟩ := p
  obtain ⟨s', r', hr'⟩ := q
  obtain rfl : s = s' := h
  obtain rfl : r = r' := by simpa using hr.symm.trans hr'
  rfl

instance : DecidableEq NamePattern := fun p q =>
  if h : p.source = q.source then isTrue (source_injective h)
  else isFalse fun e => h (congrArg source e)

theorem ofSource?_source (p : NamePattern) : ofSource? p.source = .ok p := by
  unfold ofSource?
  split
  · exact congrArg Except.ok (source_injective rfl)
  · rename_i h
    simp [p.spelled] at h

def accepts (p : NamePattern) (a : CellName) : Bool := p.regex.search a.text.toList

/-- The cell that a name addresses, if the pattern accepts it. -/
def cell? (p : NamePattern) (name : String) : Option CellName :=
  (CellName.parse? name).filter p.accepts

end NamePattern

end Spreadsheet
