import Spreadsheet.Xml.Event

/-! # Attributes

The attributes of a tag are read one by one, up to the one that is looked for. Those behind it may be
malformed.
-/

namespace Spreadsheet.Xml

open Text (Symbol)

structure Attribute where
  key : List Symbol
  value : List Symbol
  deriving DecidableEq

inductive AttributeError where
  | malformed
  | missing
  deriving DecidableEq

namespace Attribute

/-- The key at the front takes its first symbol whatever that is. -/
def isKeySymbol (s : Symbol) : Bool := s != .char '=' && !isTagBlank s

def isQuote (s : Symbol) : Bool := s == .char '"' || s == .char '\''

def quotedValue? (s : List Symbol) : Option (List Symbol × List Symbol) :=
  match s with
  | [] => none
  | q :: s =>
    if isQuote q then
      match s.dropWhile (· ≠ q) with
      | _ :: rest => some (s.takeWhile (· ≠ q), rest)
      | [] => none
    else none

/-- The first attribute and what follows it. No key in `seen` may come again. -/
def first? (seen : List (List Symbol)) (s : List Symbol) :
    Except AttributeError (Attribute × List Symbol) :=
  match s.dropWhile isTagBlank with
  | [] => .error .missing
  | c :: cs =>
    let key := c :: cs.takeWhile isKeySymbol
    match (cs.dropWhile isKeySymbol).dropWhile isTagBlank with
    | .char '=' :: s =>
      if key ∈ seen then .error .malformed
      else match quotedValue? (s.dropWhile isTagBlank) with
        | some (value, rest) => .ok (⟨key, value⟩, rest)
        | none => .error .malformed
    | _ => .error .malformed

theorem length_quotedValue?_lt {s value rest : List Symbol}
    (h : quotedValue? s = some (value, rest)) : rest.length < s.length := by
  unfold quotedValue? at h
  split at h
  · cases h
  · rename_i q s
    split at h
    · split at h
      · rename_i hd
        cases h
        have := (List.dropWhile_suffix (· ≠ q) (l := s)).length_le
        simp only [hd, List.length_cons] at this ⊢
        omega
      · cases h
    · cases h

theorem length_first?_lt {seen : List (List Symbol)} {s rest : List Symbol} {a : Attribute}
    (h : first? seen s = .ok (a, rest)) : rest.length < s.length := by
  have hl (p : Symbol → Bool) (xs : List Symbol) : (xs.dropWhile p).length ≤ xs.length :=
    (List.dropWhile_suffix p).length_le
  unfold first? at h
  split at h
  · cases h
  · rename_i c cs hs
    dsimp only at h
    split at h
    · rename_i s' hk
      split at h
      · cases h
      · split at h
        · rename_i hq
          cases h
          have h0 := hl isTagBlank s
          have h1 := hl isKeySymbol cs
          have h2 := hl isTagBlank (cs.dropWhile isKeySymbol)
          have h3 := hl isTagBlank s'
          have h4 := length_quotedValue?_lt hq
          simp only [hs, hk, List.length_cons] at h0 h2
          omega
        · cases h
    · cases h

def find? (wanted : List Symbol) (seen : List (List Symbol)) (s : List Symbol) :
    Except AttributeError (List Symbol) :=
  match _h : first? seen s with
  | .error e => .error e
  | .ok (a, rest) =>
    if a.key = wanted then .ok a.value else find? wanted (a.key :: seen) rest
termination_by s.length
decreasing_by exact length_first?_lt ‹_›

end Attribute

end Spreadsheet.Xml
