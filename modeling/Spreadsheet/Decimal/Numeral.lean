import Spreadsheet.Decimal.Binary64

/-! # Decimal numerals

Unsigned numerals such as `3`, `2.`, `.5` and `1.5e-3`: their text, their value, the longest one at
the front of a text, and the reading of a whole text as a signed number.
-/

namespace Spreadsheet.Decimal

/-- A complete exponent: its letter, its sign as written, its digits. -/
structure Exponent where
  letter : Char
  sign : Option Char
  digits : List Char
  deriving DecidableEq, Repr

/-- A numeral, kept as it is written. The fraction is `some []` for a point with no digit after it. -/
structure Numeral where
  whole : List Char
  fraction : Option (List Char)
  exponent : Option Exponent
  deriving DecidableEq, Repr

theorem length_dropWhile_le {α : Type} (p : α → Bool) (xs : List α) :
    (xs.dropWhile p).length ≤ xs.length :=
  (List.dropWhile_suffix p).length_le

theorem length_dropWhile_lt {α : Type} {p : α → Bool} {xs : List α} (h : xs.takeWhile p ≠ []) :
    (xs.dropWhile p).length < xs.length := by
  have hl := congrArg List.length (List.takeWhile_append_dropWhile (p := p) (l := xs))
  have := List.length_pos_iff.2 h
  simp only [List.length_append] at hl
  omega

def natOfDigits (ds : List Char) : Nat := Nat.ofDigitChars 10 ds 0

namespace Exponent

def text (e : Exponent) : List Char := e.letter :: (e.sign.toList ++ e.digits)

def value (e : Exponent) : Int :=
  if e.sign = some '-' then -(natOfDigits e.digits : Int) else natOfDigits e.digits

def scanSign : List Char → Option Char × List Char
  | '+' :: cs => (some '+', cs)
  | '-' :: cs => (some '-', cs)
  | cs => (none, cs)

theorem length_scanSign_le (cs : List Char) : (scanSign cs).2.length ≤ cs.length := by
  unfold scanSign
  split <;> simp

def scan : List Char → Option Exponent × List Char
  | [] => (none, [])
  | c :: cs =>
    let signed := scanSign cs
    let digits := signed.2.takeWhile Char.isDigit
    if (c = 'e' ∨ c = 'E') ∧ digits ≠ [] then
      (some ⟨c, signed.1, digits⟩, signed.2.dropWhile Char.isDigit)
    else (none, c :: cs)

theorem length_scan_le (cs : List Char) : (scan cs).2.length ≤ cs.length := by
  cases cs with
  | nil => simp [scan]
  | cons c cs =>
    have h := length_dropWhile_le Char.isDigit (scanSign cs).2
    have hs := length_scanSign_le cs
    simp only [scan]
    split
    · simp only [List.length_cons]; omega
    · simp

end Exponent

namespace Numeral

def text (n : Numeral) : List Char :=
  n.whole ++ (match n.fraction with
    | none => []
    | some ds => '.' :: ds) ++ (match n.exponent with
    | none => []
    | some e => e.text)

def digits (n : Numeral) : List Char := n.whole ++ n.fraction.getD []

/-- The power of ten that scales `digits`, cut off at 400 places beyond either end of them: from
there on every magnitude is infinite or rounds to zero. -/
def scale (n : Numeral) : Int :=
  let written := match n.exponent with
    | none => 0
    | some e => e.value
  max (-(400 + n.digits.length)) (min 400 (written - (n.fraction.getD []).length))

def rank (n : Numeral) : Nat := Binary64.ofScientific (natOfDigits n.digits) n.scale

def value (n : Numeral) : Float := Binary64.ofRank false n.rank

/-- The point and the fraction at the front of a text. After no whole digits a point needs a digit
behind it. -/
def scanFraction (whole : List Char) : List Char → Option (List Char) × List Char
  | '.' :: cs =>
    let digits := cs.takeWhile Char.isDigit
    if whole = [] ∧ digits = [] then (none, '.' :: cs)
    else (some digits, cs.dropWhile Char.isDigit)
  | cs => (none, cs)

/-- The longest numeral at the front of a text, and what follows it. -/
def scan? (cs : List Char) : Option (Numeral × List Char) :=
  let whole := cs.takeWhile Char.isDigit
  let fraction := scanFraction whole (cs.dropWhile Char.isDigit)
  if whole = [] ∧ fraction.1 = none then none
  else
    let exponent := Exponent.scan fraction.2
    some (⟨whole, fraction.1, exponent.1⟩, exponent.2)

theorem length_scanFraction_le (whole cs : List Char) :
    (scanFraction whole cs).2.length ≤ cs.length := by
  have h := length_dropWhile_le Char.isDigit
  unfold scanFraction
  split
  · dsimp only
    split <;> grind
  · simp

theorem length_scanFraction_lt {whole cs : List Char} (h : (scanFraction whole cs).1 ≠ none) :
    (scanFraction whole cs).2.length < cs.length := by
  have hd := length_dropWhile_le Char.isDigit
  unfold scanFraction at h ⊢
  split at h
  · dsimp only at h ⊢
    split at h
    · simp at h
    · grind
  · simp at h

theorem length_scan?_lt {cs rest : List Char} {n : Numeral} (h : scan? cs = some (n, rest)) :
    rest.length < cs.length := by
  unfold scan? at h
  dsimp only at h
  split at h
  · cases h
  · rename_i hne
    simp only [Option.some.injEq, Prod.mk.injEq] at h
    obtain ⟨-, rfl⟩ := h
    have he := Exponent.length_scan_le
      (scanFraction (cs.takeWhile Char.isDigit) (cs.dropWhile Char.isDigit)).2
    have hl := length_dropWhile_le Char.isDigit cs
    by_cases hw : cs.takeWhile Char.isDigit = []
    · have hlt := length_scanFraction_lt fun hf => hne ⟨hw, hf⟩
      omega
    · have hm := length_scanFraction_le (cs.takeWhile Char.isDigit) (cs.dropWhile Char.isDigit)
      have hlt := length_dropWhile_lt hw
      omega

end Numeral

/-- Infinity in words, or a numeral, or not a number: the unsigned texts of a number. -/
def readUnsigned? (negative : Bool) (cs : List Char) : Option Float :=
  let word := cs.map Char.toLower
  if word = ['i', 'n', 'f'] ∨ word = ['i', 'n', 'f', 'i', 'n', 'i', 't', 'y'] then
    some (Binary64.ofRank negative Binary64.infinity)
  else if word = ['n', 'a', 'n'] then some (Binary64.ofRank negative (Binary64.infinity + 1))
  else match Numeral.scan? cs with
    | some (n, []) => some (Binary64.ofRank negative n.rank)
    | _ => none

/-- Read a whole text as a number: an optional sign and an unsigned number, nothing around them. -/
def read? : List Char → Option Float
  | '+' :: cs => readUnsigned? false cs
  | '-' :: cs => readUnsigned? true cs
  | cs => readUnsigned? false cs

end Spreadsheet.Decimal
