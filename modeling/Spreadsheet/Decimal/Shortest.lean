import Spreadsheet.Decimal.Numeral

/-! # Shortest decimal text

A finite number is written with the fewest digits that read back as the same number, always
positionally: no exponent, and no point without a fraction.

A decimal is a pair of a natural number and a power of ten. Of the multiples of `10 ^ e` only the
two next to the number can be the nearest to it, so each grid is tried at these two, from coarse to
fine; the finest grids always hit, and the exact expansion stands behind them.
-/

namespace Spreadsheet.Decimal

/-- The multiple of `10 ^ e` next to the magnitude of a rank that reads back as this rank. Of two,
the nearer one; of two equally near, the upper one. -/
def onGrid? (rank : Nat) (e : Int) : Option Nat :=
  let (num, den) :=
    if e < 0 then (Binary64.units rank * Nat.pow 10 e.natAbs, Binary64.unitsPerOne)
    else (Binary64.units rank, Binary64.unitsPerOne * Nat.pow 10 e.natAbs)
  let below := num / den
  let hitsBelow := Binary64.ofScientific below e == rank
  let hitsAbove := Binary64.ofScientific (below + 1) e == rank
  if hitsBelow && (!hitsAbove || decide (2 * (num % den) < den)) then some below
  else if hitsAbove then some (below + 1)
  else none

/-- The first hit on the grids `10 ^ e`, `10 ^ (e - 1)`, … -/
def firstOnGrid? (rank : Nat) (e : Int) : Nat → Option (Nat × Int)
  | 0 => none
  | fuel + 1 => match onGrid? rank e with
    | some digits => some (digits, e)
    | none => firstOnGrid? rank (e - 1) fuel

/-- A power of ten that a magnitude of this rank does not exceed, and not much above it. -/
def startExponent (rank : Nat) : Int :=
  (((Binary64.units rank).log2 : Int) - 1073) * 30103 / 100000 + 1

/-- The decimal with the fewest digits that reads back as the rank. -/
def shortest (rank : Nat) : Nat × Int :=
  (firstOnGrid? rank (startExponent rank) 21).getD (Binary64.units rank * Nat.pow 5 1074, -1074)

def padded (width n : Nat) : List Char :=
  let digits := Nat.toDigits 10 n
  List.replicate (width - digits.length) '0' ++ digits

def positional (digits : Nat) (e : Int) : List Char :=
  if e < 0 then
    let unit := Nat.pow 10 e.natAbs
    Nat.toDigits 10 (digits / unit) ++ '.' :: padded e.natAbs (digits % unit)
  else Nat.toDigits 10 digits ++ List.replicate e.natAbs '0'

def print (x : Float) : List Char :=
  let rank := Binary64.rank x
  if Binary64.infinity < rank then ['N', 'a', 'N']
  else
    let magnitude :=
      if rank = Binary64.infinity then ['i', 'n', 'f']
      else if rank = 0 then ['0']
      else
        let (digits, e) := shortest rank
        positional digits e
    if Binary64.isNegative x then '-' :: magnitude else magnitude

def text (x : Float) : String := String.ofList (print x)

end Spreadsheet.Decimal
