/-! # Binary floating point magnitudes

The finite magnitudes of 64-bit floating point, counted upwards from zero, are
`0, 1, …, infinity - 1`: the place of a magnitude in this order is its *rank*, which is also its bit
pattern. A rank stands for a whole number of units of `2 ^ -1074`, and a quotient of natural numbers
is rounded to the rank nearest to it.
-/

namespace Spreadsheet.Binary64

/-- How many ranks share one exponent. -/
def binade : Nat := Nat.pow 2 52

/-- The rank after the last finite one. -/
def infinity : Nat := 2047 * binade

def unitsPerOne : Nat := Nat.pow 2 1074

/-- The magnitude of a finite rank in units of `2 ^ -1074`. -/
def units (rank : Nat) : Nat :=
  if rank < binade then rank else (binade + rank % binade) * Nat.pow 2 (rank / binade - 1)

/-- The natural number nearest to `n / d`; a half goes to the even neighbour. -/
def roundHalfEven (n d : Nat) : Nat :=
  let below := n / d
  let rest := 2 * (n % d)
  if d < rest || (rest == d && below % 2 == 1) then below + 1 else below

/-- The rank nearest to `n / d`, a half going to the even rank and anything beyond the last finite
rank to `infinity`. The quotient is cut to the 53 leading bits that a rank can tell apart. -/
def nearest (n d : Nat) : Nat :=
  let scaled := n * unitsPerOne
  let excess := (scaled / d).log2 - 52
  min infinity (excess * binade + roundHalfEven scaled (d * Nat.pow 2 excess))

def ofScientific (digits : Nat) (exponent : Int) : Nat :=
  if exponent < 0 then nearest digits (Nat.pow 10 exponent.natAbs)
  else nearest (digits * Nat.pow 10 exponent.natAbs) 1

def signWeight : Nat := Nat.pow 2 63

def rank (x : Float) : Nat := x.toBits.toNat % signWeight

/-- The sign bit, set also for the negative zero. -/
def isNegative (x : Float) : Bool := decide (signWeight ≤ x.toBits.toNat)

def ofRank (negative : Bool) (rank : Nat) : Float :=
  Float.ofBits (UInt64.ofNat (if negative then signWeight + rank else rank))

end Spreadsheet.Binary64
