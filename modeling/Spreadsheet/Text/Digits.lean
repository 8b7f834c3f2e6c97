/-! # Digits

Numbers spelled in decimal or hexadecimal digits.
-/

namespace Spreadsheet.Text

def hexDigit? (c : Char) : Option Nat :=
  if c.isDigit then some (c.toNat - 48)
  else if 'a' ≤ c ∧ c ≤ 'f' then some (c.toNat - 87)
  else if 'A' ≤ c ∧ c ≤ 'F' then some (c.toNat - 55)
  else none

def decimalDigit? (c : Char) : Option Nat := if c.isDigit then some (c.toNat - 48) else none

/-- The number that the digits spell, if there are some and all are digits. -/
def number? (base : Nat) (digit? : Char → Option Nat) (cs : List Char) : Option Nat :=
  if cs = [] then none
  else cs.foldlM (fun n c => (digit? c).map (base * n + ·)) 0

def coded? (digits : List Char) : Option Char := do
  let n ← number? 16 hexDigit? digits
  if n.isValidChar then some (Char.ofNat n) else none

end Spreadsheet.Text
