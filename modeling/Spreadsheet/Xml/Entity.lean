import Spreadsheet.Text.Digits

/-! # Entities

In a document five characters stand as entities. When text is read back, these five names and the
character codes are known, and an ampersand that begins none of them is refused.
-/

namespace Spreadsheet.Xml

def escapeChar (c : Char) : List Char :=
  match c with
  | '<' => ['&', 'l', 't', ';']
  | '>' => ['&', 'g', 't', ';']
  | '&' => ['&', 'a', 'm', 'p', ';']
  | '\'' => ['&', 'a', 'p', 'o', 's', ';']
  | '"' => ['&', 'q', 'u', 'o', 't', ';']
  | c => [c]

def escape (cs : List Char) : List Char := cs.flatMap escapeChar

/-- The character with a code. No character has the code zero. -/
def ofCode? (n : Nat) : Option Char :=
  if n = 0 then none
  else if n.isValidChar then some (Char.ofNat n)
  else none

/-- The character that an entity names, the text between `&` and `;`. -/
def entity? : List Char → Option Char
  | ['l', 't'] => some '<'
  | ['g', 't'] => some '>'
  | ['a', 'm', 'p'] => some '&'
  | ['a', 'p', 'o', 's'] => some '\''
  | ['q', 'u', 'o', 't'] => some '"'
  | '#' :: 'x' :: cs => (Text.number? 16 Text.hexDigit? cs).bind ofCode?
  | '#' :: cs => (Text.number? 10 Text.decimalDigit? cs).bind ofCode?
  | _ => none

def isEntityChar (c : Char) : Bool := c != ';' && c != '&'

def unescape? (cs : List Char) : Option (List Char) :=
  match cs with
  | [] => some []
  | c :: cs =>
    if c = '&' then
      match _h : cs.dropWhile isEntityChar with
      | ';' :: rest => do
        let d ← entity? (cs.takeWhile isEntityChar)
        let ds ← unescape? rest
        pure (d :: ds)
      | _ => none
    else (unescape? cs).map (c :: ·)
termination_by cs.length
decreasing_by
  · have := (List.dropWhile_suffix isEntityChar (l := cs)).length_le
    simp_all
    omega
  · simp

end Spreadsheet.Xml
